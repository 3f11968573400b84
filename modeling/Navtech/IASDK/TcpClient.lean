/-
  The state of a connection in `csharp/IASDK/Networking`: `TcpClient` owns the socket, and
  `RadarTcpClient` above it keeps the state it wants and the state it was told of, by which it
  lets commands through.

  A connection that is made is reported at once. A lost one is reported by an event that is
  queued on the thread pool and delivered at any later time; `OnConnectionChangedHandler` drops
  the event if the client does not want to be connected, and otherwise takes it for the present
  state and connects again. A call of the user, a delivery and an error in the reading thread
  are steps. Whether a connection attempt or a write succeeds is part of the step. The event
  for the user is left out.

  The two layers disagree after three steps: a `Disconnect` of a client that is told to be
  connected, whose event will be dropped; an error of the reader, which closes the socket and
  raises no event; and the delivery of an event that is older than the present connection. In
  the runs without them they agree (`connection_agrees`), and after each of them there is a
  continuation in which they do not (`not_agrees_of_disturbed`).
-/
import Navtech.IASDK.RadarTcpClient
import Navtech.Lib.Transition

namespace Navtech.IASDK

open Transition

/-! ## `TcpClient` -/

/-- `TcpClientConnection`: whether its `ClientStream` is there. -/
structure Connection where
  stream : Bool
deriving DecidableEq, Repr

/-- What the client holds of its connection. -/
structure TcpClient where
  /-- `_tcpClient.Connected` -/
  connected : Bool
  /-- `_client` -/
  client : Option Connection
  /-- The `Disconnected` events on the thread pool that have not been delivered. -/
  queued : Nat
deriving DecidableEq, Repr

namespace TcpClient

/-- `TcpClientConnection.Disconnect`: it closes its stream and the socket. -/
def closeConnection (t : TcpClient) : TcpClient :=
  { t with connected := false, client := t.client.map fun _ => ⟨false⟩ }

/-- `Disconnect`: there is a new `_tcpClient`, and one more event. -/
def disconnect (t : TcpClient) : TcpClient :=
  { t.closeConnection with queued := t.queued + 1 }

/-- A connection has been made, and there is a new `_client`. -/
def opened (t : TcpClient) : TcpClient := { t with connected := true, client := some ⟨true⟩ }

/-- `_client.SendData(data)`, where there is a `_client`. -/
def write (t : TcpClient) (ok : Bool) (client : Connection) : TcpClient :=
  if client.stream && !ok then t.closeConnection else t

/-- `SendData`; without a `_client` there is an exception. -/
def sendData (t : TcpClient) (ok : Bool) : TcpClient :=
  match t.client with
  | none => t.disconnect
  | some client =>
    let t := t.write ok client
    if !t.connected then t.disconnect else t

variable {t : TcpClient} {ok : Bool}

@[simp] theorem connected_closeConnection : t.closeConnection.connected = false := rfl

@[simp] theorem client_closeConnection : t.closeConnection.client ≠ some ⟨true⟩ := by
  unfold closeConnection
  cases t.client <;> simp

@[simp] theorem closeConnection_closeConnection :
    t.closeConnection.closeConnection = t.closeConnection := by
  unfold closeConnection
  cases t.client <;> rfl

theorem disconnect_closeConnection : t.closeConnection.disconnect = t.disconnect := by
  rw [disconnect, closeConnection_closeConnection]
  rfl

/-- A command either goes out on a connection or disconnects. -/
theorem sendData_cases (t : TcpClient) (ok : Bool) :
    t.sendData ok = t.disconnect ∨ t.connected = true ∧ t.sendData ok = t := by
  unfold sendData
  split
  · exact .inl rfl
  · rename_i client hclient
    dsimp only
    unfold write
    by_cases hfail : (client.stream && !ok) = true
    · rw [if_pos hfail, disconnect_closeConnection]
      exact .inl rfl
    · rw [if_neg hfail]
      cases hup : t.connected with
      | false => exact .inl rfl
      | true => exact .inr ⟨rfl, rfl⟩

end TcpClient

/-! ## `RadarTcpClient` -/

/-- The connection state of `RadarTcpClient`. -/
structure RadarConnection where
  requiredConnectionState : ConnectionState
  currentConnectionState : ConnectionState
  radarClient : TcpClient
  /-- For each command passed to `_radarClient`, what was required then. -/
  passed : List ConnectionState
deriving DecidableEq, Repr

namespace RadarConnection

/-- After the constructors. -/
def new : RadarConnection where
  requiredConnectionState := .disconnected
  currentConnectionState := .disconnected
  radarClient := ⟨false, none, 0⟩
  passed := []

/-- What `OnConnectionChangedHandler` does for all events. -/
def setCurrent (s : RadarConnection) (state : ConnectionState) : RadarConnection :=
  if s.requiredConnectionState ≠ .connected then s else { s with currentConnectionState := state }

/-- `_radarClient.Connect`, with the events it raises on the way. -/
def connectRadar (s : RadarConnection) (ok : Bool) : RadarConnection :=
  if s.radarClient.connected then s
  else
    let s := s.setCurrent .connecting
    if ok then { s with radarClient := s.radarClient.opened }.setCurrent .connected
    else { s with radarClient := s.radarClient.disconnect }

/-- `Connect` requires the connection, and tries once. -/
def connect (s : RadarConnection) (ok : Bool) : RadarConnection :=
  { s with requiredConnectionState := .connected }.connectRadar ok

/-- `Disconnect` requires none. The state changes only when the event comes. -/
def disconnect (s : RadarConnection) : RadarConnection :=
  { s with
    requiredConnectionState := .disconnected
    radarClient := s.radarClient.disconnect }

/-- `SendData` writes where the state says connected, whatever is required by now. -/
def sendData (s : RadarConnection) (ok : Bool) : RadarConnection :=
  if s.currentConnectionState ≠ .connected then s
  else { s with
    radarClient := s.radarClient.sendData ok
    passed := s.passed ++ [s.requiredConnectionState] }

/-- `OnConnectionChangedHandler` for a `Disconnected` event. -/
def onDisconnected (s : RadarConnection) (ok : Bool) : RadarConnection :=
  if s.requiredConnectionState ≠ .connected then s
  else { s with currentConnectionState := .disconnected }.connectRadar ok

/-- A call of the user, an error of the reading thread, or an event that arrives. -/
inductive Action where
  | connect (ok : Bool)
  | disconnect
  | sendData (ok : Bool)
  /-- A read of the reading thread fails. -/
  | readError
  /-- An event that has been queued is delivered. -/
  | deliver (ok : Bool)
deriving DecidableEq, Repr

/-- An error needs an open stream, and an arrival an event that has been queued. -/
def step (s : RadarConnection) : Action → Option RadarConnection
  | .connect ok => some (s.connect ok)
  | .disconnect => some s.disconnect
  | .sendData ok => some (s.sendData ok)
  | .readError =>
    if s.radarClient.client = some ⟨true⟩ then
      some { s with radarClient := s.radarClient.closeConnection }
    else none
  | .deliver ok =>
    match s.radarClient.queued with
    | 0 => none
    | n + 1 => some ({ s with radarClient := { s.radarClient with queued := n } }.onDisconnected ok)

/-- What the two layers owe each other, with no event in flight. No command is passed on while
    the client is to be disconnected. -/
structure Agrees (s : RadarConnection) : Prop where
  state : s.radarClient.queued = 0 →
    (s.currentConnectionState = .connected ↔ s.radarClient.connected = true)
  commands : ∀ required ∈ s.passed, required = .connected

/-- The steps that do not set the layers apart: `Disconnect` of a client that is not told to be
    connected; a read error while an event is in flight, whose delivery will report it; the
    delivery of an event while there is no connection. -/
def Undisturbed (s : RadarConnection) : Action → Prop
  | .disconnect => s.currentConnectionState ≠ .connected
  | .readError => s.radarClient.queued ≠ 0
  | .deliver _ => s.radarClient.connected = false
  | _ => True

/-! ## The invariant -/

/-- What holds between the two layers as long as nothing disturbs them. -/
structure Inv (s : RadarConnection) : Prop where
  stream : s.radarClient.connected = true ↔ s.radarClient.client = some ⟨true⟩
  told : s.radarClient.connected = true → s.currentConnectionState = .connected
  reported : s.currentConnectionState = .connected → s.radarClient.connected = false →
    s.radarClient.queued ≠ 0
  required : s.currentConnectionState = .connected → s.requiredConnectionState = .connected
  commands : ∀ required ∈ s.passed, required = .connected

variable {s s' : RadarConnection} {ok : Bool}

theorem Inv.agrees (h : Inv s) : Agrees s where
  state hnone := by
    refine ⟨fun hcurrent => ?_, h.told⟩
    by_contra hdown
    exact h.reported hcurrent (Bool.eq_false_iff.mpr hdown) hnone
  commands := h.commands

theorem inv_new : Inv new := by
  constructor <;> simp [new]

theorem setCurrent_eq (h : s.requiredConnectionState = .connected) (state : ConnectionState) :
    s.setCurrent state = { s with currentConnectionState := state } :=
  if_neg (not_not.mpr h)

theorem Inv.require (h : Inv s) : Inv { s with requiredConnectionState := .connected } where
  stream := h.stream
  told := h.told
  reported := h.reported
  required _ := rfl
  commands := h.commands

/-- Without a connection, any state but `connected` will do. -/
theorem Inv.setDown (h : Inv s) (hdown : s.radarClient.connected = false)
    (state : ConnectionState) (hstate : state ≠ .connected) (queued : Nat) :
    Inv { s with
      currentConnectionState := state
      radarClient := { s.radarClient with queued := queued } } where
  stream := h.stream
  told hup := absurd (hdown.symm.trans hup) Bool.false_ne_true
  reported hcurrent := absurd hcurrent hstate
  required hcurrent := absurd hcurrent hstate
  commands := h.commands

/-- The connection is lost; it is or will be reported. -/
theorem Inv.closed (h : Inv s) (queued : Nat)
    (hqueued : s.currentConnectionState = .connected → queued ≠ 0) :
    Inv { s with radarClient := { s.radarClient.closeConnection with queued := queued } } where
  stream := by simp
  told hup := by simp at hup
  reported hcurrent _ := hqueued hcurrent
  required := h.required
  commands := h.commands

theorem Inv.connectRadar (h : Inv s) (hrequired : s.requiredConnectionState = .connected) :
    Inv (s.connectRadar ok) := by
  unfold RadarConnection.connectRadar
  split
  · exact h
  · rename_i hdown
    have hinv : Inv { s with currentConnectionState := .connecting } :=
      h.setDown (Bool.eq_false_iff.mpr hdown) .connecting nofun s.radarClient.queued
    rw [setCurrent_eq hrequired]
    dsimp only
    split
    · rw [setCurrent_eq]
      · exact ⟨by simp [TcpClient.opened], fun _ => rfl, nofun, fun _ => hrequired, h.commands⟩
      · exact hrequired
    · exact hinv.closed _ nofun

theorem inv_sendData (h : Inv s) : Inv (s.sendData ok) := by
  unfold RadarConnection.sendData
  split
  · exact h
  · rename_i hcurrent
    have hconnected : s.currentConnectionState = .connected := not_not.mp hcurrent
    have hcommands : ∀ required ∈ s.passed ++ [s.requiredConnectionState],
        required = .connected :=
      List.forall_mem_append.mpr
        ⟨h.commands, List.forall_mem_singleton.mpr (h.required hconnected)⟩
    rcases s.radarClient.sendData_cases ok with hlost | ⟨-, hsame⟩
    · rw [hlost]
      have hinv := h.closed (s.radarClient.queued + 1) fun _ => Nat.succ_ne_zero _
      exact ⟨hinv.stream, hinv.told, hinv.reported, hinv.required, hcommands⟩
    · rw [hsame]
      exact ⟨h.stream, h.told, h.reported, h.required, hcommands⟩

theorem inv_step (h : Inv s) {a : Action} (hok : s.Undisturbed a) (hs : s.step a = some s') :
    Inv s' := by
  cases a with
  | connect ok =>
    obtain rfl := Option.some.inj hs
    exact h.require.connectRadar rfl
  | disconnect =>
    obtain rfl := Option.some.inj hs
    have hinv := h.closed (s.radarClient.queued + 1) fun _ => Nat.succ_ne_zero _
    exact ⟨hinv.stream, hinv.told, hinv.reported, fun hcurrent => absurd hcurrent hok,
      hinv.commands⟩
  | sendData ok =>
    obtain rfl := Option.some.inj hs
    exact inv_sendData h
  | readError =>
    simp only [step] at hs
    split at hs
    · obtain rfl := Option.some.inj hs
      exact h.closed _ fun _ => hok
    · exact nomatch hs
  | deliver ok =>
    simp only [step] at hs
    split at hs
    · exact nomatch hs
    · rename_i n hn
      obtain rfl := Option.some.inj hs
      unfold onDisconnected
      split
      · -- the event is dropped, and so the client has not been told of a connection
        rename_i hrequired
        exact h.setDown hok _ (fun hcurrent => hrequired (h.required hcurrent)) n
      · rename_i hrequired
        exact (h.setDown hok .disconnected nofun n).connectRadar (not_not.mp hrequired)

/-- **The layers agree.** In every state of the runs without a disturbance: with no event in
    flight, the client is told to be connected if and only if there is a connection; and no
    command has been passed on while it was to be disconnected. -/
theorem connection_agrees (h : Reach step Undisturbed new s) : Agrees s :=
  (h.invariant inv_new fun h hok hs => inv_step h hok hs).agrees

instance (s : RadarConnection) : ∀ a, Decidable (s.Undisturbed a)
  | .disconnect => inferInstanceAs (Decidable (_ ≠ _))
  | .readError => inferInstanceAs (Decidable (_ ≠ _))
  | .deliver _ => inferInstanceAs (Decidable (_ = _))
  | .connect _ | .sendData _ => .isTrue trivial

/-- The first attempt fails, the event of it is delivered, and the second attempt succeeds. -/
theorem connection_agrees_retried :
    ∃ s, (s.radarClient.queued = 0 ∧ s.radarClient.connected = true) ∧ Agrees s := by
  obtain ⟨s, hreach, hs⟩ := exists_reach step Undisturbed new
    [.connect false, .deliver true, .sendData true]
    (fun s => s.radarClient.queued = 0 ∧ s.radarClient.connected = true) (by decide)
  exact ⟨s, hs, connection_agrees hreach⟩

/-- A command after `Disconnect`; an event that is older than the connection; a read error. -/
theorem layers_disagree :
    (∃ s, Reach step always new s ∧ s.radarClient.queued = 0 ∧
      s.requiredConnectionState = .disconnected ∧ ¬ Agrees s) ∧
    (∃ s, Reach step always new s ∧ s.requiredConnectionState = .connected ∧
      s.radarClient.connected = true ∧ ¬ Agrees s) ∧
    (∃ s, Reach step always new s ∧ s.requiredConnectionState = .connected ∧
      s.radarClient.connected = false ∧ ¬ Agrees s) := by
  refine ⟨?_, ?_, ?_⟩
  · obtain ⟨s, hreach, hqueued, hrequired, hpassed⟩ := exists_reach step always new
      [.connect true, .disconnect, .deliver true, .sendData true, .deliver true]
      (fun s => s.radarClient.queued = 0 ∧ s.requiredConnectionState = .disconnected ∧
        ConnectionState.disconnected ∈ s.passed) (by decide)
    exact ⟨s, hreach, hqueued, hrequired, fun h => nomatch h.commands _ hpassed⟩
  · obtain ⟨s, hreach, hqueued, hrequired, hup, hcurrent⟩ := exists_reach step always new
      [.connect true, .disconnect, .connect true, .deliver true]
      (fun s => s.radarClient.queued = 0 ∧ s.requiredConnectionState = .connected ∧
        s.radarClient.connected = true ∧ s.currentConnectionState = .disconnected) (by decide)
    refine ⟨s, hreach, hrequired, hup, fun h => ?_⟩
    exact nomatch hcurrent.symm.trans ((h.state hqueued).mpr hup)
  · obtain ⟨s, hreach, hqueued, hrequired, hdown, hcurrent⟩ := exists_reach step always new
      [.connect true, .readError]
      (fun s => s.radarClient.queued = 0 ∧ s.requiredConnectionState = .connected ∧
        s.radarClient.connected = false ∧ s.currentConnectionState = .connected) (by decide)
    refine ⟨s, hreach, hrequired, hdown, fun h => ?_⟩
    exact nomatch hdown.symm.trans ((h.state hqueued).mp hcurrent)

/-! ## Each disturbance counts -/

/-- A command is passed on although the client is to be disconnected. -/
theorem not_agrees_after_disconnect (hcurrent : s.currentConnectionState = .connected) :
    ¬ Agrees (s.disconnect.sendData true) := by
  intro hagrees
  have hpassed : ConnectionState.disconnected ∈ (s.disconnect.sendData true).passed := by
    simp [RadarConnection.sendData, RadarConnection.disconnect, hcurrent]
  exact nomatch hagrees.commands _ hpassed

/-- A delivery while there is a connection. -/
theorem deliver_connected (ok : Bool) {queued : Nat} (hup : s.radarClient.connected = true)
    (hrequired : s.requiredConnectionState = .connected)
    (hqueued : s.radarClient.queued = queued + 1) :
    s.step (.deliver ok) = some { s with
      currentConnectionState := .disconnected
      radarClient := { s.radarClient with queued := queued } } := by
  simp only [step, hqueued, onDisconnected, hrequired, RadarConnection.connectRadar, hup]
  rfl

/-- When the events in flight have been delivered, the client refuses to send on a connection. -/
theorem not_agrees_after_deliveries (queued : Nat) : ∀ {s : RadarConnection},
    s.radarClient.connected = true → s.requiredConnectionState = .connected →
    s.currentConnectionState = .disconnected → s.radarClient.queued = queued →
    ∃ as s', run step always s as = some s' ∧ ¬ Agrees s' := by
  induction queued with
  | zero =>
    intro s hup _ hcurrent hqueued
    refine ⟨[], s, rfl, fun hagrees => ?_⟩
    exact nomatch hcurrent.symm.trans ((hagrees.state hqueued).mpr hup)
  | succ queued ih =>
    intro s hup hrequired hcurrent hqueued
    have hdeliver := deliver_connected true hup hrequired hqueued
    obtain ⟨as, s', hrun, hnot⟩ := ih (s := { s with
      currentConnectionState := .disconnected
      radarClient := { s.radarClient with queued := queued } }) hup hrequired rfl rfl
    refine ⟨.deliver true :: as, s', ?_, hnot⟩
    rw [run, if_pos trivial, hdeliver]
    exact hrun

/-- After a disturbance there is a way on to a state in which the layers disagree. -/
theorem not_agrees_of_disturbed (h : Inv s) {a : Action} (hnot : ¬ s.Undisturbed a)
    (hs : s.step a = some s') : ∃ as s'', run step always s' as = some s'' ∧ ¬ Agrees s'' := by
  cases a with
  | connect | sendData => exact absurd trivial hnot
  | disconnect =>
    obtain rfl := Option.some.inj hs
    exact ⟨[.sendData true], _, rfl, not_agrees_after_disconnect (not_not.mp hnot)⟩
  | readError =>
    simp only [step] at hs
    split at hs
    · rename_i hclient
      obtain rfl := Option.some.inj hs
      have hcurrent := h.told (h.stream.mpr hclient)
      exact ⟨[], _, rfl, fun hagrees => nomatch (hagrees.state (not_not.mp hnot)).mp hcurrent⟩
    · exact nomatch hs
  | deliver ok =>
    have hup : s.radarClient.connected = true := Bool.not_eq_false _ ▸ hnot
    have hrequired := h.required (h.told hup)
    cases hqueued : s.radarClient.queued with
    | zero =>
      simp only [step, hqueued] at hs
      exact nomatch hs
    | succ queued =>
      rw [deliver_connected ok hup hrequired hqueued] at hs
      obtain rfl := Option.some.inj hs
      exact not_agrees_after_deliveries queued hup hrequired rfl rfl

end RadarConnection

end Navtech.IASDK
