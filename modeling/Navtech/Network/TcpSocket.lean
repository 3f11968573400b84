/-
  `Tcp_socket::receive` of `cpp_17/network/tcp_socket.cpp` over a kernel that answers `recv`
  as it likes.

  The kernel holds the bytes the reader has not consumed. A `Schedule` decides how many bytes
  each `recv` hands over: a function of the call's number among the calls of its kind (with or
  without `MSG_PEEK`), of the length asked for and of the number of unread bytes. An answer of
  0 stands for every status that is not positive: end of stream, timeout or error. Whatever
  the schedule says, a call hands over at most what was asked for and what is there.

  Of the calls that are made for a number of bytes, all are answered, or one is not
  (`Answered`, `Refused`). That depends on the kernel alone, and decides what `receive` comes to
  on a valid socket (`receive_answered`, `receive_refused`).

  The two kinds of call are specified once each. A consuming `receive` takes the next bytes
  off the stream, in order, and reports how many only if it got all of them
  (`receive_consume`). A peeking `receive` takes none; the chunks it puts together all start
  at the same place of the stream (`receive_peek`), so that chunks after the first begin with
  the byte the first one began with.
-/
import Navtech.Network.Message

namespace Navtech.Network

/-- `Tcp_socket::Receive_option`. -/
inductive ReceiveOption where
  | consume | peek
deriving DecidableEq, Repr

/-- The kernel's side of a connected socket: the unread bytes, how many calls of each kind have
    been made, and whether the last one handed over nothing. -/
structure Kernel where
  unread : Bytes
  peeks : Nat
  reads : Nat
  silent : Bool
deriving DecidableEq, Repr

/-- How many bytes the kernel is ready to hand over: of the call's number among those of its
    kind, the length asked for, and the number of unread bytes. -/
structure Schedule where
  peek : Nat → Nat → Nat → Nat
  read : Nat → Nat → Nat → Nat

/-- `::recv(sock, buf, len, flags)`: the bytes handed over, none where the status is not
    positive. -/
def recv (σ : Schedule) (opt : ReceiveOption) (len : Nat) (k : Kernel) : Bytes × Kernel :=
  match opt with
  | .peek =>
    let buf := k.unread.take (min (σ.peek k.peeks len k.unread.length) len)
    (buf, { k with peeks := k.peeks + 1, silent := buf.isEmpty })
  | .consume =>
    let status := min (σ.read k.reads len k.unread.length) len
    let buf := k.unread.take status
    (buf, { k with unread := k.unread.drop status, reads := k.reads + 1, silent := buf.isEmpty })

/-- What `receive` returns, the vector it has appended to, and the kernel after it. -/
structure Received where
  returned : Nat
  data : Bytes
  kernel : Kernel
deriving DecidableEq, Repr

/-- The loop of `receive`; `isValid` is what `is_valid()` says after each call. Each turn that
    goes on adds at least one byte, so `bytesToRead` turns are enough. -/
def receiveLoop (σ : Schedule) (opt : ReceiveOption) (isValid : Bool) (bytesToRead : Nat) :
    Nat → Nat → Bytes → Kernel → Received
  | 0, bytesRead, data, k => ⟨bytesRead, data, k⟩
  | turns + 1, bytesRead, data, k =>
    if bytesRead < bytesToRead then
      let (buf, k') := recv σ opt (bytesToRead - bytesRead) k
      if buf.isEmpty then ⟨0, data, k'⟩
      else if !isValid then ⟨0, data ++ buf, k'⟩
      else receiveLoop σ opt isValid bytesToRead turns (bytesRead + buf.length) (data ++ buf) k'
    else ⟨bytesRead, data, k⟩

/-- `Tcp_socket::receive`. -/
def receive (σ : Schedule) (isValid : Bool) (data : Bytes) (bytesToRead : Nat)
    (opt : ReceiveOption) (k : Kernel) : Received :=
  receiveLoop σ opt isValid bytesToRead bytesToRead 0 data k

/-! ## Schedules -/

/-- Every consuming call made while the kernel has all the bytes asked for hands over some. -/
def Schedule.DeliversReads (σ : Schedule) : Prop :=
  ∀ i want avail, 0 < want → want ≤ avail → 0 < σ.read i want avail

/-- Every call made while the kernel has all the bytes asked for hands over all of them. What
    it does when fewer are there is left open. -/
def Schedule.Whole (σ : Schedule) : Prop :=
  ∀ i want avail, want ≤ avail → want ≤ σ.peek i want avail ∧ want ≤ σ.read i want avail

/-- Every call hands over what was asked for, as far as it is there. -/
def Schedule.whole : Schedule := ⟨fun _ want _ => want, fun _ want _ => want⟩

theorem Schedule.whole_whole : Schedule.whole.Whole := fun _ _ _ _ => ⟨le_rfl, le_rfl⟩

theorem Schedule.Whole.deliversReads {σ : Schedule} (h : σ.Whole) : σ.DeliversReads := by
  intro i want avail hpos hle
  exact lt_of_lt_of_le hpos (h i want avail hle).2

/-- The connection is closed, in order or by an error that stays: no call from here on hands
    over anything, whatever it asks for. -/
def Schedule.Closed (σ : Schedule) (k : Kernel) : Prop :=
  k.unread = [] ∨ ∀ i want, (k.peeks ≤ i → σ.peek i want k.unread.length = 0) ∧
    (k.reads ≤ i → σ.read i want k.unread.length = 0)

/-- The calls made for `want` bytes are all answered: with these bytes, one after the other. -/
inductive Answered (σ : Schedule) (opt : ReceiveOption) : Nat → Kernel → Bytes → Kernel → Prop where
  | done {k : Kernel} : Answered σ opt 0 k [] k
  | more {want : Nat} {k k' : Kernel} {data : Bytes} : (recv σ opt want k).1 ≠ [] →
      Answered σ opt (want - (recv σ opt want k).1.length) (recv σ opt want k).2 data k' →
      Answered σ opt want k ((recv σ opt want k).1 ++ data) k'

/-- One of the calls made for `want` bytes hands over nothing. -/
inductive Refused (σ : Schedule) (opt : ReceiveOption) : Nat → Kernel → Kernel → Prop where
  | now {want : Nat} {k : Kernel} : 0 < want → (recv σ opt want k).1 = [] →
      Refused σ opt want k (recv σ opt want k).2
  | later {want : Nat} {k k' : Kernel} : (recv σ opt want k).1 ≠ [] →
      Refused σ opt (want - (recv σ opt want k).1.length) (recv σ opt want k).2 k' →
      Refused σ opt want k k'

/-! ## One call of `recv` -/

theorem recv_length (σ : Schedule) (opt : ReceiveOption) (len : Nat) (k : Kernel) :
    (recv σ opt len k).1.length ≤ len := by
  cases opt <;> simp only [recv, List.length_take] <;> omega

theorem recv_silent (σ : Schedule) (opt : ReceiveOption) (len : Nat) (k : Kernel) :
    (recv σ opt len k).2.silent = (recv σ opt len k).1.isEmpty := by
  cases opt <;> rfl

/-- A closed connection hands over nothing and stays closed. -/
theorem recv_closed {σ : Schedule} {k : Kernel} (h : σ.Closed k) (opt : ReceiveOption)
    (len : Nat) : (recv σ opt len k).1 = [] ∧ σ.Closed (recv σ opt len k).2 := by
  rcases h with hnil | hzero
  · have hdrop : (recv σ opt len k).2.unread = [] := by
      cases opt <;> simp [recv, hnil]
    refine ⟨?_, Or.inl hdrop⟩
    cases opt <;> simp [recv, hnil]
  · cases opt with
    | peek =>
      refine ⟨?_, Or.inr fun i want => ⟨fun hi => (hzero i want).1 ?_, (hzero i want).2⟩⟩
      · simp [recv, (hzero k.peeks len).1 le_rfl]
      · exact le_trans (Nat.le_succ _) hi
    | consume =>
      have hans := (hzero k.reads len).2 le_rfl
      refine ⟨by simp [recv, hans], Or.inr fun i want => ?_⟩
      simp only [recv, hans, Nat.zero_min, List.drop_zero]
      exact ⟨(hzero i want).1, fun hi => (hzero i want).2 (le_trans (Nat.le_succ _) hi)⟩

theorem recv_consume (σ : Schedule) (len : Nat) (k : Kernel) :
    k.unread = (recv σ .consume len k).1 ++ (recv σ .consume len k).2.unread ∧
      (recv σ .consume len k).2.peeks = k.peeks :=
  ⟨(List.take_append_drop _ _).symm, rfl⟩

theorem recv_peek (σ : Schedule) (len : Nat) (k : Kernel) :
    (recv σ .peek len k).1 <+: k.unread ∧ (recv σ .peek len k).2.unread = k.unread :=
  ⟨List.take_prefix _ _, rfl⟩

/-- A non-empty look at the unread bytes starts with the first of them. -/
theorem head?_recv_peek {σ : Schedule} {len : Nat} {k : Kernel}
    (h : (recv σ .peek len k).1 ≠ []) :
    (recv σ .peek len k).1.head? = k.unread.head? := by
  obtain ⟨t, ht⟩ := (recv_peek σ len k).1
  rw [← ht, List.head?_append_of_ne_nil _ h]

/-- The loop ends at once when all the bytes are there. -/
theorem receiveLoop_done (σ : Schedule) (opt : ReceiveOption) (isValid : Bool) (want turns : Nat)
    (data : Bytes) (k : Kernel) :
    receiveLoop σ opt isValid want turns want data k = ⟨want, data, k⟩ := by
  cases turns with
  | zero => rfl
  | succ turns => rw [receiveLoop, if_neg (lt_irrefl want)]

/-! ## Calls that are answered -/

section Calls

variable {σ : Schedule} {opt : ReceiveOption} {want : Nat} {k k' : Kernel} {data : Bytes}

theorem answered_or_refused (σ : Schedule) (opt : ReceiveOption) :
    ∀ (turns want : Nat) (k : Kernel), want ≤ turns →
      (∃ data k', Answered σ opt want k data k') ∨ ∃ k', Refused σ opt want k k'
  | 0, want, k, hle => by
      obtain rfl : want = 0 := by omega
      exact .inl ⟨[], k, .done⟩
  | turns + 1, want, k, hle => by
      rcases Nat.eq_zero_or_pos want with rfl | hpos
      · exact .inl ⟨[], k, .done⟩
      by_cases hempty : (recv σ opt want k).1 = []
      · exact .inr ⟨_, .now hpos hempty⟩
      · have hlen := List.length_pos_iff.mpr hempty
        rcases answered_or_refused σ opt turns (want - (recv σ opt want k).1.length)
          (recv σ opt want k).2 (by omega) with ⟨data, k', h⟩ | ⟨k', h⟩
        · exact .inl ⟨_, k', .more hempty h⟩
        · exact .inr ⟨k', .later hempty h⟩

/-- For no bytes no call is made. -/
theorem answered_zero (h : Answered σ opt 0 k data k') : data = [] ∧ k' = k := by
  cases h with
  | done => exact ⟨rfl, rfl⟩
  | more hne _ =>
    refine absurd (List.eq_nil_of_length_eq_zero ?_) hne
    exact Nat.le_zero.mp (recv_length σ opt 0 k)

theorem Refused.pos (h : Refused σ opt want k k') : 0 < want := by
  induction h with
  | now hpos _ => exact hpos
  | later _ _ ih => omega

/-- The last of the calls has handed over nothing. -/
theorem Refused.silent (h : Refused σ opt want k k') : k'.silent = true := by
  induction h with
  | now _ hnil =>
    rw [recv_silent, hnil]
    rfl
  | later _ _ ih => exact ih

/-- The last of the calls has handed over something. -/
theorem Answered.not_silent (h : Answered σ opt want k data k') (hwant : 0 < want) :
    k'.silent = false := by
  induction h with
  | done => exact absurd hwant (Nat.lt_irrefl 0)
  | @more want k k' data hne h ih =>
    rcases Nat.eq_zero_or_pos (want - (recv σ opt want k).1.length) with hzero | hpos
    · rw [hzero] at h
      rw [(answered_zero h).2, recv_silent]
      exact List.isEmpty_eq_false_iff.mpr hne
    · exact ih hpos

/-- A connection that is closed refuses. -/
theorem refused_of_closed (h : σ.Closed k) (hwant : 0 < want) :
    ∃ k', Refused σ opt want k k' ∧ σ.Closed k' :=
  ⟨_, .now hwant (recv_closed h opt want).1, (recv_closed h opt want).2⟩

theorem receiveLoop_answered (h : Answered σ opt want k data k') :
    ∀ (turns got total : Nat) (before : Bytes), want + got = total → want ≤ turns →
      receiveLoop σ opt true total turns got before k = ⟨total, before ++ data, k'⟩ := by
  induction h with
  | done =>
    intro turns got total before htotal _
    obtain rfl : got = total := by omega
    rw [receiveLoop_done, List.append_nil]
  | @more want k k' data hne h ih =>
    intro turns got total before htotal hturns
    have hlen := recv_length σ opt want k
    have hpos := List.length_pos_iff.mpr hne
    obtain ⟨turns, rfl⟩ := Nat.exists_eq_succ_of_ne_zero (show turns ≠ 0 by omega)
    rw [receiveLoop, if_pos (by omega), show total - got = want by omega]
    dsimp only
    rw [if_neg (by simpa using hne), Bool.not_true, if_neg Bool.false_ne_true,
      ih turns _ total _ (by omega) (by omega), List.append_assoc]

theorem receiveLoop_refused (h : Refused σ opt want k k') :
    ∀ (turns got total : Nat) (before : Bytes), want + got = total → want ≤ turns →
      (receiveLoop σ opt true total turns got before k).returned = 0 ∧
        (receiveLoop σ opt true total turns got before k).kernel = k' := by
  induction h with
  | @now want k hpos hnil =>
    intro turns got total before htotal hturns
    obtain ⟨turns, rfl⟩ := Nat.exists_eq_succ_of_ne_zero (show turns ≠ 0 by omega)
    rw [receiveLoop, if_pos (by omega), show total - got = want by omega]
    dsimp only
    rw [if_pos (by simpa using hnil)]
    exact ⟨rfl, rfl⟩
  | @later want k k' hne h ih =>
    intro turns got total before htotal hturns
    have hlen := recv_length σ opt want k
    have hpos := List.length_pos_iff.mpr hne
    have hleft := h.pos
    obtain ⟨turns, rfl⟩ := Nat.exists_eq_succ_of_ne_zero (show turns ≠ 0 by omega)
    rw [receiveLoop, if_pos (by omega), show total - got = want by omega]
    dsimp only
    rw [if_neg (by simpa using hne), Bool.not_true, if_neg Bool.false_ne_true]
    exact ih turns _ total _ (by omega) (by omega)

/-- Calls that are all answered: `receive` returns what was asked for. -/
theorem receive_answered (h : Answered σ opt want k data k') (before : Bytes) :
    receive σ true before want opt k = ⟨want, before ++ data, k'⟩ :=
  receiveLoop_answered h want 0 want before (Nat.add_zero want) le_rfl

/-- A call that is not: it returns 0. -/
theorem receive_refused (h : Refused σ opt want k k') (before : Bytes) :
    (receive σ true before want opt k).returned = 0 ∧
      (receive σ true before want opt k).kernel = k' :=
  receiveLoop_refused h want 0 want before (Nat.add_zero want) le_rfl

end Calls

/-! ## The consuming loop -/

/-- Outcome of the consuming loop: all the bytes asked for, in stream order, or a failure that
    has taken fewer. -/
theorem receiveLoop_consume (σ : Schedule) (isValid : Bool) (want : Nat) :
    ∀ (turns got : Nat) (data : Bytes) (k : Kernel), got ≤ want → want ≤ got + turns →
      ∃ buf, k.unread = buf ++ (receiveLoop σ .consume isValid want turns got data k).kernel.unread ∧
        (receiveLoop σ .consume isValid want turns got data k).kernel.peeks = k.peeks ∧
        ((receiveLoop σ .consume isValid want turns got data k).returned = want ∧
            buf.length = want - got ∧
            (receiveLoop σ .consume isValid want turns got data k).data = data ++ buf ∨
          (receiveLoop σ .consume isValid want turns got data k).returned = 0)
  | 0, got, data, k, hle, hturns => by
      have hgot : got = want := by omega
      exact ⟨[], rfl, rfl, Or.inl ⟨hgot, by rw [hgot]; simp, by simp [receiveLoop]⟩⟩
  | turns + 1, got, data, k, hle, hturns => by
      obtain ⟨hsplit, hpeeks⟩ := recv_consume σ (want - got) k
      have hlen := recv_length σ .consume (want - got) k
      rw [receiveLoop]
      by_cases hmore : got < want
      · rw [if_pos hmore]
        dsimp only
        by_cases hempty : (recv σ .consume (want - got) k).1.isEmpty
        · rw [if_pos hempty]
          exact ⟨_, hsplit, hpeeks, Or.inr rfl⟩
        · rw [if_neg hempty]
          have hpos : 0 < (recv σ .consume (want - got) k).1.length := by
            rw [List.length_pos_iff]
            simpa using hempty
          cases isValid with
          | false => exact ⟨_, hsplit, hpeeks, Or.inr rfl⟩
          | true =>
            obtain ⟨buf, hb, hp, hout⟩ := receiveLoop_consume σ true want turns
              (got + (recv σ .consume (want - got) k).1.length)
              (data ++ (recv σ .consume (want - got) k).1) (recv σ .consume (want - got) k).2
              (by omega) (by omega)
            refine ⟨(recv σ .consume (want - got) k).1 ++ buf, ?_, hp.trans hpeeks, ?_⟩
            · rw [List.append_assoc]
              exact hsplit.trans (congrArg _ hb)
            · rcases hout with ⟨hr, hl, hd⟩ | hr
              · refine Or.inl ⟨hr, ?_, ?_⟩
                · rw [List.length_append, hl]
                  omega
                · rw [← List.append_assoc]
                  exact hd
              · exact Or.inr hr
      · rw [if_neg hmore]
        have hgot : got = want := by omega
        exact ⟨[], rfl, rfl, Or.inl ⟨hgot, by rw [hgot]; simp, by simp⟩⟩

/-- A consuming `receive` returns the number of bytes asked for and appends the next bytes of
    the stream, or returns 0. -/
theorem receive_consume (σ : Schedule) (isValid : Bool) (data : Bytes) (want : Nat)
    (k : Kernel) :
    ∃ buf, k.unread = buf ++ (receive σ isValid data want .consume k).kernel.unread ∧
      (receive σ isValid data want .consume k).kernel.peeks = k.peeks ∧
      ((receive σ isValid data want .consume k).returned = want ∧ buf.length = want ∧
          (receive σ isValid data want .consume k).data = data ++ buf ∨
        (receive σ isValid data want .consume k).returned = 0) :=
  receiveLoop_consume σ isValid want want 0 data k (Nat.zero_le _) (by omega)

/-- While the kernel has the bytes and hands over some at each call, the loop gets them all. -/
theorem receiveLoop_consume_returns {σ : Schedule} (hσ : σ.DeliversReads) (want : Nat) :
    ∀ (turns got : Nat) (data : Bytes) (k : Kernel), got ≤ want → want ≤ got + turns →
      want - got ≤ k.unread.length →
      (receiveLoop σ .consume true want turns got data k).returned = want
  | 0, got, data, k, hle, hturns, _ => by
      show got = want
      omega
  | turns + 1, got, data, k, hle, hturns, havail => by
      obtain ⟨hsplit, -⟩ := recv_consume σ (want - got) k
      have hlen := recv_length σ .consume (want - got) k
      rw [receiveLoop]
      by_cases hmore : got < want
      · have hans := hσ k.reads (want - got) k.unread.length (by omega) havail
        have hpos : 0 < (recv σ .consume (want - got) k).1.length := by
          simp only [recv, List.length_take]
          omega
        have hempty : ¬ (recv σ .consume (want - got) k).1.isEmpty := by
          rw [List.isEmpty_iff, ← List.length_eq_zero_iff]
          omega
        have hl := congrArg List.length hsplit
        rw [List.length_append] at hl
        rw [if_pos hmore]
        dsimp only
        rw [if_neg hempty]
        exact receiveLoop_consume_returns hσ want turns _ _ _ (by omega) (by omega) (by omega)
      · rw [if_neg hmore]
        show got = want
        omega

theorem receive_consume_returns {σ : Schedule} (hσ : σ.DeliversReads) (data : Bytes)
    {want : Nat} {k : Kernel} (havail : want ≤ k.unread.length) :
    (receive σ true data want .consume k).returned = want :=
  receiveLoop_consume_returns hσ want want 0 data k (Nat.zero_le _) (by omega) (by omega)

/-- The bytes a successful consuming `receive` gets, given the stream by its parts. -/
theorem receive_consume_append {σ : Schedule} (hσ : σ.DeliversReads) (data : Bytes)
    {buf rest : Bytes} {k : Kernel} (hk : k.unread = buf ++ rest) :
    (receive σ true data buf.length .consume k).returned = buf.length ∧
      (receive σ true data buf.length .consume k).data = data ++ buf ∧
      (receive σ true data buf.length .consume k).kernel.unread = rest ∧
      (receive σ true data buf.length .consume k).kernel.peeks = k.peeks := by
  have hret := receive_consume_returns hσ data
    (show buf.length ≤ k.unread.length by rw [hk]; simp)
  obtain ⟨b, hb, hp, ⟨-, hl, hd⟩ | h0⟩ := receive_consume σ true data buf.length k
  · rw [hk] at hb
    obtain ⟨rfl, hrest⟩ := List.append_inj hb hl.symm
    exact ⟨hret, hd, hrest.symm, hp⟩
  · -- the call reports 0, so nothing was asked for
    have hnil : buf = [] := by
      rw [← List.length_eq_zero_iff]
      omega
    subst hnil
    exact ⟨hret, by simp [receive, receiveLoop], by simpa [receive, receiveLoop] using hk,
      by simp [receive, receiveLoop]⟩

/-! ## Either loop -/

/-- The loop of a valid socket fails exactly when its last call hands over nothing. -/
theorem receiveLoop_silent (σ : Schedule) (opt : ReceiveOption) (want : Nat) :
    ∀ (turns got : Nat) (data : Bytes) (k : Kernel), got < want → want ≤ got + turns →
      ((receiveLoop σ opt true want turns got data k).kernel.silent = true ↔
        (receiveLoop σ opt true want turns got data k).returned = 0)
  | 0, got, data, k, hlt, hturns => absurd hturns (by omega)
  | turns + 1, got, data, k, hlt, hturns => by
      have hlen := recv_length σ opt (want - got) k
      have hsilent := recv_silent σ opt (want - got) k
      rw [receiveLoop, if_pos hlt]
      dsimp only
      by_cases hempty : (recv σ opt (want - got) k).1.isEmpty = true
      · rw [if_pos hempty]
        exact ⟨fun _ => rfl, fun _ => hsilent.trans hempty⟩
      · rw [if_neg hempty, Bool.not_true, if_neg Bool.false_ne_true]
        have hpos : 0 < (recv σ opt (want - got) k).1.length := by
          rw [List.length_pos_iff]
          simpa using hempty
        rcases Nat.lt_or_ge (got + (recv σ opt (want - got) k).1.length) want with hmore | hdone
        · exact receiveLoop_silent σ opt want turns _ _ _ hmore (by omega)
        · have hgot : got + (recv σ opt (want - got) k).1.length = want := by omega
          rw [hgot, receiveLoop_done]
          dsimp only
          rw [hsilent]
          exact ⟨fun h => absurd h hempty, fun h => by omega⟩

theorem receive_silent (σ : Schedule) (opt : ReceiveOption) (data : Bytes) {want : Nat}
    (k : Kernel) (hwant : 0 < want) :
    (receive σ true data want opt k).kernel.silent = true ↔
      (receive σ true data want opt k).returned = 0 :=
  receiveLoop_silent σ opt want want 0 data k hwant (by omega)

/-- A loop that returns a count has appended as many bytes as it still had to read. -/
theorem receiveLoop_length (σ : Schedule) (opt : ReceiveOption) (isValid : Bool) (want : Nat) :
    ∀ (turns got : Nat) (data : Bytes) (k : Kernel), got ≤ want → want ≤ got + turns →
      (receiveLoop σ opt isValid want turns got data k).returned ≠ 0 →
      (receiveLoop σ opt isValid want turns got data k).data.length = data.length + (want - got)
  | 0, got, data, k, hle, hturns, _ => by
      show data.length = _
      omega
  | turns + 1, got, data, k, hle, hturns, hret => by
      have hlen := (recv_length σ opt (want - got) k)
      rw [receiveLoop] at hret ⊢
      by_cases hmore : got < want
      · rw [if_pos hmore] at hret ⊢
        dsimp only at hret ⊢
        by_cases hempty : (recv σ opt (want - got) k).1.isEmpty = true
        · rw [if_pos hempty] at hret
          exact absurd rfl hret
        · rw [if_neg hempty] at hret ⊢
          have hpos : 0 < (recv σ opt (want - got) k).1.length := by
            rw [List.length_pos_iff]
            simpa using hempty
          cases isValid with
          | false => exact absurd rfl hret
          | true =>
            refine
              (receiveLoop_length σ opt true want turns _ _ _ (by omega) (by omega) hret).trans ?_
            rw [List.length_append]
            omega
      · rw [if_neg hmore]
        show data.length = _
        omega

theorem receive_length {σ : Schedule} {opt : ReceiveOption} {isValid : Bool} {data : Bytes}
    {want : Nat} {k : Kernel} (h : (receive σ isValid data want opt k).returned ≠ 0) :
    (receive σ isValid data want opt k).data.length = data.length + want :=
  receiveLoop_length σ opt isValid want want 0 data k (Nat.zero_le _) (by omega) h

/-! ## The peeking loop -/

/-- The peeking loop leaves the stream alone, and what it appends starts over at the first
    unread byte. -/
theorem receiveLoop_peek (σ : Schedule) (isValid : Bool) (want : Nat) :
    ∀ (turns got : Nat) (data : Bytes) (k : Kernel), got ≤ want → want ≤ got + turns →
      (receiveLoop σ .peek isValid want turns got data k).kernel.unread = k.unread ∧
        ((receiveLoop σ .peek isValid want turns got data k).returned = want ∨
          (receiveLoop σ .peek isValid want turns got data k).returned = 0) ∧
        ∃ d, (receiveLoop σ .peek isValid want turns got data k).data = data ++ d ∧
          (d ≠ [] → d.head? = k.unread.head?)
  | 0, got, data, k, hle, hturns => by
      have hgot : got = want := by omega
      exact ⟨rfl, Or.inl hgot, [], by simp [receiveLoop], by simp⟩
  | turns + 1, got, data, k, hle, hturns => by
      obtain ⟨hpre, hk⟩ := recv_peek σ (want - got) k
      have hlen := recv_length σ .peek (want - got) k
      rw [receiveLoop]
      by_cases hmore : got < want
      · rw [if_pos hmore]
        dsimp only
        by_cases hempty : (recv σ .peek (want - got) k).1.isEmpty
        · rw [if_pos hempty]
          exact ⟨hk, Or.inr rfl, [], by simp, by simp⟩
        · rw [if_neg hempty]
          have hne : (recv σ .peek (want - got) k).1 ≠ [] := by simpa using hempty
          have hhead := head?_recv_peek hne
          cases isValid with
          | false => exact ⟨hk, Or.inr rfl, _, rfl, fun _ => hhead⟩
          | true =>
            have hpos := List.length_pos_iff.mpr hne
            obtain ⟨hu, hr, d, hd, -⟩ := receiveLoop_peek σ true want turns
              (got + (recv σ .peek (want - got) k).1.length)
              (data ++ (recv σ .peek (want - got) k).1) (recv σ .peek (want - got) k).2
              (by omega) (by omega)
            refine ⟨?_, hr, (recv σ .peek (want - got) k).1 ++ d, ?_, fun _ => ?_⟩
            · exact hu.trans hk
            · rw [← List.append_assoc]
              exact hd
            · rw [List.head?_append_of_ne_nil _ hne, hhead]
      · rw [if_neg hmore]
        have hgot : got = want := by omega
        exact ⟨rfl, Or.inl hgot, [], by simp, by simp⟩

/-- A peeking `receive` leaves the stream alone and returns the number of bytes asked for
    or 0. -/
theorem receive_peek (σ : Schedule) (isValid : Bool) (data : Bytes) (want : Nat) (k : Kernel) :
    (receive σ isValid data want .peek k).kernel.unread = k.unread ∧
      ((receive σ isValid data want .peek k).returned = want ∨
        (receive σ isValid data want .peek k).returned = 0) := by
  obtain ⟨hu, hr, -⟩ := receiveLoop_peek σ isValid want want 0 data k (Nat.zero_le _) (by omega)
  exact ⟨hu, hr⟩

/-- The first turn of a peeking `receive` that returns something: a non-empty look, followed
    by looks that start over. -/
theorem receive_peek_first {σ : Schedule} {isValid : Bool} {want : Nat} {k : Kernel}
    (hwant : 0 < want) (h : (receive σ isValid [] want .peek k).returned ≠ 0) :
    (recv σ .peek want k).1 ≠ [] ∧
      ∃ d, (receive σ isValid [] want .peek k).data = (recv σ .peek want k).1 ++ d ∧
        (d ≠ [] → d.head? = (recv σ .peek want k).1.head?) := by
  obtain ⟨turns, rfl⟩ : ∃ t, want = t + 1 := ⟨want - 1, by omega⟩
  obtain ⟨hpre, hk⟩ := recv_peek σ (turns + 1) k
  have hlen := recv_length σ .peek (turns + 1) k
  rw [receive, receiveLoop, if_pos hwant, Nat.sub_zero] at h ⊢
  dsimp only at h ⊢
  by_cases hempty : (recv σ .peek (turns + 1) k).1.isEmpty
  · rw [if_pos hempty] at h
    exact absurd rfl h
  · have hne : (recv σ .peek (turns + 1) k).1 ≠ [] := by simpa using hempty
    rw [if_neg hempty] at h ⊢
    cases isValid with
    | false => exact absurd rfl h
    | true =>
      have hpos := List.length_pos_iff.mpr hne
      obtain ⟨-, -, d, hd, hstart⟩ := receiveLoop_peek σ true (turns + 1) turns
        (0 + (recv σ .peek (turns + 1) k).1.length) ([] ++ (recv σ .peek (turns + 1) k).1)
        (recv σ .peek (turns + 1) k).2 (by omega) (by omega)
      refine ⟨hne, d, hd, fun hdne => ?_⟩
      rw [hstart hdne, hk, head?_recv_peek hne]

/-- **A composite peek never shows the signature.** If the looks of one peeking `receive`
    make up a marker, the first look alone was the marker: it is the next part of the stream
    and the first call handed over all of it. -/
theorem receive_peek_word (m : Marker UInt8) {σ : Schedule} {isValid : Bool} {k : Kernel}
    (hret : (receive σ isValid [] m.word.length .peek k).returned ≠ 0)
    (hdata : (receive σ isValid [] m.word.length .peek k).data = m.word) :
    m.word <+: k.unread ∧
      m.word.length ≤ σ.peek k.peeks m.word.length k.unread.length := by
  obtain ⟨hne, d, hd, hstart⟩ := receive_peek_first (List.length_pos_iff.mpr m.word_ne_nil) hret
  have hd0 : d = [] := m.eq_nil_of_word_eq_append hne (hdata.symm.trans hd) hstart
  have hlook : (recv σ .peek m.word.length k).1 = m.word := by
    rw [hd0, List.append_nil] at hd
    exact hd.symm.trans hdata
  obtain ⟨hpre, -⟩ := recv_peek σ m.word.length k
  rw [hlook] at hpre
  refine ⟨hpre, ?_⟩
  have hlen := congrArg List.length hlook
  simp only [recv, List.length_take] at hlen
  omega

/-- A peek answered in full by the first call. -/
theorem receive_peek_full {σ : Schedule} {want : Nat} {k : Kernel} (hwant : 0 < want)
    (hans : want ≤ σ.peek k.peeks want k.unread.length) (havail : want ≤ k.unread.length) :
    receive σ true [] want .peek k =
      ⟨want, k.unread.take want, { k with peeks := k.peeks + 1, silent := false }⟩ := by
  obtain ⟨turns, rfl⟩ : ∃ t, want = t + 1 := ⟨want - 1, by omega⟩
  have hl : (k.unread.take (turns + 1)).length = turns + 1 := by
    rw [List.length_take]
    omega
  have hempty : (k.unread.take (turns + 1)).isEmpty = false := by
    rw [List.isEmpty_eq_false_iff, ← List.length_pos_iff]
    omega
  have hlook : recv σ .peek (turns + 1) k =
      (k.unread.take (turns + 1), { k with peeks := k.peeks + 1, silent := false }) := by
    simp only [recv, Nat.min_eq_right hans, hempty]
  rw [receive, receiveLoop, if_pos hwant, Nat.sub_zero, hlook]
  dsimp only
  rw [hempty, hl, Nat.zero_add]
  exact receiveLoop_done σ .peek true (turns + 1) turns _ _

/-- Each call of a peeking loop hands over some bytes: the loop returns what it was asked. -/
theorem receiveLoop_peek_returns {σ : Schedule}
    (hσ : ∀ i want avail, 0 < want → 0 < avail → 0 < σ.peek i want avail) (want : Nat) :
    ∀ (turns got : Nat) (data : Bytes) (k : Kernel), got ≤ want → want ≤ got + turns →
      k.unread ≠ [] → (receiveLoop σ .peek true want turns got data k).returned = want
  | 0, got, data, k, hle, hturns, _ => by
      show got = want
      omega
  | turns + 1, got, data, k, hle, hturns, hk => by
      obtain ⟨-, hk'⟩ := recv_peek σ (want - got) k
      have hlen := recv_length σ .peek (want - got) k
      rw [receiveLoop]
      by_cases hmore : got < want
      · have hpos : 0 < k.unread.length := List.length_pos_iff.mpr hk
        have hans := hσ k.peeks (want - got) k.unread.length (by omega) hpos
        have hlook : 0 < (recv σ .peek (want - got) k).1.length := by
          simp only [recv, List.length_take]
          omega
        have hempty : ¬ (recv σ .peek (want - got) k).1.isEmpty := by
          rw [List.isEmpty_iff, ← List.length_eq_zero_iff]
          omega
        rw [if_pos hmore]
        dsimp only
        rw [if_neg hempty]
        exact receiveLoop_peek_returns hσ want turns _ _ _ (by omega) (by omega)
          (by rw [hk']; exact hk)
      · rw [if_neg hmore]
        show got = want
        omega

theorem receive_peek_returns {σ : Schedule}
    (hσ : ∀ i want avail, 0 < want → 0 < avail → 0 < σ.peek i want avail) (data : Bytes)
    (want : Nat) {k : Kernel} (hk : k.unread ≠ []) :
    (receive σ true data want .peek k).returned = want :=
  receiveLoop_peek_returns hσ want want 0 data k (Nat.zero_le _) (by omega) hk

end Navtech.Network
