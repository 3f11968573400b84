/-
  Runs of a sequence whose key does not decrease, and a collector that hands over what it has
  collected where the key falls.

  The runs are Mathlib's `List.splitBy`. The collector adds the values of an item first and
  looks at the key then, so that the item at which a run ends is collected with the run before
  it, although it starts the next one. `collect_iff` says when that does not matter: the lists
  handed over are those of the completed runs exactly if no item that starts a run, after the
  first run, has any values.

  A `Collector` is a handler with a state of its own that does this: what it makes of an item
  may depend on its state. What it hands over from one call to the next is what `collect` gives
  for the values it has made (`handedOver_eq_collect`), which carries `collect_iff` over to it
  (`handedOver_iff`).
-/
import Mathlib.Data.List.Chain
import Mathlib.Data.List.SplitBy

namespace Runs

variable {V : Type}

structure Item (V : Type) where
  key : Nat
  values : List V

/-- The maximal runs in which the key does not decrease. -/
def runs (items : List (Item V)) : List (List (Item V)) :=
  items.splitBy fun a b => a.key ≤ b.key

/-- The values of the items, in order. -/
def content (items : List (Item V)) : List V := items.flatMap Item.values

/-- The collector, with what it has and the last key it has seen. -/
def collect (collected : List V) (last : Nat) : List (Item V) → List (List V)
  | [] => []
  | x :: items =>
    if x.key < last then (collected ++ x.values) :: collect [] x.key items
    else collect (collected ++ x.values) x.key items

/-- An item that starts a run has no values. -/
def QuietStarts (items : List (Item V)) : Prop :=
  items.IsChain fun a b => b.key < a.key → b.values = []

theorem content_append (a b : List (Item V)) : content (a ++ b) = content a ++ content b :=
  List.flatMap_append

theorem runs_of_isChain {items : List (Item V)} (hne : items ≠ [])
    (h : items.IsChain fun a b => a.key ≤ b.key) : runs items = [items] :=
  List.splitBy_of_isChain hne (by simpa using h)

/-- A fall of the key starts a new run. -/
theorem runs_append_cons {pre items : List (Item V)} {a x : Item V} (h : x.key < a.key) :
    runs (pre ++ [a] ++ x :: items) = runs (pre ++ [a]) ++ runs (x :: items) :=
  List.splitBy_append_cons items (by simp [h])

theorem runs_cons_ne_nil (x : Item V) (items : List (Item V)) : runs (x :: items) ≠ [] :=
  List.splitBy_ne_nil.mpr (List.cons_ne_nil x items)

/-- In the middle of a run that has been collected up to the item `a`. -/
theorem collect_iff_from (items : List (Item V)) :
    ∀ (pre : List (Item V)) (a : Item V), (pre ++ [a]).IsChain (fun a b => a.key ≤ b.key) →
      (collect (content (pre ++ [a])) a.key items =
          ((runs (pre ++ [a] ++ items)).dropLast.map content) ↔ QuietStarts (a :: items)) := by
  induction items with
  | nil =>
    intro pre a hchain
    rw [List.append_nil, runs_of_isChain (by simp) hchain]
    exact iff_of_true rfl (.singleton a)
  | cons x items ih =>
    intro pre a hchain
    by_cases hfall : x.key < a.key
    · have hruns : (runs (pre ++ [a] ++ x :: items)).dropLast =
          (pre ++ [a]) :: (runs ([] ++ [x] ++ items)).dropLast := by
        rw [runs_append_cons hfall, runs_of_isChain (by simp) hchain, List.singleton_append,
          List.dropLast_cons_of_ne_nil (runs_cons_ne_nil x items)]
        rfl
      rw [collect, if_pos hfall, hruns, List.map_cons, List.cons.injEq, QuietStarts,
        List.isChain_cons_cons]
      have hstart := ih [] x (.singleton x)
      -- the item is in the right place if it has no values, and then the next run starts empty
      constructor
      · intro h
        obtain ⟨hcloud, hrest⟩ := h
        have hquiet : x.values = [] := by simpa using hcloud
        have hempty : content ([] ++ [x]) = [] := by simp [content, hquiet]
        rw [hempty] at hstart
        exact ⟨fun _ => hquiet, hstart.mp hrest⟩
      · intro h
        obtain ⟨hquiet, hrest⟩ := h
        have hempty : content ([] ++ [x]) = [] := by simp [content, hquiet hfall]
        rw [hempty] at hstart
        exact ⟨by rw [hquiet hfall, List.append_nil], hstart.mpr hrest⟩
    · have hchain' : (pre ++ [a] ++ [x]).IsChain (fun a b => a.key ≤ b.key) := by
        rw [List.isChain_append]
        refine ⟨hchain, .singleton x, ?_⟩
        simp
        omega
      have hnext := ih (pre ++ [a]) x hchain'
      have hcontent : content (pre ++ [a] ++ [x]) = content (pre ++ [a]) ++ x.values := by
        rw [content_append (pre ++ [a]) [x]]
        simp [content]
      rw [hcontent] at hnext
      rw [collect, if_neg hfall, QuietStarts, List.isChain_cons_cons]
      have hsplit : pre ++ [a] ++ x :: items = pre ++ [a] ++ [x] ++ items := by simp
      rw [hsplit, hnext]
      exact ⟨fun h => ⟨fun hf => absurd hf hfall, h⟩, fun h => h.2⟩

/-- **The completed runs.** What the collector hands over is the contents of the completed runs,
    one each, exactly if no item that starts a run after the first has values. -/
theorem collect_iff (items : List (Item V)) :
    collect [] 0 items = (runs items).dropLast.map content ↔ QuietStarts items := by
  cases items with
  | nil => exact iff_of_true rfl .nil
  | cons x items =>
    have h := collect_iff_from items [] x (.singleton x)
    have hcontent : content ([] ++ [x]) = [] ++ x.values := by simp [content]
    rw [hcontent] at h
    rw [collect, if_neg (Nat.not_lt_zero _)]
    exact h

/-! ## Handlers that collect -/

/-- A handler that is called with item after item, `handle`, in terms of what it makes of an
    item in the state it is in, what it holds, and the last key it has seen. -/
structure Collector (σ S V : Type) where
  handle : σ → S → σ × Option (List V)
  key : S → Nat
  values : σ → S → List V
  collected : σ → List V
  last : σ → Nat
  handle_fall : ∀ st x, key x < last st →
    (handle st x).2 = some (collected st ++ values st x) ∧ collected (handle st x).1 = []
  handle_rise : ∀ st x, ¬ key x < last st →
    (handle st x).2 = none ∧ collected (handle st x).1 = collected st ++ values st x
  last_handle : ∀ st x, last (handle st x).1 = key x

namespace Collector

variable {σ S V : Type} (c : Collector σ S V)

/-- What is handed over in a run of calls. -/
def handedOver : σ → List S → List (List V)
  | _, [] => []
  | st, x :: xs => (c.handle st x).2.toList ++ handedOver (c.handle st x).1 xs

/-- The keys and the values of the calls. -/
def items : σ → List S → List (Item V)
  | _, [] => []
  | st, x :: xs => ⟨c.key x, c.values st x⟩ :: items (c.handle st x).1 xs

/-- At every call at which the key falls, `P` holds of the state before it and of the item. -/
def EveryFall (P : σ → S → Prop) : σ → List S → Prop
  | _, [] => True
  | st, x :: xs => (c.key x < c.last st → P st x) ∧ EveryFall P (c.handle st x).1 xs

theorem everyFall_congr {P Q : σ → S → Prop} (h : ∀ st x, P st x ↔ Q st x) (xs : List S) :
    ∀ st, c.EveryFall P st xs ↔ c.EveryFall Q st xs := by
  induction xs with
  | nil => exact fun _ => Iff.rfl
  | cons x xs ih =>
    intro st
    rw [EveryFall, EveryFall, ih, h]

theorem handedOver_eq_collect (xs : List S) : ∀ st,
    c.handedOver st xs = collect (c.collected st) (c.last st) (c.items st xs) := by
  induction xs with
  | nil => exact fun _ => rfl
  | cons x xs ih =>
    intro st
    rw [handedOver, ih, items, collect, c.last_handle]
    by_cases hfall : c.key x < c.last st
    · obtain ⟨hover, hempty⟩ := c.handle_fall st x hfall
      rw [if_pos hfall, hover, hempty]
      rfl
    · obtain ⟨hnone, hmore⟩ := c.handle_rise st x hfall
      rw [if_neg hfall, hnone, hmore]
      rfl

/-- The item before the calls is one with the last key. -/
theorem quietStarts_cons_items (xs : List S) : ∀ (st : σ) (a : Item V), a.key = c.last st →
    (QuietStarts (a :: c.items st xs) ↔ c.EveryFall (fun st x => c.values st x = []) st xs) := by
  induction xs with
  | nil => exact fun _ a _ => iff_of_true (.singleton a) trivial
  | cons x xs ih =>
    intro st a hkey
    have hnext := ih (c.handle st x).1 ⟨c.key x, c.values st x⟩ (c.last_handle st x).symm
    rw [items, EveryFall, ← hnext, QuietStarts, List.isChain_cons_cons, hkey]
    rfl

theorem quietStarts_items {st : σ} (hlast : c.last st = 0) (xs : List S) :
    QuietStarts (c.items st xs) ↔ c.EveryFall (fun st x => c.values st x = []) st xs := by
  rw [← c.quietStarts_cons_items xs st ⟨0, []⟩ hlast.symm]
  cases xs with
  | nil => exact iff_of_true .nil (.singleton _)
  | cons x xs =>
    rw [items, QuietStarts, QuietStarts, List.isChain_cons_cons]
    exact ⟨fun h => ⟨fun hfall => absurd hfall (Nat.not_lt_zero _), h⟩, fun h => h.2⟩

/-- From a state that holds nothing and has seen no key, the handler hands over the values of the
    completed runs exactly if it makes nothing of the items at which the key falls. -/
theorem handedOver_iff {st : σ} (hlast : c.last st = 0) (hempty : c.collected st = [])
    (xs : List S) :
    c.handedOver st xs = (runs (c.items st xs)).dropLast.map content ↔
      c.EveryFall (fun st x => c.values st x = []) st xs := by
  rw [handedOver_eq_collect, hlast, hempty, collect_iff, c.quietStarts_items hlast]

end Collector

end Runs
