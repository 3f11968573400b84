/-
  Synchronisation markers: words whose first letter occurs nowhere else in them.

  A receiver that has lost its place looks for such a word in a stream. Two facts make the
  search unambiguous, and both come from the first letter alone. The word never starts in
  junk and ends in what follows, when what follows starts with a marker of its own
  (`not_match_in_junk`). And the word is never pieced together from several looks at the
  same place: if a look is cut short and the next one starts over, the first letter appears
  twice (`eq_nil_of_word_eq_append`).
-/
import Mathlib.Data.List.Basic
import Mathlib.Data.List.Infix

/-- A word whose first letter is not among its other letters. -/
structure Marker (α : Type) where
  head : α
  tail : List α
  fresh : head ∉ tail

namespace Marker

variable {α : Type} (m : Marker α)

def word : List α := m.head :: m.tail

theorem word_ne_nil : m.word ≠ [] := List.cons_ne_nil _ _

/-- Letters after the first differ from the first. -/
theorem getElem?_word_ne {i : Nat} (hi : 0 < i) : m.word[i]? ≠ some m.head := by
  obtain ⟨i, rfl⟩ : ∃ j, i = j + 1 := ⟨i - 1, by omega⟩
  intro h
  rw [word, List.getElem?_cons_succ] at h
  exact m.fresh (List.mem_of_getElem? h)

/-- A marker pieced together from a non-empty look and a second look that starts over with
    the same letter has nothing in the second look. -/
theorem eq_nil_of_word_eq_append {c d : List α} (hc : c ≠ []) (h : m.word = c ++ d)
    (hd : d ≠ [] → d.head? = c.head?) : d = [] := by
  by_contra hne
  obtain ⟨x, c, rfl⟩ := List.exists_cons_of_ne_nil hc
  obtain ⟨y, d, rfl⟩ := List.exists_cons_of_ne_nil hne
  have hxy : y = x := by simpa using hd hne
  obtain ⟨hx, ht⟩ : m.head = x ∧ m.tail = c ++ y :: d := by simpa [word] using h
  refine m.fresh ?_
  rw [ht, hx, hxy]
  exact List.mem_append_right _ List.mem_cons_self

/-- In junk that does not contain the marker no position matches it, even where the match
    would run on into a stream that starts with the marker's first letter. -/
theorem not_match_in_junk {junk s : List α} (hj : ¬ m.word <:+: junk)
    (hs : s ≠ [] → s.head? = some m.head) {i : Nat} (hi : i < junk.length) :
    ¬ m.word <+: (junk ++ s).drop i := by
  intro hmatch
  obtain ⟨t, ht⟩ := hmatch
  rw [List.drop_append_of_le_length (le_of_lt hi)] at ht
  by_cases hfit : m.word.length ≤ (junk.drop i).length
  · -- the whole match lies in the junk
    have hpre : m.word <+: junk.drop i :=
      List.prefix_of_prefix_length_le ⟨t, ht⟩ (List.prefix_append _ _) hfit
    exact hj (hpre.isInfix.trans (List.drop_suffix i junk).isInfix)
  · -- the first letter of `s` is a later letter of the match
    have hlen := congrArg List.length ht
    simp only [List.length_append, List.length_drop] at hlen hfit
    have hne : s ≠ [] := by
      rintro rfl
      simp only [List.length_nil] at hlen
      omega
    obtain ⟨x, s, rfl⟩ := List.exists_cons_of_ne_nil hne
    have hx : x = m.head := by simpa using hs hne
    have hget := congrArg (fun l => l[(junk.drop i).length]?) ht
    simp only [List.getElem?_append_right (le_refl _), Nat.sub_self, List.getElem?_cons_zero,
      List.getElem?_append_left (show (junk.drop i).length < m.word.length by
        rw [List.length_drop]; omega)] at hget
    have hpos : 0 < (junk.drop i).length := by
      rw [List.length_drop]
      omega
    exact m.getElem?_word_ne hpos (by rw [hget, hx])

end Marker
