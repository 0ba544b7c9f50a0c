import Mathlib.Data.List.Rotate
import Mathlib.Data.List.Range

/-!
# Scanning a cycle

A scan starts at an index, wraps around, and takes the first index with a property; the next scan
starts behind it. The indexes with the property are then taken in turn.

## Key results

- `cyclicFrom_eq_rotate`: the indexes in the order of the scan
- `filter_cyclicFrom_next`: what a scan takes moves to the end of what is still to come
- `InTurn.concat`: taking the next in turn keeps every window of a full round complete
-/

namespace List

/-- The indexes below `n` from `start` on, cyclically. -/
def cyclicFrom (n start : Nat) : List Nat := (List.range n).map fun i => (start + i) % n

theorem cyclicFrom_eq_rotate (n start : Nat) : cyclicFrom n start = (List.range n).rotate start := by
  apply List.ext_getElem
  · simp [cyclicFrom]
  · intro i h₁ h₂
    simp [cyclicFrom, List.getElem_rotate, Nat.add_comm]

theorem cyclicFrom_perm (n start : Nat) : (cyclicFrom n start).Perm (List.range n) := by
  rw [cyclicFrom_eq_rotate]
  exact List.rotate_perm _ _

/-- The element that a search finds is the first of the ones with the property, and moves behind
    the others if the list is cut right after it. -/
theorem filter_rotate_of_find? {α : Type*} {p : α → Bool} {l : List α} {a : α}
    (h : l.find? p = some a) :
    ∃ k, l[k]? = some a ∧ l.filter p = a :: (l.filter p).tail ∧
      (l.rotate (k + 1)).filter p = (l.filter p).tail ++ [a] := by
  induction l with
  | nil => cases h
  | cons b l ih =>
    by_cases hb : p b = true
    · rw [List.find?_cons_of_pos hb, Option.some.injEq] at h
      subst h
      refine ⟨0, rfl, ?_, ?_⟩
      · rw [List.filter_cons_of_pos hb, List.tail_cons]
      · rw [List.rotate_cons_succ, List.rotate_zero, List.filter_append,
          List.filter_cons_of_pos hb, List.filter_cons_of_pos hb, List.filter_nil, List.tail_cons]
    · rw [List.find?_cons_of_neg hb] at h
      obtain ⟨k, hk, hhead, hrotate⟩ := ih h
      refine ⟨k + 1, hk, ?_, ?_⟩
      · rw [List.filter_cons_of_neg hb]
        exact hhead
      · -- the element in front does not have the property, wherever it is
        have hlt : k < l.length := (List.getElem?_eq_some_iff.mp hk).1
        rw [List.filter_cons_of_neg hb, ← hrotate, List.rotate_cons_succ,
          List.rotate_eq_drop_append_take (by simp; omega),
          List.rotate_eq_drop_append_take (by omega),
          List.drop_append_of_le_length (by omega), List.take_append_of_le_length (by omega)]
        simp [List.filter_append, List.filter_cons_of_neg hb]

/-- A scan that takes an index leaves the others in their order, and the next one ends with it. -/
theorem filter_cyclicFrom_next {n start i : Nat} {p : Nat → Bool}
    (h : (cyclicFrom n start).find? p = some i) :
    (cyclicFrom n start).filter p = i :: ((cyclicFrom n start).filter p).tail ∧
      (cyclicFrom n ((i + 1) % n)).filter p = ((cyclicFrom n start).filter p).tail ++ [i] := by
  obtain ⟨k, hk, hhead, hrotate⟩ := filter_rotate_of_find? h
  refine ⟨hhead, ?_⟩
  obtain ⟨hlt, hi⟩ := List.getElem?_eq_some_iff.mp hk
  simp only [cyclicFrom, List.getElem_map, List.getElem_range] at hi
  rw [← hrotate]
  congr 1
  rw [cyclicFrom_eq_rotate, cyclicFrom_eq_rotate, List.rotate_rotate, ← hi]
  have hmod : ((start + k) % n + 1) % n = (start + (k + 1)) % n := by
    rw [Nat.mod_add_mod, Nat.add_assoc]
  have hrange : ∀ m, (List.range n).rotate (m % n) = (List.range n).rotate m := by
    intro m
    have := List.rotate_mod (List.range n) m
    rwa [List.length_range] at this
  rw [hmod, hrange]

/-! ## Taking in turn -/

/-- Of the elements taken so far, every window as long as the round is the round in some order. -/
def InTurn {α : Type*} (round taken : List α) : Prop :=
  ∀ before window after, taken = before ++ window ++ after → window.length = round.length →
    window.Perm round

variable {α : Type*} {round coming taken : List α} {a : α}

theorem InTurn.nil (hround : round ≠ []) : InTurn round [] := by
  intro before window after heq hlength
  have hnil : window = [] := by
    have := congrArg List.length heq
    simp only [List.length_append, List.length_nil] at this
    exact List.eq_nil_of_length_eq_zero (by omega)
  rw [hnil, List.length_nil] at hlength
  exact absurd (List.eq_nil_of_length_eq_zero hlength.symm) hround

/-- What was taken last is the end of what is still to come, in the same order. -/
def Follows (coming taken : List α) : Prop := taken.drop (taken.length - coming.length) <:+ coming

theorem Follows.nil (coming : List α) : Follows coming [] := by
  simp [Follows]

/-- The next in turn is taken and moves to the end. -/
theorem Follows.concat (h : Follows (a :: coming) taken) :
    Follows (coming ++ [a]) (taken ++ [a]) := by
  unfold Follows at h ⊢
  have hlength : (taken ++ [a]).length - (coming ++ [a]).length = taken.length - coming.length := by
    simp
  rw [hlength, List.drop_append_of_le_length (by omega)]
  obtain ⟨front, hfront⟩ := h
  have hsuffix : taken.drop (taken.length - coming.length) <:+ coming := by
    by_cases hle : taken.length ≤ coming.length
    · -- everything that was taken is still within one round
      have hzero : taken.length - coming.length = 0 := by omega
      have hzero' : taken.length - (a :: coming).length = 0 := by
        rw [List.length_cons]
        omega
      rw [hzero, List.drop_zero]
      rw [hzero', List.drop_zero] at hfront
      cases front with
      | nil =>
        have := congrArg List.length hfront
        simp only [List.nil_append, List.length_cons] at this
        omega
      | cons b front =>
        rw [List.cons_append, List.cons.injEq] at hfront
        exact ⟨front, hfront.2⟩
    · have hsplit : taken.length - coming.length = (taken.length - (a :: coming).length) + 1 := by
        rw [List.length_cons]
        omega
      have hfull : (taken.drop (taken.length - (a :: coming).length)).length =
          (a :: coming).length := by
        rw [List.length_drop, List.length_cons]
        omega
      have hnil : front = [] := by
        have := congrArg List.length hfront
        rw [List.length_append, hfull] at this
        exact List.eq_nil_of_length_eq_zero (by omega)
      rw [hnil, List.nil_append] at hfront
      rw [hsplit, ← List.drop_drop, hfront]
      exact List.suffix_refl _
  obtain ⟨rest, hrest⟩ := hsuffix
  exact ⟨rest, by rw [← List.append_assoc, hrest]⟩

/-- Windows of a full round stay complete when the next in turn is taken. -/
theorem InTurn.concat (h : InTurn round taken) (hfollows : Follows coming (taken ++ [a]))
    (hperm : coming.Perm round) : InTurn round (taken ++ [a]) := by
  intro before window after heq hlength
  cases after using List.reverseRecOn with
  | nil =>
    -- the window at the end is what is to come next
    have hdrop : (taken ++ [a]).drop ((taken ++ [a]).length - coming.length) = window := by
      rw [heq, List.append_nil, hperm.length_eq, ← hlength]
      simp
    obtain ⟨front, hfront⟩ := hfollows
    rw [hdrop] at hfront
    have hnil : front = [] := by
      have := congrArg List.length hfront
      rw [List.length_append, hperm.length_eq] at this
      exact List.eq_nil_of_length_eq_zero (by omega)
    rw [hnil, List.nil_append] at hfront
    rw [hfront]
    exact hperm
  | append_singleton after b _ =>
    rw [← List.append_assoc] at heq
    exact h before window after (List.append_inj_left' heq rfl) hlength

end List
