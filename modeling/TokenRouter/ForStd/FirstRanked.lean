import Mathlib.Data.List.Sort

/-!
# The first of a ranked list

A list in the order of a strict ranking is searched for the first element with a property, all of
it or only its first places. What the search finds is told without the list: the element that
ranks before all others with the property.

## Key results

- `isFirst_find?`: the search through all places finds the first
- `isFirst_find?_take_iff`: the search through the first places does exactly if the first is
  among them
-/

namespace List

variable {α : Type*} {r : α → α → Prop} {p : α → Bool} {l : List α}

/-- An element that has the property and ranks before the others of the list that have it; or
    none, if none of the list has it. -/
def IsFirst (r : α → α → Prop) (p : α → Bool) (l : List α) : Option α → Prop
  | some x => x ∈ l ∧ p x = true ∧ ∀ y ∈ l, p y = true → y = x ∨ r x y
  | none => ∀ y ∈ l, p y = false

/-- The order of the list does not matter to what is first. -/
theorem IsFirst.perm {l' : List α} (h : l.Perm l') {x : Option α} :
    IsFirst r p l x ↔ IsFirst r p l' x := by
  cases x with
  | none => simp only [IsFirst, h.mem_iff]
  | some x => simp only [IsFirst, h.mem_iff]

/-- The elements that rank before the one at a position are those at the earlier ones. -/
theorem countP_getElem_of_pairwise [DecidableRel r] (h : l.Pairwise r)
    (hasymm : ∀ a b, r a b → ¬ r b a) {i : Nat} (hi : i < l.length) :
    l.countP (fun x => r x l[i]) = i := by
  induction l generalizing i with
  | nil => simp at hi
  | cons a l ih =>
    obtain ⟨ha, hl⟩ := pairwise_cons.mp h
    cases i with
    | zero =>
      rw [getElem_cons_zero, countP_eq_zero]
      intro x hx
      simp only [decide_eq_true_eq]
      cases hx with
      | head => exact fun haa => hasymm a a haa haa
      | tail _ hx => exact hasymm a x (ha x hx)
    | succ i =>
      have hi : i < l.length := by simpa using hi
      rw [getElem_cons_succ, countP_cons_of_pos, ih hl hi]
      simpa using ha _ (getElem_mem hi)

/-- The search through a ranked list finds the first with the property. -/
theorem isFirst_find? (h : l.Pairwise r) : IsFirst r p l (l.find? p) := by
  induction l with
  | nil => exact fun y hy => absurd hy not_mem_nil
  | cons a l ih =>
    obtain ⟨ha, hl⟩ := pairwise_cons.mp h
    by_cases hpa : p a = true
    · rw [find?_cons_of_pos hpa]
      refine ⟨mem_cons_self, hpa, ?_⟩
      intro y hy _
      cases hy with
      | head => exact .inl rfl
      | tail _ hy => exact .inr (ha y hy)
    · rw [find?_cons_of_neg hpa]
      have hrest := ih hl
      cases hfound : l.find? p with
      | none =>
        rw [hfound] at hrest
        intro y hy
        cases hy with
        | head => exact Bool.eq_false_iff.mpr hpa
        | tail _ hy => exact hrest y hy
      | some x =>
        rw [hfound] at hrest
        refine ⟨mem_cons_of_mem a hrest.1, hrest.2.1, ?_⟩
        intro y hy hpy
        cases hy with
        | head => exact absurd hpy hpa
        | tail _ hy => exact hrest.2.2 y hy hpy

/-- The search through the first places finds the first with the property if and only if nothing
    has it, or an element with it has fewer elements ranking before it than there are places. -/
theorem isFirst_find?_take_iff [DecidableRel r] (h : l.Pairwise r)
    (hasymm : ∀ a b, r a b → ¬ r b a) (n : Nat) :
    IsFirst r p l ((l.take n).find? p) ↔
      (∀ x ∈ l, p x = false) ∨ ∃ x ∈ l, p x = true ∧ l.countP (fun y => r y x) < n := by
  constructor
  · intro hfirst
    cases hfound : (l.take n).find? p with
    | none =>
      rw [hfound] at hfirst
      exact .inl hfirst
    | some x =>
      right
      obtain ⟨i, hi, hx⟩ := mem_iff_getElem.mp (mem_of_find?_eq_some hfound)
      rw [length_take] at hi
      rw [getElem_take] at hx
      have hil : i < l.length := by omega
      refine ⟨x, hx ▸ getElem_mem hil, find?_some hfound, ?_⟩
      rw [← hx, countP_getElem_of_pairwise h hasymm hil]
      omega
  · rintro (hnone | ⟨x, hx, hpx, hcount⟩)
    · have hfound : (l.take n).find? p = none := by
        apply find?_eq_none.mpr
        intro y hy
        simp [hnone y (mem_of_mem_take hy)]
      rw [hfound]
      exact hnone
    · -- the element is among the first places, so the search through all of them stops there
      obtain ⟨i, hi, rfl⟩ := mem_iff_getElem.mp hx
      rw [countP_getElem_of_pairwise h hasymm hi] at hcount
      have hmem : l[i] ∈ l.take n := by
        rw [← getElem_take (j := n) (h := by rw [length_take]; omega)]
        exact getElem_mem _
      have hsome : ((l.take n).find? p).isSome = true := by
        rw [find?_isSome]
        exact ⟨l[i], hmem, hpx⟩
      obtain ⟨y, hy⟩ := Option.isSome_iff_exists.mp hsome
      have hall : l.find? p = some y := by
        rw [← take_append_drop n l, find?_append, hy]
        rfl
      rw [hy, ← hall]
      exact isFirst_find? h

end List
