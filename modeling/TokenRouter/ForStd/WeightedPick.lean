import Mathlib

/-!
# Choosing by weight

A list of weights is walked with a number that every weight is taken from; the choice is the
position where the number falls below zero. Over the numbers below the sum, every position is
chosen as often as its weight says.

## Key results

- `weightedPick_eq_some_iff`: the numbers that choose a position are an interval
- `card_weightedPick_pred_iff`: walked with one less, the first position gains a number
- `count_weightedPick`: the elements with a property are chosen as often as their weights say
-/

namespace List

/-- The position where `r`, less the weights so far, falls below zero. -/
def weightedPick : List Int → Int → Option Nat
  | [], _ => none
  | w :: ws, r => if r - w < 0 then some 0 else (weightedPick ws (r - w)).map (· + 1)

variable {ws : List Int} {r : Int} {i : Nat}

/-- A number that is negative already chooses the first position. -/
theorem weightedPick_of_neg {w : Int} (hw : 0 ≤ w) (hr : r < 0) :
    weightedPick (w :: ws) r = some 0 := by
  rw [weightedPick, if_pos (by omega)]

theorem sum_take_nonneg (h : ∀ w ∈ ws, 0 ≤ w) (i : Nat) : 0 ≤ (ws.take i).sum := by
  apply List.sum_nonneg
  intro w hw
  exact h w (List.mem_of_mem_take hw)

/-- The numbers that choose a position lie between the sums of the weights before it and up to
    it. -/
theorem weightedPick_eq_some_iff (h : ∀ w ∈ ws, 0 ≤ w) (hr : 0 ≤ r) :
    weightedPick ws r = some i ↔ (ws.take i).sum ≤ r ∧ r < (ws.take (i + 1)).sum := by
  induction ws generalizing r i with
  | nil =>
    simp only [weightedPick, take_nil, sum_nil]
    constructor
    · intro hnone
      cases hnone
    · omega
  | cons w ws ih =>
    have hws : ∀ w ∈ ws, 0 ≤ w := fun v hv => h v (mem_cons_of_mem w hv)
    rw [weightedPick]
    cases i with
    | zero =>
      simp only [take_zero, sum_nil, zero_add, take_succ_cons, sum_cons, add_zero]
      by_cases hlt : r - w < 0
      · rw [if_pos hlt]
        simp only [true_iff]
        omega
      · rw [if_neg hlt]
        simp only [Option.map_eq_some_iff, Nat.add_eq_zero_iff, one_ne_zero, and_false,
          exists_false, false_iff]
        omega
    | succ i =>
      have hsum := sum_take_nonneg hws i
      simp only [take_succ_cons, sum_cons]
      by_cases hlt : r - w < 0
      · rw [if_pos hlt]
        simp only [Option.some.injEq, reduceCtorEq, false_iff]
        omega
      · rw [if_neg hlt]
        simp only [Option.map_eq_some_iff, Nat.add_right_cancel_iff, exists_eq_right]
        rw [ih hws (by omega)]
        omega

/-- With one less to walk with, every position keeps its number of choices if and only if the
    first one has all the weight. -/
theorem card_weightedPick_pred_iff {w : Int} (h : ∀ v ∈ w :: ws, 0 ≤ v)
    (hpos : 0 < (w :: ws).sum) :
    (∀ (i : Nat) (hi : i < (w :: ws).length),
      (((Finset.range (w :: ws).sum.toNat).filter fun r : Nat =>
        weightedPick (w :: ws) (r - 1) = some i).card : Int) = (w :: ws)[i]) ↔
      ∀ v ∈ ws, v = 0 := by
  have hw : 0 ≤ w := h w mem_cons_self
  have hws : ∀ v ∈ ws, 0 ≤ v := fun v hv => h v (mem_cons_of_mem w hv)
  have hsum : 0 ≤ ws.sum := List.sum_nonneg hws
  rw [sum_cons] at hpos
  -- the first position is chosen by zero, and by what the walk would choose it with
  have hfirst (r : Nat) : weightedPick (w :: ws) (r - 1) = some 0 ↔ r = 0 ∨ (r : Int) ≤ w := by
    by_cases hr : r = 0
    · subst hr
      simp [weightedPick_of_neg hw]
    · rw [weightedPick_eq_some_iff h (by omega)]
      simp only [take_zero, sum_nil, zero_add, take_succ_cons, sum_cons, add_zero]
      omega
  constructor
  · intro hcard
    have hzero := hcard 0 (by simp)
    simp only [hfirst, getElem_cons_zero] at hzero
    have hset : ((Finset.range (w :: ws).sum.toNat).filter fun r : Nat => r = 0 ∨ (r : Int) ≤ w) =
        Finset.range (min (w + 1) (w + ws.sum)).toNat := by
      ext r
      rw [Finset.mem_filter, Finset.mem_range, Finset.mem_range, sum_cons]
      omega
    rw [hset, Finset.card_range] at hzero
    have hnone : ws.sum = 0 := by omega
    intro v hv
    exact List.all_zero_of_le_zero_le_of_sum_eq_zero hws hnone hv
  · intro hzero i hi
    have hnone : ws.sum = 0 := List.sum_eq_zero hzero
    have hpick : ∀ r ∈ Finset.range (w :: ws).sum.toNat,
        weightedPick (w :: ws) (r - 1) = some 0 := by
      intro r hr
      rw [Finset.mem_range, sum_cons] at hr
      rw [hfirst]
      omega
    cases i with
    | zero =>
      rw [Finset.filter_true_of_mem hpick, Finset.card_range, sum_cons, getElem_cons_zero]
      omega
    | succ i =>
      rw [Finset.filter_false_of_mem]
      · rw [getElem_cons_succ, hzero _ (getElem_mem _)]
        rfl
      · intro r hr
        rw [hpick r hr]
        simp

/-! ## Choosing an element -/

variable {α : Type*} {f : α → Int} {p : α → Bool}

/-- The element of the first position is chosen by the numbers below its weight. -/
theorem weightedPick_cons_bind {a : α} {l : List α} (r : Int) :
    ((weightedPick ((a :: l).map f) r).bind fun i => (a :: l)[i]?) =
      if r - f a < 0 then some a else (weightedPick (l.map f) (r - f a)).bind fun i => l[i]? := by
  rw [map_cons, weightedPick]
  by_cases hlt : r - f a < 0
  · rw [if_pos hlt, if_pos hlt]
    rfl
  · rw [if_neg hlt, if_neg hlt, Option.bind_map]
    rfl

/-- Over the numbers below the sum, the elements with a property are chosen as often as their
    weights together say. -/
theorem count_weightedPick (l : List α) (h : ∀ a ∈ l, 0 ≤ f a) :
    (Nat.count (fun r : Nat => ((weightedPick (l.map f) r).bind fun i => l[i]?).any p = true)
      (l.map f).sum.toNat : Int) = ((l.filter p).map f).sum := by
  induction l with
  | nil => simp
  | cons a l ih =>
    have ha : 0 ≤ f a := h a mem_cons_self
    have hl : ∀ b ∈ l, 0 ≤ f b := fun b hb => h b (mem_cons_of_mem a hb)
    have hsum : 0 ≤ (l.map f).sum := by
      apply List.sum_nonneg
      intro w hw
      obtain ⟨b, hb, rfl⟩ := mem_map.mp hw
      exact hl b hb
    have htotal : (((a :: l).map f).sum).toNat = (f a).toNat + (l.map f).sum.toNat := by
      rw [map_cons, sum_cons]
      omega
    simp only [weightedPick_cons_bind]
    rw [htotal, Nat.count_add, Int.natCast_add]
    -- the numbers below the weight choose the first element, the others walk the rest
    have hrest : Nat.count (fun r : Nat => (if ((f a).toNat + r : Nat) - f a < 0 then some a
          else (weightedPick (l.map f) (((f a).toNat + r : Nat) - f a)).bind
            fun i => l[i]?).any p = true) (l.map f).sum.toNat =
        Nat.count (fun r : Nat => ((weightedPick (l.map f) r).bind fun i => l[i]?).any p = true)
          (l.map f).sum.toNat := by
      congr 1
      funext r
      have hge : ¬ (((f a).toNat + r : Nat) : Int) - f a < 0 := by omega
      have hback : (((f a).toNat + r : Nat) : Int) - f a = r := by omega
      rw [if_neg hge, hback]
    rw [hrest, ih hl]
    have hfirst : (Nat.count (fun r : Nat => (if (r : Int) - f a < 0 then some a
          else (weightedPick (l.map f) (r - f a)).bind fun i => l[i]?).any p = true)
            (f a).toNat : Int) = if p a then f a else 0 := by
      by_cases hp : p a = true
      · rw [if_pos hp]
        rw [Nat.count_iff_forall.mpr]
        · omega
        · intro r hr
          rw [if_pos (by omega)]
          exact hp
      · rw [if_neg hp]
        rw [Nat.count_iff_forall_not.mpr]
        · rfl
        · intro r hr
          rw [if_pos (by omega)]
          exact hp
    rw [hfirst]
    by_cases hp : p a = true
    · rw [if_pos hp, filter_cons_of_pos hp, map_cons, sum_cons]
    · rw [if_neg hp, filter_cons_of_neg hp, zero_add]

end List
