import Mathlib.Algebra.BigOperators.Group.List.Basic
import Mathlib.Algebra.Order.BigOperators.GroupWithZero.List
import Mathlib.Algebra.Order.Floor.Semiring
import Mathlib.Algebra.Order.Floor.Semifield
import Mathlib.Data.List.Perm.Subperm
import Mathlib.Data.List.Permutation
import Mathlib.Data.Rat.Floor
import Mathlib.RingTheory.Coprime.Lemmas
import Mathlib.Tactic.FieldSimp
import Mathlib.Tactic.LinearCombination
import Mathlib.Tactic.Linarith
import Mathlib.Tactic.Positivity
import Mathlib.Tactic.Qify

/-!
# Scaling a count and cutting off

A count is multiplied by positive rational factors one after the other, and what is behind the
point is cut off each time. Cutting off early never gives more than the product cut off once, and
whether it gives less depends on the factors and their order.

## Key results

- `floorScale_eq_iff`: in every order and for every count the result is the product cut off once,
  if and only if the factors are all whole, or all reciprocals of whole numbers, or one at most
  is not 1
- `floorScale_eq_floor_mul_iff`: the same for the product of other factors
- `floorScale_roundTrip_iff`: when factors whose product is 1 change nothing before another scaling
- `floorScale_undone_iff`: when a scaling can be undone before another one
-/

/-- Multiply by the factors one after the other, and cut off each time. -/
def floorScale (l : List ℚ) (b : ℕ) : ℕ := l.foldl (fun x r => ⌊(x : ℚ) * r⌋₊) b

namespace FloorScale

variable {l l' : List ℚ} {b : ℕ} {r s t α : ℚ}

@[simp] theorem floorScale_nil (b : ℕ) : floorScale [] b = b := rfl

theorem floorScale_cons (r : ℚ) (l : List ℚ) (b : ℕ) :
    floorScale (r :: l) b = floorScale l ⌊(b : ℚ) * r⌋₊ := rfl

theorem floorScale_append (l l' : List ℚ) (b : ℕ) :
    floorScale (l ++ l') b = floorScale l' (floorScale l b) := List.foldl_append

/-- Cutting off early never gives more. -/
theorem floorScale_le (hl : ∀ r ∈ l, 0 < r) (b : ℕ) : (floorScale l b : ℚ) ≤ b * l.prod := by
  induction l generalizing b with
  | nil => simp
  | cons r l ih =>
    have hr : 0 < r := hl r List.mem_cons_self
    have hrest : ∀ r ∈ l, 0 < r := fun t ht => hl t (List.mem_cons_of_mem r ht)
    have hprod : 0 < l.prod := List.prod_pos hrest
    have hfloor : ((⌊(b : ℚ) * r⌋₊ : ℕ) : ℚ) ≤ b * r := Nat.floor_le (by positivity)
    calc (floorScale (r :: l) b : ℚ) ≤ ⌊(b : ℚ) * r⌋₊ * l.prod := ih hrest _
      _ ≤ b * r * l.prod := by gcongr
      _ = b * (r :: l).prod := by rw [List.prod_cons, mul_assoc]

theorem floorScale_mono (hl : ∀ r ∈ l, 0 < r) {b b' : ℕ} (h : b ≤ b') :
    floorScale l b ≤ floorScale l b' := by
  induction l generalizing b b' with
  | nil => exact h
  | cons r l ih =>
    have hr : 0 < r := hl r List.mem_cons_self
    rw [floorScale_cons, floorScale_cons]
    apply ih (fun t ht => hl t (List.mem_cons_of_mem r ht))
    apply Nat.floor_mono
    have : (b : ℚ) ≤ b' := by exact_mod_cast h
    gcongr

/-- Factors equal to 1 do nothing. -/
theorem floorScale_eq_filter (l : List ℚ) (b : ℕ) :
    floorScale l b = floorScale (l.filter (· ≠ 1)) b := by
  induction l generalizing b with
  | nil => rfl
  | cons r l ih =>
    by_cases hr : r = 1
    · subst hr
      rw [floorScale_cons, mul_one, Nat.floor_natCast, List.filter_cons_of_neg (by simp)]
      exact ih b
    · rw [List.filter_cons_of_pos (by simpa using hr), floorScale_cons, floorScale_cons]
      exact ih _

/-! ## Whole results -/

/-- A rational that is whole. -/
def IsWhole (q : ℚ) : Prop := ∃ n : ℕ, q = n

/-- While every product on the way is whole nothing is cut off. -/
theorem floorScale_of_isWhole (h : ∀ i, IsWhole ((b : ℚ) * (l.take i).prod)) :
    (floorScale l b : ℚ) = b * l.prod := by
  induction l generalizing b with
  | nil => simp
  | cons r l ih =>
    obtain ⟨n, hn⟩ := h 1
    have hfirst : (b : ℚ) * r = n := by simpa using hn
    have hrest : ∀ i, IsWhole ((n : ℚ) * (l.take i).prod) := by
      intro i
      have := h (i + 1)
      rw [List.take_succ_cons, List.prod_cons, ← mul_assoc, hfirst] at this
      exact this
    rw [floorScale_cons, hfirst, Nat.floor_natCast, ih hrest, List.prod_cons, ← mul_assoc, hfirst]

/-- Something is cut off where a product on the way is not whole. -/
theorem floorScale_lt_of_not_isWhole (hl : ∀ r ∈ l, 0 < r) {i : ℕ}
    (h : ¬ IsWhole ((b : ℚ) * (l.take i).prod)) : (floorScale l b : ℚ) < b * l.prod := by
  have htake : ∀ r ∈ l.take i, 0 < r := fun r hr => hl r (List.mem_of_mem_take hr)
  have hdrop : ∀ r ∈ l.drop i, 0 < r := fun r hr => hl r (List.mem_of_mem_drop hr)
  have hcut : (floorScale (l.take i) b : ℚ) < b * (l.take i).prod := by
    apply lt_of_le_of_ne (floorScale_le htake b)
    intro heq
    exact h ⟨_, heq.symm⟩
  have hpos : 0 < (l.drop i).prod := List.prod_pos hdrop
  have hsplit : l.prod = (l.take i).prod * (l.drop i).prod := by
    rw [← List.prod_append, List.take_append_drop]
  calc (floorScale l b : ℚ) = floorScale (l.drop i) (floorScale (l.take i) b) := by
        rw [← floorScale_append, List.take_append_drop]
    _ ≤ floorScale (l.take i) b * (l.drop i).prod := floorScale_le hdrop _
    _ < b * (l.take i).prod * (l.drop i).prod := by gcongr
    _ = b * l.prod := by rw [hsplit, mul_assoc]

/-! ## Factors that can be cut off late -/

/-- The reciprocal of a whole number. -/
def IsReciprocal (q : ℚ) : Prop := ∃ n : ℕ, 0 < n ∧ q = 1 / n

theorem isWhole_prod (h : ∀ r ∈ l, IsWhole r) : IsWhole l.prod := by
  induction l with
  | nil => exact ⟨1, by simp⟩
  | cons r l ih =>
    obtain ⟨m, hm⟩ := h r List.mem_cons_self
    obtain ⟨n, hn⟩ := ih fun t ht => h t (List.mem_cons_of_mem r ht)
    refine ⟨m * n, ?_⟩
    rw [List.prod_cons, hm, hn]
    push_cast
    rfl

theorem floorScale_of_forall_isWhole (h : ∀ r ∈ l, IsWhole r) (b : ℕ) :
    floorScale l b = ⌊(b : ℚ) * l.prod⌋₊ := by
  have hexact : (floorScale l b : ℚ) = b * l.prod := by
    apply floorScale_of_isWhole
    intro i
    obtain ⟨n, hn⟩ := isWhole_prod fun r hr => h r (List.mem_of_mem_take (i := i) hr)
    refine ⟨b * n, ?_⟩
    rw [hn]
    push_cast
    rfl
  rw [← hexact, Nat.floor_natCast]

theorem floorScale_of_forall_isReciprocal (h : ∀ r ∈ l, IsReciprocal r) (b : ℕ) :
    floorScale l b = ⌊(b : ℚ) * l.prod⌋₊ := by
  -- a quotient of a quotient is a quotient: stated with the division already under way
  suffices hdivided : ∀ x : ℚ, floorScale l ⌊x⌋₊ = ⌊x * l.prod⌋₊ by
    have := hdivided b
    rwa [Nat.floor_natCast] at this
  induction l with
  | nil => simp
  | cons r l ih =>
    intro x
    obtain ⟨n, hn, rfl⟩ := h r List.mem_cons_self
    have hstep : ⌊(⌊x⌋₊ : ℚ) * (1 / n)⌋₊ = ⌊x * (1 / n)⌋₊ := by
      rw [mul_one_div, mul_one_div, Nat.floor_div_natCast, Nat.floor_div_natCast,
        Nat.floor_natCast]
    rw [floorScale_cons, hstep, ih (fun t ht => h t (List.mem_cons_of_mem _ ht)),
      List.prod_cons, mul_assoc]

theorem floorScale_of_countP_le (h : l.countP (· ≠ 1) ≤ 1) (b : ℕ) :
    floorScale l b = ⌊(b : ℚ) * l.prod⌋₊ := by
  have hprod : l.prod = (l.filter (· ≠ 1)).prod := by
    clear h
    induction l with
    | nil => rfl
    | cons r l ih =>
      by_cases hr : r = 1
      · rw [List.filter_cons_of_neg (by simpa using hr), List.prod_cons, hr, one_mul, ih]
      · rw [List.filter_cons_of_pos (by simpa using hr), List.prod_cons, List.prod_cons, ih]
  rw [floorScale_eq_filter, hprod]
  rw [List.countP_eq_length_filter] at h
  generalize l.filter (· ≠ 1) = others at h ⊢
  match others, h with
  | [], _ => simp
  | [r], _ => rw [floorScale_cons, floorScale_nil, List.prod_singleton]

/-! ## Factors that cannot -/

/-- Two factors that share a divisor, one above and the other below the line: with the division
    first, something is cut off from a whole result. -/
theorem exists_lt_of_common {p q u v d : ℕ} (hp : 0 < p) (hq : 0 < q) (hu : 0 < u) (hv : 0 < v)
    (hd : 2 ≤ d) (hdp : d ∣ p) (hdv : d ∣ v) (hpq : p.Coprime q) (huv : u.Coprime v) :
    ∃ b, floorScale [(u : ℚ) / v, (p : ℚ) / q] b < ⌊(b : ℚ) * ((u / v) * (p / q))⌋₊ := by
  obtain ⟨p', rfl⟩ := hdp
  obtain ⟨v', rfl⟩ := hdv
  have hp' : 0 < p' := Nat.pos_of_mul_pos_left hp
  have hv' : 0 < v' := Nat.pos_of_mul_pos_left hv
  have hd0 : 0 < d := by omega
  have hcoprime : d.Coprime (q * u) := by
    apply Nat.Coprime.mul_right
    · exact hpq.coprime_mul_right
    · exact (huv.coprime_mul_right_right).symm
  have hnot : ¬ d ∣ q * u := by
    intro hdvd
    have := Nat.Coprime.eq_one_of_dvd hcoprime hdvd
    omega
  have hcut : q * u / d * d < q * u := by
    apply lt_of_le_of_ne (Nat.div_mul_le_self _ _)
    intro heq
    exact hnot ⟨q * u / d, by rw [mul_comm d, heq]⟩
  refine ⟨q * v', ?_⟩
  have hfirst : ((q * v' : ℕ) : ℚ) * ((u : ℚ) / (d * v' : ℕ)) = (q * u : ℕ) / (d : ℕ) := by
    push_cast
    field_simp
  have hwhole : ((q * v' : ℕ) : ℚ) * ((u : ℚ) / (d * v' : ℕ) * ((d * p' : ℕ) / q)) =
      (u * p' : ℕ) := by
    push_cast
    field_simp
  rw [floorScale_cons, hfirst, Nat.floor_div_natCast, Nat.floor_natCast, floorScale_cons,
    floorScale_nil, hwhole, Nat.floor_natCast, Nat.floor_lt (by positivity)]
  have hcutq : ((q * u / d : ℕ) : ℚ) * d < q * u := by exact_mod_cast hcut
  have hqq : (0 : ℚ) < q := by exact_mod_cast hq
  have hpp : (0 : ℚ) < p' := by exact_mod_cast hp'
  push_cast
  rw [mul_div_assoc', div_lt_iff₀ hqq]
  calc ((q * u / d : ℕ) : ℚ) * (d * p') = ((q * u / d : ℕ) : ℚ) * d * p' := by ring
    _ < q * u * p' := by gcongr
    _ = u * p' * q := by ring

/-- Numbers with given remainders for two coprime moduli. -/
theorem exists_remainders {p q u v : ℕ} (hp : 0 < p) (hv : 0 < v) (hpq : p.Coprime q)
    (huv : u.Coprime v) (hpv : p.Coprime v) :
    ∃ M : ℤ, 0 < M ∧ (p : ℤ) ∣ q * M - 1 ∧ (v : ℤ) ∣ u * M - (u - 1) := by
  obtain ⟨x, y, hxy⟩ := Nat.isCoprime_iff_coprime.mpr hpq
  obtain ⟨c, e, hce⟩ := Nat.isCoprime_iff_coprime.mpr huv
  obtain ⟨a, z, haz⟩ := Nat.isCoprime_iff_coprime.mpr hpv
  have hpv1 : (1 : ℤ) ≤ p * v := by
    have : 0 < p * v := Nat.mul_pos hp hv
    exact_mod_cast this
  -- one number with the remainders, and a multiple of both moduli to make it positive
  let M := y * (z * v) + c * (u - 1) * (a * p)
  refine ⟨M + p * v * (|M| + 1), ?_, ?_, ?_⟩
  · have habs := neg_abs_le M
    have hnonneg := abs_nonneg M
    nlinarith
  · refine ⟨-x - a + x * a * p + q * (c * (u - 1)) * a + q * v * (|M| + 1), ?_⟩
    linear_combination (z * v) * hxy + (1 - x * p) * haz
  · refine ⟨u * y * z - (u - 1) * (e + z - e * z * v) + u * p * (|M| + 1), ?_⟩
    linear_combination (u - 1) * (a * p) * hce + (u - 1) * (1 - e * v) * haz

/-- Two factors without such a divisor: the one loses almost one, and the other makes that
    tell. -/
theorem exists_lt_of_coprime {p q u v : ℕ} (hp : 0 < p) (hv : 0 < v) (hq : 2 ≤ q) (hu : 2 ≤ u)
    (hpq : p.Coprime q) (huv : u.Coprime v) (hpv : p.Coprime v) :
    ∃ b, floorScale [(p : ℚ) / q, (u : ℚ) / v] b < ⌊(b : ℚ) * ((p / q) * (u / v))⌋₊ := by
  obtain ⟨M, hM, ⟨b, hb⟩, ⟨k, hk⟩⟩ := exists_remainders hp hv hpq huv hpv
  have hb0 : 0 ≤ b := by
    have hp' : (0 : ℤ) < p := by exact_mod_cast hp
    have hq' : (2 : ℤ) ≤ q := by exact_mod_cast hq
    have hpos : 0 ≤ p * b := by
      rw [← hb]
      nlinarith
    exact nonneg_of_mul_nonneg_right hpos hp'
  have hk0 : 0 ≤ k := by
    have hv' : (0 : ℤ) < v := by exact_mod_cast hv
    have hu' : (2 : ℤ) ≤ u := by exact_mod_cast hu
    have hpos : 0 ≤ v * k := by
      rw [← hk]
      nlinarith
    exact nonneg_of_mul_nonneg_right hpos hv'
  lift b to ℕ using hb0
  lift k to ℕ using hk0
  lift M to ℕ using hM.le
  have hbq : (q : ℚ) * M - 1 = p * b := by exact_mod_cast hb
  have hkq : (u : ℚ) * M - (u - 1) = v * k := by exact_mod_cast hk
  have hq0 : (0 : ℚ) < q := by exact_mod_cast (by omega : 0 < q)
  have hv0 : (0 : ℚ) < v := by exact_mod_cast hv
  have hu0 : (0 : ℚ) < u := by exact_mod_cast (by omega : 0 < u)
  have hq2 : (2 : ℚ) ≤ q := by exact_mod_cast hq
  have hu2 : (2 : ℚ) ≤ u := by exact_mod_cast hu
  refine ⟨b, ?_⟩
  rw [floorScale_cons, floorScale_cons, floorScale_nil]
  have hfirst : ⌊(b : ℚ) * (p / q)⌋₊ < M := by
    rw [Nat.floor_lt (by positivity), mul_div_assoc', div_lt_iff₀ hq0]
    linarith
  have hfirst' : ((⌊(b : ℚ) * (p / q)⌋₊ : ℕ) : ℚ) ≤ M - 1 := by
    have : ⌊(b : ℚ) * (p / q)⌋₊ + 1 ≤ M := hfirst
    have : ((⌊(b : ℚ) * (p / q)⌋₊ : ℕ) : ℚ) + 1 ≤ M := by exact_mod_cast this
    linarith
  have hbelow : ⌊(⌊(b : ℚ) * (p / q)⌋₊ : ℚ) * (u / v)⌋₊ < k := by
    rw [Nat.floor_lt (by positivity), mul_div_assoc', div_lt_iff₀ hv0]
    nlinarith
  have habove : k ≤ ⌊(b : ℚ) * ((p / q) * (u / v))⌋₊ := by
    apply Nat.le_floor
    have hshape : (b : ℚ) * ((p / q) * (u / v)) = p * b * u / (q * v) := by
      field_simp
    rw [hshape, le_div_iff₀ (by positivity), ← hbq]
    nlinarith
  omega

theorem exists_fraction (hr : 0 < r) :
    ∃ p q : ℕ, 0 < p ∧ 0 < q ∧ p.Coprime q ∧ r = p / q := by
  have hnum : 0 < r.num := Rat.num_pos.mpr hr
  refine ⟨r.num.natAbs, r.den, by omega, r.den_pos, r.reduced, ?_⟩
  have habs : ((r.num.natAbs : ℕ) : ℚ) = r.num := by
    rw [Nat.cast_natAbs, abs_of_pos hnum]
  rw [habs, Rat.num_div_den]

/-- Two factors that are neither both whole nor both reciprocals fail in one of their orders. -/
theorem exists_lt_pair (hr : 0 < r) (hs : 0 < s) (hr1 : r ≠ 1) (hs1 : s ≠ 1)
    (hwhole : ¬ (IsWhole r ∧ IsWhole s)) (hreciprocal : ¬ (IsReciprocal r ∧ IsReciprocal s)) :
    ∃ l : List ℚ, l.Perm [r, s] ∧ ∃ b, floorScale l b < ⌊(b : ℚ) * l.prod⌋₊ := by
  obtain ⟨p, q, hp, hq, hpq, rfl⟩ := exists_fraction hr
  obtain ⟨u, v, hu, hv, huv, rfl⟩ := exists_fraction hs
  have hprod (x y : ℚ) : [x, y].prod = x * y := by simp
  by_cases hpv : p.Coprime v
  · by_cases huq : u.Coprime q
    · by_cases hfirst : 2 ≤ q ∧ 2 ≤ u
      · refine ⟨_, List.Perm.refl _, ?_⟩
        rw [hprod]
        exact exists_lt_of_coprime hp hv hfirst.1 hfirst.2 hpq huv hpv
      · by_cases hsecond : 2 ≤ v ∧ 2 ≤ p
        · refine ⟨_, List.Perm.swap _ _ _, ?_⟩
          rw [hprod]
          exact exists_lt_of_coprime hu hq hsecond.1 hsecond.2 huv hpq huq
        · -- what is left are two whole factors, two reciprocals, or a factor of 1
          exfalso
          have hone : ∀ n : ℕ, n = 1 → (n : ℚ) = 1 := fun n hn => by rw [hn, Nat.cast_one]
          by_cases hq1 : q = 1
          · by_cases hv1 : v = 1
            · exact hwhole ⟨⟨p, by rw [hone q hq1, div_one]⟩, ⟨u, by rw [hone v hv1, div_one]⟩⟩
            · have hp1 : p = 1 := by omega
              exact hr1 (by rw [hone p hp1, hone q hq1, div_one])
          · have hu1 : u = 1 := by omega
            by_cases hv1 : v = 1
            · exact hs1 (by rw [hone u hu1, hone v hv1, div_one])
            · have hp1 : p = 1 := by omega
              exact hreciprocal ⟨⟨q, hq, by rw [hone p hp1]⟩, ⟨v, hv, by rw [hone u hu1]⟩⟩
    · refine ⟨_, List.Perm.refl _, ?_⟩
      rw [hprod]
      have hgcd : 2 ≤ u.gcd q := by
        have hpos : 0 < u.gcd q := Nat.gcd_pos_of_pos_left q hu
        have hne : u.gcd q ≠ 1 := huq
        omega
      exact exists_lt_of_common hu hv hp hq hgcd (Nat.gcd_dvd_left u q) (Nat.gcd_dvd_right u q)
        huv hpq
  · refine ⟨_, List.Perm.swap _ _ _, ?_⟩
    rw [hprod]
    have hgcd : 2 ≤ p.gcd v := by
      have hpos : 0 < p.gcd v := Nat.gcd_pos_of_pos_left v hp
      have hne : p.gcd v ≠ 1 := hpv
      omega
    exact exists_lt_of_common hp hq hu hv hgcd (Nat.gcd_dvd_left p v) (Nat.gcd_dvd_right p v)
      hpq huv

/-! ## More factors -/

/-- A factor of at least 1 after the others keeps what is missing missing. -/
theorem exists_lt_append (ht : 1 ≤ t) (h : ∃ b, floorScale l b < ⌊(b : ℚ) * l.prod⌋₊) :
    ∃ b, floorScale (l ++ [t]) b < ⌊(b : ℚ) * (l ++ [t]).prod⌋₊ := by
  obtain ⟨b, hb⟩ := h
  refine ⟨b, ?_⟩
  have hpos : 0 ≤ (b : ℚ) * l.prod := by
    by_contra hneg
    rw [Nat.floor_of_nonpos (le_of_lt (not_le.mp hneg))] at hb
    omega
  have hstep : (floorScale l b : ℚ) + 1 ≤ ⌊(b : ℚ) * l.prod⌋₊ := by exact_mod_cast hb
  have hfloor : ((⌊(b : ℚ) * l.prod⌋₊ : ℕ) : ℚ) ≤ b * l.prod := Nat.floor_le hpos
  have hmissing : (floorScale l b : ℚ) * t + 1 ≤ b * (l ++ [t]).prod := by
    rw [List.prod_append, List.prod_singleton, ← mul_assoc]
    nlinarith
  have ht0 : 0 ≤ t := by linarith
  have hcut : ((⌊(floorScale l b : ℚ) * t⌋₊ : ℕ) : ℚ) ≤ floorScale l b * t :=
    Nat.floor_le (by positivity)
  rw [floorScale_append, floorScale_cons, floorScale_nil]
  apply Nat.le_floor
  push_cast
  linarith

/-- A factor below 1 before the others reaches every count that they miss. -/
theorem exists_lt_cons (hl : ∀ r ∈ l, 0 < r) (ht0 : 0 < t) (ht : t < 1)
    (h : ∃ b, floorScale l b < ⌊(b : ℚ) * l.prod⌋₊) :
    ∃ b, floorScale (t :: l) b < ⌊(b : ℚ) * (t :: l).prod⌋₊ := by
  obtain ⟨b, hb⟩ := h
  have hlow : (b : ℚ) ≤ ⌈(b : ℚ) / t⌉₊ * t := by
    have := Nat.le_ceil ((b : ℚ) / t)
    rwa [div_le_iff₀ ht0] at this
  have hhigh : (⌈(b : ℚ) / t⌉₊ : ℚ) * t < b + 1 := by
    have := Nat.ceil_lt_add_one (div_nonneg (Nat.cast_nonneg b) ht0.le)
    have hmul := mul_lt_mul_of_pos_right this ht0
    rw [add_mul, div_mul_cancel₀ _ ht0.ne'] at hmul
    linarith
  refine ⟨⌈(b : ℚ) / t⌉₊, ?_⟩
  have hreach : ⌊(⌈(b : ℚ) / t⌉₊ : ℚ) * t⌋₊ = b := by
    rw [Nat.floor_eq_iff (by positivity)]
    exact ⟨hlow, hhigh⟩
  rw [floorScale_cons, hreach]
  apply lt_of_lt_of_le hb
  apply Nat.floor_mono
  have hprod : 0 < l.prod := List.prod_pos hl
  rw [List.prod_cons, ← mul_assoc]
  gcongr

/-- What fails with some factors fails in some order with more. -/
theorem exists_lt_perm (hl : ∀ r ∈ l, 0 < r) (hl' : ∀ r ∈ l', 0 < r)
    (h : ∃ b, floorScale l b < ⌊(b : ℚ) * l.prod⌋₊) :
    ∃ m : List ℚ, m.Perm (l ++ l') ∧ ∃ b, floorScale m b < ⌊(b : ℚ) * m.prod⌋₊ := by
  induction l' with
  | nil => exact ⟨l, by rw [List.append_nil], h⟩
  | cons t l' ih =>
    obtain ⟨m, hm, hbad⟩ := ih fun r hr => hl' r (List.mem_cons_of_mem t hr)
    have ht0 : 0 < t := hl' t List.mem_cons_self
    by_cases ht : t < 1
    · have hmpos : ∀ r ∈ m, 0 < r := by
        intro r hr
        have hmem := hm.mem_iff.mp hr
        rw [List.mem_append] at hmem
        cases hmem with
        | inl hmem => exact hl r hmem
        | inr hmem => exact hl' r (List.mem_cons_of_mem t hmem)
      exact ⟨t :: m, (hm.cons t).trans List.perm_middle.symm, exists_lt_cons hmpos ht0 ht hbad⟩
    · refine ⟨m ++ [t], ?_, exists_lt_append (not_lt.mp ht) hbad⟩
      exact ((List.perm_append_singleton t m).trans (hm.cons t)).trans List.perm_middle.symm

/-- All factors whole, or all reciprocals of whole numbers, or one at most different from 1. -/
def Direct (l : List ℚ) : Prop :=
  (∀ r ∈ l, IsWhole r) ∨ (∀ r ∈ l, IsReciprocal r) ∨ l.countP (· ≠ 1) ≤ 1

/-- Otherwise there are two factors that fail. -/
theorem exists_pair (h : ¬ Direct l) :
    ∃ r s rest, l.Perm (r :: s :: rest) ∧ r ≠ 1 ∧ s ≠ 1 ∧ ¬ (IsWhole r ∧ IsWhole s) ∧
      ¬ (IsReciprocal r ∧ IsReciprocal s) := by
  have hone : IsWhole 1 ∧ IsReciprocal 1 := ⟨⟨1, by simp⟩, ⟨1, by omega, by simp⟩⟩
  obtain ⟨hwhole, hreciprocal, hcount⟩ :
      (∃ a ∈ l, ¬ IsWhole a) ∧ (∃ c ∈ l, ¬ IsReciprocal c) ∧ 2 ≤ l.countP (· ≠ 1) := by
    unfold Direct at h
    push Not at h
    exact ⟨h.1, h.2.1, h.2.2⟩
  -- a factor that is neither goes with any other that is not 1
  have hneither : ∀ a ∈ l, ¬ IsWhole a → ¬ IsReciprocal a →
      ∃ r s rest, l.Perm (r :: s :: rest) ∧ r ≠ 1 ∧ s ≠ 1 ∧ ¬ (IsWhole r ∧ IsWhole s) ∧
        ¬ (IsReciprocal r ∧ IsReciprocal s) := by
    intro a ha hw hrec
    have hperm := List.perm_cons_erase ha
    have hrest : 0 < (l.erase a).countP (· ≠ 1) := by
      rw [hperm.countP_eq, List.countP_cons] at hcount
      split at hcount <;> omega
    obtain ⟨t, ht, ht1⟩ := List.countP_pos_iff.mp hrest
    refine ⟨a, t, (l.erase a).erase t, hperm.trans ((List.perm_cons_erase ht).cons a), ?_,
      by simpa using ht1, fun hb => hw hb.1, fun hb => hrec hb.1⟩
    rintro rfl
    exact hw hone.1
  obtain ⟨a, ha, haw⟩ := hwhole
  obtain ⟨c, hc, hcr⟩ := hreciprocal
  by_cases har : IsReciprocal a
  · by_cases hcw : IsWhole c
    · have hne : c ≠ a := by
        rintro rfl
        exact haw hcw
      have hmem : c ∈ l.erase a := (List.mem_erase_of_ne hne).mpr hc
      refine ⟨a, c, (l.erase a).erase c,
        (List.perm_cons_erase ha).trans ((List.perm_cons_erase hmem).cons a), ?_, ?_,
        fun hb => haw hb.1, fun hb => hcr hb.2⟩
      · rintro rfl
        exact haw hone.1
      · rintro rfl
        exact hcr hone.2
    · exact hneither c hc hcw hcr
  · exact hneither a ha haw har

/-- In every order and for every count the result is the product cut off once, if and only if the
    factors are all whole, or all reciprocals, or one at most is not 1. -/
theorem floorScale_eq_iff (hl : ∀ r ∈ l, 0 < r) :
    (∀ m : List ℚ, m.Perm l → ∀ b : ℕ, floorScale m b = ⌊(b : ℚ) * l.prod⌋₊) ↔ Direct l := by
  constructor
  · intro h
    by_contra hdirect
    obtain ⟨r, s, rest, hperm, hr1, hs1, hwhole, hreciprocal⟩ := exists_pair hdirect
    have hmem : ∀ t ∈ r :: s :: rest, 0 < t := fun t ht => hl t (hperm.mem_iff.mpr ht)
    have hr : 0 < r := hmem r List.mem_cons_self
    have hs : 0 < s := hmem s (List.mem_cons_of_mem r List.mem_cons_self)
    obtain ⟨pair, hpair, hbad⟩ := exists_lt_pair hr hs hr1 hs1 hwhole hreciprocal
    have hpairpos : ∀ t ∈ pair, 0 < t := by
      intro t ht
      have := hpair.mem_iff.mp ht
      rcases List.mem_pair.mp this with rfl | rfl
      · exact hr
      · exact hs
    have hrestpos : ∀ t ∈ rest, 0 < t := fun t ht =>
      hmem t (List.mem_cons_of_mem r (List.mem_cons_of_mem s ht))
    obtain ⟨m, hm, b, hb⟩ := exists_lt_perm hpairpos hrestpos hbad
    have hml : m.Perm l := (hm.trans (hpair.append_right rest)).trans hperm.symm
    rw [h m hml b, hml.prod_eq] at hb
    omega
  · intro h m hm b
    rw [← hm.prod_eq]
    rcases h with hwhole | hreciprocal | hcount
    · exact floorScale_of_forall_isWhole (fun r hr => hwhole r (hm.mem_iff.mp hr)) b
    · exact floorScale_of_forall_isReciprocal (fun r hr => hreciprocal r (hm.mem_iff.mp hr)) b
    · exact floorScale_of_countP_le (by rw [hm.countP_eq]; exact hcount) b

/-! ## Another slope -/

/-- Some count passes through all factors without a cut. -/
theorem exists_uncut (hl : ∀ r ∈ l, 0 < r) :
    ∃ b : ℕ, 0 < b ∧ ∀ i, IsWhole ((b : ℚ) * (l.take i).prod) := by
  induction l with
  | nil => exact ⟨1, by omega, fun i => ⟨1, by simp⟩⟩
  | cons r l ih =>
    obtain ⟨b, hb, hwhole⟩ := ih fun t ht => hl t (List.mem_cons_of_mem r ht)
    obtain ⟨p, q, -, hq, -, rfl⟩ := exists_fraction (hl r List.mem_cons_self)
    have hq0 : (q : ℚ) ≠ 0 := by
      have : (0 : ℚ) < q := by exact_mod_cast hq
      exact this.ne'
    refine ⟨q * b, Nat.mul_pos hq hb, ?_⟩
    intro i
    cases i with
    | zero => exact ⟨q * b, by simp⟩
    | succ i =>
      obtain ⟨n, hn⟩ := hwhole i
      refine ⟨p * n, ?_⟩
      rw [List.take_succ_cons, List.prod_cons]
      push_cast
      rw [← hn]
      field_simp

/-- The factors scale like one number, cut off once, if and only if the number is their product
    and they can be cut off late. -/
theorem floorScale_eq_floor_mul_iff (hl : ∀ r ∈ l, 0 < r) {μ : ℚ} (hμ : 0 < μ) :
    (∀ m : List ℚ, m.Perm l → ∀ b : ℕ, floorScale m b = ⌊(b : ℚ) * μ⌋₊) ↔
      μ = l.prod ∧ Direct l := by
  constructor
  · intro h
    have hself := h l (List.Perm.refl l)
    have hprod : μ = l.prod := by
      apply le_antisymm
      · by_contra hlt
        have hgap : 0 < μ - l.prod := by linarith [not_le.mp hlt]
        -- a count large enough for the gap between the slopes to be one
        have hlarge := Nat.le_ceil (1 / (μ - l.prod))
        rw [div_le_iff₀ hgap] at hlarge
        have hscaled := floorScale_le hl ⌈1 / (μ - l.prod)⌉₊
        rw [hself] at hscaled
        have := Nat.lt_floor_add_one ((⌈1 / (μ - l.prod)⌉₊ : ℚ) * μ)
        linarith
      · obtain ⟨b, hb, hwhole⟩ := exists_uncut hl
        have hexact := floorScale_of_isWhole hwhole
        rw [hself] at hexact
        have hb0 : (0 : ℚ) < b := by exact_mod_cast hb
        have hfloor := Nat.floor_le (a := (b : ℚ) * μ) (by positivity)
        rw [hexact] at hfloor
        exact le_of_mul_le_mul_left hfloor hb0
    exact ⟨hprod, (floorScale_eq_iff hl).mp (hprod ▸ h)⟩
  · rintro ⟨rfl, hdirect⟩
    exact (floorScale_eq_iff hl).mpr hdirect

/-! ## Undoing a scaling -/

theorem IsWhole.mul {q q' : ℚ} (h : IsWhole q) (h' : IsWhole q') : IsWhole (q * q') := by
  obtain ⟨m, rfl⟩ := h
  obtain ⟨n, rfl⟩ := h'
  exact ⟨m * n, by push_cast; rfl⟩

/-- A multiple of a fraction is whole only if the denominator divides it. -/
theorem dvd_of_isWhole_mul {p q n : ℕ} (hq : 0 < q) (hpq : p.Coprime q)
    (h : IsWhole ((n : ℚ) * (p / q))) : q ∣ n := by
  obtain ⟨m, hm⟩ := h
  have hq0 : (q : ℚ) ≠ 0 := by
    have : (0 : ℚ) < q := by exact_mod_cast hq
    exact this.ne'
  have hmul : n * p = m * q := by
    rw [mul_div_assoc', div_eq_iff hq0] at hm
    exact_mod_cast hm
  exact hpq.symm.dvd_of_dvd_mul_right ⟨m, by rw [hmul, mul_comm]⟩

/-- A slope that only steps up at multiples of a number from 2 on is the reciprocal of one. -/
theorem exists_reciprocal_of_steps {q : ℕ} (hq : 2 ≤ q) (hα : 0 < α)
    (h : ∀ b : ℕ, ⌊(b : ℚ) * α⌋₊ < ⌊((b + 1 : ℕ) : ℚ) * α⌋₊ → q ∣ b + 1) :
    ∃ N : ℕ, 0 < N ∧ α = 1 / N ∧ q ∣ N := by
  obtain ⟨a, n, ha, hn, hcoprime, rfl⟩ := exists_fraction hα
  have hn0 : (0 : ℚ) < n := by exact_mod_cast hn
  have hsmall : a < n := by
    by_contra hle
    have hstep : q ∣ 0 + 1 := by
      apply h 0
      rw [Nat.cast_zero, zero_mul, Nat.floor_zero, Nat.floor_pos]
      push_cast
      rw [one_mul, le_div_iff₀ hn0, one_mul]
      exact_mod_cast not_lt.mp hle
    have := Nat.le_of_dvd (by omega) hstep
    omega
  have hdvd : q ∣ n := by
    obtain ⟨m, rfl⟩ : ∃ m, n = m + 1 := ⟨n - 1, by omega⟩
    apply h m
    have hwhole : ((m + 1 : ℕ) : ℚ) * (a / (m + 1 : ℕ)) = a := by
      field_simp
    rw [hwhole, Nat.floor_natCast, Nat.floor_lt (by positivity), mul_div_assoc',
      div_lt_iff₀ hn0]
    have ha0 : (0 : ℚ) < a := by exact_mod_cast ha
    push_cast
    nlinarith
  by_cases ha1 : a = 1
  · exact ⟨n, hn, by rw [ha1, Nat.cast_one], hdvd⟩
  · -- a step just after a multiple of the denominator is not at a multiple of it
    exfalso
    obtain ⟨b, -, hb⟩ := Nat.exists_mul_mod_eq_one_of_coprime hcoprime (by omega)
    have hsplit : a * b = n * (a * b / n) + 1 := by
      have := Nat.div_add_mod (a * b) n
      omega
    obtain ⟨c, rfl⟩ : ∃ c, b = c + 1 := by
      refine ⟨b - 1, ?_⟩
      have : b ≠ 0 := by
        rintro rfl
        simp at hb
      omega
    have hstep : q ∣ c + 1 := by
      apply h c
      have hsplitq : (a : ℚ) * (c + 1) = n * (a * (c + 1) / n : ℕ) + 1 := by
        have := congrArg (Nat.cast (R := ℚ)) hsplit
        push_cast at this ⊢
        exact this
      have ha2 : (2 : ℚ) ≤ a := by exact_mod_cast (by omega : 2 ≤ a)
      have hbelow : ⌊(c : ℚ) * (a / n)⌋₊ < a * (c + 1) / n := by
        rw [Nat.floor_lt (by positivity), mul_div_assoc', div_lt_iff₀ hn0]
        linarith
      have habove : a * (c + 1) / n ≤ ⌊((c + 1 : ℕ) : ℚ) * (a / n)⌋₊ := by
        apply Nat.le_floor
        rw [mul_div_assoc', le_div_iff₀ hn0]
        push_cast
        linarith
      omega
    have hone : q ∣ 1 := by
      have hleft : q ∣ a * (c + 1) := Dvd.dvd.mul_left hstep a
      rw [hsplit] at hleft
      exact (Nat.dvd_add_right (Dvd.dvd.mul_right hdvd _)).mp hleft
    have := Nat.le_of_dvd (by omega) hone
    omega

/-- Lists of factors with the product 1, and another factor. For all of them and for every count
    it is as if they were not there, if and only if every product on the way is whole, or the
    factor is the reciprocal of a whole number that makes every product on the way whole. -/
theorem floorScale_roundTrip_iff {P : List ℚ → Prop} (hpos : ∀ l, P l → ∀ r ∈ l, 0 < r)
    (hprod : ∀ l, P l → l.prod = 1) (hα : 0 < α) :
    (∀ l, P l → ∀ b : ℕ, ⌊(floorScale l b : ℚ) * α⌋₊ = ⌊(b : ℚ) * α⌋₊) ↔
      (∀ l, P l → ∀ i, IsWhole (l.take i).prod) ∨
        ∃ N : ℕ, 0 < N ∧ α = 1 / N ∧ ∀ l, P l → ∀ i, IsWhole ((N : ℚ) * (l.take i).prod) := by
  constructor
  · intro h
    -- at a step of the slope nothing may be cut off, so every product on the way is whole there
    have hstep : ∀ l, P l → ∀ i (b : ℕ), ⌊(b : ℚ) * α⌋₊ < ⌊((b + 1 : ℕ) : ℚ) * α⌋₊ →
        IsWhole (((b + 1 : ℕ) : ℚ) * (l.take i).prod) := by
      intro l hl i b hb
      by_contra hnot
      have hlt := floorScale_lt_of_not_isWhole (hpos l hl) hnot
      rw [hprod l hl, mul_one] at hlt
      have hle : floorScale l (b + 1) ≤ b := by
        have : floorScale l (b + 1) < b + 1 := by exact_mod_cast hlt
        omega
      have hfloor : ⌊(floorScale l (b + 1) : ℚ) * α⌋₊ ≤ ⌊(b : ℚ) * α⌋₊ := by
        apply Nat.floor_mono
        have : (floorScale l (b + 1) : ℚ) ≤ b := by exact_mod_cast hle
        gcongr
      rw [h l hl (b + 1)] at hfloor
      omega
    by_cases hall : ∀ l, P l → ∀ i, IsWhole (l.take i).prod
    · exact .inl hall
    · right
      push Not at hall
      obtain ⟨l, hl, i, hnot⟩ := hall
      obtain ⟨p, q, hp, hq, hpq, hfraction⟩ := exists_fraction
        (List.prod_pos fun r hr => hpos l hl r (List.mem_of_mem_take (i := i) hr))
      have hq2 : 2 ≤ q := by
        by_contra hlt
        have hq1 : q = 1 := by omega
        exact hnot ⟨p, by rw [hfraction, hq1, Nat.cast_one, div_one]⟩
      obtain ⟨N, hN, hαN, -⟩ := exists_reciprocal_of_steps hq2 hα fun b hb =>
        dvd_of_isWhole_mul hq hpq (hfraction ▸ hstep l hl i b hb)
      refine ⟨N, hN, hαN, ?_⟩
      intro l' hl' j
      obtain ⟨m, rfl⟩ : ∃ m, N = m + 1 := ⟨N - 1, by omega⟩
      apply hstep l' hl' j m
      have hm0 : (0 : ℚ) < (m + 1 : ℕ) := by exact_mod_cast hN
      rw [hαN, mul_one_div_cancel hm0.ne', Nat.floor_one, Nat.floor_lt (by positivity),
        mul_one_div, div_lt_iff₀ hm0]
      push_cast
      linarith
  · rintro (hall | ⟨N, hN, rfl, hall⟩) l hl b
    · have hexact : (floorScale l b : ℚ) = b := by
        rw [floorScale_of_isWhole fun i => IsWhole.mul ⟨b, rfl⟩ (hall l hl i), hprod l hl, mul_one]
      rw [hexact]
    · have hexact : (floorScale l (N * (b / N)) : ℚ) = (N * (b / N) : ℕ) := by
        rw [floorScale_of_isWhole, hprod l hl, mul_one]
        intro i
        have := (IsWhole.mul ⟨b / N, rfl⟩ (hall l hl i) : IsWhole (((b / N : ℕ) : ℚ) * _))
        rwa [← mul_assoc, mul_comm ((b / N : ℕ) : ℚ), ← Nat.cast_mul] at this
      have hlow : N * (b / N) ≤ floorScale l b := by
        have hmono := floorScale_mono (hpos l hl) (Nat.mul_div_le b N)
        have : floorScale l (N * (b / N)) = N * (b / N) := by exact_mod_cast hexact
        omega
      have hhigh : floorScale l b ≤ b := by
        have := floorScale_le (hpos l hl) b
        rw [hprod l hl, mul_one] at this
        exact_mod_cast this
      rw [mul_one_div, mul_one_div, Nat.floor_div_natCast, Nat.floor_div_natCast,
        Nat.floor_natCast, Nat.floor_natCast]
      apply le_antisymm
      · exact Nat.div_le_div_right hhigh
      · rw [Nat.le_div_iff_mul_le hN, mul_comm]
        exact hlow

theorem exists_perm_append_of_subperm {m vs : List ℚ} (h : m.Subperm vs) :
    ∃ rest, vs.Perm (m ++ rest) := by
  obtain ⟨m', hm', hsub⟩ := h
  obtain ⟨rest, hrest⟩ := hsub.exists_perm_append
  exact ⟨rest, hrest.trans (hm'.append_right rest)⟩

/-- Factors whose products on the way are the products of some of the numbers `vs`. -/
structure Reaches (vs : List ℚ) (P : List ℚ → Prop) : Prop where
  sound : ∀ l, P l → ∀ i, ∃ m : List ℚ, m.Subperm vs ∧ (l.take i).prod = m.prod
  complete : ∀ m : List ℚ, m.Subperm vs → ∃ l, P l ∧ ∃ i, (l.take i).prod = m.prod

theorem Reaches.forall_iff {vs : List ℚ} {P : List ℚ → Prop} (h : Reaches vs P) (c : ℚ) :
    (∀ l, P l → ∀ i, IsWhole (c * (l.take i).prod)) ↔
      ∀ m : List ℚ, m.Subperm vs → IsWhole (c * m.prod) := by
  constructor
  · intro hall m hm
    obtain ⟨l, hl, i, hi⟩ := h.complete m hm
    rw [← hi]
    exact hall l hl i
  · intro hall l hl i
    obtain ⟨m, hm, hi⟩ := h.sound l hl i
    rw [hi]
    exact hall m hm

/-- Dividing a product by some of its factors leaves the others. -/
theorem prod_mul_take_inv {m : List ℚ} (hm : ∀ r ∈ m, 0 < r) (i : ℕ) :
    m.prod * ((m.map (·⁻¹)).take i).prod = (m.drop i).prod := by
  have hpos : 0 < (m.take i).prod := List.prod_pos fun r hr => hm r (List.mem_of_mem_take hr)
  have hinv : ((m.map (·⁻¹)).take i).prod = (m.take i).prod⁻¹ := by
    rw [← List.map_take, List.prod_inv]
  have hsplit : m.prod = (m.take i).prod * (m.drop i).prod := by
    rw [← List.prod_append, List.take_append_drop]
  rw [hinv, hsplit]
  field_simp

/-- Multiplying by all numbers in some order, and dividing by all of them in another. -/
theorem reaches_undone {vs : List ℚ} (hvs : ∀ r ∈ vs, 0 < r) :
    Reaches vs fun l => ∃ m m' : List ℚ, m.Perm vs ∧ m'.Perm vs ∧ l = m ++ m'.map (·⁻¹) := by
  constructor
  · rintro l ⟨m, m', hm, hm', rfl⟩ i
    rw [List.take_append, List.prod_append]
    by_cases hi : i ≤ m.length
    · refine ⟨m.take i, (List.take_sublist i m).subperm.trans hm.subperm, ?_⟩
      rw [Nat.sub_eq_zero_of_le hi, List.take_zero, List.prod_nil, mul_one]
    · refine ⟨m'.drop (i - m.length), (List.drop_sublist _ m').subperm.trans hm'.subperm, ?_⟩
      rw [List.take_of_length_le (by omega), hm.prod_eq, ← hm'.prod_eq]
      exact prod_mul_take_inv (fun r hr => hvs r (hm'.mem_iff.mp hr)) _
  · intro m hm
    obtain ⟨rest, hrest⟩ := exists_perm_append_of_subperm hm
    exact ⟨_, ⟨m ++ rest, vs, hrest.symm, .refl vs, rfl⟩, m.length, by simp⟩

/-- Only dividing, where the product of all numbers is 1. -/
theorem reaches_divided {vs : List ℚ} (hvs : ∀ r ∈ vs, 0 < r) (hprod : vs.prod = 1) :
    Reaches vs fun l => ∃ m' : List ℚ, m'.Perm vs ∧ l = m'.map (·⁻¹) := by
  have htake : ∀ m' : List ℚ, m'.Perm vs → ∀ i,
      ((m'.map (·⁻¹)).take i).prod = (m'.drop i).prod := by
    intro m' hm' i
    rw [← prod_mul_take_inv (fun r hr => hvs r (hm'.mem_iff.mp hr)), hm'.prod_eq, hprod, one_mul]
  constructor
  · rintro l ⟨m', hm', rfl⟩ i
    exact ⟨m'.drop i, (List.drop_sublist i m').subperm.trans hm'.subperm, htake m' hm' i⟩
  · intro m hm
    obtain ⟨rest, hrest⟩ := exists_perm_append_of_subperm hm
    refine ⟨_, ⟨rest ++ m, (List.perm_append_comm.trans hrest.symm), rfl⟩, rest.length, ?_⟩
    rw [htake _ (List.perm_append_comm.trans hrest.symm), List.drop_left]

/-- Whole products of some numbers are those of whole numbers. -/
theorem forall_subperm_isWhole_iff {vs : List ℚ} :
    (∀ m : List ℚ, m.Subperm vs → IsWhole m.prod) ↔ ∀ r ∈ vs, IsWhole r := by
  constructor
  · intro h r hr
    have := h [r] (List.singleton_subperm_iff.mpr hr)
    rwa [List.prod_singleton] at this
  · intro h m hm
    exact isWhole_prod fun r hr => h r (hm.subset hr)

/-- A scaling that is undone before another one is as if it were not there, if and only if the
    numbers are whole, or the other factor is the reciprocal of a whole number that makes every
    product of some of them whole. -/
theorem floorScale_undone_iff {vs : List ℚ} {P : List ℚ → Prop} (h : Reaches vs P)
    (hpos : ∀ l, P l → ∀ r ∈ l, 0 < r) (hprod : ∀ l, P l → l.prod = 1) (hα : 0 < α) :
    (∀ l, P l → ∀ b : ℕ, ⌊(floorScale l b : ℚ) * α⌋₊ = ⌊(b : ℚ) * α⌋₊) ↔
      (∀ r ∈ vs, IsWhole r) ∨
        ∃ N : ℕ, 0 < N ∧ α = 1 / N ∧
          ∀ m : List ℚ, m.Subperm vs → IsWhole ((N : ℚ) * m.prod) := by
  have hone := h.forall_iff 1
  simp only [one_mul] at hone
  rw [floorScale_roundTrip_iff hpos hprod hα, hone, forall_subperm_isWhole_iff]
  simp only [h.forall_iff]

end FloorScale
