import TokenRouter.ForStd.FloorScale
import TokenRouter.Service.TaskBilling
import TokenRouter.ForStd.Run

/-!
# The ratios of a task

The quota of a task is to be its price times the product of its ratios, cut off once, and after
an adjustment the price times the product of the adjusted ratios. The loops cut off at every
ratio, in an order of their own, and an adjustment divides out what has been cut off already.

## Key results

- `rows_addOtherRatios`: the positive ratios of an estimate
- `charged_iff`: when the charge is the product cut off once
- `submittedQuota_iff`: when the quota of a submitted task is, with an adjustment and without
- `preConsumed_of_attempt`: what an attempt pre-consumes
- `remix_charged_iff`: when every attempt of a remix is charged with the merged ratios
-/

namespace TokenRouter

open FloorScale

namespace OtherRatios

/-- Every ratio is positive. -/
def Positive (ratios : OtherRatios) : Prop := ∀ r ∈ ratios.values, 0 < r

/-- Adding ratios under new names keeps the positive ones. -/
theorem rows_foldl_addOtherRatio {l : List (String × ℚ)} {ratios : OtherRatios}
    (hl : (l.map Prod.fst).Nodup) (hnew : ∀ entry ∈ l, ratios.find? entry.1 = none) :
    (l.foldl (fun ratios entry => addOtherRatio ratios entry.1 entry.2) ratios).rows =
      ratios.rows ++ l.filter (0 < ·.2) := by
  induction l generalizing ratios with
  | nil => simp
  | cons entry l ih =>
    rw [List.map_cons, List.nodup_cons] at hl
    have hentry := hnew entry List.mem_cons_self
    have hrest : ∀ e ∈ l, ratios.find? e.1 = none := fun e he => hnew e (List.mem_cons_of_mem _ he)
    rw [List.foldl_cons]
    by_cases hpos : 0 < entry.2
    · have hadd : addOtherRatio ratios entry.1 entry.2 = ratios.insert entry := by
        rw [addOtherRatio, if_neg (not_le.mpr hpos), Table.upsert]
        apply Table.set_of_find?
        rw [Table.find?_insert, if_pos rfl, hentry]
        rfl
      rw [hadd, ih hl.2, Table.insert_of_find?_none hentry, List.filter_cons_of_pos (by simpa),
        List.append_assoc, List.singleton_append]
      intro e he
      rw [Table.find?_insert, if_neg, hrest e he]
      rintro hkey
      exact hl.1 (hkey ▸ List.mem_map_of_mem he)
    · have hadd : addOtherRatio ratios entry.1 entry.2 = ratios := by
        rw [addOtherRatio, if_pos (not_lt.mp hpos)]
      rw [hadd, ih hl.2 hrest, List.filter_cons_of_neg (by simpa using hpos)]

/-- The ratios of an estimate are those of its entries that are positive. -/
theorem rows_addOtherRatios (added : OtherRatios) :
    (addOtherRatios .empty added).rows = added.rows.filter (0 < ·.2) := by
  rw [addOtherRatios, rows_foldl_addOtherRatio added.nodup fun _ _ => rfl]
  rfl

theorem values_addOtherRatios (added : OtherRatios) :
    (addOtherRatios .empty added).values = added.values.filter (0 < ·) := by
  rw [values, rows_addOtherRatios, values, List.filter_map]
  rfl

theorem positive_addOtherRatios (added : OtherRatios) : (addOtherRatios .empty added).Positive := by
  intro r hr
  rw [values_addOtherRatios, List.mem_filter] at hr
  simpa using hr.2

/-- Of positive ratios nothing is left out. -/
theorem values_addOtherRatios_of_positive {added : OtherRatios} (h : added.Positive) :
    (addOtherRatios .empty added).values = added.values := by
  rw [values_addOtherRatios, List.filter_eq_self]
  intro r hr
  simpa using h r hr

end OtherRatios

/-! ## The loops -/

/-- Every order of the ratios is the order of some loop. -/
theorem exists_iterationOrder {ratios : OtherRatios} {l : List ℚ} (h : l.Perm ratios.values) :
    ∃ order : IterationOrder, order.values ratios = l := by
  refine ⟨⟨fun others => if others.values = ratios.values then l else others.values, ?_⟩, ?_⟩
  · intro others
    split
    · next heq => rw [heq]; exact h
    · exact List.Perm.refl _
  · exact if_pos rfl

theorem truncToInt_of_nonneg {q : ℚ} (h : 0 ≤ q) : truncToInt q = ⌊q⌋₊ := by
  rw [truncToInt, if_pos h, Int.natCast_floor_eq_floor h]

/-- The loop that applies ratios cuts off at each. -/
theorem foldl_apply {l : List ℚ} (hl : ∀ r ∈ l, 0 < r) (b : ℕ) :
    l.foldl (fun quota ra => if ra ≠ 1 then truncToInt (quota * ra) else quota) (b : Int) =
      floorScale l b := by
  induction l generalizing b with
  | nil => rfl
  | cons r l ih =>
    have hr : 0 < r := hl r List.mem_cons_self
    have hrest := ih fun t ht => hl t (List.mem_cons_of_mem r ht)
    rw [List.foldl_cons, floorScale_cons, ← hrest]
    congr 1
    by_cases hr1 : r = 1
    · rw [if_neg (by simpa using hr1), hr1, mul_one, Nat.floor_natCast]
    · rw [if_pos hr1, Int.cast_natCast, truncToInt_of_nonneg (by positivity)]

/-- The loop that divides them out again cuts off at each, too. -/
theorem foldl_divide {l : List ℚ} (hl : ∀ r ∈ l, 0 < r) (b : ℕ) :
    l.foldl (fun quota ra => if ra ≠ 1 ∧ 0 < ra then truncToInt (quota / ra) else quota) (b : Int) =
      floorScale (l.map (·⁻¹)) b := by
  induction l generalizing b with
  | nil => rfl
  | cons r l ih =>
    have hr : 0 < r := hl r List.mem_cons_self
    have hrest := ih fun t ht => hl t (List.mem_cons_of_mem r ht)
    rw [List.foldl_cons, List.map_cons, floorScale_cons, ← hrest]
    congr 1
    by_cases hr1 : r = 1
    · rw [if_neg (fun h => h.1 hr1), hr1, inv_one, mul_one, Nat.floor_natCast]
    · rw [if_pos ⟨hr1, hr⟩, Int.cast_natCast, truncToInt_of_nonneg (by positivity), div_eq_mul_inv]

/-- The loop over the adjusted ratios does not cut off. -/
theorem foldl_adjusted (l : List ℚ) (q : ℚ) :
    l.foldl (fun (result : ℚ) ra => if ra ≠ 1 then result * ra else result) q = q * l.prod := by
  induction l generalizing q with
  | nil => simp
  | cons r l ih =>
    rw [List.foldl_cons, ih, List.prod_cons, ← mul_assoc]
    by_cases hr1 : r = 1
    · rw [if_neg (by simpa using hr1), hr1, mul_one]
    · rw [if_pos hr1]

/-- The factors that applying the ratios multiplies by. -/
def appliedFactors (patched : Bool) (order : IterationOrder) (ratios : OtherRatios) : List ℚ :=
  if patched then [] else order.values ratios

theorem IterationOrder.pos {ratios : OtherRatios} (h : ratios.Positive) (order : IterationOrder) :
    ∀ r ∈ order.values ratios, 0 < r :=
  fun r hr => h r ((order.perm ratios).mem_iff.mp hr)

theorem applyOtherRatios_eq {ratios : OtherRatios} (h : ratios.Positive) (patched : Bool)
    (order : IterationOrder) (b : ℕ) :
    applyOtherRatios patched order b ratios =
      floorScale (appliedFactors patched order ratios) b := by
  cases patched with
  | true => rfl
  | false => exact foldl_apply (order.pos h) b

/-- A recalculation of a charge scales by the ratios, then by their inverses, then once more. -/
theorem recalcQuotaFromRatios_eq {ratios adjusted : OtherRatios} (h : ratios.Positive)
    (hadjusted : adjusted.Positive) (order : IterationOrder) (b : ℕ) :
    recalcQuotaFromRatios order b ratios adjusted =
      ⌊(floorScale ((order.values ratios).map (·⁻¹)) b : ℚ) * adjusted.product⌋₊ := by
  have hprod : 0 < adjusted.product := List.prod_pos hadjusted
  rw [recalcQuotaFromRatios, foldl_divide (order.pos h), foldl_adjusted, Int.cast_natCast]
  exact truncToInt_of_nonneg (by positivity)

/-! ## The charge -/

/-- The charge is the price times some number, cut off once, for every price and every order,
    exactly when the number is the product and the ratios can be cut off late; a patched model has
    no ratio applied. -/
theorem charged_mul_iff {ratios : OtherRatios} (h : ratios.Positive) (patched : Bool) {μ : ℚ}
    (hμ : 0 < μ) :
    (∀ (order : IterationOrder) (b : ℕ),
        applyOtherRatios patched order b ratios = ⌊(b : ℚ) * μ⌋₊) ↔
      if patched then μ = 1 else μ = ratios.product ∧ Direct ratios.values := by
  simp only [applyOtherRatios_eq h, Nat.cast_inj]
  cases patched with
  | true =>
    have hslope := floorScale_eq_floor_mul_iff (l := []) (fun r hr => nomatch hr) hμ
    have hdirect : Direct [] := .inl fun r hr => nomatch hr
    rw [if_pos rfl, ← List.prod_nil, ← and_iff_left (a := μ = _) hdirect, ← hslope]
    constructor
    · rintro hall m hm b
      rw [List.perm_nil.mp hm]
      exact hall ⟨OtherRatios.values, fun _ => .refl _⟩ b
    · intro hall order b
      exact hall [] (.refl _) b
  | false =>
    rw [if_neg Bool.false_ne_true, OtherRatios.product, ← floorScale_eq_floor_mul_iff h hμ]
    constructor
    · intro hall m hm b
      obtain ⟨order, rfl⟩ := exists_iterationOrder hm
      exact hall order b
    · intro hall order b
      exact hall _ (order.perm ratios) b

theorem charged_iff {ratios : OtherRatios} (h : ratios.Positive) (patched : Bool) :
    (∀ (order : IterationOrder) (b : ℕ),
        applyOtherRatios patched order b ratios = ⌊(b : ℚ) * ratios.product⌋₊) ↔
      if patched then ratios.product = 1 else Direct ratios.values := by
  have hprod : 0 < ratios.product := List.prod_pos h
  rw [charged_mul_iff h patched hprod, eq_self, true_and]

/-! ## The recalculation -/

/-- The recalculated quota is the price times the product of the adjusted ratios exactly when the
    ratios are whole, or that product is the reciprocal of a whole number that makes every product
    of some of the ratios whole. -/
def Recalculable (ratios adjusted : OtherRatios) : Prop :=
  (∀ r ∈ ratios.values, IsWhole r) ∨
    ∃ N : ℕ, 0 < N ∧ adjusted.product = 1 / N ∧
      ∀ part : List ℚ, part.Subperm ratios.values → IsWhole ((N : ℚ) * part.prod)

theorem recalculated_iff {ratios adjusted : OtherRatios} (h : ratios.Positive)
    (hadjusted : adjusted.Positive) {patched : Bool}
    (hpatched : patched = true → ratios.product = 1) :
    (∀ (order order' : IterationOrder) (b : ℕ),
        recalcQuotaFromRatios order' (applyOtherRatios patched order b ratios) ratios adjusted =
          ⌊(b : ℚ) * adjusted.product⌋₊) ↔ Recalculable ratios adjusted := by
  have hprod : 0 < adjusted.product := List.prod_pos hadjusted
  have hinv : ∀ m : List ℚ, m.Perm ratios.values → ∀ r ∈ m.map (·⁻¹), 0 < r := by
    intro m hm r hr
    obtain ⟨t, ht, rfl⟩ := List.mem_map.mp hr
    exact inv_pos.mpr (h t (hm.mem_iff.mp ht))
  have hinvprod : ∀ m : List ℚ, (m.map (·⁻¹)).prod = m.prod⁻¹ := fun m => (List.prod_inv m).symm
  simp only [applyOtherRatios_eq h, recalcQuotaFromRatios_eq h hadjusted, Nat.cast_inj,
    ← floorScale_append]
  unfold Recalculable
  cases patched with
  | true =>
    have hone : ratios.values.prod = 1 := hpatched rfl
    rw [← floorScale_undone_iff (reaches_divided h hone) ?_ ?_ hprod]
    · constructor
      · rintro hall l ⟨m, hm, rfl⟩ b
        obtain ⟨order, rfl⟩ := exists_iterationOrder hm
        exact hall order order b
      · intro hall order order' b
        exact hall _ ⟨_, order'.perm ratios, rfl⟩ b
    · rintro l ⟨m, hm, rfl⟩
      exact hinv m hm
    · rintro l ⟨m, hm, rfl⟩
      rw [hinvprod, hm.prod_eq, hone, inv_one]
  | false =>
    rw [← floorScale_undone_iff (reaches_undone h) ?_ ?_ hprod]
    · constructor
      · rintro hall l ⟨m, m', hm, hm', rfl⟩ b
        obtain ⟨order, rfl⟩ := exists_iterationOrder hm
        obtain ⟨order', rfl⟩ := exists_iterationOrder hm'
        exact hall order order' b
      · intro hall order order' b
        exact hall _ ⟨_, _, order.perm ratios, order'.perm ratios, rfl⟩ b
    · rintro l ⟨m, m', hm, hm', rfl⟩ r hr
      rw [List.mem_append] at hr
      cases hr with
      | inl hr => exact h r (hm.mem_iff.mp hr)
      | inr hr => exact hinv m' hm' r hr
    · rintro l ⟨m, m', hm, hm', rfl⟩
      have hpos : 0 < ratios.values.prod := List.prod_pos h
      rw [List.prod_append, hinvprod, hm.prod_eq, hm'.prod_eq, mul_inv_cancel₀ hpos.ne']

/-! ## The submitted task -/

namespace TaskAttempt

variable (a : TaskAttempt)

/-- The quota of the attempt, if nothing fails. -/
def submittedQuota : Int :=
  let ratios := OtherRatios.addOtherRatios .empty a.estimateBilling
  let quota := applyOtherRatios a.patched a.applyOrder a.baseQuota ratios
  if a.adjustBillingOnSubmit.rows = [] then quota
  else recalcQuotaFromRatios a.recalcOrder quota ratios a.adjustBillingOnSubmit

/-- The price times the product of the ratios, the adjusted ones if there are any. -/
def statedQuota : Int :=
  let ratios := if a.adjustBillingOnSubmit.rows = [] then a.estimateBilling
    else a.adjustBillingOnSubmit
  ⌊(a.baseQuota : ℚ) * ratios.product⌋₊

/-- An attempt that meets no failure. -/
structure Accepted (a : TaskAttempt) : Prop where
  rejected : a.rejected = false
  preConsume : a.preConsumeFails = false
  upstream : a.upstreamFails = false

end TaskAttempt

/-- A submitted task has the quota of its attempt, whatever was charged before. -/
theorem relayTaskSubmit_quota {charge : TaskCharge} {a : TaskAttempt} {quota : Int}
    (h : (relayTaskSubmit charge a).1 = some quota) : quota = a.submittedQuota := by
  unfold relayTaskSubmit at h
  unfold TaskAttempt.submittedQuota
  split at h
  · cases h
  · dsimp only at h
    split at h
    · cases h
    · split at h
      · cases h
      · split at h
        · next hrows =>
          rw [if_pos hrows]
          split at h
          · exact (Option.some.inj h).symm
          · exact (Option.some.inj h).symm
        · next hrows =>
          rw [if_neg hrows]
          split at h
          · exact (Option.some.inj h).symm
          · exact (Option.some.inj h).symm

/-- An attempt that meets no failure submits its task. -/
theorem relayTaskSubmit_of_accepted {a : TaskAttempt} (h : a.Accepted) (charge : TaskCharge) :
    (relayTaskSubmit charge a).1 = some a.submittedQuota := by
  have hsome : (relayTaskSubmit charge a).1.isSome := by
    simp only [relayTaskSubmit, h.rejected, h.preConsume, h.upstream, Bool.false_eq_true,
      and_false, if_false]
    split
    · rfl
    · rfl
  obtain ⟨quota, hquota⟩ := Option.isSome_iff_exists.mp hsome
  rw [hquota, relayTaskSubmit_quota hquota]

/-- For every price, every order of the loops and every history the quota of a submitted task is
    the price times the product of its ratios, cut off once, exactly when the ratios can be cut
    off late and, with an adjustment, divided out again. -/
theorem submittedQuota_iff {patched : Bool} {ratios adjusted : OtherRatios} (h : ratios.Positive)
    (hadjusted : adjusted.Positive) :
    (∀ (charge : TaskCharge) (a : TaskAttempt) (quota : Int), a.patched = patched →
        a.estimateBilling = ratios →
        (a.adjustBillingOnSubmit.rows = [] ∨ a.adjustBillingOnSubmit = adjusted) →
        (relayTaskSubmit charge a).1 = some quota → quota = a.statedQuota) ↔
      (if patched then ratios.product = 1 else Direct ratios.values) ∧
        (adjusted.rows = [] ∨ Recalculable ratios adjusted) := by
  have hvalues := OtherRatios.values_addOtherRatios_of_positive h
  have hproduct : (OtherRatios.addOtherRatios .empty ratios).product = ratios.product := by
    rw [OtherRatios.product, hvalues, OtherRatios.product]
  have hpositive := OtherRatios.positive_addOtherRatios ratios
  have hcharged := charged_iff hpositive patched
  rw [hvalues, hproduct] at hcharged
  have hrecalc : ∀ hpatched : patched = true → ratios.product = 1, _ :=
    fun hpatched => recalculated_iff hpositive hadjusted (hproduct ▸ hpatched)
  rw [← hcharged]
  unfold Recalculable at hrecalc ⊢
  rw [hvalues] at hrecalc
  have hone : (if patched then ratios.product = 1 else Direct ratios.values) →
      patched = true → ratios.product = 1 := by
    rintro hif rfl
    exact hif
  constructor
  · intro hall
    have hfirst : ∀ (order : IterationOrder) (b : ℕ),
        applyOtherRatios patched order b (.addOtherRatios .empty ratios) =
          ⌊(b : ℚ) * ratios.product⌋₊ := by
      intro order b
      exact hall {} ⟨b, false, patched, ratios, .empty, order, order, false, false, false⟩ _ rfl
        rfl (.inl rfl) (relayTaskSubmit_of_accepted ⟨rfl, rfl, rfl⟩ _)
    refine ⟨hfirst, ?_⟩
    by_cases hrows : adjusted.rows = []
    · exact .inl hrows
    · right
      rw [← hrecalc (hone (hcharged.mp hfirst))]
      intro order order' b
      have := hall {} ⟨b, false, patched, ratios, adjusted, order, order', false, false, false⟩ _
        rfl rfl (.inr rfl) (relayTaskSubmit_of_accepted ⟨rfl, rfl, rfl⟩ _)
      simpa [TaskAttempt.submittedQuota, TaskAttempt.statedQuota, hrows] using this
  · rintro ⟨hfirst, hsecond⟩ charge a quota rfl rfl hadjust hquota
    rw [relayTaskSubmit_quota hquota, TaskAttempt.submittedQuota, TaskAttempt.statedQuota]
    by_cases hrows : a.adjustBillingOnSubmit.rows = []
    · simp only [if_pos hrows]
      exact hfirst _ _
    · simp only [if_neg hrows]
      obtain rfl := hadjust.resolve_left hrows
      exact (hrecalc (hone (hcharged.mp hfirst))).mpr (hsecond.resolve_left hrows) _ _ _

/-- The estimate of Sora for eight seconds in the large size. -/
def largeVideo : OtherRatios := ⟨[("seconds", 8), ("size", 1.666667)], by decide⟩

/-- The loop in the order of the table, and in the opposite one. -/
def tableOrder : IterationOrder := ⟨OtherRatios.values, fun _ => .refl _⟩

def reverseOrder : IterationOrder :=
  ⟨fun ratios => ratios.values.reverse, fun ratios => ratios.values.reverse_perm⟩

/-- A price of 0.1, with the given order and adjustment. -/
def largeVideoAttempt (order : IterationOrder) (adjusted : OtherRatios) : TaskAttempt :=
  { baseQuota := 50000
    estimateBilling := largeVideo
    adjustBillingOnSubmit := adjusted
    applyOrder := order
    recalcOrder := order }

/-- Eight seconds of video, adjusted to ten, at a price of 0.1. -/
def shortVideoAttempt : TaskAttempt :=
  { baseQuota := 50000
    estimateBilling := ⟨[("seconds", 8)], by decide⟩
    adjustBillingOnSubmit := ⟨[("seconds", 10)], by decide⟩
    applyOrder := tableOrder
    recalcOrder := tableOrder }

/-- It is charged as stated. -/
theorem submittedQuota_seconds : shortVideoAttempt.statedQuota = 500000 := by
  have hratios : shortVideoAttempt.estimateBilling.Positive := by
    intro r hr
    rw [List.mem_singleton.mp hr]
    norm_num
  have hadjusted : shortVideoAttempt.adjustBillingOnSubmit.Positive := by
    intro r hr
    rw [List.mem_singleton.mp hr]
    norm_num
  have hwhole : ∀ r ∈ [(8 : ℚ)], IsWhole r := by
    intro r hr
    exact ⟨8, List.mem_singleton.mp hr⟩
  have hquota : (relayTaskSubmit {} shortVideoAttempt).1 = some 500000 := by decide +kernel
  have hdirect : if shortVideoAttempt.patched then shortVideoAttempt.estimateBilling.product = 1
      else Direct shortVideoAttempt.estimateBilling.values := .inl hwhole
  exact ((submittedQuota_iff hratios hadjusted).mpr ⟨hdirect, .inr (.inl hwhole)⟩ {}
    shortVideoAttempt 500000 rfl rfl (.inr rfl) hquota).symm

/-- The quota depends on the order of the ratios, and adjusting them to themselves changes it. -/
theorem largeVideo_quota :
    (relayTaskSubmit {} (largeVideoAttempt tableOrder .empty)).1 = some 666666 ∧
      (relayTaskSubmit {} (largeVideoAttempt reverseOrder .empty)).1 = some 666664 ∧
      (relayTaskSubmit {} (largeVideoAttempt tableOrder largeVideo)).1 = some 666653 ∧
      (largeVideoAttempt reverseOrder .empty).statedQuota = 666666 ∧
      (largeVideoAttempt tableOrder largeVideo).statedQuota = 666666 := by
  decide +kernel

end TokenRouter

/-! ## The ratios of a remix

`ResolveOriginTask` gives the request the ratios of its origin task, and the estimate of the
adaptor is to be merged into them. Every attempt replaces the price data before it asks for the
estimate, and the ratios of the origin are in what is replaced.
-/

namespace TokenRouter

open FloorScale Run

namespace OtherRatios

theorem Positive.upsert {ratios : OtherRatios} (h : ratios.Positive) {entry : String × ℚ}
    (hpos : 0 < entry.2) : OtherRatios.Positive (Table.upsert ratios entry) := by
  intro r hr
  obtain ⟨e, he, rfl⟩ := List.mem_map.mp hr
  cases Table.mem_of_mem_upsert he with
  | inl heq => exact heq ▸ hpos
  | inr hmem => exact h _ (List.mem_map_of_mem hmem)

theorem Positive.addOtherRatios {ratios : OtherRatios} (h : ratios.Positive)
    (added : OtherRatios) : (ratios.addOtherRatios added).Positive := by
  unfold OtherRatios.addOtherRatios
  induction added.rows generalizing ratios with
  | nil => exact h
  | cons entry l ih =>
    rw [List.foldl_cons]
    apply ih
    unfold addOtherRatio
    split
    · exact h
    · next hpos => exact h.upsert (not_le.mp hpos)

end OtherRatios

/-- The ratios of an origin task are positive. -/
theorem OriginRatios.positive_resolve (origin : OriginRatios) : origin.resolve.Positive := by
  cases origin with
  | billingContext ratios => exact OtherRatios.positive_addOtherRatios ratios
  | taskData seconds size =>
    have hempty : OtherRatios.Positive Table.empty := fun r hr => nomatch hr
    have hseconds : 0 < (if seconds ≤ 0 then 4 else (seconds : ℚ)) := by
      split
      · norm_num
      · next h => exact_mod_cast not_le.mp h
    have hsize : 0 < (if size = "1792x1024" ∨ size = "1024x1792" then 1.666667 else (1 : ℚ)) := by
      split
      · norm_num
      · norm_num
    exact (hempty.upsert hseconds).upsert hsize

/-! ### An attempt -/

/-- The first attempt that pre-consumes anything pre-consumes its own price. -/
theorem preConsumed_of_attempt {charge : TaskCharge} {a : TaskAttempt} {quota : Int}
    (hnone : charge.preConsumed = none)
    (h : (taskAttemptStep charge a).preConsumed = some quota) :
    quota = (a.price charge).quota := by
  unfold taskAttemptStep relayTaskSubmit at h
  split at h
  · rw [hnone] at h
    cases h
  · have hprice : (a.price charge).preConsumed = none := hnone
    dsimp only at h
    by_cases hfails : (a.price charge).preConsumed.isNone ∧ ¬ a.freeModel ∧ a.preConsumeFails
    · rw [if_pos hfails, hprice] at h
      cases h
    · rw [if_neg hfails] at h
      by_cases hfree : (a.price charge).preConsumed.isNone ∧ ¬ a.freeModel
      · simp only [if_pos hfree] at h
        split at h
        · exact (Option.some.inj h).symm
        · split at h
          · exact (Option.some.inj h).symm
          · exact (Option.some.inj h).symm
      · simp only [if_neg hfree] at h
        have hkept : (a.price charge).preConsumed = some quota := by
          split at h
          · exact h
          · split at h
            · exact h
            · exact h
        rw [hprice] at hkept
        cases hkept

/-- What an attempt pre-consumes and what it settles is its price times a number, cut off once. -/
structure ChargedWith (μ : ℚ) (charge : TaskCharge) (a : TaskAttempt) : Prop where
  preConsumed : charge.preConsumed = none → ∀ quota,
    (taskAttemptStep charge a).preConsumed = some quota → quota = ⌊(a.baseQuota : ℚ) * μ⌋₊
  settled : ∀ quota, (relayTaskSubmit charge a).1 = some quota →
    quota = ⌊(a.baseQuota : ℚ) * μ⌋₊

/-- The attempts of one remix: the adaptor of the origin's channel estimates `estimate` every
    time, and leaves the charge as it is afterwards. -/
structure RemixAttempt (patched : Bool) (estimate : OtherRatios) (a : TaskAttempt) : Prop where
  patched_eq : a.patched = patched
  estimate_eq : a.estimateBilling = estimate
  unadjusted : a.adjustBillingOnSubmit.rows = []

/-- The price of an attempt reads nothing that earlier attempts or the origin left. -/
theorem RemixAttempt.chargedWith {patched : Bool} {estimate : OtherRatios} {a : TaskAttempt}
    (h : RemixAttempt patched estimate a) {μ : ℚ}
    (hprice : ∀ (order : IterationOrder) (b : ℕ),
      applyOtherRatios patched order b (OtherRatios.addOtherRatios .empty estimate) =
        ⌊(b : ℚ) * μ⌋₊) (charge : TaskCharge) : ChargedWith μ charge a := by
  obtain ⟨rfl, rfl, hrows⟩ := h
  constructor
  · intro hnone quota hquota
    rw [preConsumed_of_attempt hnone hquota]
    exact hprice _ _
  · intro quota hquota
    rw [relayTaskSubmit_quota hquota, TaskAttempt.submittedQuota]
    simp only [if_pos hrows]
    exact hprice _ _

/-- The ratios of the origin with the estimate merged into them. -/
def OriginRatios.merged (origin : OriginRatios) (estimate : OtherRatios) : OtherRatios :=
  origin.resolve.addOtherRatios estimate

/-- Every attempt of a remix, retries included, is charged with the merged ratios, for every price
    and every order, exactly when the positive ratios of the estimate alone have the same product
    and can be cut off late; a patched model has no ratio applied. -/
theorem remix_charged_iff (origin : OriginRatios) (estimate : OtherRatios) (patched : Bool) :
    (∀ attempts : List TaskAttempt, (∀ a ∈ attempts, RemixAttempt patched estimate a) →
        Steps taskAttemptStep (ChargedWith (origin.merged estimate).product)
          { otherRatios := origin.resolve } attempts) ↔
      if patched then (origin.merged estimate).product = 1
      else
        (origin.merged estimate).product = (OtherRatios.addOtherRatios .empty estimate).product ∧
          Direct (OtherRatios.addOtherRatios .empty estimate).values := by
  have hpos : (origin.merged estimate).Positive := origin.positive_resolve.addOtherRatios estimate
  have hprod : 0 < (origin.merged estimate).product := List.prod_pos hpos
  rw [← charged_mul_iff (OtherRatios.positive_addOtherRatios estimate) patched hprod]
  constructor
  · intro hall order b
    -- a single attempt with this price and this order
    have hsingle := hall [⟨b, false, patched, estimate, .empty, order, order, false, false, false⟩]
      (fun a ha => List.mem_singleton.mp ha ▸ ⟨rfl, rfl, rfl⟩)
    exact hsingle.1.settled _ (relayTaskSubmit_of_accepted ⟨rfl, rfl, rfl⟩ _)
  · intro hprice attempts hattempts
    generalize ({ otherRatios := origin.resolve } : TaskCharge) = charge
    induction attempts generalizing charge with
    | nil => trivial
    | cons a attempts ih =>
      have hfirst := hattempts a List.mem_cons_self
      have hrest := ih fun e he => hattempts e (List.mem_cons_of_mem a he)
      exact ⟨hfirst.chargedWith hprice charge, hrest (taskAttemptStep charge a)⟩

/-- A remix of eight seconds, for which the adaptor estimates nothing. -/
theorem remix_charged_eight_seconds :
    let origin : OriginRatios := .billingContext ⟨[("seconds", 8)], by decide⟩
    let a : TaskAttempt :=
      { baseQuota := 100
        applyOrder := tableOrder
        recalcOrder := tableOrder }
    let charge : TaskCharge := { otherRatios := origin.resolve }
    (relayTaskSubmit charge a).1 = some 100 ∧
      (taskAttemptStep charge a).preConsumed = some 100 ∧
      ⌊(a.baseQuota : ℚ) * (origin.merged .empty).product⌋₊ = 800 := by
  decide +kernel

end TokenRouter
