import TokenRouter.Spec.ResetTermination

/-!
# The reset schedule does not depend on when it is checked

A run of `maybeResetUserSubscriptionWithPlanTx` catches up with every reset that was missed, so
a run at `t₁` and another at `t₂` leave what a run at `t₂` alone leaves. What a run leaves is up
to date if the stored `next_reset_time` belongs to the schedule of the plan; a run does not
correct one that was computed for another schedule.

## Key results

- `ResetRun.trans`: two runs are as good as the later one
- `nextBoundary_isStart`, `nextBoundary_le`: a base is followed by the first start after it
-/

namespace TokenRouter

/-! ## Catching up in two runs -/

section CatchUp

variable {calcNext : Int → Int} {now t₁ t₂ : Int}

/-- What the loop ends with. -/
def caughtUp (calcNext : Int → Int) (base : Int) (advanced : Bool) : ResetTimes :=
  if advanced then .due base (calcNext base) else .notDue base (calcNext base)

/-- The loop ends with `times`. -/
def CatchesUp (calcNext : Int → Int) (now base : Int) (advanced : Bool) (times : ResetTimes) :
    Prop :=
  ∃ fuel, catchUp calcNext now fuel base (calcNext base) advanced = some times

theorem catchesUp_iff {base : Int} {advanced : Bool} {times : ResetTimes} :
    CatchesUp calcNext now base advanced times ↔
      if 0 < calcNext base ∧ calcNext base ≤ now then
        CatchesUp calcNext now (calcNext base) true times
      else times = caughtUp calcNext base advanced := by
  constructor
  · rintro ⟨fuel, h⟩
    cases fuel with
    | zero => cases h
    | succ fuel =>
      rw [catchUp] at h
      split
      · rw [if_pos ‹_›] at h
        exact ⟨fuel, h⟩
      · rw [if_neg ‹_›] at h
        exact (Option.some.inj h).symm
  · intro h
    split at h
    · obtain ⟨fuel, h⟩ := h
      refine ⟨fuel + 1, ?_⟩
      rwa [catchUp, if_pos ‹_›]
    · refine ⟨1, ?_⟩
      rw [catchUp, if_neg ‹_›, h, caughtUp]

/-- What the loop has caught up with at `t₁`, it need not catch up with at `t₂`. -/
theorem CatchesUp.exists_base (hle : t₁ ≤ t₂) {b : Int} {advanced : Bool} {times : ResetTimes}
    (h : CatchesUp calcNext t₁ b advanced times) :
    ∃ b₁ advanced₁, times = caughtUp calcNext b₁ advanced₁ ∧
      (b₁ = b ∧ advanced₁ = advanced ∨ 0 < b₁ ∧ b₁ ≤ t₁ ∧ advanced₁ = true) ∧
      ¬(0 < calcNext b₁ ∧ calcNext b₁ ≤ t₁) ∧
      ∀ times', CatchesUp calcNext t₂ b₁ advanced₁ times' →
        CatchesUp calcNext t₂ b advanced times' := by
  obtain ⟨fuel, h⟩ := h
  induction fuel generalizing b advanced with
  | zero => cases h
  | succ fuel ih =>
    rw [catchUp] at h
    split at h
    · rename_i hdue
      obtain ⟨b₁, advanced₁, htimes, hbase, hnext, hlater⟩ := ih h
      refine ⟨b₁, advanced₁, htimes, .inr ?_, hnext, ?_⟩
      · rcases hbase with ⟨rfl, hadv⟩ | hbase
        · exact ⟨hdue.1, hdue.2, hadv⟩
        · exact hbase
      · intro times' h'
        rw [catchesUp_iff, if_pos ⟨hdue.1, hdue.2.trans hle⟩]
        exact hlater times' h'
    · exact ⟨b, advanced, (Option.some.inj h).symm, .inl ⟨rfl, rfl⟩, ‹_›, fun _ h' => h'⟩

theorem CatchesUp.unique {b : Int} {advanced : Bool} {times times' : ResetTimes}
    (h : CatchesUp calcNext now b advanced times) (h' : CatchesUp calcNext now b advanced times') :
    times = times' := by
  obtain ⟨fuel, h⟩ := h
  induction fuel generalizing b advanced with
  | zero => cases h
  | succ fuel ih =>
    rw [catchUp] at h
    rw [catchesUp_iff] at h'
    split at h
    · rw [if_pos ‹_›] at h'
      exact ih h' h
    · rw [if_neg ‹_›] at h'
      rw [h', caughtUp]
      exact (Option.some.inj h).symm

/-- A loop that has advanced ends with a reset. -/
theorem CatchesUp.eq_due {b : Int} {times : ResetTimes}
    (h : CatchesUp calcNext now b true times) : ∃ b', times = .due b' (calcNext b') := by
  obtain ⟨b', advanced', rfl, hbase, -⟩ := h.exists_base le_rfl
  have hadv : advanced' = true := by
    rcases hbase with h | h
    · exact h.2
    · exact h.2.2
  exact ⟨b', by rw [hadv, caughtUp, if_pos rfl]⟩

end CatchUp

/-! ## Two runs -/

section Runs

variable {z : Zone} {plan : SubscriptionPlan} {sub sub₁ sub₂ : UserSubscription} {now t₁ t₂ : Int}

/-- `maybeResetUserSubscriptionWithPlanTx` leaves `sub'`. -/
def ResetRun (z : Zone) (plan : SubscriptionPlan) (sub : UserSubscription) (now : Int)
    (sub' : UserSubscription) : Prop :=
  ∃ fuel, maybeResetUserSubscriptionWithPlan z.calendar plan fuel sub now = some sub'

/-- Nothing is looked up before the stored reset. -/
def ResetWaits (sub : UserSubscription) (now : Int) : Prop :=
  0 < sub.nextResetTime ∧ now < sub.nextResetTime

theorem resetRun_of_waits (h : ResetWaits sub now) :
    ResetRun z plan sub now sub₁ ↔ sub₁ = sub := by
  unfold ResetWaits at h
  unfold ResetRun maybeResetUserSubscriptionWithPlan
  simp only [if_pos h]
  constructor
  · rintro ⟨-, h⟩
    exact (Option.some.inj h).symm
  · rintro rfl
    exact ⟨0, rfl⟩

theorem resetRun_of_never (h : ¬ResetWaits sub now)
    (hnever : normalizeResetPeriod plan.quotaResetPeriod = .never) :
    ResetRun z plan sub now sub₁ ↔ sub₁ = sub := by
  unfold ResetWaits at h
  unfold ResetRun maybeResetUserSubscriptionWithPlan resetTimesWithPlan
  simp only [if_neg h, if_pos hnever, Option.map_some, UserSubscription.applyResetTimes]
  constructor
  · rintro ⟨-, h⟩
    exact (Option.some.inj h).symm
  · rintro rfl
    exact ⟨0, rfl⟩

theorem resetRun_iff (h : ¬ResetWaits sub now)
    (hperiod : normalizeResetPeriod plan.quotaResetPeriod ≠ .never) :
    ResetRun z plan sub now sub₁ ↔
      ∃ times, CatchesUp (fun b => calcNextResetTime z.calendar b plan sub.endTime) now
        sub.resetBase false times ∧ sub₁ = sub.applyResetTimes times := by
  unfold ResetWaits at h
  unfold ResetRun maybeResetUserSubscriptionWithPlan resetTimesWithPlan CatchesUp
  simp only [if_neg h, if_neg hperiod, Option.map_eq_some_iff]
  constructor
  · rintro ⟨fuel, times, htimes, rfl⟩
    exact ⟨times, ⟨fuel, htimes⟩, rfl⟩
  · rintro ⟨times, ⟨fuel, htimes⟩, rfl⟩
    exact ⟨fuel, times, htimes, rfl⟩

theorem exists_resetRun (h : ResetEnds z plan sub now) : ∃ sub', ResetRun z plan sub now sub' := by
  obtain ⟨fuel, hfuel⟩ := h
  obtain ⟨sub', hsub'⟩ := Option.ne_none_iff_exists'.mp hfuel
  exact ⟨sub', fuel, hsub'⟩

theorem ResetRun.unique (h₁ : ResetRun z plan sub now sub₁) (h₂ : ResetRun z plan sub now sub₂) :
    sub₁ = sub₂ := by
  by_cases hwaits : ResetWaits sub now
  · rw [resetRun_of_waits hwaits] at h₁ h₂
    rw [h₁, h₂]
  by_cases hperiod : normalizeResetPeriod plan.quotaResetPeriod = .never
  · rw [resetRun_of_never hwaits hperiod] at h₁ h₂
    rw [h₁, h₂]
  · rw [resetRun_iff hwaits hperiod] at h₁ h₂
    obtain ⟨times₁, h₁, rfl⟩ := h₁
    obtain ⟨times₂, h₂, rfl⟩ := h₂
    rw [h₁.unique h₂]

/-- Two runs are as good as the later one. -/
theorem ResetRun.trans (hle : t₁ ≤ t₂) (h₁ : ResetRun z plan sub t₁ sub₁)
    (h₂ : ResetRun z plan sub₁ t₂ sub₂) : ResetRun z plan sub t₂ sub₂ := by
  by_cases hwaits : ResetWaits sub t₁
  · rw [resetRun_of_waits hwaits] at h₁
    rwa [← h₁]
  by_cases hperiod : normalizeResetPeriod plan.quotaResetPeriod = .never
  · rw [resetRun_of_never hwaits hperiod] at h₁
    rwa [← h₁]
  rw [resetRun_iff hwaits hperiod] at h₁
  obtain ⟨times, htimes, hsub₁⟩ := h₁
  obtain ⟨b, advanced, rfl, hbase, hnext, hlater⟩ := htimes.exists_base hle
  have hwaits₂ : ¬ResetWaits sub t₂ := by
    unfold ResetWaits at *
    omega
  generalize hcalc : (fun b => calcNextResetTime z.calendar b plan sub.endTime) = calcNext at *
  cases advanced with
  | false =>
    -- nothing was due at `t₁`; at most the schedule was written down
    have hb : b = sub.resetBase := by
      rcases hbase with ⟨hb, -⟩ | ⟨-, -, hadv⟩
      · exact hb
      · cases hadv
    by_cases hfresh : sub.nextResetTime = 0 ∧ 0 < calcNext b
    · have hsub₁' : sub₁ = { sub with nextResetTime := calcNext b, lastResetTime := b } := by
        rw [hsub₁, caughtUp]
        simp only [Bool.false_eq_true, if_false, UserSubscription.applyResetTimes, if_pos hfresh]
      rw [resetRun_iff hwaits₂ hperiod, hcalc]
      by_cases hwaits' : ResetWaits sub₁ t₂
      · rw [resetRun_of_waits hwaits'] at h₂
        refine ⟨_, hlater _ ?_, h₂.trans hsub₁⟩
        rw [hsub₁'] at hwaits'
        rw [catchesUp_iff, if_neg (fun h => not_lt.mpr h.2 hwaits'.2)]
      · rw [resetRun_iff hwaits' hperiod] at h₂
        obtain ⟨times, htimes', hsub₂⟩ := h₂
        have hbase₁ : sub₁.resetBase = b := by
          rw [hsub₁']
          simp only [UserSubscription.resetBase] at hb ⊢
          split <;> split at hb <;> omega
        have hend₁ : sub₁.endTime = sub.endTime := by rw [hsub₁']
        rw [hend₁, hcalc, hbase₁] at htimes'
        refine ⟨times, hlater _ htimes', ?_⟩
        have hdue : 0 < calcNext b ∧ calcNext b ≤ t₂ := by
          rw [hsub₁'] at hwaits'
          unfold ResetWaits at hwaits'
          simp only at hwaits'
          omega
        rw [catchesUp_iff, if_pos hdue] at htimes'
        obtain ⟨b₂, rfl⟩ := htimes'.eq_due
        rw [hsub₂, hsub₁']
        rfl
    · have hsame : sub₁ = sub := by
        rw [hsub₁, caughtUp]
        simp only [Bool.false_eq_true, if_false, UserSubscription.applyResetTimes, if_neg hfresh]
      rwa [← hsame]
  | true =>
    have hsub₁' : sub₁ = sub.applyResetTimes (.due b (calcNext b)) := by
      rw [hsub₁, caughtUp, if_pos rfl]
    have hb : 0 < b := by
      rcases hbase with ⟨-, hadv⟩ | h
      · cases hadv
      · exact h.1
    rw [resetRun_iff hwaits₂ hperiod, hcalc]
    by_cases hwaits' : ResetWaits sub₁ t₂
    · rw [resetRun_of_waits hwaits'] at h₂
      refine ⟨_, hlater _ ?_, h₂.trans hsub₁⟩
      rw [hsub₁'] at hwaits'
      rw [catchesUp_iff, if_neg (fun h => not_lt.mpr h.2 hwaits'.2)]
    · rw [resetRun_iff hwaits' hperiod] at h₂
      obtain ⟨times, htimes', hsub₂⟩ := h₂
      have hbase₁ : sub₁.resetBase = b := by
        rw [hsub₁']
        simp only [UserSubscription.resetBase, UserSubscription.applyResetTimes]
        exact if_neg (not_le.mpr hb)
      have hend₁ : sub₁.endTime = sub.endTime := by rw [hsub₁']; rfl
      rw [hend₁, hcalc, hbase₁] at htimes'
      rw [catchesUp_iff] at htimes'
      split at htimes'
      · rename_i hdue
        refine ⟨times, hlater _ ?_, ?_⟩
        · rw [catchesUp_iff, if_pos hdue]
          exact htimes'
        · obtain ⟨b₂, rfl⟩ := htimes'.eq_due
          rw [hsub₂, hsub₁']
          rfl
      · rename_i hdone
        -- the schedule has ended
        have hended : ¬0 < calcNext b := by
          rw [hsub₁'] at hwaits'
          unfold ResetWaits at hwaits'
          simp only [UserSubscription.applyResetTimes] at hwaits'
          omega
        have hsame : sub₂ = sub₁ := by
          rw [hsub₂, htimes', caughtUp]
          simp only [Bool.false_eq_true, if_false, UserSubscription.applyResetTimes]
          rw [if_neg fun h => hended h.2]
        refine ⟨_, hlater _ ?_, hsame.trans hsub₁⟩
        rw [catchesUp_iff, if_neg hdone]

end Runs

/-! ## The schedule -/

/-- The plan schedules resets. -/
def HasSchedule (plan : SubscriptionPlan) : Prop :=
  normalizeResetPeriod plan.quotaResetPeriod ≠ .never ∧
    (normalizeResetPeriod plan.quotaResetPeriod = .custom → 0 < plan.quotaResetCustomSeconds)

/-- A scheduled reset instant: a local midnight, that of a Monday, that of the first of a month,
    or a multiple of the custom period after `anchor`. -/
def IsStart (z : Zone) (plan : SubscriptionPlan) (anchor r : Int) : Prop :=
  match normalizeResetPeriod plan.quotaResetPeriod with
  | .daily => z.clock r % 86400 = 0
  | .weekly => z.clock r % 86400 = 0 ∧ Zone.weekday (z.day r) = 1
  | .monthly => z.clock r % 86400 = 0 ∧ (civilOfDays (z.day r)).2.2 = 1
  | .custom => 0 < plan.quotaResetCustomSeconds ∧ plan.quotaResetCustomSeconds ∣ r - anchor
  | .never => False

/-- A custom period is a number of nanoseconds. -/
def PeriodFits (plan : SubscriptionPlan) : Prop :=
  normalizeResetPeriod plan.quotaResetPeriod = .custom →
    plan.quotaResetCustomSeconds * 1000000000 < 2 ^ 63

theorem addDuration_seconds {start seconds : Int} (hpos : 0 < seconds)
    (hfits : seconds * 1000000000 < 2 ^ 63) :
    addDuration start (seconds * 1000000000) = start + seconds := by
  have hbmod : Int.bmod (seconds * 1000000000) (2 ^ 64) = seconds * 1000000000 :=
    Int.bmod_eq_of_le (by omega) (by omega)
  rw [addDuration, hbmod, Int.mul_ediv_cancel _ (by decide)]

theorem civilOfDays_first {n : Int} :
    (civilOfDays n).2.2 = 1 ↔ n = Civil.monthStart (Civil.monthOf n) := by
  obtain ⟨y, m, d, h⟩ : ∃ y m d, civilOfDays n = (y, m, d) := ⟨_, _, _, rfl⟩
  have hday := (civilOfDays_spec h).2
  rw [h]
  constructor <;> intro _ <;> simp only at * <;> omega

section Fixed

variable {offset : Int} {hoffset : -86400 < offset ∧ offset < 86400} {plan : SubscriptionPlan}
  {sub sub' : UserSubscription} {now base : Int}

theorem fixed_clock (t : Int) : (Zone.fixed offset hoffset).clock t = t + offset := rfl

theorem fixed_date (l : Int) : (Zone.fixed offset hoffset).date l = l - offset := rfl

@[simp] theorem fixed_skip (l : Int) : (Zone.fixed offset hoffset).skip l = 0 := by
  simp only [Zone.skip, fixed_clock, fixed_date]
  omega

theorem fixed_periodEnd_monthly (n : Int) :
    (Zone.fixed offset hoffset).periodEnd .monthly n =
      86400 * Civil.monthStart (Civil.monthOf n + 1) - offset := by
  rw [Zone.periodEnd_monthly _ rfl, fixed_skip, if_neg (lt_irrefl 0), fixed_date, add_zero]

/-- A base is followed by a start. -/
theorem nextBoundary_isStart (hplan : HasSchedule plan) (hfits : PeriodFits plan) :
    IsStart (Zone.fixed offset hoffset) plan base
        (nextBoundary (Zone.fixed offset hoffset) plan base) ∧
      base < nextBoundary (Zone.fixed offset hoffset) plan base := by
  obtain ⟨hnever, hcustom⟩ := hplan
  unfold PeriodFits at hfits
  unfold IsStart nextBoundary
  generalize normalizeResetPeriod plan.quotaResetPeriod = period at *
  cases period with
  | daily =>
    simp only [reduceCtorEq, if_false, Zone.periodEnd_daily, fixed_skip, fixed_clock, fixed_date,
      Zone.day]
    omega
  | weekly =>
    simp only [reduceCtorEq, if_false, Zone.periodEnd_weekly, fixed_skip, fixed_clock, fixed_date,
      Zone.day, Zone.weekday]
    omega
  | monthly =>
    obtain ⟨-, hlt⟩ := Civil.monthOf_spec ((base + offset) / 86400)
    simp only [reduceCtorEq, if_false, fixed_periodEnd_monthly, fixed_clock, Zone.day]
    generalize hk : Civil.monthOf ((base + offset) / 86400) = k at *
    have hday : (86400 * Civil.monthStart (k + 1) - offset + offset) / 86400 =
        Civil.monthStart (k + 1) := by omega
    rw [hday, civilOfDays_first, Civil.monthOf_monthStart]
    omega
  | custom =>
    have hpos := hcustom rfl
    simp only [if_true, if_neg (not_le.mpr hpos), addDuration_seconds hpos (hfits rfl)]
    refine ⟨⟨hpos, ?_⟩, by omega⟩
    rw [add_sub_cancel_left]
  | never => exact absurd rfl hnever

/-- No start lies between a base and the one that follows it. -/
theorem nextBoundary_le {r : Int} (hfits : PeriodFits plan)
    (hstart : IsStart (Zone.fixed offset hoffset) plan base r) (hlt : base < r) :
    nextBoundary (Zone.fixed offset hoffset) plan base ≤ r := by
  unfold PeriodFits at hfits
  unfold IsStart at hstart
  unfold nextBoundary
  generalize normalizeResetPeriod plan.quotaResetPeriod = period at *
  cases period with
  | daily =>
    simp only [reduceCtorEq, if_false, Zone.periodEnd_daily, fixed_skip, fixed_clock, fixed_date,
      Zone.day] at *
    omega
  | weekly =>
    simp only [reduceCtorEq, if_false, Zone.periodEnd_weekly, fixed_skip, fixed_clock, fixed_date,
      Zone.day, Zone.weekday] at *
    omega
  | monthly =>
    simp only [reduceCtorEq, if_false, fixed_periodEnd_monthly, fixed_clock, Zone.day,
      civilOfDays_first] at *
    obtain ⟨hmidnight, hfirst⟩ := hstart
    have hday : (base + offset) / 86400 < (r + offset) / 86400 := by omega
    -- a first that comes later belongs to a later month
    have hmonth : Civil.monthOf ((base + offset) / 86400) < Civil.monthOf ((r + offset) / 86400) := by
      rw [← Civil.monthStart_strictMono.lt_iff_lt, ← hfirst]
      exact (Civil.monthOf_spec _).1.trans_lt hday
    have hle : Civil.monthStart (Civil.monthOf ((base + offset) / 86400) + 1) ≤
        (r + offset) / 86400 := by
      rw [hfirst]
      exact Civil.monthStart_strictMono.monotone (by omega)
    omega
  | custom =>
    obtain ⟨hpos, k, hk⟩ := hstart
    simp only [if_true, if_neg (not_le.mpr hpos), addDuration_seconds hpos (hfits rfl)]
    have hk₁ : 0 < k := by
      by_contra hneg
      have := Int.mul_le_mul_of_nonneg_left (show k ≤ 0 by omega) hpos.le
      omega
    have := Int.mul_le_mul_of_nonneg_left (show 1 ≤ k by omega) hpos.le
    omega
  | never => exact hstart.elim

theorem IsStart.hasSchedule {z : Zone} {anchor r : Int} (h : IsStart z plan anchor r) :
    HasSchedule plan := by
  unfold IsStart at h
  unfold HasSchedule
  split at h <;> simp_all

theorem nextBoundary_eq_zero {z : Zone} (h : ¬HasSchedule plan) : nextBoundary z plan base = 0 := by
  unfold HasSchedule at h
  unfold nextBoundary
  generalize normalizeResetPeriod plan.quotaResetPeriod = period at *
  cases period with
  | custom =>
    have : ¬0 < plan.quotaResetCustomSeconds := by simpa using h
    rw [if_pos rfl, if_pos (by omega)]
  | never => simp
  | daily => simp at h
  | weekly => simp at h
  | monthly => simp at h

theorem fixed_resetEnds (hfits : PeriodFits plan) (sub : UserSubscription) (now : Int) :
    ResetEnds (Zone.fixed offset hoffset) plan sub now := by
  apply resetEnds
  rintro (hearly | ⟨hcustom, hpos, hzero⟩)
  · unfold Zone.StartsEarly Zone.ReadsEarly at hearly
    split at hearly <;> simp at hearly
  · rw [addDuration_seconds hpos (hfits hcustom)] at hzero
    omega

/-- A reset that was scheduled since the last one has come, and the subscription did not end
    before it. -/
def ResetDue (z : Zone) (plan : SubscriptionPlan) (sub : UserSubscription) (now : Int) : Prop :=
  ∃ r, IsStart z plan sub.resetBase r ∧ sub.resetBase < r ∧ r ≤ now ∧ r ≤ sub.endTime

theorem resetDue_iff (hfits : PeriodFits plan) :
    ResetDue (Zone.fixed offset hoffset) plan sub now ↔
      HasSchedule plan ∧
        nextBoundary (Zone.fixed offset hoffset) plan sub.resetBase ≤ now ∧
        nextBoundary (Zone.fixed offset hoffset) plan sub.resetBase ≤ sub.endTime := by
  constructor
  · rintro ⟨r, hstart, hlt, hnow, hend⟩
    have hle := nextBoundary_le hfits hstart hlt
    exact ⟨hstart.hasSchedule, hle.trans hnow, hle.trans hend⟩
  · rintro ⟨hplan, hnow, hend⟩
    obtain ⟨hstart, hlt⟩ := nextBoundary_isStart hplan hfits
    exact ⟨_, hstart, hlt, hnow, hend⟩

/-- What a run should leave. -/
structure ResetPost (z : Zone) (plan : SubscriptionPlan) (sub : UserSubscription) (now : Int)
    (sub' : UserSubscription) : Prop where
  next : sub'.nextResetTime = 0 ∨ now < sub'.nextResetTime ∧ sub'.nextResetTime ≤ sub'.endTime
  last : sub'.lastResetTime ≤ now
  zeroed : ResetDue z plan sub now → sub'.amountUsed = 0
  kept : ¬ResetDue z plan sub now → sub'.amountUsed = sub.amountUsed

/-- The stored times agree with the schedule of the plan. -/
structure ScheduleCurrent (z : Zone) (plan : SubscriptionPlan) (sub : UserSubscription)
    (now : Int) : Prop where
  last : sub.lastResetTime ≤ now
  due : ResetDue z plan sub now →
    sub.nextResetTime ≤ now ∨ sub.nextResetTime ≤ sub.endTime ∧ sub.amountUsed = 0
  not_due : ¬ResetDue z plan sub now →
    sub.nextResetTime = 0 ∨ now < sub.nextResetTime ∧ sub.nextResetTime ≤ sub.endTime
  /-- The first reset can be written down. -/
  planned : ¬ResetDue z plan sub now → sub.nextResetTime = 0 →
    (∃ r, IsStart z plan sub.resetBase r ∧ sub.resetBase < r ∧
      (sub.endTime ≤ 0 ∨ r ≤ sub.endTime)) →
    0 < sub.endTime ∧ sub.resetBase ≤ now

theorem exists_start_iff (hfits : PeriodFits plan) :
    (∃ r, IsStart (Zone.fixed offset hoffset) plan sub.resetBase r ∧ sub.resetBase < r ∧
      (sub.endTime ≤ 0 ∨ r ≤ sub.endTime)) ↔
      HasSchedule plan ∧
        (sub.endTime ≤ 0 ∨
          nextBoundary (Zone.fixed offset hoffset) plan sub.resetBase ≤ sub.endTime) := by
  constructor
  · rintro ⟨r, hstart, hlt, hend⟩
    have hle := nextBoundary_le hfits hstart hlt
    exact ⟨hstart.hasSchedule, hend.imp_right hle.trans⟩
  · rintro ⟨hplan, hend⟩
    obtain ⟨hstart, hlt⟩ := nextBoundary_isStart hplan hfits
    exact ⟨_, hstart, hlt, hend⟩

theorem resetBase_pos (hstart : 0 < sub.startTime) : 0 < sub.resetBase := by
  unfold UserSubscription.resetBase
  split <;> omega

theorem lastResetTime_le_resetBase (hstart : 0 < sub.startTime) :
    sub.lastResetTime ≤ sub.resetBase := by
  unfold UserSubscription.resetBase
  split <;> omega

/-- A run that changes nothing leaves what it should if that is there already. -/
theorem resetPost_self_iff {z : Zone} :
    ResetPost z plan sub now sub ↔
      (sub.nextResetTime = 0 ∨ now < sub.nextResetTime ∧ sub.nextResetTime ≤ sub.endTime) ∧
        sub.lastResetTime ≤ now ∧ (ResetDue z plan sub now → sub.amountUsed = 0) :=
  ⟨fun h => ⟨h.next, h.last, h.zeroed⟩, fun h => ⟨h.1, h.2.1, h.2.2, fun _ => rfl⟩⟩

/-- The run of a subscription that is not waiting. -/
theorem ResetRun.not_waits {z : Zone} (hplan : HasSchedule plan) (hwaits : ¬ResetWaits sub now)
    (h : ResetRun z plan sub now sub') :
    let calcNext := fun b => calcNextResetTime z.calendar b plan sub.endTime
    if 0 < calcNext sub.resetBase ∧ calcNext sub.resetBase ≤ now then
      ∃ b, 0 < b ∧ b ≤ now ∧ ¬(0 < calcNext b ∧ calcNext b ≤ now) ∧
        sub' = sub.applyResetTimes (.due b (calcNext b))
    else sub' = sub.applyResetTimes (.notDue sub.resetBase (calcNext sub.resetBase)) := by
  intro calcNext
  rw [resetRun_iff hwaits hplan.1] at h
  obtain ⟨times, htimes, rfl⟩ := h
  rw [catchesUp_iff] at htimes
  split
  · rename_i hdue
    rw [if_pos hdue] at htimes
    obtain ⟨b, advanced, rfl, hbase, hnext, -⟩ := htimes.exists_base le_rfl
    have hb : 0 < b ∧ b ≤ now ∧ advanced = true := by
      rcases hbase with ⟨rfl, hadv⟩ | hbase
      · exact ⟨hdue.1, hdue.2, hadv⟩
      · exact hbase
    refine ⟨b, hb.1, hb.2.1, hnext, ?_⟩
    rw [hb.2.2, caughtUp, if_pos rfl]
  · rw [if_neg ‹_›] at htimes
    rw [htimes, caughtUp, if_neg Bool.false_ne_true]

/-! ## What a run leaves -/

theorem resetPost_iff_of_waits {z : Zone} (hwaits : ResetWaits sub now) :
    ResetPost z plan sub now sub ↔ ScheduleCurrent z plan sub now := by
  rw [resetPost_self_iff]
  unfold ResetWaits at hwaits
  constructor
  · rintro ⟨hnext, hlast, hused⟩
    have hend := (hnext.resolve_left (by omega)).2
    exact ⟨hlast, fun hdue => .inr ⟨hend, hused hdue⟩, fun _ => .inr ⟨hwaits.2, hend⟩,
      fun _ hzero => by omega⟩
  · intro hcur
    by_cases hdue : ResetDue z plan sub now
    · obtain ⟨hend, hused⟩ := (hcur.due hdue).resolve_left (by omega)
      exact ⟨.inr ⟨hwaits.2, hend⟩, hcur.last, fun _ => hused⟩
    · exact ⟨hcur.not_due hdue, hcur.last, fun h => absurd h hdue⟩

/-- No start is left before the subscription ends. -/
theorem resetPost_iff_of_none {z : Zone}
    (hnone : ¬∃ r, IsStart z plan sub.resetBase r ∧ sub.resetBase < r ∧
      (sub.endTime ≤ 0 ∨ r ≤ sub.endTime)) :
    ResetPost z plan sub now sub ↔ ScheduleCurrent z plan sub now := by
  have hnotdue : ¬ResetDue z plan sub now := by
    rintro ⟨r, hr, hlt, -, hend⟩
    exact hnone ⟨r, hr, hlt, .inr hend⟩
  rw [resetPost_self_iff]
  constructor
  · rintro ⟨hnext, hlast, -⟩
    exact ⟨hlast, fun h => absurd h hnotdue, fun _ => hnext, fun _ _ h => absurd h hnone⟩
  · intro hcur
    exact ⟨hcur.not_due hnotdue, hcur.last, fun h => absurd h hnotdue⟩

/-- A start has come. -/
theorem resetPost_iff_of_due {b : Int} (hplan : HasSchedule plan) (hfits : PeriodFits plan)
    (hlast : sub.lastResetTime ≤ now) (hpast : sub.nextResetTime ≤ now)
    (hle : nextBoundary (Zone.fixed offset hoffset) plan sub.resetBase ≤ now)
    (hcut : ¬(0 < sub.endTime ∧
      sub.endTime < nextBoundary (Zone.fixed offset hoffset) plan sub.resetBase))
    (hpos : 0 < nextBoundary (Zone.fixed offset hoffset) plan sub.resetBase)
    (hb : 0 < b) (hbnow : b ≤ now)
    (hnext : ¬(0 < calcNextResetTime (Zone.fixed offset hoffset).calendar b plan sub.endTime ∧
      calcNextResetTime (Zone.fixed offset hoffset).calendar b plan sub.endTime ≤ now)) :
    ResetPost (Zone.fixed offset hoffset) plan sub now (sub.applyResetTimes
        (.due b (calcNextResetTime (Zone.fixed offset hoffset).calendar b plan sub.endTime))) ↔
      ScheduleCurrent (Zone.fixed offset hoffset) plan sub now := by
  have hafter := (@nextBoundary_isStart offset hoffset plan b hplan hfits).2
  by_cases hend : 0 < sub.endTime
  · have hdue : ResetDue (Zone.fixed offset hoffset) plan sub now :=
      (resetDue_iff hfits).mpr ⟨hplan, hle, by omega⟩
    constructor
    · rintro -
      exact ⟨hlast, fun _ => .inl hpast, fun h => absurd hdue h, fun h => absurd hdue h⟩
    · rintro -
      refine ⟨?_, hbnow, fun _ => rfl, fun h => absurd hdue h⟩
      simp only [UserSubscription.applyResetTimes]
      rw [calcNextResetTime_eq] at hnext ⊢
      split
      · exact .inl rfl
      · rw [if_neg ‹_›] at hnext
        omega
  · -- the end is not set, and the next reset lies after it
    have hnotdue : ¬ResetDue (Zone.fixed offset hoffset) plan sub now := fun hdue => by
      have := ((resetDue_iff hfits).mp hdue).2.2
      omega
    rw [calcNextResetTime_eq, if_neg (by omega)] at hnext ⊢
    constructor
    · intro hpost
      have := hpost.next
      simp only [UserSubscription.applyResetTimes] at this
      omega
    · intro hcur
      have hzero := (hcur.not_due hnotdue).resolve_right fun h => not_lt.mpr hpast h.1
      have hexists := (@exists_start_iff offset hoffset plan sub hfits).mpr
        ⟨hplan, .inl (by omega)⟩
      exact absurd (hcur.planned hnotdue hzero hexists).1 hend

/-- The next start is ahead. -/
theorem resetPost_iff_of_ahead (hplan : HasSchedule plan) (hfits : PeriodFits plan)
    (hlast : sub.lastResetTime ≤ sub.resetBase) (hpast : sub.nextResetTime ≤ now)
    (hlt : now < nextBoundary (Zone.fixed offset hoffset) plan sub.resetBase)
    (hcut : ¬(0 < sub.endTime ∧
      sub.endTime < nextBoundary (Zone.fixed offset hoffset) plan sub.resetBase)) :
    ResetPost (Zone.fixed offset hoffset) plan sub now (sub.applyResetTimes
        (.notDue sub.resetBase (nextBoundary (Zone.fixed offset hoffset) plan sub.resetBase))) ↔
      ScheduleCurrent (Zone.fixed offset hoffset) plan sub now := by
  have hnotdue : ¬ResetDue (Zone.fixed offset hoffset) plan sub now := fun hdue => by
    have := ((resetDue_iff hfits).mp hdue).2.1
    omega
  have hexists := (@exists_start_iff offset hoffset plan sub hfits).mpr
    ⟨hplan, by omega⟩
  rw [UserSubscription.applyResetTimes]
  by_cases hzero : sub.nextResetTime = 0
  · rw [if_pos ⟨hzero, by omega⟩]
    constructor
    · rintro ⟨hnext, hbase, -, -⟩
      simp only at hnext hbase
      exact ⟨by omega, fun h => absurd h hnotdue, fun _ => .inl hzero, fun _ _ _ => by omega⟩
    · intro hcur
      obtain ⟨hend, hbase⟩ := hcur.planned hnotdue hzero hexists
      refine ⟨.inr ?_, hbase, fun h => absurd h hnotdue, fun _ => rfl⟩
      simp only
      omega
  · -- a reset that is stored for the past stays
    have hstale : ¬(sub.nextResetTime = 0 ∨
        now < sub.nextResetTime ∧ sub.nextResetTime ≤ sub.endTime) :=
      not_or.mpr ⟨hzero, fun h => not_lt.mpr hpast h.1⟩
    rw [if_neg (fun h => hzero h.1), resetPost_self_iff]
    constructor
    · rintro ⟨hnext, -⟩
      exact absurd hnext hstale
    · intro hcur
      exact absurd (hcur.not_due hnotdue) hstale

theorem ResetRun.eq_of_not_hasSchedule {z : Zone} (hplan : ¬HasSchedule plan)
    (h : ResetRun z plan sub now sub') : sub' = sub := by
  by_cases hwaits : ResetWaits sub now
  · exact (resetRun_of_waits hwaits).mp h
  by_cases hperiod : normalizeResetPeriod plan.quotaResetPeriod = .never
  · exact (resetRun_of_never hwaits hperiod).mp h
  · rw [resetRun_iff hwaits hperiod] at h
    obtain ⟨times, htimes, rfl⟩ := h
    rw [catchesUp_iff, calcNextResetTime_eq, nextBoundary_eq_zero hplan] at htimes
    simp only [ite_self, lt_irrefl, false_and, if_false] at htimes
    rw [htimes, caughtUp, if_neg Bool.false_ne_true, calcNextResetTime_eq,
      nextBoundary_eq_zero hplan, ite_self]
    exact if_neg (by simp)

/-- A run leaves what it should exactly if the stored times agree with the schedule. -/
theorem resetPost_iff (hfits : PeriodFits plan) (hstart : 0 < sub.startTime) (hnow : 0 < now)
    (h : ResetRun (Zone.fixed offset hoffset) plan sub now sub') :
    ResetPost (Zone.fixed offset hoffset) plan sub now sub' ↔
      ScheduleCurrent (Zone.fixed offset hoffset) plan sub now := by
  have hbase := resetBase_pos hstart
  have hlast := lastResetTime_le_resetBase hstart
  by_cases hwaits : ResetWaits sub now
  · rw [(resetRun_of_waits hwaits).mp h]
    exact resetPost_iff_of_waits hwaits
  have hpast : sub.nextResetTime ≤ now := by
    unfold ResetWaits at hwaits
    omega
  by_cases hplan : HasSchedule plan
  · have hrun := h.not_waits hplan hwaits
    have hlt := (@nextBoundary_isStart offset hoffset plan sub.resetBase hplan hfits).2
    simp only [calcNextResetTime_eq _ sub.resetBase] at hrun
    by_cases hcut : 0 < sub.endTime ∧
        sub.endTime < nextBoundary (Zone.fixed offset hoffset) plan sub.resetBase
    · rw [if_pos hcut, if_neg (by simp), UserSubscription.applyResetTimes, if_neg (by simp)] at hrun
      rw [hrun]
      apply resetPost_iff_of_none
      rw [exists_start_iff hfits]
      omega
    · rw [if_neg hcut] at hrun
      by_cases hle : nextBoundary (Zone.fixed offset hoffset) plan sub.resetBase ≤ now
      · rw [if_pos ⟨by omega, hle⟩] at hrun
        obtain ⟨b, hb, hbnow, hnext, rfl⟩ := hrun
        exact resetPost_iff_of_due hplan hfits (by omega) hpast hle hcut (by omega) hb hbnow hnext
      · rw [if_neg (by omega)] at hrun
        rw [hrun]
        exact resetPost_iff_of_ahead hplan hfits hlast hpast (by omega) hcut
  · rw [h.eq_of_not_hasSchedule hplan]
    apply resetPost_iff_of_none
    rintro ⟨r, hr, -⟩
    exact hplan hr.hasSchedule

/-! ## One plan -/

/-- The stored reset is the one that the plan schedules after the last. -/
structure OnSchedule (z : Zone) (plan : SubscriptionPlan) (sub : UserSubscription) : Prop where
  start : 0 < sub.startTime
  ends : 0 < sub.endTime
  next : sub.nextResetTime = calcNextResetTime z.calendar sub.resetBase plan sub.endTime

/-- As `CreateUserSubscriptionFromPlanTx` stores it. -/
theorem createUserSubscriptionFromPlan_onSchedule {db db' : SubscriptionDB} {z : Zone}
    {t : Timestamp} {userId : Int}
    (h : db.createUserSubscriptionFromPlan z.calendar t userId plan = .ok (sub, db'))
    (hend : 0 < sub.endTime) : OnSchedule z plan sub ∧ sub.resetBase = t.unix := by
  simp only [SubscriptionDB.createUserSubscriptionFromPlan] at h
  split at h
  · cases h
  split at h
  · cases h
  split at h
  · cases h
  split at h
  · cases h
  simp only [Except.ok.injEq, Prod.mk.injEq] at h
  obtain ⟨rfl, -⟩ := h
  have hpos := t.pos
  have hbase : ∀ {next : Int}, (if (if 0 < next then t.unix else 0) ≤ 0 then t.unix
      else (if 0 < next then t.unix else 0)) = t.unix := by
    intro next
    split_ifs <;> omega
  refine ⟨⟨hpos, hend, ?_⟩, hbase⟩
  simp only [UserSubscription.resetBase, hbase]

theorem OnSchedule.current (h : OnSchedule (Zone.fixed offset hoffset) plan sub)
    (hfits : PeriodFits plan) (hbase : sub.resetBase ≤ now) (hnow : 0 < now) :
    ScheduleCurrent (Zone.fixed offset hoffset) plan sub now := by
  obtain ⟨hstart, hend, hnext⟩ := h
  have hlast := lastResetTime_le_resetBase hstart
  have hpos := resetBase_pos hstart
  have hdue_iff := @resetDue_iff offset hoffset plan sub now hfits
  rw [calcNextResetTime_eq] at hnext
  refine ⟨by omega, fun hdue => .inl ?_, fun hnotdue => ?_, fun _ _ _ => ⟨hend, hbase⟩⟩
  · have hle := (hdue_iff.mp hdue).2.1
    split at hnext <;> omega
  · split at hnext
    · exact .inl hnext
    · by_cases hplan : HasSchedule plan
      · rw [hdue_iff] at hnotdue
        have hlt : ¬nextBoundary (Zone.fixed offset hoffset) plan sub.resetBase ≤ now := fun hle =>
          hnotdue ⟨hplan, hle, by omega⟩
        right
        omega
      · rw [nextBoundary_eq_zero hplan] at hnext
        exact .inl hnext

theorem OnSchedule.run {z : Zone} (h : OnSchedule z plan sub)
    (hbase : sub.resetBase ≤ now) (hrun : ResetRun z plan sub now sub') :
    OnSchedule z plan sub' ∧ sub'.resetBase ≤ now := by
  by_cases hplan : HasSchedule plan
  · by_cases hwaits : ResetWaits sub now
    · rw [(resetRun_of_waits hwaits).mp hrun]
      exact ⟨h, hbase⟩
    · have hcases := hrun.not_waits hplan hwaits
      simp only at hcases
      split at hcases
      · obtain ⟨b, hb, hbnow, -, rfl⟩ := hcases
        have hbase' : (sub.applyResetTimes
            (.due b (calcNextResetTime z.calendar b plan sub.endTime))).resetBase = b :=
          if_neg (not_le.mpr hb)
        exact ⟨⟨h.start, h.ends, by rw [hbase']; rfl⟩, by rw [hbase']; exact hbnow⟩
      · have hsame : sub' = sub := by
          rw [hcases, UserSubscription.applyResetTimes]
          apply if_neg
          rw [← h.next]
          omega
        rw [hsame]
        exact ⟨h, hbase⟩
  · rw [hrun.eq_of_not_hasSchedule hplan]
    exact ⟨h, hbase⟩

/-- A run catches up with the schedule whenever it is made, and leaves what it should exactly if
    the stored times agree with the schedule; under one plan they always do. -/
theorem resetSchedule_independent (offset : Int)
    (hoffset : -86400 < offset ∧ offset < 86400) (plan : SubscriptionPlan)
    (hfits : PeriodFits plan) (sub : UserSubscription) (hstart : 0 < sub.startTime) :
    let z := Zone.fixed offset hoffset
    (∀ now, ∃ sub', ∀ s, ResetRun z plan sub now s ↔ s = sub') ∧
    (∀ t₁ t₂ sub₁ sub₂, t₁ ≤ t₂ → ResetRun z plan sub t₁ sub₁ → ResetRun z plan sub₁ t₂ sub₂ →
      ResetRun z plan sub t₂ sub₂) ∧
    (∀ (now : Timestamp) (sub' : UserSubscription), ResetRun z plan sub now.unix sub' →
      (ResetPost z plan sub now.unix sub' ↔ ScheduleCurrent z plan sub now.unix)) ∧
    (OnSchedule z plan sub → ∀ (now : Timestamp) (sub' : UserSubscription),
      sub.resetBase ≤ now.unix → ResetRun z plan sub now.unix sub' →
        ResetPost z plan sub now.unix sub' ∧ OnSchedule z plan sub' ∧
          sub'.resetBase ≤ now.unix) := by
  intro z
  refine ⟨?_, ?_, ?_, ?_⟩
  · intro now
    obtain ⟨sub', hrun⟩ := exists_resetRun (@fixed_resetEnds offset hoffset plan hfits sub now)
    refine ⟨sub', fun s => ⟨fun h => h.unique hrun, ?_⟩⟩
    rintro rfl
    exact hrun
  · intro t₁ t₂ sub₁ sub₂ hle h₁ h₂
    exact h₁.trans hle h₂
  · intro now sub' hrun
    exact resetPost_iff hfits hstart now.pos hrun
  · intro hschedule now sub' hbase hrun
    have hcurrent := hschedule.current hfits hbase now.pos
    exact ⟨(resetPost_iff hfits hstart now.pos hrun).mpr hcurrent, hschedule.run hbase hrun⟩

/-- A monthly plan in UTC. -/
theorem resetSchedule_independent_monthly :
    ∃ sub', ∀ s,
      ResetRun (Zone.fixed 0 (by decide)) { id := 1, quotaResetPeriod := "monthly" }
        (freshSubscription 1705312800 1736935200) 1705366800 s ↔ s = sub' :=
  (resetSchedule_independent 0 (by decide) { id := 1, quotaResetPeriod := "monthly" }
    (fun h => absurd h (by decide)) (freshSubscription 1705312800 1736935200)
    (by decide)).1 1705366800

end Fixed

/-- A subscription under a daily plan that was bought on 2024-01-15 at 10:00 UTC; then the plan
    is made a monthly one. The reset that is stored for the next midnight stays there when
    midnight has passed. -/
theorem edited_plan_stale :
    let bought : UserSubscription :=
      { freshSubscription 1705312800 1736935200 with
        lastResetTime := 1705312800
        nextResetTime := calcNextResetTime (Zone.fixed 0 (by decide)).calendar 1705312800
          { id := 1, quotaResetPeriod := "daily" } 1736935200 }
    bought.nextResetTime = 1705363200 ∧
      ResetRun (Zone.fixed 0 (by decide)) { id := 1, quotaResetPeriod := "monthly" } bought
        1705366800 bought ∧
      ¬ResetPost (Zone.fixed 0 (by decide)) { id := 1, quotaResetPeriod := "monthly" } bought
        1705366800 bought := by
  have hnext : calcNextResetTime (Zone.fixed 0 (by decide)).calendar 1705312800
      { id := 1, quotaResetPeriod := "daily" } 1736935200 = 1705363200 := by decide
  intro bought
  have hbought : bought.nextResetTime = 1705363200 := hnext
  refine ⟨hbought, ⟨1, ?_⟩, ?_⟩
  · decide
  · intro hpost
    have := hpost.next
    rw [hbought] at this
    omega

end TokenRouter
