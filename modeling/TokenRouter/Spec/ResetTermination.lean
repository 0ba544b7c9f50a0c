import TokenRouter.Model.ResetSchedule
import Mathlib.Logic.Relation

/-!
# When the reset loop ends

The loop of `maybeResetUserSubscriptionWithPlanTx` counts a period from the local midnight that
starts it. Where daylight saving time removes that midnight, `time.Date` may read it as an
instant of the day before, and the period that is counted from there ends on the day it is
counted for: the loop comes back to the same instant for ever.

## Key results

- `Zone.periodEnd_advances`: a period ends on a later day, if no start is read early
- `Zone.exists_fixed`: a start that is read early is its own successor
-/

namespace TokenRouter

/-! ## The loop -/

section CatchUp

variable {calcNext : Int → Int} {now : Int}

/-- One round of the loop. -/
def CatchUpStep (calcNext : Int → Int) (now base base' : Int) : Prop :=
  base' = calcNext base ∧ 0 < base' ∧ base' ≤ now

/-- The loop ends if its rounds shrink a measure. -/
theorem catchUp_ends (measure : Int → Nat)
    (hstep : ∀ b b', CatchUpStep calcNext now b b' → measure b' < measure b) (base : Int)
    (advanced : Bool) : ∃ fuel, catchUp calcNext now fuel base (calcNext base) advanced ≠ none := by
  induction hm : measure base using Nat.strong_induction_on generalizing base advanced with
  | _ m ih =>
    by_cases hdue : 0 < calcNext base ∧ calcNext base ≤ now
    · have hlt := hstep base _ ⟨rfl, hdue.1, hdue.2⟩
      obtain ⟨fuel, hfuel⟩ := ih _ (hm ▸ hlt) (calcNext base) true rfl
      refine ⟨fuel + 1, ?_⟩
      rw [catchUp, if_pos hdue]
      exact hfuel
    · refine ⟨1, ?_⟩
      rw [catchUp, if_neg hdue]
      simp

/-- A base that is its own successor is never left. -/
theorem catchUp_eq_none {b : Int} (hfix : calcNext b = b) (hpos : 0 < b) (hnow : b ≤ now)
    (fuel : Nat) (base : Int) (advanced : Bool) :
    catchUp calcNext now fuel base b advanced = none := by
  induction fuel generalizing base advanced with
  | zero => rfl
  | succ fuel ih =>
    rw [catchUp, if_pos ⟨hpos, hnow⟩, hfix]
    exact ih b true

end CatchUp

/-! ## Midnights -/

namespace Zone

variable {z : Zone}

/-- How much later than `l` the clock shows when `time.Date` reads `l`. -/
def skip (z : Zone) (l : Int) : Int := z.clock (z.date l) - l

theorem clock_date (z : Zone) (l : Int) : z.clock (z.date l) = l + z.skip l := by
  unfold skip
  omega

theorem skip_cases (z : Zone) (l : Int) :
    (-43200 ≤ z.skip l ∧ z.skip l ≤ 43200) ∨
      (z.skip l = 86400 ∨ z.skip l = -86400) ∧ ∀ t, z.day t ≠ l / 86400 := by
  rcases z.date_of_gap l with h | ⟨h, hday⟩
  · left
    exact abs_le.mp h
  · right
    exact ⟨eq_or_eq_neg_of_abs_eq h, hday⟩

theorem skip_range (z : Zone) (l : Int) : -86400 ≤ z.skip l ∧ z.skip l ≤ 86400 := by
  rcases z.skip_cases l with h | ⟨h | h, -⟩ <;> omega

/-- The midnight of a day that the clock shows is off by half a day at most. -/
theorem skip_of_shown {n t : Int} (h : z.day t = n) :
    -43200 ≤ z.skip (86400 * n) ∧ z.skip (86400 * n) ≤ 43200 := by
  rcases z.skip_cases (86400 * n) with h' | ⟨-, hday⟩
  · exact h'
  · exact absurd (h.trans (by omega)) (hday t)

theorem gaps_eq {l l' : Int} (h : z.skip l ≠ 0) (h' : z.skip l' ≠ 0) (hlt : l < l')
    (hmonth : l' - l ≤ 32 * 86400) : l' - l < |z.skip l| ∧ l' - l < |z.skip l'| := by
  unfold skip clock at *
  exact z.gaps_apart l l' (by omega) (by omega) hlt hmonth

/-- Behind a gap a clock shows every time for a month. -/
theorem skip_after {l l' : Int} (h : z.skip l ≠ 0) (hlt : l < l') (hmonth : l' - l ≤ 32 * 86400)
    (hpos : z.skip l ≤ l' - l) (hneg : -z.skip l ≤ l' - l) : z.skip l' = 0 := by
  by_contra h'
  have hnear := (gaps_eq h h' hlt hmonth).1
  have := abs_le.mpr ⟨by omega, hpos⟩
  omega

theorem skip_before {l l' : Int} (h : z.skip l' ≠ 0) (hlt : l < l') (hmonth : l' - l ≤ 32 * 86400)
    (hpos : z.skip l' ≤ l' - l) (hneg : -z.skip l' ≤ l' - l) : z.skip l = 0 := by
  by_contra h'
  have hnear := (gaps_eq h' h hlt hmonth).2
  have := abs_le.mpr ⟨by omega, hpos⟩
  omega

/-! ## The end of a period -/

theorem periodEnd_daily (z : Zone) (n : Int) :
    z.periodEnd .daily n = z.date (86400 * (n + 1) + z.skip (86400 * n)) := by
  simp only [periodEnd, addDate_days, clock_date]
  congr 1
  omega

theorem periodEnd_weekly (z : Zone) (n : Int) :
    z.periodEnd .weekly n = z.date (86400 * (n + 8 - weekday n) + z.skip (86400 * n)) := by
  simp only [periodEnd, addDate_days, clock_date]
  congr 1
  omega

/-- A start that is read early lies in the month before, and the month is counted from there. -/
theorem periodEnd_monthly (z : Zone) {n first : Int}
    (hfirst : first = Civil.monthStart (Civil.monthOf n)) :
    z.periodEnd .monthly n =
      if z.skip (86400 * first) < 0 then
        z.date (86400 * (2 * first - Civil.monthStart (Civil.monthOf n - 1)) +
          z.skip (86400 * first))
      else
        z.date (86400 * Civil.monthStart (Civil.monthOf n + 1) + z.skip (86400 * first)) := by
  have hlength := Civil.monthStart_succ (Civil.monthOf n)
  have hbefore := Civil.monthStart_succ (Civil.monthOf n - 1)
  have hrange := z.skip_range (86400 * first)
  rw [sub_add_cancel] at hbefore
  rw [← hfirst] at hlength hbefore
  simp only [periodEnd, addDate_months, day, clock_date, ← hfirst]
  generalize z.skip (86400 * first) = s at *
  split
  · have hday : (86400 * first + s) / 86400 = first - 1 := by omega
    have hmonth : Civil.monthOf (first - 1) = Civil.monthOf n - 1 := by
      rw [Civil.monthOf_eq_iff, sub_add_cancel, ← hfirst]
      omega
    rw [hday, hmonth, sub_add_cancel, ← hfirst]
    congr 1
    omega
  · have hmonth : Civil.monthOf ((86400 * first + s) / 86400) = Civil.monthOf n := by
      rw [Civil.monthOf_eq_iff, ← hfirst]
      omega
    rw [hmonth, ← hfirst]
    congr 1
    omega

/-- The midnight that starts a day is removed by a gap and read as an instant of the day
    before. -/
def ReadsEarly (z : Zone) (n : Int) : Prop := z.skip (86400 * n) < 0

/-- A period starts at a midnight that is read early: as the end of the period before, or as
    the instant from which the period itself is counted. -/
def StartsEarly (z : Zone) : ResetPeriod → Prop
  | .daily => ∃ n, z.ReadsEarly n ∧ (0 < z.date (86400 * n) ∨ 0 < z.periodEnd .daily n)
  | .weekly => ∃ n, z.ReadsEarly n ∧
      (weekday n = 1 ∧ 0 < z.date (86400 * n) ∨
        weekday n = 7 ∧ (∃ t, z.day t = n) ∧ 0 < z.periodEnd .weekly n)
  | .monthly => ∃ k, z.ReadsEarly (Civil.monthStart k) ∧
      (0 < z.date (86400 * Civil.monthStart k) ∨
        -- the month before is not the longer one
        Civil.monthStart k - Civil.monthStart (k - 1) ≤
            Civil.monthStart (k + 1) - Civil.monthStart k ∧
          0 < z.periodEnd .monthly (Civil.monthStart k))
  | _ => False

theorem day_date {l n : Int} (h₀ : 86400 * n ≤ l + z.skip l) (h₁ : l + z.skip l < 86400 * (n + 1)) :
    z.day (z.date l) = n := by
  unfold day
  rw [clock_date]
  omega

theorem lt_day_date {l n : Int} (h : 86400 * (n + 1) ≤ l + z.skip l) : n < z.day (z.date l) := by
  unfold day
  rw [clock_date]
  omega

/-- A start that is read early is its own successor. -/
theorem exists_fixed {period : ResetPeriod} (h : z.StartsEarly period) :
    ∃ b, 0 < b ∧ z.periodEnd period (z.day b) = b := by
  cases period with
  | daily =>
    obtain ⟨n, hearly, hpos⟩ := h
    unfold ReadsEarly at hearly
    have hrange := z.skip_range (86400 * n)
    by_cases hstart : 0 < z.date (86400 * n)
    · -- the day before ends at its own last hours
      have hday : z.day (z.date (86400 * n)) = n - 1 := day_date (by omega) (by omega)
      have hexact : z.skip (86400 * (n - 1)) = 0 :=
        skip_before (ne_of_lt hearly) (by omega) (by omega) (by omega) (by omega)
      refine ⟨_, hstart, ?_⟩
      rw [hday, periodEnd_daily, hexact, sub_add_cancel, add_zero]
    · have hend := hpos.resolve_left hstart
      rw [periodEnd_daily] at hend
      -- the day of the date line ends where it starts
      have hhalf : z.skip (86400 * n) ≠ -86400 := by
        intro hline
        rw [hline] at hend
        exact hstart (by convert hend using 2; omega)
      have hshort : -43200 ≤ z.skip (86400 * n) := by
        rcases z.skip_cases (86400 * n) with h | ⟨h | h, -⟩ <;> omega
      have hexact : z.skip (86400 * (n + 1) + z.skip (86400 * n)) = 0 :=
        skip_after (ne_of_lt hearly) (by omega) (by omega) (by omega) (by omega)
      refine ⟨_, hend, ?_⟩
      rw [day_date (n := n) (by omega) (by omega), periodEnd_daily]
  | weekly =>
    obtain ⟨n, hearly, hmonday | hsunday⟩ := h
    · obtain ⟨hmonday, hpos⟩ := hmonday
      unfold ReadsEarly at hearly
      have hrange := z.skip_range (86400 * n)
      have hday : z.day (z.date (86400 * n)) = n - 1 := day_date (by omega) (by omega)
      have hexact : z.skip (86400 * (n - 1)) = 0 :=
        skip_before (ne_of_lt hearly) (by omega) (by omega) (by omega) (by omega)
      have hsunday : n - 1 + 8 - weekday (n - 1) = n := by
        unfold weekday at *
        omega
      refine ⟨_, hpos, ?_⟩
      rw [hday, periodEnd_weekly, hexact, hsunday, add_zero]
    · obtain ⟨hsunday, ⟨t, ht⟩, hpos⟩ := hsunday
      unfold ReadsEarly at hearly
      have hrange := skip_of_shown ht
      have hnext : n + 8 - weekday n = n + 1 := by omega
      rw [periodEnd_weekly, hnext] at hpos
      have hexact : z.skip (86400 * (n + 1) + z.skip (86400 * n)) = 0 :=
        skip_after (ne_of_lt hearly) (by omega) (by omega) (by omega) (by omega)
      refine ⟨_, hpos, ?_⟩
      rw [day_date (n := n) (by omega) (by omega), periodEnd_weekly, hnext]
  | monthly =>
    obtain ⟨k, hearly, hpos⟩ := h
    unfold ReadsEarly at hearly
    have hrange := z.skip_range (86400 * Civil.monthStart k)
    have hlength := Civil.monthStart_succ k
    have hbefore := Civil.monthStart_succ (k - 1)
    rw [sub_add_cancel] at hbefore
    by_cases hstart : 0 < z.date (86400 * Civil.monthStart k)
    · have hday : z.day (z.date (86400 * Civil.monthStart k)) = Civil.monthStart k - 1 :=
        day_date (by omega) (by omega)
      have hmonth : Civil.monthOf (Civil.monthStart k - 1) = k - 1 := by
        rw [Civil.monthOf_eq_iff, sub_add_cancel]
        omega
      have hexact : z.skip (86400 * Civil.monthStart (k - 1)) = 0 :=
        skip_before (ne_of_lt hearly) (by omega) (by omega) (by omega) (by omega)
      refine ⟨_, hstart, ?_⟩
      rw [hday, z.periodEnd_monthly rfl, hmonth, hexact, if_neg (lt_irrefl 0), sub_add_cancel,
        add_zero]
    · obtain ⟨hshorter, hend⟩ := hpos.resolve_left hstart
      refine ⟨_, hend, ?_⟩
      -- the end that is counted from the month before lies in the month itself
      have hmonth : Civil.monthOf (z.day (z.periodEnd .monthly (Civil.monthStart k))) = k := by
        rw [z.periodEnd_monthly rfl, Civil.monthOf_monthStart, if_pos hearly]
        have hexact : z.skip (86400 * (2 * Civil.monthStart k - Civil.monthStart (k - 1)) +
            z.skip (86400 * Civil.monthStart k)) = 0 :=
          skip_after (ne_of_lt hearly) (by omega) (by omega) (by omega) (by omega)
        rw [day_date (n := 2 * Civil.monthStart k - Civil.monthStart (k - 1) - 1)
          (by omega) (by omega), Civil.monthOf_eq_iff]
        omega
      rw [periodEnd, hmonth, periodEnd, Civil.monthOf_monthStart]
  | custom => exact h.elim
  | never => exact h.elim

/-- A period ends on a later day, if no start is read early. -/
theorem periodEnd_advances {period : ResetPeriod} (h : ¬z.StartsEarly period) {n t : Int}
    (hshown : z.day t = n) (hpos : 0 < z.periodEnd period n) :
    n < z.day (z.periodEnd period n) := by
  cases period with
  | daily =>
    have hrange := skip_of_shown hshown
    have hlate : 0 ≤ z.skip (86400 * n) := by
      by_contra hearly
      exact h ⟨n, by unfold ReadsEarly; omega, .inr hpos⟩
    rw [periodEnd_daily] at hpos ⊢
    apply lt_day_date
    by_cases hgap : z.skip (86400 * n) = 0
    · rw [hgap, add_zero] at hpos ⊢
      by_contra hearly
      exact h ⟨n + 1, by unfold ReadsEarly; omega, .inl hpos⟩
    · have hexact : z.skip (86400 * (n + 1) + z.skip (86400 * n)) = 0 :=
        skip_after hgap (by omega) (by omega) (by omega) (by omega)
      omega
  | weekly =>
    have hrange := skip_of_shown hshown
    have hweekday : 1 ≤ weekday n ∧ weekday n ≤ 7 := by
      unfold weekday
      omega
    have hmonday : weekday (n + 8 - weekday n) = 1 := by
      unfold weekday
      omega
    by_cases hgap : z.skip (86400 * n) = 0
    · rw [periodEnd_weekly, hgap, add_zero] at hpos ⊢
      apply lt_day_date
      by_contra hearly
      exact h ⟨n + 8 - weekday n, by unfold ReadsEarly; omega, .inl ⟨hmonday, hpos⟩⟩
    · -- only a Sunday that starts early ends before it is over
      have hsunday : z.skip (86400 * n) < 0 → weekday n ≠ 7 := by
        intro hearly hsunday
        exact h ⟨n, hearly, .inr ⟨hsunday, ⟨t, hshown⟩, hpos⟩⟩
      have hexact : z.skip (86400 * (n + 8 - weekday n) + z.skip (86400 * n)) = 0 :=
        skip_after hgap (by omega) (by omega) (by omega) (by omega)
      rw [periodEnd_weekly]
      apply lt_day_date
      omega
  | monthly =>
    obtain ⟨first, hfirst⟩ : ∃ first, first = Civil.monthStart (Civil.monthOf n) := ⟨_, rfl⟩
    obtain ⟨hle, hlt⟩ := Civil.monthOf_spec n
    have hrange := z.skip_range (86400 * first)
    have hlength := Civil.monthStart_succ (Civil.monthOf n)
    have hbefore := Civil.monthStart_succ (Civil.monthOf n - 1)
    rw [sub_add_cancel] at hbefore
    by_cases hearly : z.skip (86400 * first) < 0
    · have hlonger : Civil.monthStart (Civil.monthOf n + 1) <
          2 * first - Civil.monthStart (Civil.monthOf n - 1) := by
        by_contra hshorter
        refine h ⟨Civil.monthOf n, ?_, .inr ⟨by omega, ?_⟩⟩
        · rw [← hfirst]
          exact hearly
        · simpa only [periodEnd, Civil.monthOf_monthStart] using hpos
      have hexact : z.skip (86400 * (2 * first - Civil.monthStart (Civil.monthOf n - 1)) +
          z.skip (86400 * first)) = 0 :=
        skip_after (ne_of_lt hearly) (by omega) (by omega) (by omega) (by omega)
      rw [z.periodEnd_monthly hfirst, if_pos hearly]
      apply lt_day_date
      omega
    · rw [z.periodEnd_monthly hfirst, if_neg hearly] at hpos ⊢
      apply lt_day_date
      by_cases hgap : z.skip (86400 * first) = 0
      · rw [hgap, add_zero] at hpos ⊢
        by_contra hnext
        exact h ⟨Civil.monthOf n + 1, by unfold ReadsEarly; omega, .inl hpos⟩
      · have hexact : z.skip (86400 * Civil.monthStart (Civil.monthOf n + 1) +
            z.skip (86400 * first)) = 0 :=
          skip_after hgap (by omega) (by omega) (by omega) (by omega)
        omega
  | custom => simp at hpos
  | never => simp at hpos

end Zone

/-! ## The loop of a subscription -/

section Subscriptions

variable {z : Zone} {plan : SubscriptionPlan}

/-- `maybeResetUserSubscriptionWithPlanTx` returns. -/
def ResetEnds (z : Zone) (plan : SubscriptionPlan) (sub : UserSubscription) (now : Int) : Prop :=
  ∃ fuel, maybeResetUserSubscriptionWithPlan z.calendar plan fuel sub now ≠ none

/-- The bases that its loop comes to. -/
def ResetVisits (z : Zone) (plan : SubscriptionPlan) (sub : UserSubscription) (now base : Int) :
    Prop :=
  ¬(0 < sub.nextResetTime ∧ now < sub.nextResetTime) ∧
    Relation.ReflTransGen
      (CatchUpStep (fun b => calcNextResetTime z.calendar b plan sub.endTime) now)
      sub.resetBase base

/-- A period is read to start early, or a custom period is no second long: as a number of
    nanoseconds it wraps around. -/
def ResetHangs (z : Zone) (plan : SubscriptionPlan) : Prop :=
  z.StartsEarly (normalizeResetPeriod plan.quotaResetPeriod) ∨
    normalizeResetPeriod plan.quotaResetPeriod = .custom ∧ 0 < plan.quotaResetCustomSeconds ∧
      addDuration 0 (plan.quotaResetCustomSeconds * 1000000000) = 0

/-- The clock is set back over the start of a period and shows the day before it again, or the
    nanoseconds of a custom period wrap around to a negative duration. -/
def ResetSetBack (z : Zone) (plan : SubscriptionPlan) : Prop :=
  let period := normalizeResetPeriod plan.quotaResetPeriod
  (∃ t, 0 < z.periodEnd period (z.day t) ∧ z.periodEnd period (z.day t) ≤ t ∧
    z.day t < z.day (z.periodEnd period (z.day t))) ∨
  period = .custom ∧ 0 < plan.quotaResetCustomSeconds ∧
    addDuration 0 (plan.quotaResetCustomSeconds * 1000000000) < 0

theorem addDuration_eq (start nanoseconds : Int) :
    addDuration start nanoseconds = start + addDuration 0 nanoseconds := by
  simp only [addDuration, zero_add]

theorem calcNextResetTime_pos {base endUnix : Int}
    (h : 0 < calcNextResetTime z.calendar base plan endUnix) :
    calcNextResetTime z.calendar base plan endUnix = nextBoundary z plan base := by
  rw [calcNextResetTime_eq] at h ⊢
  split
  · rw [if_pos ‹_›] at h
    exact absurd h (lt_irrefl 0)
  · rfl

theorem CatchUpStep.eq_nextBoundary {now endUnix b b' : Int}
    (h : CatchUpStep (fun base => calcNextResetTime z.calendar base plan endUnix) now b b') :
    b' = nextBoundary z plan b ∧ 0 < b' ∧ b' ≤ now := by
  obtain ⟨rfl, hpos, hnow⟩ := h
  exact ⟨calcNextResetTime_pos hpos, hpos, hnow⟩

theorem resetEnds_of_measure {sub : UserSubscription} {now : Int} (measure : Int → Nat)
    (hstep : ∀ b b', b' = nextBoundary z plan b → 0 < b' → b' ≤ now → measure b' < measure b) :
    ResetEnds z plan sub now := by
  by_cases hwait : 0 < sub.nextResetTime ∧ now < sub.nextResetTime
  · refine ⟨0, ?_⟩
    rw [maybeResetUserSubscriptionWithPlan, if_pos hwait]
    simp
  by_cases hnever : normalizeResetPeriod plan.quotaResetPeriod = .never
  · refine ⟨0, ?_⟩
    rw [maybeResetUserSubscriptionWithPlan, if_neg hwait, resetTimesWithPlan, if_pos hnever]
    simp
  · have hmeasure : ∀ b b',
        CatchUpStep (fun base => calcNextResetTime z.calendar base plan sub.endTime) now b b' →
          measure b' < measure b := by
      intro b b' h
      obtain ⟨heq, hpos, hnow⟩ := h.eq_nextBoundary
      exact hstep b b' heq hpos hnow
    obtain ⟨fuel, hfuel⟩ := catchUp_ends measure hmeasure sub.resetBase false
    refine ⟨fuel, ?_⟩
    rw [maybeResetUserSubscriptionWithPlan, if_neg hwait, resetTimesWithPlan, if_neg hnever]
    simpa using hfuel

/-- A period of the zone's calendar or a custom one. -/
theorem nextBoundary_cases {b : Int} (hpos : 0 < nextBoundary z plan b) :
    normalizeResetPeriod plan.quotaResetPeriod = .custom ∧ 0 < plan.quotaResetCustomSeconds ∧
        nextBoundary z plan b = b + addDuration 0 (plan.quotaResetCustomSeconds * 1000000000) ∨
      nextBoundary z plan b =
        z.periodEnd (normalizeResetPeriod plan.quotaResetPeriod) (z.day b) := by
  unfold nextBoundary at hpos ⊢
  by_cases hcustom : normalizeResetPeriod plan.quotaResetPeriod = .custom
  · rw [if_pos hcustom] at hpos ⊢
    by_cases hsecs : plan.quotaResetCustomSeconds ≤ 0
    · rw [if_pos hsecs] at hpos
      exact absurd hpos (lt_irrefl 0)
    · rw [if_neg hsecs, addDuration_eq]
      exact .inl ⟨hcustom, by omega, rfl⟩
  · rw [if_neg hcustom]
    exact .inr rfl

theorem Zone.day_le_of_le (z : Zone) {t now : Int} (h : t ≤ now) : z.day t ≤ (now + 86400) / 86400 := by
  have := (z.offset_lt t).2
  unfold Zone.day Zone.clock
  omega

theorem resetEnds (h : ¬ResetHangs z plan) (sub : UserSubscription) (now : Int) :
    ResetEnds z plan sub now := by
  simp only [ResetHangs, not_or, not_and] at h
  obtain ⟨hearly, hcustom⟩ := h
  by_cases hperiod : normalizeResetPeriod plan.quotaResetPeriod = .custom
  · by_cases hforward : 0 < addDuration 0 (plan.quotaResetCustomSeconds * 1000000000)
    · apply resetEnds_of_measure fun b => (now - b).toNat
      intro b b' heq hpos hnow
      rcases nextBoundary_cases (heq ▸ hpos) with ⟨-, -, hnext⟩ | hnext
      · omega
      · rw [hperiod, Zone.periodEnd_custom] at hnext
        omega
    · -- a negative duration leads back to 1970
      apply resetEnds_of_measure fun b => b.toNat
      intro b b' heq hpos hnow
      rcases nextBoundary_cases (heq ▸ hpos) with ⟨-, hsecs, hnext⟩ | hnext
      · have := hcustom hperiod hsecs
        omega
      · rw [hperiod, Zone.periodEnd_custom] at hnext
        omega
  · apply resetEnds_of_measure fun b => ((now + 86400) / 86400 - z.day b).toNat
    intro b b' heq hpos hnow
    have hnext := (nextBoundary_cases (heq ▸ hpos)).resolve_left fun h => hperiod h.1
    have hday := Zone.periodEnd_advances hearly rfl (hnext ▸ heq ▸ hpos)
    have hbound := z.day_le_of_le hnow
    rw [← hnext, ← heq] at hday
    omega

/-- A subscription that was never reset. -/
def freshSubscription (startTime endTime : Int) : UserSubscription where
  id := 1
  userId := 1
  amountTotal := 0
  amountUsed := 0
  startTime := startTime
  endTime := endTime
  id_pos := Nat.one_pos
  amountUsed_nonneg := UserSubscription.unused_nonneg

theorem not_resetEnds {start endUnix now b : Int}
    (hstart : calcNextResetTime z.calendar start plan endUnix = b)
    (hfix : calcNextResetTime z.calendar b plan endUnix = b) (hpos : 0 < b) (hnow : b ≤ now) :
    ¬ResetEnds z plan (freshSubscription start endUnix) now := by
  rintro ⟨fuel, hfuel⟩
  apply hfuel
  have hnever : normalizeResetPeriod plan.quotaResetPeriod ≠ .never := by
    intro hnever
    rw [calcNextResetTime_eq, nextBoundary, hnever] at hfix
    simp only [reduceCtorEq, if_false, Zone.periodEnd_never, ite_self] at hfix
    omega
  rw [maybeResetUserSubscriptionWithPlan, if_neg (by simp [freshSubscription]),
    resetTimesWithPlan, if_neg hnever]
  simp only [UserSubscription.resetBase, freshSubscription, le_refl, if_true, hstart]
  rw [catchUp_eq_none hfix hpos hnow]
  rfl

theorem exists_not_resetEnds (h : ResetHangs z plan) :
    ∃ sub now, ¬ResetEnds z plan sub now := by
  obtain ⟨b, hpos, hfix⟩ : ∃ b, 0 < b ∧ nextBoundary z plan b = b := by
    rcases h with hearly | ⟨hcustom, hsecs, hzero⟩
    · obtain ⟨b, hpos, hfix⟩ := Zone.exists_fixed hearly
      have hperiod : normalizeResetPeriod plan.quotaResetPeriod ≠ .custom := by
        intro hcustom
        rw [hcustom] at hearly
        exact hearly
      refine ⟨b, hpos, ?_⟩
      rw [nextBoundary, if_neg hperiod, hfix]
    · refine ⟨1, one_pos, ?_⟩
      rw [nextBoundary, if_pos hcustom, if_neg (by omega), addDuration_eq, hzero, add_zero]
  have hcalc : calcNextResetTime z.calendar b plan 0 = b := by
    rw [calcNextResetTime_eq, if_neg (by simp), hfix]
  exact ⟨_, _, not_resetEnds hcalc hcalc hpos le_rfl⟩

/-- The next instant is not one of the past. -/
def ResetAdvances (z : Zone) (plan : SubscriptionPlan) (sub : UserSubscription) (base : Int) :
    Prop :=
  let next := calcNextResetTime z.calendar base plan sub.endTime
  next ≤ 0 ∨ base < next

theorem resetAdvances (h : ¬ResetHangs z plan) (hback : ¬ResetSetBack z plan)
    (sub : UserSubscription) (base : Int) : ResetAdvances z plan sub base := by
  by_cases hpos : 0 < calcNextResetTime z.calendar base plan sub.endTime
  · right
    have heq := calcNextResetTime_pos hpos
    rw [heq] at hpos ⊢
    rcases nextBoundary_cases hpos with ⟨hcustom, hsecs, hnext⟩ | hnext
    · have hzero : addDuration 0 (plan.quotaResetCustomSeconds * 1000000000) ≠ 0 := fun hzero =>
        h (.inr ⟨hcustom, hsecs, hzero⟩)
      have hneg : ¬addDuration 0 (plan.quotaResetCustomSeconds * 1000000000) < 0 := fun hneg =>
        hback (.inr ⟨hcustom, hsecs, hneg⟩)
      omega
    · rw [hnext] at hpos ⊢
      have hday := Zone.periodEnd_advances (fun hearly => h (.inl hearly)) rfl hpos
      by_contra hle
      exact hback (.inl ⟨base, hpos, by omega, hday⟩)
  · exact .inl (by omega)

theorem not_resetSetBack (h : ∀ base, ResetAdvances z plan (freshSubscription base 0) base) :
    ¬ResetSetBack z plan := by
  have hnext : ∀ base, nextBoundary z plan base ≤ 0 ∨ base < nextBoundary z plan base := by
    intro base
    have hbase := h base
    simp only [ResetAdvances, freshSubscription] at hbase
    rwa [calcNextResetTime_eq, if_neg (by simp)] at hbase
  rintro (⟨t, hpos, hle, -⟩ | ⟨hcustom, hsecs, hneg⟩)
  · have hperiod : normalizeResetPeriod plan.quotaResetPeriod ≠ .custom := by
      intro hcustom
      rw [hcustom, Zone.periodEnd_custom] at hpos
      omega
    have ht := hnext t
    rw [nextBoundary, if_neg hperiod] at ht
    omega
  · have ht := hnext (1 - addDuration 0 (plan.quotaResetCustomSeconds * 1000000000))
    rw [nextBoundary, if_pos hcustom, if_neg (by omega), addDuration_eq] at ht
    omega

/-- The loop ends for every subscription at every time exactly if no period starts early, and
    then moves on in every round exactly if the clock is never set back over a start. -/
theorem resetLoop_ends_iff (z : Zone) (plan : SubscriptionPlan) :
    ((∀ sub now, ResetEnds z plan sub now) ↔ ¬ResetHangs z plan) ∧
    ((∀ sub now, ResetEnds z plan sub now ∧
        ∀ base, ResetVisits z plan sub now base → ResetAdvances z plan sub base) ↔
      ¬ResetHangs z plan ∧ ¬ResetSetBack z plan) := by
  have hends : (∀ sub now, ResetEnds z plan sub now) ↔ ¬ResetHangs z plan := by
    constructor
    · intro hall hhangs
      obtain ⟨sub, now, hnot⟩ := exists_not_resetEnds hhangs
      exact hnot (hall sub now)
    · exact resetEnds
  refine ⟨hends, ?_⟩
  constructor
  · intro hall
    refine ⟨hends.mp fun sub now => (hall sub now).1, not_resetSetBack fun base => ?_⟩
    apply (hall _ base).2
    refine ⟨by simp [freshSubscription], ?_⟩
    rw [show (freshSubscription base 0).resetBase = base from rfl]
  · rintro ⟨hhangs, hback⟩ sub now
    exact ⟨resetEnds hhangs sub now, fun base _ => resetAdvances hhangs hback sub base⟩

end Subscriptions

/-! ## A day without midnight -/

/-- São Paulo on 2018-11-04: at midnight the clock was put forward to one o'clock. -/
def saoPaulo : Zone where
  offset t := if t < 1541300400 then -10800 else -7200
  date l := if l < 1541289600 then l + 10800 else l + 7200
  offset_lt t := by split <;> omega
  date_of_shown t := by
    by_cases ht : t < 1541300400
    · have hl : t + -10800 < 1541289600 := by omega
      rw [if_pos ht, if_pos hl, if_pos (by omega)]
      omega
    · have hl : ¬t + -7200 < 1541289600 := by omega
      rw [if_neg ht, if_neg hl, if_neg (by omega)]
      omega
  date_of_gap l := by
    left
    rw [abs_le]
    split <;> split <;> omega
  gaps_apart l l' h h' hlt _ := by
    have hgap : ∀ m : Int, let date := if m < 1541289600 then m + 10800 else m + 7200
        date + (if date < 1541300400 then -10800 else -7200) ≠ m →
          1541289600 ≤ m ∧ m < 1541293200 ∧
            |date + (if date < 1541300400 then -10800 else -7200) - m| = 3600 := by
      intro m date hm
      by_cases hbefore : m < 1541289600
      · simp only [date, if_pos hbefore] at hm
        rw [if_pos (by omega)] at hm
        omega
      · simp only [date, if_neg hbefore] at hm ⊢
        by_cases hgap : m + 7200 < 1541300400
        · rw [if_pos hgap]
          refine ⟨by omega, by omega, ?_⟩
          rw [abs_eq (by omega)]
          omega
        · rw [if_neg hgap] at hm
          omega
    obtain ⟨hl, -, hskip⟩ := hgap l h
    obtain ⟨-, hl', hskip'⟩ := hgap l' h'
    rw [hskip, hskip']
    omega

/-- A daily plan that is bought there on the day before has its first reset at 23:00 of that
    day, and so has every later round of the loop. A custom period of 2^55 seconds is no
    nanosecond long in any zone. -/
theorem resetLoop_hangs :
    ¬ResetEnds saoPaulo { id := 1, quotaResetPeriod := "daily" }
      (freshSubscription 1541250000 1543842000) 1541296800 ∧
    ¬ResetEnds (Zone.fixed 0 (by decide))
      { id := 1, quotaResetPeriod := "custom", quotaResetCustomSeconds := 36028797018963968 }
      (freshSubscription 1541250000 1543842000) 1541250000 := by
  constructor
  · exact not_resetEnds (b := 1541296800) (by decide) (by decide) (by decide)
      (by decide)
  · exact not_resetEnds (b := 1541250000) (by decide) (by decide) (by decide)
      (by decide)

end TokenRouter
