import TokenRouter.ForStd.Civil
import TokenRouter.Model.Subscription

/-!
# The reset schedule (`model/subscription.go`)

`calcNextResetTime` on the calendar of a time zone, and the loop of
`maybeResetUserSubscriptionWithPlanTx` that catches up with the resets that were missed. The
loop may not end, so it runs on fuel; `none` is a loop that has not ended.
-/

namespace TokenRouter

/-! ## Time zones -/

/-- The days from 1970-01-01 to a date; months and days outside their range carry over, as in
    `time.Date`. -/
def daysOfCivil (year month day : Int) : Int :=
  Civil.monthStart (12 * year + (month - 3)) + (day - 1)

/-- A time zone as package `time` knows it. `date` is `time.Date` on what a local clock shows,
    in seconds from its 1970-01-01 00:00. -/
structure Zone extends Location where
  date : Int → Int
  offset_lt : ∀ t, -86400 < offset t ∧ offset t < 86400
  /-- What a clock shows is read as an instant at which it shows it. -/
  date_of_shown : ∀ t, date (t + offset t) + offset (date (t + offset t)) = t + offset t
  /-- What a gap removes is read by the offset before it or after it, and is off by the length
      of the gap: half a day at most, or the whole day that the date line takes. -/
  date_of_gap : ∀ l, |date l + offset (date l) - l| ≤ 43200 ∨
    |date l + offset (date l) - l| = 86400 ∧ ∀ t, (t + offset t) / 86400 ≠ l / 86400
  /-- Two gaps are more than a month apart. -/
  gaps_apart : ∀ l l', date l + offset (date l) ≠ l → date l' + offset (date l') ≠ l' →
    l < l' → l' - l ≤ 32 * 86400 →
      l' - l < |date l + offset (date l) - l| ∧ l' - l < |date l' + offset (date l') - l'|

namespace Zone

/-- What a local clock shows. -/
def clock (z : Zone) (t : Int) : Int := t + z.offset t

/-- The local day. -/
def day (z : Zone) (t : Int) : Int := z.clock t / 86400

/-- `time.Date(year, month, day, 0, 0, 0, 0, loc)` -/
def midnight (z : Zone) (year month day : Int) : Int := z.date (86400 * daysOfCivil year month day)

/-- `t.AddDate(years, months, days)` -/
def addDate (z : Zone) (t years months days : Int) : Int :=
  let (y, m, d) := civilOfDays (z.day t)
  z.date (86400 * daysOfCivil (y + years) (m + months) (d + days) + z.clock t % 86400)

/-- The dates that `calcNextResetTime` and `calcPlanEndTime` ask for. -/
def calendar (z : Zone) : Calendar where
  addDate start years months := z.addDate start years months 0
  nextDay base :=
    let (y, m, d) := civilOfDays (z.day base)
    z.addDate (z.midnight y m d) 0 0 1
  nextMonday base :=
    let (y, m, d) := civilOfDays (z.day base)
    -- 1970-01-01 was a Thursday
    let weekday := (z.day base + 4) % 7
    let weekday := if weekday = 0 then 7 else weekday
    z.addDate (z.midnight y m d) 0 0 (8 - weekday)
  nextMonth base :=
    let (y, m, _) := civilOfDays (z.day base)
    z.addDate (z.midnight y m 1) 0 1 0

/-- A zone without daylight saving time. -/
def fixed (offset : Int) (h : -86400 < offset ∧ offset < 86400) : Zone where
  offset _ := offset
  date l := l - offset
  offset_lt _ := h
  date_of_shown _ := by omega
  date_of_gap _ := by simp
  gaps_apart _ _ := by simp

end Zone

/-! ## The schedule -/

/-- The reset periods. -/
inductive ResetPeriod where
  | daily
  | weekly
  | monthly
  | custom
  | never
  deriving DecidableEq

/-- `NormalizeResetPeriod` -/
def normalizeResetPeriod (period : String) : ResetPeriod :=
  match trimSpace period with
  | "daily" => .daily
  | "weekly" => .weekly
  | "monthly" => .monthly
  | "custom" => .custom
  | _ => .never

/-- The last reset, or the start of a subscription that was never reset. -/
def UserSubscription.resetBase (sub : UserSubscription) : Int :=
  if sub.lastResetTime ≤ 0 then sub.startTime else sub.lastResetTime

/-- The loop of `maybeResetUserSubscriptionWithPlanTx`. -/
def catchUp (calcNext : Int → Int) (now : Int) : Nat → Int → Int → Bool → Option ResetTimes
  | 0, _, _, _ => none
  | fuel + 1, base, next, advanced =>
    if 0 < next ∧ next ≤ now then catchUp calcNext now fuel next (calcNext next) true
    else some (if advanced then .due base next else .notDue base next)

/-- What `maybeResetUserSubscriptionWithPlanTx` finds out about the schedule. -/
def resetTimesWithPlan (cal : Calendar) (plan : SubscriptionPlan) (fuel : Nat)
    (sub : UserSubscription) (now : Int) : Option ResetTimes :=
  if normalizeResetPeriod plan.quotaResetPeriod = .never then some .never
  else
    let calcNext := fun base => calcNextResetTime cal base plan sub.endTime
    catchUp calcNext now fuel sub.resetBase (calcNext sub.resetBase) false

/-- What it writes. -/
def UserSubscription.applyResetTimes (sub : UserSubscription) : ResetTimes → UserSubscription
  | .never => sub
  | .notDue base next =>
    if sub.nextResetTime = 0 ∧ 0 < next then
      { sub with nextResetTime := next, lastResetTime := base }
    else sub
  | .due base next =>
    { sub with
      amountUsed := 0
      lastResetTime := base
      nextResetTime := next
      amountUsed_nonneg := unused_nonneg }

/-- `maybeResetUserSubscriptionWithPlanTx` -/
def maybeResetUserSubscriptionWithPlan (cal : Calendar) (plan : SubscriptionPlan) (fuel : Nat)
    (sub : UserSubscription) (now : Int) : Option UserSubscription :=
  if 0 < sub.nextResetTime ∧ now < sub.nextResetTime then some sub
  else (resetTimesWithPlan cal plan fuel sub now).map sub.applyResetTimes

/-! ## Dates -/

/-- The month and the day of the month of a date. -/
theorem civilOfDays_spec {n y m d : Int} (h : civilOfDays n = (y, m, d)) :
    12 * y + (m - 3) = Civil.monthOf n ∧ d - 1 = n - Civil.monthStart (Civil.monthOf n) := by
  have hdoe₀ : 0 ≤ n + 719468 - (n + 719468) / 146097 * 146097 := by omega
  have hdoe₁ : n + 719468 - (n + 719468) / 146097 * 146097 < 146097 := by omega
  obtain ⟨hyoe₀, hyoe₁, hdoy₀, hdoy₁⟩ := Civil.yearOfEra_spec hdoe₀ hdoe₁
  simp only [civilOfDays, ← Civil.yearOfEra.eq_1, Prod.mk.injEq] at h
  simp only [Civil.monthOf]
  generalize hera : (n + 719468) / 146097 = era at *
  generalize hdoe : n + 719468 - era * 146097 = doe at *
  generalize Civil.yearOfEra doe = yoe at *
  generalize hdoy : doe - (365 * yoe + yoe / 4 - yoe / 100) = doy at *
  generalize hmp : (5 * doy + 2) / 153 = mp at *
  have hmp₁ : 0 ≤ mp ∧ mp < 12 := by omega
  have hyear : (12 * (yoe + era * 400) + mp) / 12 = yoe + era * 400 := by omega
  have hmonth : (12 * (yoe + era * 400) + mp) % 12 = mp := by omega
  have hleap := Civil.leapDays_era yoe era
  simp only [Civil.monthStart, hyear, hmonth]
  obtain ⟨hy, hm, hd⟩ := h
  constructor
  · -- January and February belong to the year that started in March
    by_cases hlate : mp < 10
    · rw [if_pos hlate] at hm hy
      have : ¬mp + 3 ≤ 2 := by omega
      rw [if_neg this] at hy
      omega
    · rw [if_neg hlate] at hm hy
      have : mp - 9 ≤ 2 := by omega
      rw [if_pos this] at hy
      omega
  · omega

theorem daysOfCivil_add {n y m d : Int} (h : civilOfDays n = (y, m, d)) (months days : Int) :
    daysOfCivil y (m + months) (d + days) =
      Civil.monthStart (Civil.monthOf n + months) +
        (n - Civil.monthStart (Civil.monthOf n)) + days := by
  obtain ⟨hmonth, hday⟩ := civilOfDays_spec h
  have hshift : 12 * y + (m + months - 3) = Civil.monthOf n + months := by omega
  simp only [daysOfCivil, hshift]
  omega

theorem daysOfCivil_civilOfDays {n y m d : Int} (h : civilOfDays n = (y, m, d)) :
    daysOfCivil y m d = n := by
  have := daysOfCivil_add h 0 0
  simp only [add_zero] at this
  omega

namespace Zone

variable (z : Zone)

theorem addDate_days (t days : Int) : z.addDate t 0 0 days = z.date (z.clock t + 86400 * days) := by
  obtain ⟨y, m, d, h⟩ : ∃ y m d, civilOfDays (z.day t) = (y, m, d) := ⟨_, _, _, rfl⟩
  simp only [addDate, h, add_zero]
  have hdays := daysOfCivil_add h 0 days
  simp only [add_zero] at hdays
  congr 1
  rw [hdays, day]
  omega

theorem addDate_months (t months : Int) :
    z.addDate t 0 months 0 =
      z.date (86400 * (Civil.monthStart (Civil.monthOf (z.day t) + months) +
        (z.day t - Civil.monthStart (Civil.monthOf (z.day t)))) + z.clock t % 86400) := by
  obtain ⟨y, m, d, h⟩ : ∃ y m d, civilOfDays (z.day t) = (y, m, d) := ⟨_, _, _, rfl⟩
  have hdays := daysOfCivil_add h months 0
  simp only [add_zero] at hdays
  simp only [addDate, h, add_zero, hdays]

/-- Monday is 1 and Sunday 7. -/
def weekday (n : Int) : Int := (n + 3) % 7 + 1

/-- The start of the period after the one of a day, as `calcNextResetTime` computes it. -/
def periodEnd (period : ResetPeriod) (n : Int) : Int :=
  match period with
  | .daily => z.addDate (z.date (86400 * n)) 0 0 1
  | .weekly => z.addDate (z.date (86400 * n)) 0 0 (8 - weekday n)
  | .monthly => z.addDate (z.date (86400 * Civil.monthStart (Civil.monthOf n))) 0 1 0
  | _ => 0

@[simp] theorem periodEnd_custom (n : Int) : z.periodEnd .custom n = 0 := rfl

@[simp] theorem periodEnd_never (n : Int) : z.periodEnd .never n = 0 := rfl

theorem nextDay_eq (base : Int) : z.calendar.nextDay base = z.periodEnd .daily (z.day base) := by
  obtain ⟨y, m, d, h⟩ : ∃ y m d, civilOfDays (z.day base) = (y, m, d) := ⟨_, _, _, rfl⟩
  simp only [calendar, h, midnight, daysOfCivil_civilOfDays h, periodEnd]

theorem nextMonday_eq (base : Int) :
    z.calendar.nextMonday base = z.periodEnd .weekly (z.day base) := by
  obtain ⟨y, m, d, h⟩ : ∃ y m d, civilOfDays (z.day base) = (y, m, d) := ⟨_, _, _, rfl⟩
  have hweekday : (if (z.day base + 4) % 7 = 0 then 7 else (z.day base + 4) % 7) =
      weekday (z.day base) := by
    unfold weekday
    split <;> omega
  simp only [calendar, h, midnight, daysOfCivil_civilOfDays h, periodEnd, hweekday]

theorem nextMonth_eq (base : Int) :
    z.calendar.nextMonth base = z.periodEnd .monthly (z.day base) := by
  obtain ⟨y, m, d, h⟩ : ∃ y m d, civilOfDays (z.day base) = (y, m, d) := ⟨_, _, _, rfl⟩
  have hfirst : daysOfCivil y m 1 = Civil.monthStart (Civil.monthOf (z.day base)) := by
    simp only [daysOfCivil, (civilOfDays_spec h).1, sub_self, add_zero]
  simp only [calendar, h, midnight, hfirst, periodEnd]

end Zone

/-- The next reset instant, before the end of the subscription cuts it off. -/
def nextBoundary (z : Zone) (plan : SubscriptionPlan) (base : Int) : Int :=
  if normalizeResetPeriod plan.quotaResetPeriod = .custom then
    if plan.quotaResetCustomSeconds ≤ 0 then 0
    else addDuration base (plan.quotaResetCustomSeconds * 1000000000)
  else z.periodEnd (normalizeResetPeriod plan.quotaResetPeriod) (z.day base)

theorem calcNextResetTime_eq (z : Zone) (base : Int) (plan : SubscriptionPlan) (endUnix : Int) :
    calcNextResetTime z.calendar base plan endUnix =
      if 0 < endUnix ∧ endUnix < nextBoundary z plan base then 0
      else nextBoundary z plan base := by
  unfold calcNextResetTime nextBoundary normalizeResetPeriod
  generalize trimSpace plan.quotaResetPeriod = period
  by_cases hdaily : period = "daily"
  · simp [hdaily, z.nextDay_eq]
  by_cases hweekly : period = "weekly"
  · simp [hweekly, z.nextMonday_eq]
  by_cases hmonthly : period = "monthly"
  · simp [hmonthly, z.nextMonth_eq]
  by_cases hcustom : period = "custom"
  · subst hcustom
    by_cases hsecs : plan.quotaResetCustomSeconds ≤ 0 <;> simp [hsecs]
  · simp

end TokenRouter
