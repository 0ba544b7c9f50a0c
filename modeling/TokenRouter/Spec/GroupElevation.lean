import TokenRouter.Spec.GroupCases
import TokenRouter.ForStd.Run

/-!
# Group elevation and its end

While a user has an active subscription with an upgrade group, the user is elevated. A
history records, beside the tables, the group that each user held before the first
subscription of the current elevated stretch. When a stretch ends, the code asks one
subscription for the group to return to: the one that is invalidated or deleted, or the
last expired one. Each subscription only remembers the group at its own purchase.

## Key results

- `step_restored_iff`: a step keeps a user restored exactly when the subscription that it
  asks remembers the group before the stretch
- `group_restored_iff_asks_right`: the equivalence over every run, and runs without
  overlapping elevations
- `overlapping_elevation_stays`: the second of two overlapping subscriptions ends, and the
  user stays elevated
-/

namespace TokenRouter

/-! ## Steps of a history -/

/-- The plan of a purchase has no downgrade group. -/
def GroupEvent.NoDowngrade : GroupEvent → Prop
  | .create _ _ _ plan => trimSpace plan.downgradeGroup = ""
  | _ => True

instance : DecidablePred GroupEvent.NoDowngrade
  | .create _ _ _ plan => inferInstanceAs (Decidable (trimSpace plan.downgradeGroup = ""))
  | .expire _ _ => inferInstanceAs (Decidable True)
  | .invalidate _ _ => inferInstanceAs (Decidable True)
  | .delete _ _ => inferInstanceAs (Decidable True)

namespace GroupHistory

open SubscriptionDB

theorem stepDB_wf {db : SubscriptionDB} (hdb : db.Wf) {e : GroupEvent} (he : e.NoDowngrade) :
    (stepDB db e).Wf := by
  cases e with
  | create cal now userId plan =>
    dsimp only [stepDB]
    cases hcreate : db.createUserSubscriptionFromPlan cal now userId plan with
    | error e => exact hdb
    | ok result =>
      obtain ⟨sub, db'⟩ := result
      obtain ⟨hsub, hsubs, hlast, -⟩ := create_created hcreate
      have hrow : ∀ s ∈ db'.subs.rows, s ∈ db.subs.rows ∨ s = sub := by
        intro s hs
        rw [hsubs] at hs
        exact Table.mem_of_mem_insert hs
      constructor
      · intro s hs
        cases hrow s hs with
        | inl hold => exact hdb.downgrade s hold
        | inr hnew => rw [hnew, hsub.downgrade, he]
      · intro s hs
        cases hrow s hs with
        | inl hold => exact hdb.trimmed s hold
        | inr hnew => rw [hnew, hsub.upgrade, trimSpace_trimSpace]
      · intro s hs
        cases hrow s hs with
        | inl hold => exact hdb.user_pos s hold
        | inr hnew =>
          rw [hnew, hsub.user]
          exact hsub.user_pos
      · intro s hs
        show s.id ≤ db'.lastId
        rw [hlast]
        cases hrow s hs with
        | inl hold => exact (hdb.id_le s hold).trans (Nat.le_succ _)
        | inr hnew => rw [hnew, hsub.id]
  | expire now limit => exact foldl_expireUser_wf hdb now.unix _
  | invalidate now id =>
    cases hfind : db.subs.find? id with
    | none =>
      rw [invalidate_missing hfind]
      exact hdb
    | some sub =>
      obtain rfl : sub.id = id := Table.find?_key hfind
      obtain ⟨hsubs, hlast, -⟩ := invalidate_found hdb now hfind
      refine hdb.of_rows hlast.ge ?_
      intro s hs
      rw [hsubs] at hs
      cases Table.mem_set hs with
      | inl heq => exact ⟨sub, Table.find?_mem hfind, by simp [heq]⟩
      | inr hold => exact ⟨s, hold.1, rfl, rfl, rfl, rfl⟩
  | delete now id =>
    cases hfind : db.subs.find? id with
    | none =>
      rw [delete_missing hfind]
      exact hdb
    | some sub =>
      obtain rfl : sub.id = id := Table.find?_key hfind
      obtain ⟨hsubs, hlast, -⟩ := delete_found hdb now hfind
      refine hdb.of_rows hlast.ge ?_
      intro s hs
      rw [hsubs] at hs
      exact ⟨s, (Table.mem_erase.mp hs).1, rfl, rfl, rfl, rfl⟩

/-- The subscription remembers the group before the stretch: it moved the user to the group
    that the user is in now, from `base`; or it will not move a user who is in `base`. -/
def RemembersBase (sub : UserSubscription) (current base : String) : Prop :=
  if current = sub.upgradeGroup ∧ sub.upgradeGroup ≠ "" ∧ trimSpace sub.prevUserGroup ≠ "" then
    trimSpace sub.prevUserGroup = base
  else current = base

instance (sub : UserSubscription) (current base : String) :
    Decidable (RemembersBase sub current base) :=
  inferInstanceAs (Decidable (if current = sub.upgradeGroup ∧ sub.upgradeGroup ≠ "" ∧
    trimSpace sub.prevUserGroup ≠ "" then trimSpace sub.prevUserGroup = base else current = base))

theorem reverted_eq_iff (sub : UserSubscription) (current base : String) :
    reverted sub current = base ↔ RemembersBase sub current base := by
  unfold reverted RemembersBase
  split
  · rfl
  · rfl

/-- The subscription that the operation asks, if it leaves the user without elevation,
    remembers the group before the stretch. -/
def AsksTheRightOne (u : Int) (h : GroupHistory) (e : GroupEvent) : Prop :=
  ∀ sub ∈ h.db.asked u e, RemembersBase sub (h.db.group u) (h.base u)

/-- A step that elevates nobody keeps the recorded group. -/
theorem step_base_of_elevated {h : GroupHistory} {u : Int} {e : GroupEvent}
    (hel : (stepDB h.db e).elevated u = true → h.db.elevated u = true) :
    (h.step e).base u = h.base u := by
  show (if h.db.elevated u = false ∧ (stepDB h.db e).elevated u = true then h.db.group u
    else h.base u) = h.base u
  rw [if_neg]
  rintro ⟨hbefore, hafter⟩
  rw [hel hafter] at hbefore
  cases hbefore

theorem elevated_of_ended {db db' : SubscriptionDB} {u : Int} {sub : UserSubscription} {now : Int}
    (hkeep : ∀ s ∈ db.ofUser u, s.id ≠ sub.id → s ∈ db'.ofUser u)
    (hfrom : ∀ s ∈ db'.ofUser u, (s ∈ db.ofUser u ∧ s.id ≠ sub.id) ∨
      s = { sub with status := "cancelled", endTime := now }) :
    db'.elevated u = db.elevatedWithout u sub.id := by
  rw [Bool.eq_iff_iff, elevated_eq_true]
  simp only [elevatedWithout, List.any_eq_true, decide_eq_true_eq]
  constructor
  · rintro ⟨s, hs, hstatus, hup⟩
    cases hfrom s hs with
    | inl hold => exact ⟨s, hold.1, hold.2, hstatus, hup⟩
    | inr hnew =>
      rw [hnew] at hstatus
      simp at hstatus
  · rintro ⟨s, hs, hid, hstatus, hup⟩
    exact ⟨s, hkeep s hs hid, hstatus, hup⟩

theorem elevated_of_expired {db db' : SubscriptionDB} {u now : Int}
    (hrows : db'.ofUser u = (db.ofUser u).map (marked now)) :
    db'.elevated u = db.elevatedAfter u now := by
  rw [Bool.eq_iff_iff, elevated_eq_true, hrows]
  simp only [elevatedAfter, List.any_eq_true, decide_eq_true_eq, List.mem_map]
  constructor
  · rintro ⟨_, ⟨s, hs, rfl⟩, hstatus, hup⟩
    unfold marked at hstatus hup
    by_cases hdue : isDue now s = true
    · simp [hdue] at hstatus
    · rw [if_neg hdue] at hstatus hup
      exact ⟨s, hs, hdue, hstatus, hup⟩
  · rintro ⟨s, hs, hdue, hstatus, hup⟩
    exact ⟨s, ⟨s, hs, by rw [marked, if_neg hdue]⟩, hstatus, hup⟩

theorem elevated_of_elevatedWithout {db : SubscriptionDB} {u : Int} {id : Nat}
    (h : db.elevatedWithout u id = true) : db.elevated u = true := by
  simp only [elevatedWithout, List.any_eq_true, decide_eq_true_eq] at h
  obtain ⟨s, hs, -, hstatus, hup⟩ := h
  exact elevated_eq_true.mpr ⟨s, hs, hstatus, hup⟩

theorem elevated_of_elevatedAfter {db : SubscriptionDB} {u now : Int}
    (h : db.elevatedAfter u now = true) : db.elevated u = true := by
  simp only [elevatedAfter, List.any_eq_true, decide_eq_true_eq] at h
  obtain ⟨s, hs, -, hstatus, hup⟩ := h
  exact elevated_eq_true.mpr ⟨s, hs, hstatus, hup⟩

/-- If expiry leaves no elevation and finds nobody to ask, there was no elevation before. -/
theorem not_elevated_of_asked_none {db : SubscriptionDB} {u now : Int}
    (hafter : db.elevatedAfter u now = false) (hasked : askedExpired now (db.ofUser u) = none) :
    db.elevated u = false := by
  have hnil := latest_eq_none hasked
  rw [List.filter_eq_nil_iff] at hnil
  simp only [elevatedAfter, List.any_eq_false, decide_eq_true_eq] at hafter
  rw [elevated_eq_false]
  intro s hs hstatus
  by_contra hup
  have hdue : isDue now s = true := by
    by_contra hdue
    exact hafter s hs ⟨hdue, hstatus, hup⟩
  -- the row would have expired just now, with its upgrade group
  have hrow := hnil (marked now s) (List.mem_map_of_mem hs)
  simp [marked, hdue, hup] at hrow

/-- A step keeps the user restored exactly when the subscription that it asks remembers the
    group before the stretch. -/
theorem step_restored_iff {u : Int} {h : GroupHistory} (hdb : h.db.Wf) (hu : h.Restored u)
    (e : GroupEvent) : (h.step e).Restored u ↔ h.AsksTheRightOne u e := by
  have hbase := step_base_of_elevated (h := h) (u := u) (e := e)
  cases userStep h.db hdb u e with
  | same hrows hgroup hasked =>
    have hel : (stepDB h.db e).elevated u = h.db.elevated u := by
      rw [elevated, hrows, elevated]
    have hright : h.AsksTheRightOne u e := by simp [AsksTheRightOne, hasked]
    have hrest : (h.step e).Restored u := by
      intro hnone
      show (stepDB h.db e).group u = (h.step e).base u
      rw [hbase (fun hyes => hel ▸ hyes), hgroup]
      exact hu (hel ▸ hnone)
    exact ⟨fun _ => hright, fun _ => hrest⟩
  | @created cal now plan sub he hsub hrows hgroup =>
    have hright : h.AsksTheRightOne u e := by simp [AsksTheRightOne, he, asked]
    have hel : (stepDB h.db e).elevated u = (h.db.elevated u || decide (sub.upgradeGroup ≠ "")) := by
      rw [elevated, hrows, List.any_append, ← elevated]
      simp [hsub.status]
    have hrest : (h.step e).Restored u := by
      intro hnone
      have hnot : (stepDB h.db e).elevated u = false := hnone
      have hnone' := hnot
      rw [hel, Bool.or_eq_false_iff] at hnone'
      have hup : ¬ (sub.upgradeGroup ≠ "" ∧ h.db.group u ≠ sub.upgradeGroup) := by
        simpa using fun hne => absurd hne (by simpa using hnone'.2)
      show (stepDB h.db e).group u = (h.step e).base u
      rw [hbase (fun hyes => absurd hyes (by simp [hnot])), hgroup, if_neg hup]
      exact hu hnone'.1
    exact ⟨fun _ => hright, fun _ => hrest⟩
  | @ended sub now hsub hkeep hfrom hgroup hlast hasked =>
    have hel := elevated_of_ended hkeep hfrom
    have hbase' := hbase fun hyes => elevated_of_elevatedWithout (hel ▸ hyes)
    cases hwithout : h.db.elevatedWithout u sub.id with
    | true =>
      rw [hwithout] at hel hasked
      have hright : h.AsksTheRightOne u e := by simp [AsksTheRightOne, hasked]
      have hrest : (h.step e).Restored u := fun hnone => absurd (hel.symm.trans hnone) (by simp)
      exact ⟨fun _ => hright, fun _ => hrest⟩
    | false =>
      rw [hwithout] at hel hasked
      have hafter : (h.step e).Restored u ↔ reverted sub (h.db.group u) = h.base u := by
        rw [Restored, hbase']
        show ((stepDB h.db e).elevated u = false → (stepDB h.db e).group u = h.base u) ↔ _
        rw [hlast hwithout, hel]
        simp
      rw [hafter, reverted_eq_iff]
      simp [AsksTheRightOne, hasked]
  | @expired now hnow hrows hgroup hlast hasked =>
    have hel := elevated_of_expired hrows
    have hbase' := hbase fun hyes => elevated_of_elevatedAfter (hel ▸ hyes)
    cases hafter : h.db.elevatedAfter u now.unix with
    | true =>
      rw [hafter] at hel hasked
      have hright : h.AsksTheRightOne u e := by simp [AsksTheRightOne, hasked]
      have hrest : (h.step e).Restored u := fun hnone => absurd (hel.symm.trans hnone) (by simp)
      exact ⟨fun _ => hright, fun _ => hrest⟩
    | false =>
      have hgroup' := hlast hafter
      rw [hafter] at hel hasked
      have hrest : (h.step e).Restored u ↔ (stepDB h.db e).group u = h.base u := by
        rw [Restored, hbase']
        show ((stepDB h.db e).elevated u = false → (stepDB h.db e).group u = h.base u) ↔ _
        simp [hel]
      rw [hrest, hgroup']
      cases hask : askedExpired now.unix (h.db.ofUser u) with
      | none =>
        have hnot := not_elevated_of_asked_none hafter hask
        simp [AsksTheRightOne, hasked, hask, hu hnot]
      | some sub =>
        simp [AsksTheRightOne, hasked, hask, reverted_eq_iff]

/-! ## Elevations that do not overlap -/

/-- The subscription gives the user an upgrade group. -/
def Elevates (s : UserSubscription) : Prop := s.status = "active" ∧ s.upgradeGroup ≠ ""

/-- An upgraded subscription remembers `base`, or had nothing to change in it. -/
def BoughtIn (base : String) (s : UserSubscription) : Prop :=
  (s.upgradeGroup = base ∧ trimSpace s.prevUserGroup = "") ∨
    (s.upgradeGroup ≠ base ∧ trimSpace s.prevUserGroup = base ∧ base ≠ "")

theorem BoughtIn.reverted_upgrade {base : String} {s : UserSubscription} (h : BoughtIn base s)
    (hup : s.upgradeGroup ≠ "") : reverted s s.upgradeGroup = base := by
  unfold reverted
  obtain ⟨hbase, hprev⟩ | ⟨-, hprev, hne⟩ := h
  · simp [hprev, hbase]
  · rw [if_pos ⟨rfl, hup, hprev ▸ hne⟩, hprev]

theorem BoughtIn.reverted_base {base : String} {s : UserSubscription} (h : BoughtIn base s) :
    reverted s base = base := by
  unfold reverted
  obtain ⟨-, hprev⟩ | ⟨hne, -, -⟩ := h
  · simp [hprev]
  · simp [Ne.symm hne]

/-- Asking a subscription that was bought in `base` changes nothing or returns to `base`. -/
theorem BoughtIn.reverted_cases {base : String} {s : UserSubscription} (h : BoughtIn base s)
    (current : String) : reverted s current = current ∨ reverted s current = base := by
  unfold reverted
  split
  · next hcond =>
    obtain ⟨-, hprev⟩ | ⟨-, hprev, -⟩ := h
    · exact absurd hprev hcond.2.2
    · exact .inr hprev
  · exact .inl rfl

/-- What holds of a user as long as no elevation begins during another. -/
structure Separate (u : Int) (h : GroupHistory) : Prop where
  restored : h.Restored u
  bought : ∀ s ∈ h.db.ofUser u, s.upgradeGroup ≠ "" → BoughtIn (h.base u) s
  single : ∀ s ∈ h.db.ofUser u, ∀ t ∈ h.db.ofUser u, Elevates s → Elevates t → s = t
  current : ∀ s ∈ h.db.ofUser u, Elevates s →
    h.db.group u = s.upgradeGroup ∨ h.db.group u = h.base u
  ended : ∀ s ∈ h.db.ofUser u, s.status = "expired" → s.upgradeGroup ≠ "" → s.endTime ≤ h.clock
  later : ∀ s ∈ h.db.ofUser u, ∀ t ∈ h.db.ofUser u, Elevates s → t.status = "expired" →
    t.upgradeGroup ≠ "" → t.endTime < s.endTime

/-- Time does not run backwards, and a subscription that elevates a user is bought while
    the user is not elevated, in a group with a name, and ends after it begins. -/
def NoOverlap (u : Int) (h : GroupHistory) (e : GroupEvent) : Prop :=
  h.clock ≤ e.now ∧
    match e with
    | .create cal now userId plan =>
      userId = u → trimSpace plan.upgradeGroup ≠ "" →
        h.db.elevated u = false ∧ h.db.group u ≠ "" ∧ trimSpace (h.db.group u) = h.db.group u ∧
          ∀ t ∈ (calcPlanEndTime cal now.unix plan).toOption, now.unix < t
    | _ => True

instance (u : Int) (h : GroupHistory) : DecidablePred (NoOverlap u h)
  | .create cal now userId plan =>
    inferInstanceAs (Decidable (h.clock ≤ now.unix ∧ (userId = u → trimSpace plan.upgradeGroup ≠ "" →
      h.db.elevated u = false ∧ h.db.group u ≠ "" ∧ trimSpace (h.db.group u) = h.db.group u ∧
        ∀ t ∈ (calcPlanEndTime cal now.unix plan).toOption, now.unix < t)))
  | .expire now _ => inferInstanceAs (Decidable (h.clock ≤ now.unix ∧ True))
  | .invalidate now _ => inferInstanceAs (Decidable (h.clock ≤ now.unix ∧ True))
  | .delete now _ => inferInstanceAs (Decidable (h.clock ≤ now.unix ∧ True))

theorem not_elevates_of_not_elevated {db : SubscriptionDB} {u : Int} (h : db.elevated u = false)
    {s : UserSubscription} (hs : s ∈ db.ofUser u) : ¬ Elevates s := by
  rintro ⟨hstatus, hup⟩
  exact hup (elevated_eq_false.mp h s hs hstatus)

/-- The group after asking `sub`, for a user who was elevated by `sub` only or not at all. -/
theorem Separate.reverted_eq {u : Int} {h : GroupHistory} (hsep : h.Separate u)
    {sub : UserSubscription} (hbought : sub.upgradeGroup ≠ "" → BoughtIn (h.base u) sub)
    (hel : h.db.elevated u = false ∨ (sub.upgradeGroup ≠ "" ∧
      (h.db.group u = sub.upgradeGroup ∨ h.db.group u = h.base u))) :
    reverted sub (h.db.group u) = h.base u := by
  by_cases hup : sub.upgradeGroup = ""
  · have hnot : h.db.elevated u = false := hel.resolve_right fun hr => hr.1 hup
    simp [reverted, hup, hsep.restored hnot]
  · obtain hnot | ⟨-, hcur | hcur⟩ := hel
    · rw [hsep.restored hnot]
      exact (hbought hup).reverted_base
    · rw [hcur]
      exact (hbought hup).reverted_upgrade hup
    · rw [hcur]
      exact (hbought hup).reverted_base

/-- Asking any subscription of the user changes nothing or returns to the group before the
    stretch. -/
theorem reverted_or_base {base : String} {sub : UserSubscription} {current after : String}
    (hbought : sub.upgradeGroup ≠ "" → BoughtIn base sub) (h : after = reverted sub current) :
    after = current ∨ after = base := by
  by_cases hup : sub.upgradeGroup = ""
  · left
    rw [h]
    simp [reverted, hup]
  · rw [h]
    exact (hbought hup).reverted_cases current

/-- A purchase. -/
theorem Separate.created {u : Int} {h h' : GroupHistory} (hsep : h.Separate u) {cal : Calendar}
    {now : Timestamp} {plan : SubscriptionPlan} {sub : UserSubscription}
    (hno : h.NoOverlap u (.create cal now u plan)) (hsub : Created h.db cal now u plan sub)
    (hrows : h'.db.ofUser u = h.db.ofUser u ++ [sub])
    (hgroup : h'.db.group u = if sub.upgradeGroup ≠ "" ∧ h.db.group u ≠ sub.upgradeGroup then
      (h.db.setGroup u sub.upgradeGroup).group u else h.db.group u)
    (hbase : h'.base u = if h.db.elevated u = false ∧ h'.db.elevated u = true then h.db.group u
      else h.base u)
    (hclock : h'.clock = now.unix) : h'.Separate u := by
  have hmem : ∀ s ∈ h'.db.ofUser u, s ∈ h.db.ofUser u ∨ s = sub := by
    intro s hs
    rw [hrows] at hs
    simpa using hs
  have hnotexpired : sub.status ≠ "expired" := by simp [hsub.status]
  have hended : ∀ s ∈ h'.db.ofUser u, s.status = "expired" → s.upgradeGroup ≠ "" →
      s.endTime ≤ h.clock := by
    intro s hs hstatus hup
    cases hmem s hs with
    | inl hold => exact hsep.ended s hold hstatus hup
    | inr hnew => exact absurd (hnew ▸ hstatus) hnotexpired
  have hnow : h.clock ≤ now.unix := hno.1
  have hended' : ∀ s ∈ h'.db.ofUser u, s.status = "expired" → s.upgradeGroup ≠ "" →
      s.endTime ≤ h'.clock := by
    intro s hs hstatus hup
    rw [hclock]
    exact (hended s hs hstatus hup).trans hnow
  by_cases hup : sub.upgradeGroup = ""
  · -- the user's elevation does not change
    have hgroup' : h'.db.group u = h.db.group u := by
      rw [hgroup, if_neg fun hc => hc.1 hup]
    have hel : h'.db.elevated u = h.db.elevated u := by
      rw [elevated, hrows, List.any_append, ← elevated]
      simp [hup]
    have hbase' : h'.base u = h.base u := by
      rw [hbase, hel, if_neg]
      rintro ⟨hfalse, htrue⟩
      rw [hfalse] at htrue
      cases htrue
    have hold : ∀ s ∈ h'.db.ofUser u, s.upgradeGroup ≠ "" → s ∈ h.db.ofUser u := by
      intro s hs hne
      exact (hmem s hs).resolve_right fun hnew => hne (hnew ▸ hup)
    refine ⟨?_, ?_, ?_, ?_, hended', ?_⟩
    · intro hnone
      rw [hgroup', hbase']
      exact hsep.restored (hel ▸ hnone)
    · intro s hs hne
      rw [hbase']
      exact hsep.bought s (hold s hs hne) hne
    · intro s hs t ht hsel htel
      exact hsep.single s (hold s hs hsel.2) t (hold t ht htel.2) hsel htel
    · intro s hs hsel
      rw [hgroup', hbase']
      exact hsep.current s (hold s hs hsel.2) hsel
    · intro s hs t ht hsel hstatus hne
      exact hsep.later s (hold s hs hsel.2) t (hold t ht hne) hsel hstatus hne
  · -- a stretch begins
    obtain ⟨hnot, hname, htrim, hend⟩ := hno.2 rfl (hsub.upgrade ▸ hup)
    have hgroup' : h'.db.group u = sub.upgradeGroup := by
      rw [hgroup]
      by_cases hsame : h.db.group u = sub.upgradeGroup
      · rw [if_neg fun hc => hc.2 hsame, hsame]
      · rw [if_pos ⟨hup, hsame⟩, setGroup_group_self _ hname]
    have hel : h'.db.elevated u = true :=
      elevated_eq_true.mpr ⟨sub, by simp [hrows], hsub.status, hup⟩
    have hbase' : h'.base u = h.base u := by
      rw [hbase, if_pos ⟨hnot, hel⟩]
      exact hsep.restored hnot
    have hnew : ∀ s ∈ h'.db.ofUser u, Elevates s → s = sub := by
      intro s hs hsel
      exact (hmem s hs).resolve_left fun hold => not_elevates_of_not_elevated hnot hold hsel
    refine ⟨?_, ?_, ?_, ?_, hended', ?_⟩
    · intro hnone
      rw [hel] at hnone
      cases hnone
    · intro s hs hne
      rw [hbase']
      cases hmem s hs with
      | inl hold => exact hsep.bought s hold hne
      | inr heq =>
        subst heq
        rw [BoughtIn, ← hsep.restored hnot, hsub.prev]
        by_cases hsame : h.db.group u = s.upgradeGroup
        · left
          exact ⟨hsame.symm, by rw [if_neg fun hc => hc.2 hsame]; decide⟩
        · right
          rw [if_pos ⟨hup, hsame⟩]
          exact ⟨Ne.symm hsame, htrim, hname⟩
    · intro s hs t ht hsel htel
      rw [hnew s hs hsel, hnew t ht htel]
    · intro s hs hsel
      left
      rw [hgroup', hnew s hs hsel]
    · intro s hs t ht hsel hstatus hne
      rw [hnew s hs hsel]
      have hlt : now.unix < sub.endTime := hend sub.endTime (by rw [hsub.ends]; rfl)
      have hle := hended t ht hstatus hne
      omega

/-- A subscription is invalidated or deleted. -/
theorem Separate.ended_one {u : Int} {h h' : GroupHistory} (hsep : h.Separate u)
    {sub : UserSubscription} {now : Timestamp} (hsub : sub ∈ h.db.ofUser u)
    (hkeep : ∀ s ∈ h.db.ofUser u, s.id ≠ sub.id → s ∈ h'.db.ofUser u)
    (hfrom : ∀ s ∈ h'.db.ofUser u, (s ∈ h.db.ofUser u ∧ s.id ≠ sub.id) ∨
      s = { sub with status := "cancelled", endTime := now.unix })
    (hgroup : h'.db.group u = h.db.group u ∨ h'.db.group u = reverted sub (h.db.group u))
    (hlast : h.db.elevatedWithout u sub.id = false →
      h'.db.group u = reverted sub (h.db.group u))
    (hbase : h'.base u = h.base u) (hclock : h.clock ≤ h'.clock) : h'.Separate u := by
  have hbought := hsep.bought sub hsub
  have hel := elevated_of_ended hkeep hfrom
  -- a row that is active or expired has not been touched
  have hold : ∀ s ∈ h'.db.ofUser u, s.status ≠ "cancelled" → s ∈ h.db.ofUser u := by
    intro s hs hstatus
    cases hfrom s hs with
    | inl hold => exact hold.1
    | inr hnew => exact absurd (by rw [hnew]) hstatus
  have hactive : ∀ s : UserSubscription, Elevates s → s.status ≠ "cancelled" := by
    intro s hs
    simp [hs.1]
  have hgroup' : h'.db.group u = h.db.group u ∨ h'.db.group u = h.base u := by
    cases hgroup with
    | inl hsame => exact .inl hsame
    | inr hrev => exact reverted_or_base hbought hrev
  refine ⟨?_, ?_, ?_, ?_, ?_, ?_⟩
  · intro hnone
    have hwithout : h.db.elevatedWithout u sub.id = false := hel ▸ hnone
    rw [hlast hwithout, hbase]
    refine hsep.reverted_eq hbought ?_
    by_cases hsel : Elevates sub
    · exact .inr ⟨hsel.2, hsep.current sub hsub hsel⟩
    · -- only `sub` could have elevated the user
      left
      rw [elevated_eq_false]
      intro s hs hstatus
      by_contra hup
      have hid : s.id ≠ sub.id := by
        intro heq
        have hsame := h.db.subs.eq_of_key_eq (mem_ofUser.mp hs).1 (mem_ofUser.mp hsub).1 heq
        exact hsel (hsame ▸ ⟨hstatus, hup⟩)
      simp only [elevatedWithout, List.any_eq_false, decide_eq_true_eq] at hwithout
      exact hwithout s hs ⟨hid, hstatus, hup⟩
  · intro s hs hup
    rw [hbase]
    cases hfrom s hs with
    | inl hold => exact hsep.bought s hold.1 hup
    | inr hnew =>
      subst hnew
      exact hbought hup
  · intro s hs t ht hsel htel
    exact hsep.single s (hold s hs (hactive s hsel)) t (hold t ht (hactive t htel)) hsel htel
  · intro s hs hsel
    rw [hbase]
    obtain hcur | hcur := hgroup'
    · rw [hcur]
      exact hsep.current s (hold s hs (hactive s hsel)) hsel
    · exact .inr hcur
  · intro s hs hstatus hup
    exact (hsep.ended s (hold s hs (by simp [hstatus])) hstatus hup).trans hclock
  · intro s hs t ht hsel hstatus hup
    exact hsep.later s (hold s hs (hactive s hsel)) t (hold t ht (by simp [hstatus])) hsel hstatus hup

/-- A row that still elevates the user has not expired. -/
theorem elevates_marked {now : Int} {s : UserSubscription} (h : Elevates (marked now s)) :
    marked now s = s ∧ Elevates s ∧ isDue now s = false := by
  by_cases hdue : isDue now s = true
  · have hstatus := h.1
    simp [marked, hdue] at hstatus
  · have hsame : marked now s = s := by rw [marked, if_neg hdue]
    rw [hsame] at h
    exact ⟨hsame, h, by simpa using hdue⟩

theorem marked_fields (now : Int) (s : UserSubscription) :
    (marked now s).upgradeGroup = s.upgradeGroup ∧
      (marked now s).prevUserGroup = s.prevUserGroup ∧ (marked now s).endTime = s.endTime := by
  unfold marked
  split
  · exact ⟨rfl, rfl, rfl⟩
  · exact ⟨rfl, rfl, rfl⟩

/-- An expired row was due or had expired before. -/
theorem expired_marked {now : Int} {s : UserSubscription} (h : (marked now s).status = "expired") :
    (isDue now s = true ∧ s.status = "active") ∨ s.status = "expired" := by
  by_cases hdue : isDue now s = true
  · have hactive : s.status = "active" := by
      simp only [isDue, decide_eq_true_eq] at hdue
      exact hdue.1
    exact .inl ⟨hdue, hactive⟩
  · rw [marked, if_neg hdue] at h
    exact .inr h

/-- The due subscriptions expire. -/
theorem Separate.expired_due {u : Int} {h h' : GroupHistory} (hsep : h.Separate u) (hdb : h.db.Wf)
    {now : Timestamp} (hrows : h'.db.ofUser u = (h.db.ofUser u).map (marked now.unix))
    (hgroup : h'.db.group u = h.db.group u ∨
      ∃ sub ∈ askedExpired now.unix (h.db.ofUser u), h'.db.group u = reverted sub (h.db.group u))
    (hlast : h.db.elevatedAfter u now.unix = false → h'.db.group u =
      ((askedExpired now.unix (h.db.ofUser u)).map fun sub => reverted sub (h.db.group u)).getD
        (h.db.group u))
    (hbase : h'.base u = h.base u) (hclock : h.clock ≤ now.unix) (hclock' : h'.clock = now.unix) :
    h'.Separate u := by
  have hmem : ∀ s ∈ h'.db.ofUser u, ∃ r ∈ h.db.ofUser u, marked now.unix r = s := by
    intro s hs
    rw [hrows] at hs
    exact List.mem_map.mp hs
  have hboughtMarked : ∀ r ∈ h.db.ofUser u, r.upgradeGroup ≠ "" →
      BoughtIn (h.base u) (marked now.unix r) := by
    intro r hr hup
    obtain ⟨hfup, hfprev, -⟩ := marked_fields now.unix r
    rw [BoughtIn, hfup, hfprev]
    exact hsep.bought r hr hup
  -- the subscription that is asked
  have hasked : ∀ sub ∈ askedExpired now.unix (h.db.ofUser u),
      ∃ r ∈ h.db.ofUser u, marked now.unix r = sub ∧ sub.status = "expired" ∧
        sub.upgradeGroup ≠ "" := by
    intro sub hsub
    obtain ⟨hin, hstatus, hdef⟩ := askedExpired_mem hsub
    obtain ⟨r, hr, rfl⟩ := List.mem_map.mp hin
    have hdown : (marked now.unix r).downgradeGroup = "" := by
      have hrdown := hdb.downgrade r (mem_ofUser.mp hr).1
      unfold marked
      split
      · exact hrdown
      · exact hrdown
    exact ⟨r, hr, rfl, hstatus, hdef.resolve_left fun hne => hne hdown⟩
  have hboughtAsked : ∀ sub ∈ askedExpired now.unix (h.db.ofUser u),
      sub.upgradeGroup ≠ "" → BoughtIn (h.base u) sub := by
    intro sub hsub hup
    obtain ⟨r, hr, rfl, -, -⟩ := hasked sub hsub
    exact hboughtMarked r hr ((marked_fields now.unix r).1 ▸ hup)
  have hgroup' : h'.db.group u = h.db.group u ∨ h'.db.group u = h.base u := by
    obtain hsame | ⟨sub, hsub, hrev⟩ := hgroup
    · exact .inl hsame
    · exact reverted_or_base (hboughtAsked sub hsub) hrev
  refine ⟨?_, ?_, ?_, ?_, ?_, ?_⟩
  · intro hnone
    have hafter : h.db.elevatedAfter u now.unix = false := elevated_of_expired hrows ▸ hnone
    rw [hlast hafter, hbase]
    cases hask : askedExpired now.unix (h.db.ofUser u) with
    | none => exact hsep.restored (not_elevated_of_asked_none hafter hask)
    | some sub =>
      show reverted sub (h.db.group u) = h.base u
      refine hsep.reverted_eq (hboughtAsked sub hask) ?_
      by_cases hel : h.db.elevated u = false
      · exact .inl hel
      · right
        -- the subscription that elevates the user is due, and it ends last
        obtain ⟨a, ha, hstatus, hup⟩ := elevated_eq_true.mp (by simpa using hel)
        have haEl : Elevates a := ⟨hstatus, hup⟩
        have hdue : isDue now.unix a = true := by
          by_contra hdue
          simp only [elevatedAfter, List.any_eq_false, decide_eq_true_eq] at hafter
          exact hafter a ha ⟨hdue, hstatus, hup⟩
        obtain ⟨r, hr, hrsub, hsubstatus, hsubup⟩ := hasked sub hask
        have hrup : r.upgradeGroup ≠ "" := (marked_fields now.unix r).1 ▸ hrsub ▸ hsubup
        have hra : r = a := by
          rw [← hrsub] at hsubstatus
          cases expired_marked hsubstatus with
          | inl hdue' => exact hsep.single r hr a ha ⟨hdue'.2, hrup⟩ haEl
          | inr hexp =>
            exfalso
            have hlt := hsep.later a ha r hr haEl hexp hrup
            have hain : marked now.unix a ∈ ((h.db.ofUser u).map (marked now.unix)).filter fun s =>
                s.status = "expired" ∧ (s.downgradeGroup ≠ "" ∨ s.upgradeGroup ≠ "") := by
              refine List.mem_filter.mpr ⟨List.mem_map_of_mem ha, ?_⟩
              simp [marked, hdue, hup]
            have hle := endTime_le_latest hask _ hain
            rw [← hrsub, (marked_fields now.unix a).2.2, (marked_fields now.unix r).2.2] at hle
            omega
        refine ⟨hsubup, ?_⟩
        rw [← hrsub, (marked_fields now.unix r).1, hra]
        exact hsep.current a ha haEl
  · intro s hs hup
    obtain ⟨r, hr, rfl⟩ := hmem s hs
    rw [hbase]
    exact hboughtMarked r hr ((marked_fields now.unix r).1 ▸ hup)
  · intro s hs t ht hsel htel
    obtain ⟨r, hr, rfl⟩ := hmem s hs
    obtain ⟨q, hq, rfl⟩ := hmem t ht
    obtain ⟨-, hrel, -⟩ := elevates_marked hsel
    obtain ⟨-, hqel, -⟩ := elevates_marked htel
    rw [hsep.single r hr q hq hrel hqel]
  · intro s hs hsel
    obtain ⟨r, hr, rfl⟩ := hmem s hs
    obtain ⟨-, hrel, -⟩ := elevates_marked hsel
    rw [hbase, (marked_fields now.unix r).1]
    obtain hcur | hcur := hgroup'
    · rw [hcur]
      exact hsep.current r hr hrel
    · exact .inr hcur
  · intro s hs hstatus hup
    obtain ⟨r, hr, rfl⟩ := hmem s hs
    obtain ⟨hfup, -, hfend⟩ := marked_fields now.unix r
    rw [hfend, hclock']
    cases expired_marked hstatus with
    | inl hdue =>
      have hdue' := hdue.1
      simp only [isDue, decide_eq_true_eq] at hdue'
      exact hdue'.2.2
    | inr hexp => exact (hsep.ended r hr hexp (hfup ▸ hup)).trans hclock
  · intro s hs t ht hsel hstatus hup
    obtain ⟨r, hr, rfl⟩ := hmem s hs
    obtain ⟨q, hq, rfl⟩ := hmem t ht
    obtain ⟨-, hrel, hnotdue⟩ := elevates_marked hsel
    obtain ⟨hqup, -, hqend⟩ := marked_fields now.unix q
    rw [hqend, (marked_fields now.unix r).2.2]
    cases expired_marked hstatus with
    | inl hdue =>
      have hsame := hsep.single r hr q hq hrel ⟨hdue.2, hqup ▸ hup⟩
      rw [hsame, hdue.1] at hnotdue
      cases hnotdue
    | inr hexp => exact hsep.later r hr q hq hrel hexp (hqup ▸ hup)

/-- One step keeps the elevations of a user apart. -/
theorem Separate.step {u : Int} {h : GroupHistory} (hsep : h.Separate u) (hdb : h.db.Wf)
    {e : GroupEvent} (hno : h.NoOverlap u e) : (h.step e).Separate u := by
  have hbase := step_base_of_elevated (h := h) (u := u) (e := e)
  cases userStep h.db hdb u e with
  | same hrows hgroup hasked =>
    have hel : (stepDB h.db e).elevated u = h.db.elevated u := by
      rw [elevated, hrows, elevated]
    have hbase' := hbase fun hyes => hel ▸ hyes
    obtain ⟨hrest, hbought, hsingle, hcurrent, hended, hlater⟩ := hsep
    constructor
    · intro hnone
      rw [hbase']
      exact hgroup.trans (hrest (hel.symm.trans hnone))
    · intro s hs
      rw [hbase']
      exact hbought s (hrows ▸ hs)
    · intro s hs t ht
      exact hsingle s (hrows ▸ hs) t (hrows ▸ ht)
    · intro s hs hsel
      rw [hbase']
      have hcur := hcurrent s (hrows ▸ hs) hsel
      rw [← hgroup] at hcur
      exact hcur
    · intro s hs hstatus hup
      exact (hended s (hrows ▸ hs) hstatus hup).trans hno.1
    · intro s hs t ht
      exact hlater s (hrows ▸ hs) t (hrows ▸ ht)
  | @created cal now plan sub he hsub hrows hgroup =>
    subst he
    exact hsep.created hno hsub hrows hgroup rfl rfl
  | @ended sub now hsub hkeep hfrom hgroup hlast hasked =>
    have hel := elevated_of_ended hkeep hfrom
    have hbase' := hbase fun hyes => elevated_of_elevatedWithout (hel ▸ hyes)
    exact hsep.ended_one hsub hkeep hfrom hgroup hlast hbase' hno.1
  | @expired now hnow hrows hgroup hlast hasked =>
    have hel := elevated_of_expired hrows
    have hbase' := hbase fun hyes => elevated_of_elevatedAfter (hel ▸ hyes)
    exact hsep.expired_due hdb hrows hgroup hlast hbase' (hnow ▸ hno.1) hnow

/-! ## Runs -/

/-- Before the first subscription. -/
def start (users : Table GroupUser (·.id)) : GroupHistory :=
  let db : SubscriptionDB := { users := users, subs := .empty }
  { db := db, base := db.group }

theorem start_wf (users : Table GroupUser (·.id)) : (start users).db.Wf := by
  constructor
  · intro s hs
    simp [start] at hs
  · intro s hs
    simp [start] at hs
  · intro s hs
    simp [start] at hs
  · intro s hs
    simp [start] at hs

theorem start_separate (users : Table GroupUser (·.id)) (u : Int) : (start users).Separate u := by
  constructor
  · intro _
    rfl
  · intro s hs
    simp [start, ofUser] at hs
  · intro s hs
    simp [start, ofUser] at hs
  · intro s hs
    simp [start, ofUser] at hs
  · intro s hs
    simp [start, ofUser] at hs
  · intro s hs
    simp [start, ofUser] at hs

end GroupHistory

/-- A user who has no active subscription with an upgrade group is always back in the group
    held before the stretch, exactly when every operation that ends an elevation asks a
    subscription that remembers this group. It is enough that no elevation begins during
    another. -/
theorem group_restored_iff_asks_right (users : Table GroupUser (·.id)) (u : Int)
    (es : List GroupEvent) (hes : ∀ e ∈ es, e.NoDowngrade) :
    (Run.Always GroupHistory.step (GroupHistory.Restored u) (GroupHistory.start users) es ↔
        Run.Steps GroupHistory.step (GroupHistory.AsksTheRightOne u)
          (GroupHistory.start users) es) ∧
      (Run.Steps GroupHistory.step (GroupHistory.NoOverlap u) (GroupHistory.start users) es →
        Run.Always GroupHistory.step (GroupHistory.Restored u) (GroupHistory.start users) es) := by
  have hplans : Run.Steps GroupHistory.step (fun _ e => e.NoDowngrade)
      (GroupHistory.start users) es := Run.steps_of_forall_mem _ hes
  have hwf := GroupHistory.start_wf users
  have hsep := GroupHistory.start_separate users u
  have hwfAlways : Run.Always GroupHistory.step (fun h => h.db.Wf) (GroupHistory.start users) es :=
    Run.always_of_steps (fun _ _ hs he => GroupHistory.stepDB_wf hs he) hwf hplans
  constructor
  · -- well-formed tables are carried along with the property
    have hstep : ∀ (h : GroupHistory) (e : GroupEvent), e.NoDowngrade →
        h.db.Wf ∧ h.Restored u →
          ((h.step e).db.Wf ∧ (h.step e).Restored u ↔ h.AsksTheRightOne u e) := by
      intro h e he hs
      rw [← GroupHistory.step_restored_iff hs.1 hs.2 e]
      exact ⟨fun hboth => hboth.2, fun hrest => ⟨GroupHistory.stepDB_wf hs.1 he, hrest⟩⟩
    rw [← Run.always_iff_steps_under hstep ⟨hwf, hsep.restored⟩ hplans]
    exact ⟨fun hall => hwfAlways.and hall, fun hall => hall.mono fun _ hs => hs.2⟩
  · intro hno
    have hall : Run.Always GroupHistory.step (fun h => h.db.Wf ∧ h.Separate u)
        (GroupHistory.start users) es :=
      Run.always_of_steps
        (fun _ _ hs hc => ⟨GroupHistory.stepDB_wf hs.1 hc.1, hs.2.step hs.1 hc.2⟩)
        ⟨hwf, hsep⟩ (hplans.and hno)
    exact hall.mono fun _ hs => hs.2.restored

/-- The calendar is not used by plans that are counted in seconds. -/
def plainCalendar : Calendar := ⟨fun t _ _ => t, id, id, id⟩

/-- A plan that lifts its user to the group `vip` for 100 seconds. -/
def vipPlan : SubscriptionPlan :=
  { id := 1, durationUnit := "custom", customSeconds := 100, upgradeGroup := "vip" }

/-- User 1 in the group `default`. -/
def defaultUser : Table GroupUser (·.id) := Table.empty.insert { id := 1, group := "default" }

/-- Two purchases, one after the other has expired; the second is cancelled. -/
theorem group_restored_after_two_stretches :
    Run.Always GroupHistory.step (GroupHistory.Restored 1) (GroupHistory.start defaultUser)
      [.create plainCalendar ⟨10, by decide⟩ 1 vipPlan, .expire ⟨115, by decide⟩ 0,
        .create plainCalendar ⟨120, by decide⟩ 1 vipPlan, .invalidate ⟨130, by decide⟩ 2] :=
  (group_restored_iff_asks_right defaultUser 1 _ (by decide)).2 (by decide)

/-- A purchase during the stretch of another: the first one expires while the second is
    active, and the second remembers no group. -/
theorem overlapping_elevation_stays :
    ∃ es : List GroupEvent,
      es = [.create plainCalendar ⟨10, by decide⟩ 1 vipPlan,
        .create plainCalendar ⟨20, by decide⟩ 1 vipPlan, .expire ⟨115, by decide⟩ 0,
        .expire ⟨125, by decide⟩ 0] ∧
      (∀ e ∈ es, e.NoDowngrade) ∧
      (Run.run GroupHistory.step (GroupHistory.start defaultUser) es).db.elevated 1 = false ∧
      (Run.run GroupHistory.step (GroupHistory.start defaultUser) es).base 1 = "default" ∧
      (Run.run GroupHistory.step (GroupHistory.start defaultUser) es).db.group 1 = "vip" ∧
      ¬ Run.Always GroupHistory.step (GroupHistory.Restored 1)
        (GroupHistory.start defaultUser) es := by
  refine ⟨_, rfl, by decide, by decide, by decide, by decide, ?_⟩
  intro hall
  have hlast := hall.last
  revert hlast
  unfold GroupHistory.Restored
  decide

end TokenRouter
