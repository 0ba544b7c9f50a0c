import TokenRouter.Model.Subscription

/-!
# What subscription operations do to a user's group

Each operation on subscriptions, seen by one user: the rows and the group of the user after
it, and the subscription that it asked for the group to return to.

## Key results

- `SubscriptionDB.downgrade_eq`: asking one subscription
- `SubscriptionDB.foldl_expireUser_of_mem`: a user sees one transaction of an expiry run
- `SubscriptionDB.userStep`: what a step does to one user
-/

namespace TokenRouter

/-! ## One user's rows -/

namespace SubscriptionDB

/-- The subscriptions of a user. -/
def ofUser (db : SubscriptionDB) (userId : Int) : List UserSubscription :=
  db.subs.rows.filter fun s => s.userId = userId

theorem mem_ofUser {db : SubscriptionDB} {userId : Int} {s : UserSubscription} :
    s ∈ db.ofUser userId ↔ s ∈ db.subs.rows ∧ s.userId = userId := by
  simp [ofUser]

/-- A query with a condition on the user only looks at the user's rows. -/
theorem any_ofUser (db : SubscriptionDB) (userId : Int) (p : UserSubscription → Prop)
    [DecidablePred p] :
    (db.subs.rows.any fun s => s.userId = userId ∧ p s) = (db.ofUser userId).any (fun s => p s) := by
  rw [Bool.eq_iff_iff]
  simp only [List.any_eq_true, mem_ofUser, decide_eq_true_eq]
  constructor
  · rintro ⟨s, hs, huser, hp⟩
    exact ⟨s, ⟨hs, huser⟩, hp⟩
  · rintro ⟨s, ⟨hs, huser⟩, hp⟩
    exact ⟨s, hs, huser, hp⟩

theorem filter_ofUser (db : SubscriptionDB) (userId : Int) (p : UserSubscription → Prop)
    [DecidablePred p] :
    (db.subs.rows.filter fun s => s.userId = userId ∧ p s) =
      (db.ofUser userId).filter fun s => p s := by
  rw [ofUser, List.filter_filter]
  refine List.filter_congr ?_
  intro s _
  by_cases huser : s.userId = userId
  · simp [huser]
  · simp [huser]

/-! ## The group of a user -/

@[simp] theorem setGroup_subs (db : SubscriptionDB) (userId : Int) (target : String) :
    (db.setGroup userId target).subs = db.subs := rfl

@[simp] theorem setGroup_ofUser (db : SubscriptionDB) (userId v : Int) (target : String) :
    (db.setGroup v target).ofUser userId = db.ofUser userId := rfl

theorem find?_setGroup (db : SubscriptionDB) (userId v : Int) (target : String) :
    (db.setGroup v target).users.find? userId =
      if v = userId then (db.users.find? userId).map fun user => { user with group := target }
      else db.users.find? userId :=
  Table.find?_update db.users v userId (f := fun user => { user with group := target })
    fun _ => rfl

theorem setGroup_group_of_ne (db : SubscriptionDB) {userId v : Int} (h : v ≠ userId)
    (target : String) : (db.setGroup v target).group userId = db.group userId := by
  rw [group, find?_setGroup, if_neg h, group]

/-- A user with a group exists. -/
theorem setGroup_group_self (db : SubscriptionDB) {userId : Int} (h : db.group userId ≠ "")
    (target : String) : (db.setGroup userId target).group userId = target := by
  rw [group, find?_setGroup, if_pos rfl]
  unfold group at h
  cases hfind : db.users.find? userId with
  | none => simp [hfind] at h
  | some user => rfl

/-- Whether the user has an active subscription with an upgrade group. -/
def elevated (db : SubscriptionDB) (userId : Int) : Bool :=
  (db.ofUser userId).any fun s => s.status = "active" ∧ s.upgradeGroup ≠ ""

theorem elevated_eq_true {db : SubscriptionDB} {userId : Int} :
    db.elevated userId = true ↔
      ∃ s ∈ db.ofUser userId, s.status = "active" ∧ s.upgradeGroup ≠ "" := by
  simp [elevated]

theorem elevated_eq_false {db : SubscriptionDB} {userId : Int} :
    db.elevated userId = false ↔
      ∀ s ∈ db.ofUser userId, s.status = "active" → s.upgradeGroup = "" := by
  simp [elevated]

end SubscriptionDB

/-! ## Histories -/

/-- The tables, with the group that each user held before the first subscription of the
    current elevated stretch, and the time of the last step. -/
structure GroupHistory where
  db : SubscriptionDB
  base : Int → String
  clock : Int := 0

/-- The operations. -/
inductive GroupEvent where
  | create (cal : Calendar) (now : Timestamp) (userId : Int) (plan : SubscriptionPlan)
  | expire (now : Timestamp) (limit : Int)
  | invalidate (now : Timestamp) (id : Nat)
  | delete (now : Timestamp) (id : Nat)

/-- The time of an operation. -/
def GroupEvent.now : GroupEvent → Int
  | .create _ now _ _ => now.unix
  | .expire now _ => now.unix
  | .invalidate now _ => now.unix
  | .delete now _ => now.unix

namespace GroupHistory

/-- The tables after an operation; a failed one leaves them alone. -/
def stepDB (db : SubscriptionDB) : GroupEvent → SubscriptionDB
  | .create cal now userId plan =>
    match db.createUserSubscriptionFromPlan cal now userId plan with
    | .error _ => db
    | .ok (_, db') => db'
  | .expire now limit => db.expireDueSubscriptions now limit
  | .invalidate now id =>
    match db.adminInvalidateUserSubscription now id with
    | .error _ => db
    | .ok (_, db') => db'
  | .delete now id =>
    match db.adminDeleteUserSubscription now id with
    | .error _ => db
    | .ok (_, db') => db'

/-- One operation. A stretch begins when a user who was not elevated is elevated. -/
def step (h : GroupHistory) (e : GroupEvent) : GroupHistory :=
  let db' := stepDB h.db e
  { db := db'
    base := fun userId =>
      if h.db.elevated userId = false ∧ db'.elevated userId = true then h.db.group userId
      else h.base userId
    clock := e.now }

/-- A user without an active subscription with an upgrade group is in the group held
    before the stretch. -/
def Restored (userId : Int) (h : GroupHistory) : Prop :=
  h.db.elevated userId = false → h.db.group userId = h.base userId

end GroupHistory

/-! ## What the operations do -/

namespace SubscriptionDB

/-- The rows were written by `CreateUserSubscriptionFromPlanTx` from plans without a
    downgrade group. -/
structure Wf (db : SubscriptionDB) : Prop where
  downgrade : ∀ s ∈ db.subs.rows, s.downgradeGroup = ""
  trimmed : ∀ s ∈ db.subs.rows, trimSpace s.upgradeGroup = s.upgradeGroup
  user_pos : ∀ s ∈ db.subs.rows, 0 < s.userId
  id_le : ∀ s ∈ db.subs.rows, s.id ≤ db.lastId

/-- The subscription that a successful purchase creates. -/
structure Created (db : SubscriptionDB) (cal : Calendar) (now : Timestamp) (userId : Int)
    (plan : SubscriptionPlan) (sub : UserSubscription) : Prop where
  id : sub.id = db.lastId + 1
  user : sub.userId = userId
  status : sub.status = "active"
  upgrade : sub.upgradeGroup = trimSpace plan.upgradeGroup
  downgrade : sub.downgradeGroup = trimSpace plan.downgradeGroup
  prev : sub.prevUserGroup = if sub.upgradeGroup ≠ "" ∧ db.group userId ≠ sub.upgradeGroup then
    db.group userId else ""
  ends : calcPlanEndTime cal now.unix plan = .ok sub.endTime
  user_pos : 0 < userId

theorem create_created {db db' : SubscriptionDB} {cal : Calendar} {now : Timestamp}
    {userId : Int} {plan : SubscriptionPlan} {sub : UserSubscription}
    (h : db.createUserSubscriptionFromPlan cal now userId plan = .ok (sub, db')) :
    Created db cal now userId plan sub ∧ db'.subs = db.subs.insert sub ∧ db'.lastId = db.lastId + 1 ∧
      db'.users = if sub.upgradeGroup ≠ "" ∧ db.group userId ≠ sub.upgradeGroup then
        (db.setGroup userId sub.upgradeGroup).users else db.users := by
  unfold createUserSubscriptionFromPlan at h
  split at h
  · cases h
  · split at h
    · cases h
    · next huser =>
      split at h
      · cases h
      · cases hend : calcPlanEndTime cal now.unix plan with
        | error e => simp [hend] at h
        | ok endUnix =>
          simp only [hend, Except.ok.injEq, Prod.mk.injEq] at h
          obtain ⟨rfl, rfl⟩ := h
          refine ⟨⟨rfl, rfl, rfl, rfl, rfl, rfl, hend, not_le.mp huser⟩, ?_, rfl, ?_⟩
          · split
            · rfl
            · rfl
          · dsimp only
            split
            · rfl
            · rfl

/-- The new row is the last one of its user. -/
theorem Created.ofUser {db db' : SubscriptionDB} {cal : Calendar} {now : Timestamp}
    {userId : Int} {plan : SubscriptionPlan} {sub : UserSubscription} (hdb : db.Wf)
    (hsub : Created db cal now userId plan sub) (hsubs : db'.subs = db.subs.insert sub) (u : Int) :
    db'.ofUser u = if userId = u then db.ofUser u ++ [sub] else db.ofUser u := by
  have hfresh : db.subs.find? sub.id = none := by
    rw [Table.find?_eq_none_iff]
    intro s hs
    have hle := hdb.id_le s hs
    have hid := hsub.id
    omega
  rw [SubscriptionDB.ofUser, hsubs, Table.insert_of_find?_none hfresh, List.filter_append]
  by_cases hu : userId = u
  · simp [hsub.user, hu, SubscriptionDB.ofUser]
  · simp [hsub.user, hu, SubscriptionDB.ofUser]

/-- The group that `sub` sends a user in group `current` back to. -/
def reverted (sub : UserSubscription) (current : String) : String :=
  if current = sub.upgradeGroup ∧ sub.upgradeGroup ≠ "" ∧ trimSpace sub.prevUserGroup ≠ "" then
    trimSpace sub.prevUserGroup
  else current

theorem downgrade_eq (db : SubscriptionDB) (sub : UserSubscription) (now : Int)
    (hdown : sub.downgradeGroup = "") (htrim : trimSpace sub.upgradeGroup = sub.upgradeGroup)
    (huser : 0 < sub.userId) :
    ∃ target db', db.downgradeUserGroupForSubscription sub now = .ok (target, db') ∧
      db'.subs = db.subs ∧ db'.lastId = db.lastId ∧
      (∀ u, u ≠ sub.userId → db'.group u = db.group u) ∧
      db'.group sub.userId = if db.hasOtherUpgraded sub now then db.group sub.userId
        else reverted sub (db.group sub.userId) := by
  have hempty : trimSpace "" = "" := by decide
  unfold downgradeUserGroupForSubscription
  simp only [hdown, hempty, htrim, true_and, getUserGroupById, if_neg (not_le.mpr huser), if_true]
  by_cases hnone : sub.upgradeGroup = ""
  · rw [if_pos hnone]
    refine ⟨_, _, rfl, rfl, rfl, fun _ _ => rfl, ?_⟩
    have hsame : reverted sub (db.group sub.userId) = db.group sub.userId := by
      simp [reverted, hnone]
    rw [hsame, ite_self]
  rw [if_neg hnone]
  by_cases hother : db.hasOtherUpgraded sub now = true
  · simp only [if_pos hother]
    exact ⟨_, _, rfl, rfl, rfl, fun _ _ => rfl, rfl⟩
  simp only [if_neg hother]
  by_cases hcur : db.group sub.userId = sub.upgradeGroup
  · rw [if_neg (not_not.mpr hcur)]
    by_cases hstay : trimSpace sub.prevUserGroup = "" ∨
        trimSpace sub.prevUserGroup = db.group sub.userId
    · rw [if_pos hstay]
      refine ⟨_, _, rfl, rfl, rfl, fun _ _ => rfl, ?_⟩
      unfold reverted
      by_cases hprev : trimSpace sub.prevUserGroup = ""
      · simp [hprev]
      · rw [if_pos ⟨hcur, hnone, hprev⟩]
        exact (hstay.resolve_left hprev).symm
    · rw [if_neg hstay]
      refine ⟨_, _, rfl, rfl, rfl, fun u hu => setGroup_group_of_ne db (Ne.symm hu) _, ?_⟩
      have hgroup : db.group sub.userId ≠ "" := hcur ▸ hnone
      rw [setGroup_group_self db hgroup, reverted,
        if_pos ⟨hcur, hnone, fun hprev => hstay (.inl hprev)⟩]
  · rw [if_pos hcur]
    refine ⟨_, _, rfl, rfl, rfl, fun _ _ => rfl, ?_⟩
    simp [reverted, hcur]

/-- A row that `ExpireDueSubscriptions` has been over. -/
def marked (now : Int) (s : UserSubscription) : UserSubscription :=
  if isDue now s then { s with status := "expired" } else s

theorem markExpired_ofUser (db : SubscriptionDB) (v u now : Int) :
    (db.markExpired v now).ofUser u =
      if v = u then (db.ofUser u).map (marked now) else db.ofUser u := by
  have hfilter : ∀ s : UserSubscription, (if s.userId = v ∧ isDue now s then
      { s with status := "expired" } else s).userId = s.userId := by
    intro s
    split <;> rfl
  simp only [ofUser, markExpired, Table.mapRows, List.filter_map, Function.comp_def, hfilter]
  by_cases hu : v = u
  · rw [if_pos hu]
    refine List.map_congr_left ?_
    intro s hs
    have huser : s.userId = v := by simpa [hu] using (List.mem_filter.mp hs).2
    simp [marked, huser]
  · rw [if_neg hu]
    refine (List.map_congr_left ?_).trans (List.map_id _)
    intro s hs
    have huser : s.userId = u := by simpa using (List.mem_filter.mp hs).2
    have hne : s.userId ≠ v := fun h => hu (h.symm.trans huser)
    simp [hne]

@[simp] theorem markExpired_group (db : SubscriptionDB) (v u now : Int) :
    (db.markExpired v now).group u = db.group u := rfl

/-- The last expired row belongs to the user and has an upgrade group. -/
theorem latest_mem {l : List UserSubscription} {s : UserSubscription} (h : latest l = some s) :
    s ∈ l := by
  induction l with
  | nil => cases h
  | cons a l ih =>
    rw [latest] at h
    cases hl : latest l with
    | none =>
      simp only [hl, Option.some.injEq] at h
      simp [h]
    | some t =>
      simp only [hl] at h
      split at h
      · simp only [Option.some.injEq] at h
        simp [h]
      · exact List.mem_cons_of_mem a (ih (hl.trans h))

theorem latest_eq_none {l : List UserSubscription} (h : latest l = none) : l = [] := by
  cases l with
  | nil => rfl
  | cons a l =>
    rw [latest] at h
    cases hl : latest l with
    | none => simp [hl] at h
    | some t =>
      simp only [hl] at h
      split at h <;> cases h

/-- The latest row ends last. -/
theorem endTime_le_latest {l : List UserSubscription} {s : UserSubscription}
    (h : latest l = some s) : ∀ t ∈ l, t.endTime ≤ s.endTime := by
  induction l generalizing s with
  | nil => cases h
  | cons a l ih =>
    rw [latest] at h
    intro t ht
    cases hl : latest l with
    | none =>
      simp only [hl, Option.some.injEq] at h
      subst h
      have hnil := latest_eq_none hl
      simp only [hnil, List.mem_singleton] at ht
      rw [ht]
    | some r =>
      have hr := ih hl
      simp only [hl] at h
      by_cases hlt : r.endTime < a.endTime ∨ (r.endTime = a.endTime ∧ r.id < a.id)
      · simp only [if_pos hlt, Option.some.injEq] at h
        subst h
        cases List.mem_cons.mp ht with
        | inl heq => rw [heq]
        | inr hmem =>
          have hle := hr t hmem
          omega
      · simp only [if_neg hlt, Option.some.injEq] at h
        subst h
        cases List.mem_cons.mp ht with
        | inl heq =>
          rw [heq]
          omega
        | inr hmem => exact hr t hmem

theorem expiryTarget_eq {sub : UserSubscription} (hdown : sub.downgradeGroup = "")
    (htrim : trimSpace sub.upgradeGroup = sub.upgradeGroup) (current : String) :
    (if expiryTarget sub current = "" ∨ expiryTarget sub current = current then current
      else expiryTarget sub current) = reverted sub current := by
  have hempty : trimSpace "" = "" := by decide
  unfold expiryTarget reverted
  simp only [hdown, hempty, htrim, ne_eq, not_true_eq_false, if_false]
  by_cases hup : sub.upgradeGroup = ""
  · simp [hup]
  · by_cases hprev : trimSpace sub.prevUserGroup = ""
    · simp [hprev]
    · by_cases hcur : current = sub.upgradeGroup
      · subst hcur
        simp only [hup, hprev, or_self, if_false, not_false_eq_true, and_self, if_true,
          not_true_eq_false, false_or]
        split
        · next hsame => exact hsame.symm
        · rfl
      · simp [hup, hprev, hcur]

/-- Rows are well formed if each comes from one that is. -/
theorem Wf.of_rows {db db' : SubscriptionDB} (hdb : db.Wf) (hid : db.lastId ≤ db'.lastId)
    (h : ∀ s ∈ db'.subs.rows, ∃ r ∈ db.subs.rows, s.downgradeGroup = r.downgradeGroup ∧
      s.upgradeGroup = r.upgradeGroup ∧ s.userId = r.userId ∧ s.id = r.id) : db'.Wf := by
  constructor
  · intro s hs
    obtain ⟨r, hr, hdown, -⟩ := h s hs
    rw [hdown]
    exact hdb.downgrade r hr
  · intro s hs
    obtain ⟨r, hr, -, hup, -⟩ := h s hs
    rw [hup]
    exact hdb.trimmed r hr
  · intro s hs
    obtain ⟨r, hr, -, -, huser, -⟩ := h s hs
    rw [huser]
    exact hdb.user_pos r hr
  · intro s hs
    obtain ⟨r, hr, -, -, -, hsid⟩ := h s hs
    have hle := hdb.id_le r hr
    omega

theorem Wf.markExpired {db : SubscriptionDB} (hdb : db.Wf) (u now : Int) :
    (db.markExpired u now).Wf := by
  refine hdb.of_rows (le_refl _) ?_
  intro s hs
  obtain ⟨r, hr, rfl⟩ := List.mem_map.mp hs
  refine ⟨r, hr, ?_⟩
  split
  · exact ⟨rfl, rfl, rfl, rfl⟩
  · exact ⟨rfl, rfl, rfl, rfl⟩

/-- The transaction of one user marks rows and perhaps sets a group. -/
theorem expireUser_cases (db : SubscriptionDB) (v now : Int) :
    db.expireUser now v = db.markExpired v now ∨
      ∃ target, db.expireUser now v = (db.markExpired v now).setGroup v target := by
  unfold expireUser
  dsimp only
  split
  · exact .inl rfl
  · cases (db.markExpired v now).lastExpired v with
    | none => exact .inl rfl
    | some sub =>
      dsimp only
      split
      · exact .inl rfl
      · exact .inr ⟨_, rfl⟩

theorem expireUser_ofUser (db : SubscriptionDB) (v u now : Int) :
    (db.expireUser now v).ofUser u =
      if v = u then (db.ofUser u).map (marked now) else db.ofUser u := by
  rw [← markExpired_ofUser]
  obtain h | ⟨target, h⟩ := expireUser_cases db v now
  · rw [h]
  · rw [h, setGroup_ofUser]

theorem expireUser_group_of_ne (db : SubscriptionDB) {v u : Int} (hne : v ≠ u) (now : Int) :
    (db.expireUser now v).group u = db.group u := by
  obtain h | ⟨target, h⟩ := expireUser_cases db v now
  · rw [h, markExpired_group]
  · rw [h, setGroup_group_of_ne _ hne, markExpired_group]

theorem Wf.expireUser {db : SubscriptionDB} (hdb : db.Wf) (v now : Int) :
    (db.expireUser now v).Wf := by
  obtain h | ⟨target, h⟩ := expireUser_cases db v now
  · rw [h]
    exact hdb.markExpired v now
  · rw [h]
    obtain ⟨hdown, htrim, huser, hid⟩ := hdb.markExpired v now
    exact ⟨hdown, htrim, huser, hid⟩

/-- The row that expiry asks for a group. -/
def askedExpired (now : Int) (l : List UserSubscription) : Option UserSubscription :=
  latest ((l.map (marked now)).filter fun s =>
    s.status = "expired" ∧ (s.downgradeGroup ≠ "" ∨ s.upgradeGroup ≠ ""))

theorem lastExpired_markExpired (db : SubscriptionDB) (u now : Int) :
    (db.markExpired u now).lastExpired u = askedExpired now (db.ofUser u) := by
  rw [lastExpired, filter_ofUser (db.markExpired u now) u fun s =>
    s.status = "expired" ∧ (s.downgradeGroup ≠ "" ∨ s.upgradeGroup ≠ ""), markExpired_ofUser,
    if_pos rfl]
  rfl

theorem askedExpired_mem {l : List UserSubscription} {now : Int} {s : UserSubscription}
    (h : askedExpired now l = some s) :
    s ∈ l.map (marked now) ∧ s.status = "expired" ∧
      (s.downgradeGroup ≠ "" ∨ s.upgradeGroup ≠ "") := by
  have hmem := latest_mem h
  simpa using hmem

/-- What the transaction of one user does to the group of that user. -/
theorem expireUser_group_self {db : SubscriptionDB} (hdb : db.Wf) (u now : Int) :
    (db.expireUser now u).group u =
      if ((db.ofUser u).map (marked now)).any
          (fun s => s.status = "active" ∧ now < s.endTime ∧ s.upgradeGroup ≠ "") then db.group u
      else ((askedExpired now (db.ofUser u)).map fun sub => reverted sub (db.group u)).getD
        (db.group u) := by
  have hrows : (db.markExpired u now).ofUser u = (db.ofUser u).map (marked now) := by
    rw [markExpired_ofUser, if_pos rfl]
  rw [← hrows, ← any_ofUser, ← lastExpired_markExpired]
  unfold expireUser
  dsimp only
  split
  · rfl
  · cases hlast : (db.markExpired u now).lastExpired u with
    | none => rfl
    | some sub =>
      have hasked := askedExpired_mem ((lastExpired_markExpired db u now).symm.trans hlast)
      have hmem : sub ∈ (db.markExpired u now).subs.rows := by
        rw [← hrows] at hasked
        exact (mem_ofUser.mp hasked.1).1
      have hwf := hdb.markExpired u now
      have hrev := expiryTarget_eq (hwf.downgrade sub hmem) (hwf.trimmed sub hmem) (db.group u)
      show (if expiryTarget sub (db.group u) = "" ∨ expiryTarget sub (db.group u) = db.group u then
        db.markExpired u now
          else (db.markExpired u now).setGroup u (expiryTarget sub (db.group u))).group u =
        reverted sub (db.group u)
      rw [← hrev]
      by_cases hstay : expiryTarget sub (db.group u) = "" ∨ expiryTarget sub (db.group u) = db.group u
      · rw [if_pos hstay, if_pos hstay, markExpired_group]
      · rw [if_neg hstay, if_neg hstay]
        -- a target other than "" needs a user in the upgrade group
        have hgroup : db.group u ≠ "" := by
          intro hnone
          apply hstay
          left
          have hempty : trimSpace "" = "" := by decide
          simp only [expiryTarget, hwf.downgrade sub hmem, hwf.trimmed sub hmem, hempty, hnone]
          by_cases hup : sub.upgradeGroup = ""
          · simp [hup]
          · simp [Ne.symm hup]
        rw [setGroup_group_self _ (by simpa using hgroup)]

/-! ## All users -/

theorem foldl_expireUser_wf {db : SubscriptionDB} (hdb : db.Wf) (now : Int) (users : List Int) :
    (users.foldl (expireUser now) db).Wf := by
  induction users generalizing db with
  | nil => exact hdb
  | cons v users ih => exact ih (hdb.expireUser v now)

/-- The transactions of other users do not touch a user. -/
theorem foldl_expireUser_of_not_mem {u : Int} {users : List Int} (hu : u ∉ users)
    (db : SubscriptionDB) (now : Int) :
    (users.foldl (expireUser now) db).ofUser u = db.ofUser u ∧
      (users.foldl (expireUser now) db).group u = db.group u := by
  induction users generalizing db with
  | nil => exact ⟨rfl, rfl⟩
  | cons v users ih =>
    have hne : v ≠ u := fun h => hu (h ▸ List.mem_cons_self)
    obtain ⟨hrows, hgroup⟩ := ih (fun h => hu (List.mem_cons_of_mem v h)) (db.expireUser now v)
    rw [List.foldl_cons, hrows, hgroup]
    exact ⟨by rw [expireUser_ofUser, if_neg hne], expireUser_group_of_ne db hne now⟩

/-- A user who is handled sees one transaction, on the rows of the start. -/
theorem foldl_expireUser_of_mem {u : Int} {users : List Int} (hu : u ∈ users)
    (hnodup : users.Nodup) {db : SubscriptionDB} (hdb : db.Wf) (now : Int) :
    (users.foldl (expireUser now) db).ofUser u = (db.expireUser now u).ofUser u ∧
      (users.foldl (expireUser now) db).group u = (db.expireUser now u).group u := by
  induction users generalizing db with
  | nil => simp at hu
  | cons v users ih =>
    rw [List.foldl_cons]
    rw [List.nodup_cons] at hnodup
    by_cases hv : v = u
    · subst hv
      exact foldl_expireUser_of_not_mem hnodup.1 (db.expireUser now v) now
    · have hmem : u ∈ users := (List.mem_cons.mp hu).resolve_left (Ne.symm hv)
      obtain ⟨hrows, hgroup⟩ := ih hmem hnodup.2 (hdb.expireUser v now)
      have hsame : (db.expireUser now v).ofUser u = db.ofUser u := by
        rw [expireUser_ofUser, if_neg hv]
      have hafter := expireUser_group_self (hdb.expireUser v now) u now
      rw [hsame, expireUser_group_of_ne db hv] at hafter
      constructor
      · rw [hrows, expireUser_ofUser _ u, expireUser_ofUser _ u, hsame]
      · rw [hgroup, hafter, expireUser_group_self hdb]

/-! ## One step, seen by one user -/

/-- Whether the user stays elevated without subscription `id`. -/
def elevatedWithout (db : SubscriptionDB) (u : Int) (id : Nat) : Bool :=
  (db.ofUser u).any fun s => s.id ≠ id ∧ s.status = "active" ∧ s.upgradeGroup ≠ ""

/-- Whether the user stays elevated when the due subscriptions expire. -/
def elevatedAfter (db : SubscriptionDB) (u now : Int) : Bool :=
  (db.ofUser u).any fun s => ¬ isDue now s ∧ s.status = "active" ∧ s.upgradeGroup ≠ ""

/-- The subscription that an operation asks for the group of a user whom it leaves without
    elevation. -/
def asked (db : SubscriptionDB) (u : Int) : GroupEvent → Option UserSubscription
  | .create _ _ _ _ => none
  | .expire now limit =>
    if u ∈ db.dueUsers now.unix limit ∧ db.elevatedAfter u now.unix = false then
      askedExpired now.unix (db.ofUser u)
    else none
  | .invalidate _ id =>
    (db.subs.find? id).filter fun sub => sub.userId = u ∧ db.elevatedWithout u id = false
  | .delete _ id =>
    (db.subs.find? id).filter fun sub => sub.userId = u ∧ db.elevatedWithout u id = false

/-- What a step does to one user. -/
inductive UserStep (db db' : SubscriptionDB) (u : Int) (e : GroupEvent) : Prop
  /-- nothing -/
  | same (hrows : db'.ofUser u = db.ofUser u) (hgroup : db'.group u = db.group u)
      (hasked : db.asked u e = none)
  /-- a purchase -/
  | created {cal : Calendar} {now : Timestamp} {plan : SubscriptionPlan} {sub : UserSubscription}
      (he : e = .create cal now u plan) (hsub : Created db cal now u plan sub)
      (hrows : db'.ofUser u = db.ofUser u ++ [sub])
      (hgroup : db'.group u = if sub.upgradeGroup ≠ "" ∧ db.group u ≠ sub.upgradeGroup then
        (db.setGroup u sub.upgradeGroup).group u else db.group u)
  /-- a subscription is invalidated or deleted -/
  | ended {sub : UserSubscription} {now : Timestamp} (hsub : sub ∈ db.ofUser u)
      (hkeep : ∀ s ∈ db.ofUser u, s.id ≠ sub.id → s ∈ db'.ofUser u)
      (hfrom : ∀ s ∈ db'.ofUser u, (s ∈ db.ofUser u ∧ s.id ≠ sub.id) ∨
        s = { sub with status := "cancelled", endTime := now.unix })
      (hgroup : db'.group u = db.group u ∨ db'.group u = reverted sub (db.group u))
      (hlast : db.elevatedWithout u sub.id = false → db'.group u = reverted sub (db.group u))
      (hasked : db.asked u e = if db.elevatedWithout u sub.id then none else some sub)
  /-- the due subscriptions expire -/
  | expired {now : Timestamp} (hnow : e.now = now.unix)
      (hrows : db'.ofUser u = (db.ofUser u).map (marked now.unix))
      (hgroup : db'.group u = db.group u ∨
        ∃ sub ∈ askedExpired now.unix (db.ofUser u), db'.group u = reverted sub (db.group u))
      (hlast : db.elevatedAfter u now.unix = false → db'.group u =
        ((askedExpired now.unix (db.ofUser u)).map fun sub => reverted sub (db.group u)).getD
          (db.group u))
      (hasked : db.asked u e =
        if db.elevatedAfter u now.unix then none else askedExpired now.unix (db.ofUser u))

theorem hasOtherUpgraded_of_elevatedWithout {db : SubscriptionDB} {sub : UserSubscription}
    (h : db.elevatedWithout sub.userId sub.id = false) (now : Int) :
    db.hasOtherUpgraded sub now = false := by
  simp only [elevatedWithout, List.any_eq_false, mem_ofUser, decide_eq_true_eq] at h
  simp only [hasOtherUpgraded, List.any_eq_false, decide_eq_true_eq]
  rintro s hs ⟨huser, hstatus, -, hid, hup⟩
  exact h s ⟨hs, huser⟩ ⟨hid, hstatus, hup⟩

theorem hasOtherUpgraded_set (db : SubscriptionDB) {sub sub' : UserSubscription}
    (hid : sub'.id = sub.id) (huser : sub'.userId = sub.userId) (now : Int) :
    ({ db with subs := db.subs.set sub' } : SubscriptionDB).hasOtherUpgraded sub' now =
      db.hasOtherUpgraded sub now := by
  rw [Bool.eq_iff_iff]
  simp only [hasOtherUpgraded, List.any_eq_true, decide_eq_true_eq, hid, huser]
  constructor
  · rintro ⟨s, hs, hsu, hstatus, hend, hsid, hup⟩
    cases Table.mem_set hs with
    | inl heq => exact absurd (heq ▸ hid) hsid
    | inr hold => exact ⟨s, hold.1, hsu, hstatus, hend, hsid, hup⟩
  · rintro ⟨s, hs, hsu, hstatus, hend, hsid, hup⟩
    have hne : s.id ≠ sub'.id := fun heq => hsid (heq.trans hid)
    exact ⟨s, Table.mem_set_of_ne hs hne, hsu, hstatus, hend, hsid, hup⟩

/-- A group that was found by asking one subscription, unless another one is active. -/
theorem group_of_asked {db : SubscriptionDB} {sub : UserSubscription} {now : Int}
    {current after : String}
    (h : after = if db.hasOtherUpgraded sub now then current else reverted sub current) :
    after = current ∨ after = reverted sub current := by
  split at h
  · exact .inl h
  · exact .inr h

theorem group_of_users {db db' db₁ : SubscriptionDB} {p : Prop} [Decidable p]
    (h : db'.users = if p then db₁.users else db.users) (u : Int) :
    db'.group u = if p then db₁.group u else db.group u := by
  unfold group
  rw [h]
  split
  · rfl
  · rfl

theorem step_create (db : SubscriptionDB) (hdb : db.Wf) (u : Int) (cal : Calendar)
    (now : Timestamp) (userId : Int) (plan : SubscriptionPlan) :
    UserStep db (GroupHistory.stepDB db (.create cal now userId plan)) u
      (.create cal now userId plan) := by
  dsimp only [GroupHistory.stepDB]
  cases hcreate : db.createUserSubscriptionFromPlan cal now userId plan with
  | error e => exact .same rfl rfl rfl
  | ok result =>
    obtain ⟨sub, db'⟩ := result
    obtain ⟨hsub, hsubs, -, husers⟩ := create_created hcreate
    have hrows := hsub.ofUser hdb hsubs u
    by_cases hu : userId = u
    · subst hu
      rw [if_pos rfl] at hrows
      exact .created rfl hsub hrows (group_of_users husers userId)
    · rw [if_neg hu] at hrows
      refine .same hrows ?_ rfl
      show db'.group u = db.group u
      rw [group_of_users husers, setGroup_group_of_ne db hu, ite_self]

theorem step_expire (db : SubscriptionDB) (hdb : db.Wf) (u : Int) (now : Timestamp) (limit : Int) :
    UserStep db (GroupHistory.stepDB db (.expire now limit)) u (.expire now limit) := by
  by_cases hu : u ∈ db.dueUsers now.unix limit
  · obtain ⟨hrows, hgroup⟩ := foldl_expireUser_of_mem hu (List.nodup_dedup _) hdb now.unix
    rw [expireUser_ofUser, if_pos rfl] at hrows
    rw [expireUser_group_self hdb] at hgroup
    refine .expired rfl hrows ?_ ?_ ?_
    · show (db.expireDueSubscriptions now limit).group u = db.group u ∨ _
      cases hask : askedExpired now.unix (db.ofUser u) with
      | none =>
        left
        rw [hask] at hgroup
        refine hgroup.trans ?_
        split <;> rfl
      | some sub =>
        rw [hask] at hgroup
        split at hgroup
        · exact .inl hgroup
        · exact .inr ⟨sub, rfl, hgroup⟩
    · intro hafter
      refine hgroup.trans (if_neg ?_)
      simp only [elevatedAfter, List.any_eq_false, decide_eq_true_eq] at hafter
      simp only [List.any_eq_true, decide_eq_true_eq, List.mem_map]
      rintro ⟨_, ⟨s, hs, rfl⟩, hstatus, -, hup⟩
      unfold marked at hstatus hup
      split at hstatus
      · next hdue => simp at hstatus
      · next hdue =>
        rw [if_neg hdue] at hup
        exact hafter s hs ⟨hdue, hstatus, hup⟩
    · simp only [asked, hu, true_and]
      cases db.elevatedAfter u now.unix with
      | false => rfl
      | true => rfl
  · obtain ⟨hrows, hgroup⟩ := foldl_expireUser_of_not_mem hu db now.unix
    exact .same hrows hgroup (by simp [asked, hu])

/-- Writing or deleting a row of one user leaves the rows of another alone. -/
theorem set_filter_of_ne {subs : Table UserSubscription (·.id)} {sub : UserSubscription}
    (sub' : UserSubscription) (hfind : subs.find? sub.id = some sub) (hid : sub'.id = sub.id)
    (huser : sub'.userId = sub.userId) {u : Int} (hu : sub.userId ≠ u) :
    ((subs.set sub').rows.filter fun s => s.userId = u) =
      subs.rows.filter fun s => s.userId = u := by
  have hother : ∀ s ∈ subs.rows, s.userId = u → s.id ≠ sub'.id := by
    intro s hs hsu heq
    have hsame := subs.eq_of_key_eq hs (Table.find?_mem hfind) (heq.trans hid)
    exact hu (hsame ▸ hsu)
  have huser' : ∀ s ∈ subs.rows,
      (decide ((if s.id = sub'.id then sub' else s).userId = u)) = decide (s.userId = u) := by
    intro s hs
    by_cases hsid : s.id = sub'.id
    · have hne : s.userId ≠ u := fun h => hother s hs h hsid
      have hne' : sub'.userId ≠ u := huser ▸ hu
      simp [hsid, hne, hne']
    · simp [hsid]
  simp only [Table.set, List.filter_map, Function.comp_def]
  rw [List.filter_congr huser']
  refine (List.map_congr_left ?_).trans (List.map_id _)
  intro s hs
  obtain ⟨hs, hsu⟩ := List.mem_filter.mp hs
  simp [hother s hs (by simpa using hsu)]

theorem erase_filter_of_ne {subs : Table UserSubscription (·.id)} {sub : UserSubscription}
    (hfind : subs.find? sub.id = some sub) {u : Int} (hu : sub.userId ≠ u) :
    ((subs.erase sub.id).rows.filter fun s => s.userId = u) =
      subs.rows.filter fun s => s.userId = u := by
  rw [Table.erase, List.filter_filter]
  refine List.filter_congr ?_
  intro s hs
  by_cases hsu : s.userId = u
  · have hid : s.id ≠ sub.id := by
      intro heq
      have hsame := subs.eq_of_key_eq hs (Table.find?_mem hfind) heq
      exact hu (hsame ▸ hsu)
    simp [hsu, hid]
  · simp [hsu]

/-- What the two admin functions have in common: `sub` is gone or cancelled, and it is asked
    for a group. -/
theorem UserStep.of_ended {db db' : SubscriptionDB} {e : GroupEvent} {sub : UserSubscription}
    (now : Timestamp) (hfind : db.subs.find? sub.id = some sub)
    (hrows : ∀ u, sub.userId ≠ u → db'.ofUser u = db.ofUser u)
    (hkeep : ∀ s ∈ db.subs.rows, s.id ≠ sub.id → s ∈ db'.subs.rows)
    (hfrom : ∀ s ∈ db'.subs.rows, (s ∈ db.subs.rows ∧ s.id ≠ sub.id) ∨
      s = { sub with status := "cancelled", endTime := now.unix })
    (hne : ∀ u, u ≠ sub.userId → db'.group u = db.group u)
    (hgroup : db'.group sub.userId = if db.hasOtherUpgraded sub now.unix then db.group sub.userId
      else reverted sub (db.group sub.userId))
    (hasked : ∀ u, db.asked u e =
      (some sub).filter fun s => s.userId = u ∧ db.elevatedWithout u sub.id = false) (u : Int) :
    UserStep db db' u e := by
  by_cases hu : sub.userId = u
  · subst hu
    have hkeep' : ∀ s ∈ db.ofUser sub.userId, s.id ≠ sub.id → s ∈ db'.ofUser sub.userId := by
      intro s hs hid
      rw [mem_ofUser] at hs ⊢
      exact ⟨hkeep s hs.1 hid, hs.2⟩
    have hfrom' : ∀ s ∈ db'.ofUser sub.userId, (s ∈ db.ofUser sub.userId ∧ s.id ≠ sub.id) ∨
        s = { sub with status := "cancelled", endTime := now.unix } := by
      intro s hs
      rw [mem_ofUser] at hs
      cases hfrom s hs.1 with
      | inl hold => exact .inl ⟨mem_ofUser.mpr ⟨hold.1, hs.2⟩, hold.2⟩
      | inr hnew => exact .inr hnew
    refine .ended (mem_ofUser.mpr ⟨Table.find?_mem hfind, rfl⟩) hkeep' hfrom'
      (group_of_asked hgroup) ?_ ?_
    · intro hlast
      rw [hgroup, hasOtherUpgraded_of_elevatedWithout hlast]
      rfl
    · rw [hasked]
      cases db.elevatedWithout sub.userId sub.id with
      | false => simp [Option.filter]
      | true => simp [Option.filter]
  · refine .same (hrows u hu) (hne u (Ne.symm hu)) ?_
    rw [hasked]
    simp [Option.filter, hu]

/-- `AdminInvalidateUserSubscription` on a stored subscription. -/
theorem invalidate_found {db : SubscriptionDB} (hdb : db.Wf) (now : Timestamp)
    {sub : UserSubscription} (hfind : db.subs.find? sub.id = some sub) :
    (GroupHistory.stepDB db (.invalidate now sub.id)).subs =
        db.subs.set { sub with status := "cancelled", endTime := now.unix } ∧
      (GroupHistory.stepDB db (.invalidate now sub.id)).lastId = db.lastId ∧
      (∀ u, u ≠ sub.userId →
        (GroupHistory.stepDB db (.invalidate now sub.id)).group u = db.group u) ∧
      (GroupHistory.stepDB db (.invalidate now sub.id)).group sub.userId =
        if db.hasOtherUpgraded sub now.unix then db.group sub.userId
        else reverted sub (db.group sub.userId) := by
  have hmem := Table.find?_mem hfind
  have hne : sub.id ≠ 0 := Nat.pos_iff_ne_zero.mp sub.id_pos
  -- the cancelled row is written first, and then asked
  obtain ⟨target, db', heq, hsubs, hlast, hothers, hgroup⟩ := downgrade_eq
    { db with subs := db.subs.set { sub with status := "cancelled", endTime := now.unix } }
    { sub with status := "cancelled", endTime := now.unix } now.unix
    (hdb.downgrade sub hmem) (hdb.trimmed sub hmem) (hdb.user_pos sub hmem)
  have hstep : GroupHistory.stepDB db (.invalidate now sub.id) = db' := by
    simp only [GroupHistory.stepDB, adminInvalidateUserSubscription, if_neg hne, hfind, heq]
  rw [hstep]
  refine ⟨hsubs, hlast, hothers, hgroup.trans ?_⟩
  rw [hasOtherUpgraded_set]
  · rfl
  · rfl
  · rfl

/-- `AdminDeleteUserSubscription` on a stored subscription. -/
theorem delete_found {db : SubscriptionDB} (hdb : db.Wf) (now : Timestamp)
    {sub : UserSubscription} (hfind : db.subs.find? sub.id = some sub) :
    (GroupHistory.stepDB db (.delete now sub.id)).subs = db.subs.erase sub.id ∧
      (GroupHistory.stepDB db (.delete now sub.id)).lastId = db.lastId ∧
      (∀ u, u ≠ sub.userId → (GroupHistory.stepDB db (.delete now sub.id)).group u = db.group u) ∧
      (GroupHistory.stepDB db (.delete now sub.id)).group sub.userId =
        if db.hasOtherUpgraded sub now.unix then db.group sub.userId
        else reverted sub (db.group sub.userId) := by
  have hmem := Table.find?_mem hfind
  have hne : sub.id ≠ 0 := Nat.pos_iff_ne_zero.mp sub.id_pos
  obtain ⟨target, db', heq, hsubs, hlast, hothers, hgroup⟩ := downgrade_eq db sub now.unix
    (hdb.downgrade sub hmem) (hdb.trimmed sub hmem) (hdb.user_pos sub hmem)
  have hstep : GroupHistory.stepDB db (.delete now sub.id) =
      { db' with subs := db'.subs.erase sub.id } := by
    simp only [GroupHistory.stepDB, adminDeleteUserSubscription, if_neg hne, hfind, heq]
  rw [hstep]
  exact ⟨by rw [hsubs], hlast, hothers, hgroup⟩

theorem invalidate_missing {db : SubscriptionDB} {id : Nat} (hfind : db.subs.find? id = none)
    (now : Timestamp) : GroupHistory.stepDB db (.invalidate now id) = db := by
  by_cases hid : id = 0
  · simp [GroupHistory.stepDB, adminInvalidateUserSubscription, hid]
  · simp [GroupHistory.stepDB, adminInvalidateUserSubscription, hid, hfind]

theorem delete_missing {db : SubscriptionDB} {id : Nat} (hfind : db.subs.find? id = none)
    (now : Timestamp) : GroupHistory.stepDB db (.delete now id) = db := by
  by_cases hid : id = 0
  · simp [GroupHistory.stepDB, adminDeleteUserSubscription, hid]
  · simp [GroupHistory.stepDB, adminDeleteUserSubscription, hid, hfind]

theorem step_invalidate (db : SubscriptionDB) (hdb : db.Wf) (u : Int) (now : Timestamp)
    (id : Nat) : UserStep db (GroupHistory.stepDB db (.invalidate now id)) u (.invalidate now id) := by
  cases hfind : db.subs.find? id with
  | none =>
    rw [invalidate_missing hfind]
    exact .same rfl rfl (by simp [asked, hfind])
  | some sub =>
    obtain rfl : sub.id = id := Table.find?_key hfind
    obtain ⟨hsubs, -, hothers, hgroup⟩ := invalidate_found hdb now hfind
    refine .of_ended now hfind ?_ ?_ ?_ hothers hgroup (fun u => by simp [asked, hfind]) u
    · intro v hv
      rw [ofUser, hsubs]
      exact set_filter_of_ne { sub with status := "cancelled", endTime := now.unix } hfind rfl rfl hv
    · intro s hs hsid
      rw [hsubs]
      exact Table.mem_set_of_ne hs hsid
    · intro s hs
      rw [hsubs] at hs
      cases Table.mem_set hs with
      | inl heq => exact .inr heq
      | inr hold => exact .inl hold

theorem step_delete (db : SubscriptionDB) (hdb : db.Wf) (u : Int) (now : Timestamp)
    (id : Nat) : UserStep db (GroupHistory.stepDB db (.delete now id)) u (.delete now id) := by
  cases hfind : db.subs.find? id with
  | none =>
    rw [delete_missing hfind]
    exact .same rfl rfl (by simp [asked, hfind])
  | some sub =>
    obtain rfl : sub.id = id := Table.find?_key hfind
    obtain ⟨hsubs, -, hothers, hgroup⟩ := delete_found hdb now hfind
    refine .of_ended now hfind ?_ ?_ ?_ hothers hgroup (fun u => by simp [asked, hfind]) u
    · intro v hv
      rw [ofUser, hsubs]
      exact erase_filter_of_ne hfind hv
    · intro s hs hsid
      rw [hsubs]
      exact Table.mem_erase.mpr ⟨hs, hsid⟩
    · intro s hs
      rw [hsubs] at hs
      exact .inl (Table.mem_erase.mp hs)

/-- What a step does to one user. -/
theorem userStep (db : SubscriptionDB) (hdb : db.Wf) (u : Int) (e : GroupEvent) :
    UserStep db (GroupHistory.stepDB db e) u e := by
  cases e with
  | create cal now userId plan => exact step_create db hdb u cal now userId plan
  | expire now limit => exact step_expire db hdb u now limit
  | invalidate now id => exact step_invalidate db hdb u now id
  | delete now id => exact step_delete db hdb u now id

end SubscriptionDB

end TokenRouter
