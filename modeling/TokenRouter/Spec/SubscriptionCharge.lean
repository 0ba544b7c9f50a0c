import TokenRouter.Spec.SessionOpen

/-!
# One charge of a subscription

`PreConsumeUserSubscription` with an id that was not charged before runs through the user's
active subscriptions. It zeroes those whose reset is due and charges the first one with room.
What it does to `amount_used` is stated for every subscription.

## Key results

- `charge_of_ok`: a call that succeeds charges exactly one subscription
- `preConsumeUserSubscription_replay`: a call with a recorded id reads the record
-/

namespace TokenRouter

namespace QuotaDB

/-- The amount used of a subscription after its reset, if that is due. -/
def usedAfterReset (env : BillingEnv) (db : QuotaDB) (id : Nat) : Int :=
  match db.subscriptions.find? id with
  | none => 0
  | some sub =>
    match maybeResetUserSubscription env sub env.now.unix with
    | .ok sub' => sub'.amountUsed
    | .error _ => sub.amountUsed

/-- One subscription is charged with the amount, for one record; the others stay or are
    reset. -/
structure Charge (env : BillingEnv) (db db' : QuotaDB) (requestId : String) (id : Nat)
    (amount : Int) : Prop where
  users : db'.users = db.users
  tokens : db'.tokens = db.tokens
  exists_row : (db.subscriptions.find? id).isSome = true
  record : ∃ r, db'.records.find? requestId = some r ∧ r.refunded = false ∧
    r.userSubscriptionId = id ∧ r.preConsumed = amount
  charged : db'.amountUsed id = db.usedAfterReset env id + amount
  others : ∀ k, k ≠ id →
    db'.amountUsed k = db.amountUsed k ∨ db'.amountUsed k = db.usedAfterReset env k

/-- Saving a row changes the amount used of this row only. -/
theorem amountUsed_set {db : QuotaDB} {sub row : UserSubscription}
    (h : db.subscriptions.find? sub.id = some row) (k : Nat) :
    amountUsed { db with subscriptions := db.subscriptions.set sub } k =
      if k = sub.id then sub.amountUsed else db.amountUsed k := by
  by_cases hk : k = sub.id
  · rw [if_pos hk, hk]
    simp only [amountUsed, Table.find?_set_self h rfl, Option.map_some, Option.getD_some]
  · rw [if_neg hk]
    simp only [amountUsed, Table.find?_set_of_ne db.subscriptions (Ne.symm hk)]

/-- The candidate loop charges one of the candidates; only candidates are reset. -/
theorem preConsumeLoop_charge {env : BillingEnv} {requestId : String} {userId amount : Int}
    {hamount : 0 ≤ amount} {res : PreConsumeResult} {db' : QuotaDB} (subs : List UserSubscription)
    (db : QuotaDB) (hnone : db.records.find? requestId = none)
    (hnodup : (subs.map (·.id)).Nodup)
    (hrows : ∀ c ∈ subs, db.subscriptions.find? c.id = some c)
    (h : preConsumeLoop env requestId userId amount env.now.unix hamount db subs =
      .ok (res, db')) :
    db.Charge env db' requestId res.userSubscriptionId amount ∧ res.preConsumed = amount ∧
      res.userSubscriptionId ∈ subs.map (·.id) ∧
      ∀ k, k ∉ subs.map (·.id) → db'.amountUsed k = db.amountUsed k := by
  induction subs generalizing db with
  | nil => cases h
  | cons candidate rest ih =>
    have hrow := hrows candidate List.mem_cons_self
    rw [List.map_cons, List.nodup_cons] at hnodup
    rw [preConsumeLoop] at h
    cases hreset : maybeResetUserSubscription env candidate env.now.unix with
    | error e => simp [hreset] at h
    | ok sub =>
      have hid := maybeResetUserSubscription_id hreset
      have hrow' : db.subscriptions.find? sub.id = some candidate := hid ▸ hrow
      have hused : db.usedAfterReset env sub.id = sub.amountUsed := by
        simp only [usedAfterReset, hrow', hreset]
      simp only [hreset] at h
      by_cases hfull : 0 < sub.amountTotal ∧ sub.amountTotal - sub.amountUsed < amount
      · -- no room: the loop goes on, and the other candidates are as they were
        rw [if_pos hfull] at h
        have hother (k : Nat) (hk : k ≠ sub.id) : (db.subscriptions.set sub).find? k =
            db.subscriptions.find? k := Table.find?_set_of_ne _ (Ne.symm hk)
        have hused_other (k : Nat) (hk : k ≠ sub.id) :
            usedAfterReset env { db with subscriptions := db.subscriptions.set sub } k =
              db.usedAfterReset env k := by
          simp only [usedAfterReset, hother k hk]
        have hold := amountUsed_set hrow'
        have hnotMem : sub.id ∉ rest.map (·.id) := hid ▸ hnodup.1
        have hrows' : ∀ c ∈ rest, (db.subscriptions.set sub).find? c.id = some c := by
          intro c hc
          rw [hother _ fun heq => hnotMem (heq ▸ List.mem_map_of_mem hc)]
          exact hrows c (List.mem_cons_of_mem _ hc)
        obtain ⟨hcharge, hpre, hmem, hkeep⟩ :=
          ih { db with subscriptions := db.subscriptions.set sub } hnone hnodup.2 hrows' h
        have hlater : res.userSubscriptionId ≠ sub.id := fun heq => hnotMem (heq ▸ hmem)
        refine ⟨⟨hcharge.users, hcharge.tokens, ?_, hcharge.record, ?_, ?_⟩, hpre,
          List.mem_cons_of_mem _ hmem, ?_⟩
        · rw [← hother _ hlater]
          exact hcharge.exists_row
        · rw [← hused_other _ hlater]
          exact hcharge.charged
        · intro k hk
          by_cases hsub : k = sub.id
          · right
            rw [hsub, hkeep sub.id hnotMem, hold, if_pos rfl, hused]
          · have := hcharge.others k hk
            rwa [hold, if_neg hsub, hused_other k hsub] at this
        · intro k hk
          rw [List.map_cons, List.mem_cons, not_or] at hk
          rw [hkeep k hk.2, hold, if_neg (hid ▸ hk.1)]
      · rw [if_neg hfull] at h
        obtain ⟨rfl, rfl⟩ := Prod.mk.inj (Except.ok.inj h)
        have hnew (k : Nat) := @amountUsed_set _ { sub with
          amountUsed := sub.amountUsed + amount
          amountUsed_nonneg := add_nonneg sub.amountUsed_nonneg hamount } _ hrow' k
        refine ⟨⟨rfl, rfl, by rw [hrow']; rfl, ?_, ?_, ?_⟩, rfl, ?_, ?_⟩
        · refine ⟨⟨requestId, userId, sub.id, amount, false⟩, ?_, rfl, rfl, rfl⟩
          rw [Table.find?_insert, if_pos rfl, hnone]
          rfl
        · exact (hnew sub.id).trans (by rw [if_pos rfl, hused])
        · intro k hk
          exact .inl ((hnew k).trans (if_neg hk))
        · rw [List.map_cons, ← hid]
          exact List.mem_cons_self
        · intro k hk
          rw [List.map_cons, List.mem_cons, not_or] at hk
          exact (hnew k).trans (if_neg (hid ▸ hk.1))

/-- A call with an id that was not charged before charges exactly one subscription. -/
theorem charge_of_ok {env : BillingEnv} {db db' : QuotaDB} {requestId : String}
    {userId amount : Int} {res : PreConsumeResult} (hnone : db.records.find? requestId = none)
    (h : db.preConsumeUserSubscription env requestId userId amount = .ok (res, db')) :
    db.Charge env db' requestId res.userSubscriptionId amount ∧ res.preConsumed = amount := by
  unfold preConsumeUserSubscription at h
  split at h
  · cases h
  split at h
  · cases h
  split at h
  · cases h
  rw [hnone] at h
  dsimp only at h
  split at h
  · cases h
  have hactive : ∀ c ∈ db.activeSubscriptions userId env.now.unix, c ∈ db.subscriptions.rows :=
    fun c hc => List.mem_of_mem_filter hc
  obtain ⟨hcharge, hpre, -⟩ := preConsumeLoop_charge _ db hnone
    ((List.mergeSort_perm _ _).map _ |>.nodup_iff.mpr
      (db.subscriptions.nodup.sublist (List.filter_sublist.map _)))
    (fun c hc => Table.find?_of_mem (hactive c (List.mem_mergeSort.mp hc))) h
  exact ⟨hcharge, hpre⟩

/-- A call with a recorded id changes nothing: it fails, or it returns what the record says. -/
theorem preConsumeUserSubscription_replay {env : BillingEnv} {db db' : QuotaDB}
    {requestId : String} {userId amount : Int} {res : PreConsumeResult}
    {r : SubscriptionPreConsumeRecord} (hr : db.records.find? requestId = some r)
    (h : db.preConsumeUserSubscription env requestId userId amount = .ok (res, db')) :
    db' = db ∧ r.refunded = false ∧ res.userSubscriptionId = r.userSubscriptionId ∧
      res.preConsumed = r.preConsumed := by
  unfold preConsumeUserSubscription at h
  split at h
  · cases h
  split at h
  · cases h
  split at h
  · cases h
  rw [hr] at h
  dsimp only at h
  split at h
  · cases h
  next hrefunded =>
  cases hfind : db.subscriptions.find? r.userSubscriptionId with
  | none => simp [hfind] at h
  | some sub =>
    simp only [hfind] at h
    obtain ⟨rfl, rfl⟩ := Prod.mk.inj (Except.ok.inj h)
    have hkey := Table.find?_key hfind
    exact ⟨rfl, by simpa using hrefunded, hkey, rfl⟩

end QuotaDB

end TokenRouter
