import TokenRouter.Service.SessionFaults
import TokenRouter.Spec.RequestCharge

/-!
# Opening a session debits everything or nothing

`NewBillingSession` debits the token first and the funding source second, and gives the token
its quota back when the source refuses. Whatever fails, an attempt that returns an error leaves
the tables as they were; one that opens has debited one source and the token.

## Key results

- `preConsumeWith_failed`, `preConsumeWith_opened`: one attempt
- `newBillingSession_atomic`: every preference and every pattern of failures
- `recorded_request_not_debited`: a session for a request that was charged before
-/

namespace TokenRouter

namespace QuotaDB

/-- A token debit and its roll back leave the token as it was. -/
theorem addTokenQuota_cancel (db : QuotaDB) (tokenId quota : Int) :
    (db.addTokenQuota tokenId (-quota)).addTokenQuota tokenId quota = db := by
  simp only [addTokenQuota]
  rw [Table.update_cancel]
  · exact fun _ => rfl
  · intro t
    cases t
    simp

/-- No wallet, token or subscription counts anything else. -/
structure SameQuotas (db db' : QuotaDB) : Prop where
  users : ∀ u, db'.getUserQuota u = db.getUserQuota u
  tokens : ∀ t, db'.tokenRemain t = db.tokenRemain t
  subscriptions : ∀ k, db'.amountUsed k = db.amountUsed k

theorem SameQuotas.refl (db : QuotaDB) : db.SameQuotas db :=
  ⟨fun _ => rfl, fun _ => rfl, fun _ => rfl⟩

end QuotaDB

/-- The request's token is debited, and no other; on the playground none is. -/
def TokenDebited (info : RelayInfo) (amount : Int) (db db' : QuotaDB) : Prop :=
  ∀ t, db'.tokenRemain t =
    db.tokenRemain t - if t = info.tokenId ∧ info.isPlayground = false then amount else 0

/-- The source of a session is debited, and no other; a recorded request is charged already. -/
def SourceDebited (env : BillingEnv) (info : RelayInfo) (s : BillingSession) (db db' : QuotaDB) :
    Prop :=
  match s.funding with
  | .wallet _ =>
    (∀ u, db'.getUserQuota u =
      db.getUserQuota u - if u = info.userId then max 0 s.preConsumedQuota else 0) ∧
      ∀ k, db'.amountUsed k = db.amountUsed k
  | .subscription f =>
    (∀ u, db'.getUserQuota u = db.getUserQuota u) ∧
      if (db.records.find? info.requestId).isSome then ∀ k, db'.amountUsed k = db.amountUsed k
      else
        (db.subscriptions.find? f.subscriptionId).isSome ∧
        db'.amountUsed f.subscriptionId =
            db.usedAfterReset env f.subscriptionId + s.preConsumedQuota ∧
          ∀ k, k ≠ f.subscriptionId →
            db'.amountUsed k = db.amountUsed k ∨ db'.amountUsed k = db.usedAfterReset env k

/-- What opening a session does. -/
structure Atomic (env : BillingEnv) (db : QuotaDB) (info : RelayInfo) (r : OpenResult) : Prop where
  failed : ∀ e, r.result = .error e → db.SameQuotas r.db
  opened : ∀ s, r.result = .ok s → SourceDebited env info s db r.db ∧
    TokenDebited info (max 0 s.preConsumedQuota) db r.db

/-! ## One attempt -/

theorem preConsumeTokenQuotaWith_ok {fault : Option String} {env : BillingEnv} {db db' : QuotaDB}
    {info : RelayInfo} {quota : Int}
    (h : preConsumeTokenQuotaWith fault env db info quota = .ok db') :
    db.preConsumeTokenQuota env info quota = .ok db' := by
  unfold preConsumeTokenQuotaWith failing at h
  split at h
  · exact h
  · cases fault with
    | some e => cases h
    | none => exact h

theorem preConsumeWith_ok {fault : Option String} {env : BillingEnv} {db db' : QuotaDB}
    {amount : Int} {F F' : FundingSource} (h : F.preConsumeWith fault env db amount = .ok (F', db')) :
    F.preConsume env db amount = .ok (F', db') := by
  unfold FundingSource.preConsumeWith failing at h
  split at h
  · exact h
  · cases fault with
    | some e => cases h
    | none => exact h

/-- An attempt that fails leaves the tables as they were. -/
theorem preConsumeWith_failed {faults : StepFaults} {env : BillingEnv} {db : QuotaDB}
    {info : RelayInfo} {tokenQuota quota : Int} {F : FundingSource} {e : NewAPIError}
    (h : (preConsumeWith faults env db info tokenQuota F quota).result = .error e) :
    (preConsumeWith faults env db info tokenQuota F quota).db = db ∧
      (preConsumeWith faults env db info tokenQuota F quota).info = info := by
  unfold preConsumeWith at h ⊢
  dsimp only at h ⊢
  generalize (if BillingSession.shouldTrust env info tokenQuota { funding := F } = true then 0
    else quota) = effective at *
  by_cases hpos : 0 < effective
  · simp only [if_pos hpos] at h ⊢
    cases htoken : preConsumeTokenQuotaWith faults.token env db info effective with
    | error e => exact ⟨rfl, rfl⟩
    | ok db₁ =>
      simp only [htoken, preConsumeFundingWith] at h ⊢
      cases hfunding : F.preConsumeWith faults.funding env db₁ effective with
      | ok result => simp [hfunding] at h
      | error e =>
        refine ⟨?_, rfl⟩
        -- the token gets its quota back
        rcases preConsumeTokenQuota_ok (preConsumeTokenQuotaWith_ok htoken) with
          ⟨hplay, rfl⟩ | ⟨hplay, -, rfl⟩
        · simp [hplay]
        · simp only [hpos, hplay, and_self, if_true,
            QuotaDB.increaseTokenQuota_of_nonneg _ _ hpos.le, logged]
          exact db.addTokenQuota_cancel _ _
  · simp only [if_neg hpos, preConsumeFundingWith] at h ⊢
    cases hfunding : F.preConsumeWith faults.funding env db effective with
    | ok result => simp [hfunding] at h
    | error e => exact ⟨by simp, rfl⟩

/-- The token step of an attempt debits the token and nothing else. -/
theorem preConsumeTokenQuota_debits {env : BillingEnv} {db db' : QuotaDB} {info : RelayInfo}
    {quota : Int} (h : db.preConsumeTokenQuota env info quota = .ok db') :
    TokenDebited info quota db db' ∧ db'.users = db.users ∧
      db'.subscriptions = db.subscriptions ∧ db'.records = db.records := by
  rcases preConsumeTokenQuota_ok h with ⟨hplay, rfl⟩ | ⟨hplay, hlive, rfl⟩
  · exact ⟨fun t => by simp [hplay], rfl, rfl, rfl⟩
  · refine ⟨fun t => ?_, rfl, rfl, rfl⟩
    by_cases ht : t = info.tokenId
    · rw [ht, QuotaDB.tokenRemain_addTokenQuota _ _ _ hlive, if_pos ⟨rfl, hplay⟩]
      omega
    · rw [if_neg fun h => ht h.1, sub_zero]
      simp only [QuotaDB.tokenRemain, QuotaDB.addTokenQuota]
      rw [Table.find?_update (f := fun k => { k with
        remainQuota := k.remainQuota + -quota, usedQuota := k.usedQuota - -quota }) db.tokens
        info.tokenId t (fun _ => rfl), if_neg (Ne.symm ht)]

/-- What an attempt starts from: a wallet of the user with quota, or a subscription. -/
def Attempts (db : QuotaDB) (info : RelayInfo) (quota : Int) : FundingSource → Prop
  | .wallet w => w.userId = info.userId ∧ (db.users.find? w.userId).isSome = true
  | .subscription s => s.requestId = info.requestId ∧ s.amount = quota ∧ 0 < quota

/-- A debit of a wallet changes no other wallet. -/
theorem getUserQuota_debit {db : QuotaDB} {userId : Int} (quota : Int)
    (hlive : (db.users.find? userId).isSome = true) (u : Int) :
    (db.addUserQuota userId (-quota)).getUserQuota u =
      db.getUserQuota u - if u = userId then quota else 0 := by
  by_cases hu : u = userId
  · rw [hu, QuotaDB.getUserQuota_addUserQuota _ _ _ hlive, if_pos rfl]
    omega
  · rw [if_neg hu, sub_zero]
    simp only [QuotaDB.getUserQuota, QuotaDB.addUserQuota]
    rw [Table.find?_update (f := fun v => { v with quota := v.quota + -quota }) db.users userId u
      (fun _ => rfl), if_neg (Ne.symm hu)]

/-- The funding step of an attempt debits its source. -/
theorem preConsume_debits {env : BillingEnv} {db db₁ db' : QuotaDB} {info : RelayInfo}
    {F F' : FundingSource} {quota : Int} {s : BillingSession} (hF : Attempts db info quota F)
    (husers : db₁.users = db.users) (hsubs : db₁.subscriptions = db.subscriptions)
    (hrecords : db₁.records = db.records) (h : F.preConsume env db₁ quota = .ok (F', db'))
    (hs : s.funding = F') (hquota : s.preConsumedQuota = quota) :
    SourceDebited env info s db db' ∧ db'.tokens = db₁.tokens := by
  have hquotas (u : Int) : db₁.getUserQuota u = db.getUserQuota u := by
    simp only [QuotaDB.getUserQuota, husers]
  have hused := RequestRun.amountUsed_congr hsubs
  cases F with
  | wallet w =>
    obtain ⟨huser, hlive⟩ := hF
    rw [← husers] at hlive
    simp only [FundingSource.preConsume] at h
    split at h
    · next hzero =>
      obtain ⟨rfl, rfl⟩ := Prod.mk.inj (Except.ok.inj h)
      have hmax : max 0 quota = 0 := max_eq_left hzero
      simp only [SourceDebited, hs, hquota, hmax, ite_self, sub_zero]
      exact ⟨⟨hquotas, hused⟩, trivial⟩
    · next hpos =>
      have hmax : max 0 quota = quota := max_eq_right (by omega)
      rw [QuotaDB.decreaseUserQuota_of_nonneg _ _ (by omega)] at h
      obtain ⟨rfl, rfl⟩ := Prod.mk.inj (Except.ok.inj h)
      simp only [SourceDebited, hs, hquota, hmax]
      refine ⟨⟨fun u => ?_, hused⟩, rfl⟩
      rw [getUserQuota_debit quota hlive, hquotas, huser]
  | subscription f =>
    obtain ⟨hreq, hamount, -⟩ := hF
    simp only [FundingSource.preConsume] at h
    split at h
    · cases h
    next res db₂ hcall =>
    obtain ⟨rfl, rfl⟩ := Prod.mk.inj (Except.ok.inj h)
    rw [hreq, hamount] at hcall
    simp only [SourceDebited, hs, hquota]
    cases hr : db.records.find? info.requestId with
    | some r =>
      obtain ⟨rfl, -, -, -⟩ := QuotaDB.preConsumeUserSubscription_replay (hrecords ▸ hr) hcall
      exact ⟨⟨hquotas, by simpa using hused⟩, rfl⟩
    | none =>
      obtain ⟨hcharge, -⟩ := QuotaDB.charge_of_ok (hrecords ▸ hr) hcall
      refine ⟨⟨fun u => ?_, ?_⟩, hcharge.tokens⟩
      · rw [← hquotas u]
        simp only [QuotaDB.getUserQuota, hcharge.users]
      · simp only [Option.isSome_none, Bool.false_eq_true, if_false]
        refine ⟨hsubs ▸ hcharge.exists_row, ?_, ?_⟩
        · rw [hcharge.charged, RequestRun.usedAfterReset_congr env hsubs]
        · intro k hk
          rw [← hused k, ← RequestRun.usedAfterReset_congr env hsubs k]
          exact hcharge.others k hk

/-- The request that an attempt leaves does not matter to what it debits. -/
theorem TokenDebited.of_tokens {info : RelayInfo} {amount : Int} {db db₁ db' : QuotaDB}
    (h : TokenDebited info amount db db₁) (htokens : db'.tokens = db₁.tokens) :
    TokenDebited info amount db db' := by
  intro t
  rw [← h t]
  simp only [QuotaDB.tokenRemain, htokens]

/-- An attempt that opens a session has debited the token and the source. -/
theorem preConsumeWith_opened {faults : StepFaults} {env : BillingEnv} {db : QuotaDB}
    {info : RelayInfo} {tokenQuota quota : Int} {F : FundingSource} {s : BillingSession}
    (hF : Attempts db info quota F)
    (h : (preConsumeWith faults env db info tokenQuota F quota).result = .ok s) :
    SourceDebited env info s db (preConsumeWith faults env db info tokenQuota F quota).db ∧
      TokenDebited info (max 0 s.preConsumedQuota) db
        (preConsumeWith faults env db info tokenQuota F quota).db := by
  unfold preConsumeWith at h ⊢
  dsimp only at h ⊢
  -- what is consumed: nothing on a trusted wallet, the quota otherwise
  generalize htrust : BillingSession.shouldTrust env info tokenQuota { funding := F } = trusted at *
  have hF' : Attempts db info (if trusted = true then 0 else quota) F := by
    cases F with
    | wallet w => exact hF
    | subscription sub =>
      rw [shouldTrust_subscription] at htrust
      simpa [← htrust] using hF
  generalize (if trusted = true then 0 else quota) = effective at *
  by_cases hpos : 0 < effective
  · simp only [if_pos hpos] at h ⊢
    cases htoken : preConsumeTokenQuotaWith faults.token env db info effective with
    | error e => simp [htoken] at h
    | ok db₁ =>
      obtain ⟨hdebit, husers, hsubs, hrecords⟩ :=
        preConsumeTokenQuota_debits (preConsumeTokenQuotaWith_ok htoken)
      simp only [htoken, preConsumeFundingWith] at h ⊢
      cases hfunding : F.preConsumeWith faults.funding env db₁ effective with
      | error e => simp [hfunding] at h
      | ok result =>
        simp only [hfunding] at h ⊢
        have hs := Except.ok.inj h
        have hquota : s.preConsumedQuota = effective := by
          rw [← hs]
        obtain ⟨hsource, htokens⟩ := preConsume_debits hF' husers hsubs hrecords
          (preConsumeWith_ok hfunding) (show s.funding = result.1 by rw [← hs]) hquota
        refine ⟨hsource, ?_⟩
        rw [hquota, max_eq_right hpos.le]
        exact hdebit.of_tokens htokens
  · simp only [if_neg hpos, preConsumeFundingWith] at h ⊢
    cases hfunding : F.preConsumeWith faults.funding env db effective with
    | error e => simp [hfunding] at h
    | ok result =>
      simp only [hfunding] at h ⊢
      have hs := Except.ok.inj h
      have hquota : s.preConsumedQuota = effective := by
        rw [← hs]
      obtain ⟨hsource, htokens⟩ := preConsume_debits hF' rfl rfl rfl (preConsumeWith_ok hfunding)
        (show s.funding = result.1 by rw [← hs]) hquota
      refine ⟨hsource, fun t => ?_⟩
      rw [hquota, max_eq_left (by omega), ite_self, sub_zero]
      simp only [QuotaDB.tokenRemain, htokens]

/-! ## `NewBillingSession` -/

/-- The tables after an attempt that failed are those before, and the request is the same up
    to the wallet quota that it notes. -/
def LeavesAlone (db : QuotaDB) (info : RelayInfo) (r : OpenResult) : Prop :=
  ∀ e, r.result = .error e →
    r.db = db ∧ ∃ userQuota, r.info = { info with userQuota := userQuota }

/-- An attempt: it leaves everything alone or debits. -/
structure AttemptOk (env : BillingEnv) (db : QuotaDB) (info : RelayInfo) (r : OpenResult) :
    Prop where
  failed : LeavesAlone db info r
  opened : ∀ s, r.result = .ok s → SourceDebited env info s db r.db ∧
    TokenDebited info (max 0 s.preConsumedQuota) db r.db

theorem AttemptOk.of_error {env : BillingEnv} {db : QuotaDB} {info : RelayInfo} (e : NewAPIError) :
    AttemptOk env db info ⟨.error e, info, db⟩ :=
  ⟨fun _ _ => ⟨rfl, info.userQuota, rfl⟩, fun _ h => by cases h⟩

/-- The wallet quota noted on the request plays no role. -/
theorem AttemptOk.of_userQuota {env : BillingEnv} {db : QuotaDB} {info : RelayInfo}
    {userQuota : Int} {r : OpenResult}
    (h : AttemptOk env db { info with userQuota := userQuota } r) : AttemptOk env db info r := by
  constructor
  · intro e he
    obtain ⟨hdb, userQuota', hinfo⟩ := h.failed e he
    exact ⟨hdb, userQuota', hinfo⟩
  · exact h.opened

theorem preConsumeWith_attempt (faults : StepFaults) (env : BillingEnv) {db : QuotaDB}
    {info : RelayInfo} (tokenQuota : Int) {quota : Int} {F : FundingSource}
    (hF : Attempts db info quota F) :
    AttemptOk env db info (preConsumeWith faults env db info tokenQuota F quota) := by
  constructor
  · intro e he
    obtain ⟨hdb, hinfo⟩ := preConsumeWith_failed he
    exact ⟨hdb, info.userQuota, hinfo⟩
  · exact fun s hs => preConsumeWith_opened hF hs

theorem tryWalletWith_attempt (faults : OpenFaults) (env : BillingEnv) (db : QuotaDB)
    (info : RelayInfo) (tokenQuota quota : Int) :
    AttemptOk env db info (tryWalletWith faults env db info tokenQuota quota) := by
  unfold tryWalletWith
  cases faults.userQuota with
  | some e => exact .of_error _
  | none =>
    dsimp only
    split
    · exact .of_error _
    next hquota =>
    split
    · exact .of_error _
    · -- a wallet with quota is the wallet of a user
      have hlive : (db.users.find? info.userId).isSome = true := by
        cases hfind : db.users.find? info.userId with
        | none => simp [QuotaDB.getUserQuota, hfind] at hquota
        | some u => rfl
      apply AttemptOk.of_userQuota
      exact preConsumeWith_attempt _ env tokenQuota ⟨rfl, hlive⟩

theorem trySubscriptionWith_attempt (faults : OpenFaults) (env : BillingEnv) (db : QuotaDB)
    (info : RelayInfo) (tokenQuota quota : Int) :
    AttemptOk env db info (trySubscriptionWith faults env db info tokenQuota quota) := by
  have hpos : 0 < if quota ≤ 0 then 1 else quota := by
    split <;> omega
  unfold trySubscriptionWith
  exact preConsumeWith_attempt _ env tokenQuota ⟨rfl, rfl, hpos⟩

/-- A second attempt after one that failed. -/
theorem AttemptOk.after {env : BillingEnv} {db : QuotaDB} {info : RelayInfo} {first : OpenResult}
    (h : AttemptOk env db info first) {e : NewAPIError} (he : first.result = .error e)
    (second : QuotaDB → RelayInfo → OpenResult)
    (hsecond : ∀ info', AttemptOk env db info' (second db info')) :
    AttemptOk env db info (second first.db first.info) := by
  obtain ⟨hdb, userQuota, hinfo⟩ := h.failed e he
  rw [hdb, hinfo]
  exact (hsecond _).of_userQuota

theorem newBillingSessionWith_attempt (faults : OpenFaults) (env : BillingEnv) (db : QuotaDB)
    (info : RelayInfo) (tokenQuota quota : Int) :
    AttemptOk env db info (newBillingSessionWith faults env db info tokenQuota quota) := by
  have hwallet (info : RelayInfo) := tryWalletWith_attempt faults env db info tokenQuota quota
  have hsub (info : RelayInfo) := trySubscriptionWith_attempt faults env db info tokenQuota quota
  unfold newBillingSessionWith
  cases info.billingPreference with
  | subscriptionOnly => exact hsub info
  | walletOnly => exact hwallet info
  | walletFirst =>
    dsimp only
    split
    · exact hwallet info
    · next e he =>
      split
      · exact (hwallet info).after he
          (fun db info => trySubscriptionWith faults env db info tokenQuota quota) hsub
      · exact hwallet info
  | subscriptionFirst =>
    dsimp only
    split
    · exact .of_error _
    · exact hwallet info
    · split
      · exact hsub info
      · next e he =>
        split
        · split
          · next e' _ =>
            obtain ⟨hdb, hinfo⟩ := (hsub info).failed e he
            exact ⟨fun _ _ => ⟨hdb, hinfo⟩, fun _ h => by cases h⟩
          · exact (hsub info).after he
              (fun db info => tryWalletWith faults env db info tokenQuota quota) hwallet
          · exact hsub info
        · exact hsub info

/-- For every state of the tables, preference, amount and pattern of failures: an error leaves
    every wallet, token and subscription as it was, and a session has debited its own source,
    no other, and the request's token. A negative amount debits nothing, and neither does a
    subscription that the request was charged to before. -/
theorem newBillingSession_atomic (faults : OpenFaults) (env : BillingEnv) (db : QuotaDB)
    (info : RelayInfo) (tokenQuota preConsumedQuota : Int) :
    Atomic env db info (newBillingSessionWith faults env db info tokenQuota preConsumedQuota) := by
  have h := newBillingSessionWith_attempt faults env db info tokenQuota preConsumedQuota
  constructor
  · intro e he
    rw [(h.failed e he).1]
    exact .refl db
  · exact h.opened

/-- The request was charged with 10 before. A session for it opens and holds 10, and neither the
    wallet nor the subscription is debited. -/
theorem recorded_request_not_debited :
    ∃ db : QuotaDB, ∃ r : OpenResult,
      db = (Run.run (RequestRun.step "r1") (RequestRun.start "r1" subscriber)
        [.preConsume plainEnv 1 10]).db ∧
      r = newBillingSessionWith {} plainEnv db subscriberRequest 100 10 ∧
      r.result.toOption.map (·.preConsumedQuota) = some 10 ∧
      r.db.getUserQuota 1 = db.getUserQuota 1 ∧ r.db.amountUsed 1 = db.amountUsed 1 := by
  refine ⟨_, _, rfl, rfl, ?_, ?_, ?_⟩
  · decide +kernel
  · decide +kernel
  · decide +kernel

end TokenRouter
