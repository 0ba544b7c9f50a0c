import TokenRouter.Spec.SessionSteps

/-!
# Opening a billing session

`NewBillingSession` tries the wallet, a subscription, or one after the other. An attempt
that fails with an error after which the next one is made leaves nothing debited; a
session that opens is debited by what it pre-consumed.

## Key results

- `preConsumeFunding_open`, `preConsume_open`: a successful attempt
- `preConsume_failed`: a failed attempt
- `newBillingSession_attempted`: what `NewBillingSession` returns
-/

namespace TokenRouter

/-- A due reset keeps the subscription's id. -/
theorem maybeResetUserSubscription_id {env : BillingEnv} {sub sub' : UserSubscription} {now : Int}
    (h : QuotaDB.maybeResetUserSubscription env sub now = .ok sub') : sub'.id = sub.id := by
  unfold QuotaDB.maybeResetUserSubscription at h
  split at h
  · rw [← Except.ok.inj h]
  split at h
  · exact nomatch h
  · rw [← Except.ok.inj h]
  · split at h
    · rw [← Except.ok.inj h]
    · rw [← Except.ok.inj h]
  · rw [← Except.ok.inj h]

/-- What a pre-consumed subscription looks like. -/
structure PreConsumed (db db' : QuotaDB) (requestId : String) (amount : Int)
    (res : QuotaDB.PreConsumeResult) : Prop where
  users : db'.users = db.users
  tokens : db'.tokens = db.tokens
  preConsumed : res.preConsumed = amount
  id_pos : 0 < res.userSubscriptionId
  before_nonneg : 0 ≤ res.amountUsedAfter - amount
  row : ∃ sub, db'.subscriptions.find? res.userSubscriptionId = some sub ∧
    sub.amountUsed = res.amountUsedAfter ∧ (0 < sub.amountTotal → sub.amountUsed ≤ sub.amountTotal)
  record : ∃ r, db'.records.find? requestId = some r ∧ r.refunded = false ∧
    r.userSubscriptionId = res.userSubscriptionId ∧ r.preConsumed = amount

/-- The candidate loop charges the first subscription with room. -/
theorem preConsumeLoop_ok {env : BillingEnv} {requestId : String} {userId amount now : Int}
    {hamount : 0 ≤ amount} {res : QuotaDB.PreConsumeResult} {db' : QuotaDB} :
    ∀ (subs : List UserSubscription) (db : QuotaDB),
      db.records.find? requestId = none →
      (∀ c ∈ subs, (db.subscriptions.find? c.id).isSome = true) →
      QuotaDB.preConsumeLoop env requestId userId amount now hamount db subs = .ok (res, db') →
      PreConsumed db db' requestId amount res
  | [], _, _, _, h => nomatch h
  | candidate :: rest, db, hnone, hsome, h => by
    unfold QuotaDB.preConsumeLoop at h
    split at h
    · exact nomatch h
    next sub hreset =>
    have hid := maybeResetUserSubscription_id hreset
    split at h
    · -- no room: go on with the rest, the reset kept
      have hrest := preConsumeLoop_ok rest { db with subscriptions := db.subscriptions.set sub }
        hnone (fun c hc => by
          have := hsome c (List.mem_cons_of_mem _ hc)
          simp only [Table.find?_set]
          split
          · simpa using this
          · exact this) h
      exact ⟨hrest.users, hrest.tokens, hrest.preConsumed, hrest.id_pos, hrest.before_nonneg,
        hrest.row, hrest.record⟩
    · next hroom =>
      obtain ⟨old, hold⟩ := Option.isSome_iff_exists.mp (hsome candidate List.mem_cons_self)
      rw [← hid] at hold
      obtain ⟨rfl, rfl⟩ := Prod.mk.inj (Except.ok.inj h)
      have hused := sub.amountUsed_nonneg
      refine ⟨rfl, rfl, rfl, sub.id_pos, ?_, ⟨_, Table.find?_set_self hold rfl, rfl, ?_⟩, ?_⟩
      · show 0 ≤ sub.amountUsed + amount - amount
        omega
      · show 0 < sub.amountTotal → sub.amountUsed + amount ≤ sub.amountTotal
        omega
      · refine ⟨⟨requestId, userId, sub.id, amount, false⟩, ?_, rfl, rfl, rfl⟩
        rw [Table.find?_insert, if_pos rfl, hnone]
        rfl

/-- `PreConsumeUserSubscription` for a request that was not charged before. -/
theorem preConsumeUserSubscription_ok {env : BillingEnv} {db db' : QuotaDB} {requestId : String}
    {userId amount : Int} {res : QuotaDB.PreConsumeResult}
    (hnone : db.records.find? requestId = none)
    (h : db.preConsumeUserSubscription env requestId userId amount = .ok (res, db')) :
    trimSpace requestId ≠ "" ∧ PreConsumed db db' requestId amount res := by
  unfold QuotaDB.preConsumeUserSubscription at h
  split at h
  · exact nomatch h
  split at h
  · exact nomatch h
  next hreq =>
  split at h
  · exact nomatch h
  rw [hnone] at h
  dsimp only at h
  split at h
  · exact nomatch h
  refine ⟨hreq, preConsumeLoop_ok _ db hnone ?_ h⟩
  intro c hc
  rw [List.mem_mergeSort, QuotaDB.activeSubscriptions, List.mem_filter] at hc
  rw [Table.find?_of_mem hc.1]
  rfl

/-- A failed attempt to open a session leaves the database as it was, up to a token
    row that was debited and credited again. -/
structure Untouched (db₀ db : QuotaDB) (info : RelayInfo) : Prop where
  users : db.users = db₀.users
  subscriptions : db.subscriptions = db₀.subscriptions
  records : db.records = db₀.records
  token_live : info.isPlayground = true ∨ (db.tokens.find? info.tokenId).isSome = true
  token_eq : tokenDebit db₀ db info.tokenId = 0

/-- A new funding source: nothing counted yet. -/
def FundingSource.IsNew (db₀ : QuotaDB) (quota : Int) : FundingSource → Prop
  | .wallet w => w.consumed = 0 ∧ (db₀.users.find? w.userId).isSome = true
  | .subscription s => s.amount = quota ∧ db₀.records.find? s.requestId = none

/-- An opened session: consistent counters, and debited by what it pre-consumed. -/
structure Opened (db₀ : QuotaDB) (info : RelayInfo) (db : QuotaDB) (s : BillingSession) :
    Prop where
  counts : SessionCounts info s
  record : RecordIs db false s.funding
  settled : s.settled = false
  refunded : s.refunded = false
  debited : Debited db₀ info s.funding db s.preConsumedQuota s.preConsumedQuota

/-- The billing source on the request plays no role. -/
theorem Opened.billingSource {db₀ db : QuotaDB} {info : RelayInfo} {s : BillingSession}
    (h : Opened db₀ info db s) (source : BillingSource) :
    Opened db₀ { info with billingSource := source } db s :=
  ⟨h.counts.info rfl rfl, h.record, h.settled, h.refunded, h.debited.info rfl rfl⟩

/-- What `syncRelayInfo` leaves alone. -/
theorem syncRelayInfo_frame (info : RelayInfo) (s : BillingSession) :
    (syncRelayInfo info s).isPlayground = info.isPlayground ∧
      (syncRelayInfo info s).tokenId = info.tokenId ∧
      (syncRelayInfo info s).finalPreConsumedQuota = s.preConsumedQuota := by
  unfold syncRelayInfo
  cases s.funding <;> exact ⟨rfl, rfl, rfl⟩

/-- The funding step of a session that opens. -/
theorem preConsumeFunding_open {env : BillingEnv} {db₀ db : QuotaDB} {info : RelayInfo}
    {F : FundingSource} {trusted : Bool} {quota : Int} {s' : BillingSession} (hnn : 0 ≤ quota)
    (hnew : F.IsNew db₀ quota) (hu : db.users = db₀.users) (hrec : db.records = db₀.records)
    (htl : info.isPlayground = true ∨ (db.tokens.find? info.tokenId).isSome = true)
    (ht : tokenDebit db₀ db info.tokenId = if info.isPlayground then 0 else quota)
    (hok : (preConsumeFunding env db info
      { funding := F, trusted := trusted, tokenConsumed := quota } quota).result = .ok s') :
    Opened db₀ (preConsumeFunding env db info
        { funding := F, trusted := trusted, tokenConsumed := quota } quota).info
      (preConsumeFunding env db info
        { funding := F, trusted := trusted, tokenConsumed := quota } quota).db s' := by
  unfold preConsumeFunding at hok ⊢
  split at hok
  · cases hok
  next F' db' hpre =>
  rw [← Except.ok.inj hok]
  obtain ⟨hplay', htok', hfinal⟩ := syncRelayInfo_frame info
    { funding := F', trusted := trusted, tokenConsumed := quota, preConsumedQuota := quota }
  cases F with
  | wallet w =>
    obtain ⟨hzero, hlive⟩ := hnew
    -- before the funding step only the token is debited
    have hbase : Debited db₀ info (.wallet w) db 0 quota := by
      refine ⟨?_, ?_, htl, ht⟩
      · rw [FundingLive, hu]
        exact hlive
      · simp only [fundingDebit, QuotaDB.getUserQuota, hu, sub_self]
    have hdone : F' = .wallet { w with consumed := quota } ∧
        Debited db₀ info (.wallet w) db' quota quota := by
      simp only [FundingSource.preConsume] at hpre
      split at hpre
      · obtain ⟨rfl, rfl⟩ := Prod.mk.inj (Except.ok.inj hpre)
        have hq : quota = 0 := by omega
        subst hq
        exact ⟨by rw [← hzero], hbase⟩
      · rw [QuotaDB.decreaseUserQuota_of_nonneg _ _ hnn] at hpre
        obtain ⟨rfl, rfl⟩ := Prod.mk.inj (Except.ok.inj hpre)
        have hadd := hbase.addUserQuota quota
        rw [zero_add] at hadd
        exact ⟨rfl, hadd⟩
    obtain ⟨rfl, hdeb⟩ := hdone
    refine ⟨⟨hnn, le_refl 0, rfl, rfl, hfinal, fun h => by cases h⟩, trivial, rfl, rfl, ?_⟩
    have hmoved : Debited db₀ info (.wallet { w with consumed := quota }) db' quota quota :=
      hdeb.sameSource rfl
    exact hmoved.info hplay' htok'
  | subscription sub =>
    obtain ⟨hamount, hnone⟩ := hnew
    simp only [FundingSource.preConsume] at hpre
    split at hpre
    · cases hpre
    next res db₁ hsub =>
    obtain ⟨rfl, rfl⟩ := Prod.mk.inj (Except.ok.inj hpre)
    have hpos : 0 < sub.amount := by
      by_contra hle
      simp only [QuotaDB.preConsumeUserSubscription, dif_pos (not_lt.mp hle)] at hsub
      split at hsub
      · cases hsub
      · split at hsub <;> cases hsub
    rw [hamount] at hsub hpos
    obtain ⟨hreq, hres⟩ := preConsumeUserSubscription_ok (by rw [hrec]; exact hnone) hsub
    obtain ⟨row, hrow, hused, htotal⟩ := hres.row
    obtain ⟨r, hr, hrefunded, hrsub, hrpre⟩ := hres.record
    have hpc := hres.preConsumed
    have hbefore := hres.before_nonneg
    refine ⟨⟨hnn, le_refl 0, rfl, ⟨?_, ?_, rfl⟩, hfinal, fun h => by cases h⟩, ?_, rfl, rfl, ?_⟩
    · dsimp only
      omega
    · dsimp only
      omega
    · exact ⟨hreq, r, hr, hrefunded, hrsub, by rw [hrpre, ← hpc]⟩
    · refine Debited.info ⟨⟨hres.id_pos, ?_, row, hrow, htotal⟩, ?_, ?_, ?_⟩ hplay' htok'
      · simp only [SubscriptionFunding.usedBefore]
        omega
      · rw [fundingDebit_subscription hrow, hused]
        simp only [SubscriptionFunding.usedBefore]
        omega
      · rw [hres.tokens]
        exact htl
      · rw [← ht]
        simp only [tokenDebit, QuotaDB.tokenRemain, hres.tokens]

/-! ## One attempt -/

/-- A token debit and its roll back cancel out. -/
theorem Untouched.rollback {db₀ db : QuotaDB} {info : RelayInfo} (h : Untouched db₀ db info)
    (hplay : info.isPlayground = false) (quota : Int) :
    Untouched db₀ ((db.addTokenQuota info.tokenId (-quota)).addTokenQuota info.tokenId quota)
      info := by
  have hlive : (db.tokens.find? info.tokenId).isSome = true := by
    simpa [hplay] using h.token_live
  have heq := h.token_eq
  refine ⟨h.users, h.subscriptions, h.records, .inr ?_, ?_⟩
  · simpa only [QuotaDB.isSome_addTokenQuota] using hlive
  · have hlive' := QuotaDB.isSome_addTokenQuota db info.tokenId (-quota) info.tokenId
    rw [hlive] at hlive'
    simp only [tokenDebit] at heq ⊢
    rw [QuotaDB.tokenRemain_addTokenQuota _ _ _ hlive',
      QuotaDB.tokenRemain_addTokenQuota _ _ _ hlive]
    omega

/-- The token step of an attempt: the token is debited by the quota. -/
theorem Untouched.preConsumeTokenQuota {env : BillingEnv} {db₀ db db' : QuotaDB}
    {info : RelayInfo} {quota : Int} (h : Untouched db₀ db info)
    (hok : db.preConsumeTokenQuota env info quota = .ok db') :
    db'.users = db₀.users ∧ db'.records = db₀.records ∧
      (info.isPlayground = true ∨ (db'.tokens.find? info.tokenId).isSome = true) ∧
      tokenDebit db₀ db' info.tokenId = if info.isPlayground then 0 else quota := by
  have heq := h.token_eq
  rcases preConsumeTokenQuota_ok hok with ⟨hplay, rfl⟩ | ⟨hplay, hlive, rfl⟩
  · exact ⟨h.users, h.records, .inl hplay, by simpa [hplay] using heq⟩
  · refine ⟨h.users, h.records, .inr ?_, ?_⟩
    · rw [QuotaDB.isSome_addTokenQuota]
      exact hlive
    · simp only [tokenDebit] at heq ⊢
      rw [QuotaDB.tokenRemain_addTokenQuota _ _ _ hlive]
      simp only [hplay, Bool.false_eq_true, if_false]
      omega

/-- A session is trusted only on a wallet. -/
theorem shouldTrust_subscription (env : BillingEnv) (info : RelayInfo) (tokenQuota : Int)
    (sub : SubscriptionFunding) :
    BillingSession.shouldTrust env info tokenQuota { funding := .subscription sub } = false := by
  unfold BillingSession.shouldTrust
  split_ifs <;> rfl

/-- An attempt that opens a session. -/
theorem preConsume_open {env : BillingEnv} {db₀ db : QuotaDB} {info : RelayInfo}
    {tokenQuota quota : Int} {F : FundingSource} {s : BillingSession} (hnn : 0 ≤ quota)
    (hnew : F.IsNew db₀ quota) (hdb : Untouched db₀ db info)
    (hok : (preConsume env db info tokenQuota F quota).result = .ok s) :
    Opened db₀ (preConsume env db info tokenQuota F quota).info
      (preConsume env db info tokenQuota F quota).db s := by
  unfold preConsume at hok ⊢
  dsimp only at hok ⊢
  -- what is consumed: nothing on a trusted wallet, the quota otherwise
  generalize htrust : BillingSession.shouldTrust env info tokenQuota { funding := F } = trusted at *
  have hnew' : F.IsNew db₀ (if trusted = true then 0 else quota) := by
    cases F with
    | wallet w => exact hnew
    | subscription sub =>
      rw [shouldTrust_subscription] at htrust
      simpa [← htrust] using hnew
  have hnn' : 0 ≤ if trusted = true then 0 else quota := by
    split <;> omega
  generalize (if trusted = true then 0 else quota) = effective at *
  by_cases hpos : 0 < effective
  · simp only [if_pos hpos] at hok ⊢
    split at hok
    · exact nomatch hok
    next db' hpre =>
    obtain ⟨hu, hrec, htl, ht⟩ := hdb.preConsumeTokenQuota hpre
    exact preConsumeFunding_open hnn' hnew' hu hrec htl ht hok
  · obtain rfl : effective = 0 := by omega
    simp only [if_neg hpos] at hok ⊢
    refine preConsumeFunding_open hnn' hnew' hdb.users hdb.records hdb.token_live ?_ hok
    rw [hdb.token_eq]
    split <;> rfl

/-- An attempt that fails leaves nothing debited. -/
theorem preConsume_failed {env : BillingEnv} {db₀ db : QuotaDB} {info : RelayInfo}
    {tokenQuota quota : Int} {F : FundingSource} {e : NewAPIError} (hdb : Untouched db₀ db info)
    (herr : (preConsume env db info tokenQuota F quota).result = .error e) :
    (preConsume env db info tokenQuota F quota).info = info ∧
      Untouched db₀ (preConsume env db info tokenQuota F quota).db info := by
  unfold preConsume at herr ⊢
  dsimp only at herr ⊢
  generalize BillingSession.shouldTrust env info tokenQuota { funding := F } = trusted at *
  generalize (if trusted = true then 0 else quota) = effective at *
  by_cases hpos : 0 < effective
  · simp only [if_pos hpos] at herr ⊢
    split
    · exact ⟨rfl, hdb⟩
    next db' hpre =>
    simp only [hpre] at herr
    unfold preConsumeFunding at herr ⊢
    split
    · -- the funding source refuses: the token gets its quota back
      refine ⟨rfl, ?_⟩
      rcases preConsumeTokenQuota_ok hpre with ⟨hplay, rfl⟩ | ⟨hplay, -, rfl⟩
      · simpa [hplay] using hdb
      · simp only [hpos, hplay, and_self, if_true,
          QuotaDB.increaseTokenQuota_of_nonneg _ _ hpos.le, logged]
        exact hdb.rollback hplay effective
    · next F' db'' hfund => simp [hfund] at herr
  · simp only [if_neg hpos] at herr ⊢
    unfold preConsumeFunding at herr ⊢
    split
    · exact ⟨rfl, by simpa using hdb⟩
    · next F' db'' hfund => simp [hfund] at herr

/-! ## `NewBillingSession` -/

/-- What an attempt to open a session can leave behind. -/
inductive Attempted (db₀ : QuotaDB) (info : RelayInfo) (r : OpenResult) : Prop where
  | opened (s : BillingSession) (hok : r.result = .ok s) (h : Opened db₀ r.info r.db s)
  | failed (e : NewAPIError) (herr : r.result = .error e)
      (hinfo : ∃ userQuota, r.info = { info with userQuota := userQuota })
      (h : Untouched db₀ r.db info)

/-- The wallet quota that `tryWallet` notes on the request plays no role. -/
theorem Untouched.userQuota {db₀ db : QuotaDB} {info : RelayInfo} (h : Untouched db₀ db info)
    (userQuota : Int) : Untouched db₀ db { info with userQuota := userQuota } :=
  ⟨h.users, h.subscriptions, h.records, h.token_live, h.token_eq⟩

theorem Attempted.of_userQuota {db₀ : QuotaDB} {info : RelayInfo} {r : OpenResult}
    {userQuota : Int} (h : Attempted db₀ { info with userQuota := userQuota } r) :
    Attempted db₀ info r := by
  cases h with
  | opened s hok h => exact .opened s hok h
  | failed e herr hinfo h =>
    exact .failed e herr hinfo ⟨h.users, h.subscriptions, h.records, h.token_live, h.token_eq⟩

/-- One attempt on a new funding source. -/
theorem preConsume_attempted (env : BillingEnv) {db₀ db : QuotaDB} {info : RelayInfo}
    (tokenQuota : Int) {quota : Int} {F : FundingSource} (hnn : 0 ≤ quota)
    (hnew : F.IsNew db₀ quota) (hdb : Untouched db₀ db info) :
    Attempted db₀ info (preConsume env db info tokenQuota F quota) := by
  cases hres : (preConsume env db info tokenQuota F quota).result with
  | ok s => exact .opened s hres (preConsume_open hnn hnew hdb hres)
  | error e =>
    obtain ⟨hinfo, huntouched⟩ := preConsume_failed hdb hres
    exact .failed e hres ⟨info.userQuota, hinfo⟩ huntouched

theorem tryWallet_attempted (env : BillingEnv) {db₀ db : QuotaDB} {info : RelayInfo}
    (tokenQuota : Int) (quota : Nat) (hdb : Untouched db₀ db info) :
    Attempted db₀ info (tryWallet env db info tokenQuota quota) := by
  unfold tryWallet
  dsimp only
  split
  · exact .failed _ rfl ⟨info.userQuota, rfl⟩ hdb
  next hquota =>
  split
  · exact .failed _ rfl ⟨info.userQuota, rfl⟩ hdb
  · -- a wallet with quota is the wallet of a user
    have hlive : (db₀.users.find? info.userId).isSome = true := by
      rw [← hdb.users]
      cases hfind : db.users.find? info.userId with
      | none => simp [QuotaDB.getUserQuota, hfind] at hquota
      | some u => rfl
    apply Attempted.of_userQuota
    exact preConsume_attempted env tokenQuota (Int.natCast_nonneg quota) ⟨rfl, hlive⟩
      (hdb.userQuota _)

theorem trySubscription_attempted (env : BillingEnv) {db₀ db : QuotaDB} {info : RelayInfo}
    (tokenQuota : Int) (quota : Nat) (hdb : Untouched db₀ db info)
    (hrec : db₀.records.find? info.requestId = none) :
    Attempted db₀ info (trySubscription env db info tokenQuota quota) := by
  have hnn : (0 : Int) ≤ if (quota : Int) ≤ 0 then (1 : Int) else (quota : Int) := by
    split <;> omega
  exact preConsume_attempted env tokenQuota hnn ⟨rfl, hrec⟩ hdb

/-- The session that `NewBillingSession` returns is debited by what it pre-consumed; when
    it returns an error nothing is debited. -/
theorem newBillingSession_attempted (env : BillingEnv) {db₀ : QuotaDB} {info : RelayInfo}
    (tokenQuota : Int) (quota : Nat)
    (htoken : info.isPlayground = true ∨ (db₀.tokens.find? info.tokenId).isSome = true)
    (hrec : db₀.records.find? info.requestId = none) :
    Attempted db₀ info (newBillingSession env db₀ info tokenQuota quota) := by
  have hdb : Untouched db₀ db₀ info := ⟨rfl, rfl, rfl, htoken, sub_self _⟩
  have hwallet := tryWallet_attempted env tokenQuota quota hdb
  have hsub := trySubscription_attempted env tokenQuota quota hdb hrec
  unfold newBillingSession
  cases info.billingPreference with
  | subscriptionOnly => exact hsub
  | walletOnly => exact hwallet
  | walletFirst =>
    cases hwallet with
    | opened s hok h =>
      simp only [hok]
      exact .opened s hok h
    | failed e herr hinfo h =>
      simp only [herr]
      split
      · -- the subscription is tried on what the wallet left
        obtain ⟨userQuota, hinfo⟩ := hinfo
        rw [hinfo]
        apply Attempted.of_userQuota
        exact trySubscription_attempted env tokenQuota quota (h.userQuota _) hrec
      · exact .failed e herr hinfo h
  | subscriptionFirst =>
    dsimp only
    split
    · exact .failed _ rfl ⟨info.userQuota, rfl⟩ hdb
    · exact hwallet
    · cases hsub with
      | opened s hok h =>
        simp only [hok]
        exact .opened s hok h
      | failed e herr hinfo h =>
        simp only [herr]
        split
        · split
          · exact .failed _ rfl hinfo h
          · obtain ⟨userQuota, hinfo⟩ := hinfo
            rw [hinfo]
            apply Attempted.of_userQuota
            exact tryWallet_attempted env tokenQuota quota (h.userQuota _)
          · exact .failed e herr hinfo h
        · exact .failed e herr hinfo h

/-- A server without trust and with plans that never reset. -/
def plainEnv : BillingEnv :=
  { trustQuota := 0
    formatQuota := toString
    now := ⟨1, by decide⟩
    resetTimes := fun _ _ => .ok .never }

/-- One user and one token, both with quota 100. -/
def oneWallet : QuotaDB :=
  { users := ⟨[{ id := 1, quota := 100 }], by decide⟩
    tokens := ⟨[{ id := 1, remainQuota := 100 }], by decide⟩
    subscriptions := .empty
    records := .empty }

/-- A request of that user, paid from the wallet. -/
def walletRequest : RelayInfo :=
  { requestId := "r1", userId := 1, tokenId := 1, billingPreference := .walletOnly }

/-- The session that this request opens at quota 10. -/
def walletSession : BillingSession :=
  { funding := .wallet { userId := 1, consumed := 10 }, preConsumedQuota := 10, tokenConsumed := 10 }

example : (newBillingSession plainEnv oneWallet walletRequest 100 10).result = .ok walletSession := by
  decide

end TokenRouter
