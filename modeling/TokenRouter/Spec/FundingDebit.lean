import TokenRouter.Service.BillingSession

/-!
# What a funding step debits

`Debited db₀ info funding db f t` says that, compared with the database `db₀` before
the session, the funding source is debited by `f` and the request's token by `t`. Each
lemma here is the effect of one step of a billing session on these two numbers.

## Key results

- `Debited.fundingSettle`, `Debited.fundingReserve`, `Debited.rollbackReserve`: funding steps
- `Debited.settleToken`, `Debited.reserveToken`: token steps
- `Debited.refundTask`: the goroutine of `Refund` takes both debits back
-/

namespace TokenRouter

/-! ## Reading back a write -/

namespace QuotaDB

theorem getUserQuota_addUserQuota (db : QuotaDB) (userId quota : Int)
    (h : (db.users.find? userId).isSome = true) :
    (db.addUserQuota userId quota).getUserQuota userId = db.getUserQuota userId + quota := by
  obtain ⟨u, hu⟩ := Option.isSome_iff_exists.mp h
  simp [getUserQuota, addUserQuota, Table.find?_update, hu]

theorem isSome_addUserQuota (db : QuotaDB) (userId quota userId' : Int) :
    ((db.addUserQuota userId quota).users.find? userId').isSome =
      (db.users.find? userId').isSome := by
  simp only [addUserQuota, Table.find?_update, implies_true]
  split <;> simp

theorem tokenRemain_addTokenQuota (db : QuotaDB) (tokenId quota : Int)
    (h : (db.tokens.find? tokenId).isSome = true) :
    (db.addTokenQuota tokenId quota).tokenRemain tokenId = db.tokenRemain tokenId + quota := by
  obtain ⟨t, ht⟩ := Option.isSome_iff_exists.mp h
  simp [tokenRemain, addTokenQuota, Table.find?_update, ht]

theorem isSome_addTokenQuota (db : QuotaDB) (tokenId quota tokenId' : Int) :
    ((db.addTokenQuota tokenId quota).tokens.find? tokenId').isSome =
      (db.tokens.find? tokenId').isSome := by
  simp only [addTokenQuota, Table.find?_update, implies_true]
  split <;> simp

/-- A non-negative increase succeeds. -/
theorem increaseUserQuota_of_nonneg (db : QuotaDB) (userId : Int) {quota : Int}
    (h : 0 ≤ quota) : db.increaseUserQuota userId quota = .ok (db.addUserQuota userId quota) :=
  if_neg (not_lt.mpr h)

theorem decreaseUserQuota_of_nonneg (db : QuotaDB) (userId : Int) {quota : Int}
    (h : 0 ≤ quota) : db.decreaseUserQuota userId quota = .ok (db.addUserQuota userId (-quota)) :=
  if_neg (not_lt.mpr h)

theorem increaseTokenQuota_of_nonneg (db : QuotaDB) (tokenId : Int) {quota : Int}
    (h : 0 ≤ quota) : db.increaseTokenQuota tokenId quota = .ok (db.addTokenQuota tokenId quota) :=
  if_neg (not_lt.mpr h)

theorem decreaseTokenQuota_of_nonneg (db : QuotaDB) (tokenId : Int) {quota : Int}
    (h : 0 ≤ quota) :
    db.decreaseTokenQuota tokenId quota = .ok (db.addTokenQuota tokenId (-quota)) :=
  if_neg (not_lt.mpr h)

/-- What a successful `postConsumeUserSubscriptionDelta` wrote. -/
theorem postConsumeUserSubscriptionDelta_ok {db db' : QuotaDB} {id : Nat} {delta : Int}
    (h : db.postConsumeUserSubscriptionDelta id delta = .ok db') {sub : UserSubscription}
    (hfind : db.subscriptions.find? id = some sub) (hroom : 0 ≤ sub.amountUsed + delta) :
    db'.users = db.users ∧ db'.tokens = db.tokens ∧ db'.records = db.records ∧
      ∃ sub', db'.subscriptions.find? id = some sub' ∧
        sub'.amountUsed = sub.amountUsed + delta ∧ sub'.amountTotal = sub.amountTotal ∧
        (delta = 0 ∨ (0 < sub.amountTotal → sub'.amountUsed ≤ sub.amountTotal)) := by
  unfold postConsumeUserSubscriptionDelta at h
  split at h
  · cases h
  split at h
  · next hzero =>
    simp only [Except.ok.injEq] at h
    subst h
    exact ⟨rfl, rfl, rfl, sub, hfind, by omega, rfl, .inl hzero⟩
  rw [hfind] at h
  dsimp only at h
  split at h
  · cases h
  · next htotal =>
    simp only [Except.ok.injEq] at h
    subst h
    have hkey : sub.id = id := Table.find?_key hfind
    refine ⟨rfl, rfl, rfl, _, Table.find?_set_self hfind hkey, ?_, rfl, .inr ?_⟩
    · show max 0 (sub.amountUsed + delta) = sub.amountUsed + delta
      omega
    · intro hpos
      show max 0 (sub.amountUsed + delta) ≤ sub.amountTotal
      omega

/-- Giving back to a subscription within its total succeeds. -/
theorem postConsumeUserSubscriptionDelta_of_le {db : QuotaDB} {id : Nat}
    {sub : UserSubscription} (hid : 0 < id) (hfind : db.subscriptions.find? id = some sub)
    (htotal : 0 < sub.amountTotal → sub.amountUsed ≤ sub.amountTotal) {amount : Int}
    (hamount : 0 ≤ amount) :
    ∃ db', db.postConsumeUserSubscriptionDelta id (-amount) = .ok db' := by
  unfold postConsumeUserSubscriptionDelta
  rw [if_neg (by omega), hfind]
  split
  · exact ⟨db, rfl⟩
  · have hfits :
        ¬ (0 < sub.amountTotal ∧ sub.amountTotal < max 0 (sub.amountUsed + -amount)) := by
      omega
    exact ⟨_, if_neg hfits⟩

end QuotaDB

/-! ## Debits -/

/-- What a subscription had used before the session. -/
def SubscriptionFunding.usedBefore (s : SubscriptionFunding) : Int :=
  s.amountUsedAfter - s.preConsumed

/-- The net debit of the funding source against the database before the session. -/
def fundingDebit (db₀ db : QuotaDB) : FundingSource → Int
  | .wallet w => db₀.getUserQuota w.userId - db.getUserQuota w.userId
  | .subscription s => db.amountUsed s.subscriptionId - s.usedBefore

/-- The net debit of the request's token against the database before the session. -/
def tokenDebit (db₀ db : QuotaDB) (tokenId : Int) : Int :=
  db₀.tokenRemain tokenId - db.tokenRemain tokenId

/-- The rows that the funding source debits exist, and a subscription is within its
    total. -/
def FundingLive (db : QuotaDB) : FundingSource → Prop
  | .wallet w => (db.users.find? w.userId).isSome = true
  | .subscription s => 0 < s.subscriptionId ∧ 0 ≤ s.usedBefore ∧
      ∃ sub, db.subscriptions.find? s.subscriptionId = some sub ∧
        (0 < sub.amountTotal → sub.amountUsed ≤ sub.amountTotal)

/-- The funding source is debited by `f` and the token by `t`. -/
structure Debited (db₀ : QuotaDB) (info : RelayInfo) (funding : FundingSource) (db : QuotaDB)
    (f t : Int) : Prop where
  live : FundingLive db funding
  funding_eq : fundingDebit db₀ db funding = f
  token_live : info.isPlayground = true ∨ (db.tokens.find? info.tokenId).isSome = true
  token_eq : tokenDebit db₀ db info.tokenId = if info.isPlayground then 0 else t

/-- Two sources that debit the same row of the same baseline. -/
def SameSource : FundingSource → FundingSource → Prop
  | .wallet w, .wallet w' => w'.userId = w.userId
  | .subscription s, .subscription s' =>
    s'.subscriptionId = s.subscriptionId ∧ s'.usedBefore = s.usedBefore
  | _, _ => False

/-- Only the debited row and the baseline matter. -/
theorem Debited.sameSource {db₀ db : QuotaDB} {info : RelayInfo} {F F' : FundingSource}
    {f t : Int} (h : Debited db₀ info F db f t) (hs : SameSource F F') :
    Debited db₀ info F' db f t := by
  obtain ⟨hlive, hf, htl, ht⟩ := h
  cases F with
  | wallet w =>
    cases F' with
    | wallet w' =>
      simp only [SameSource] at hs
      refine ⟨?_, ?_, htl, ht⟩
      · simpa only [FundingLive, hs] using hlive
      · simpa only [fundingDebit, hs] using hf
    | subscription s' => exact hs.elim
  | subscription s =>
    cases F' with
    | wallet w' => exact hs.elim
    | subscription s' =>
      obtain ⟨hid, hbase⟩ := hs
      refine ⟨?_, ?_, htl, ht⟩
      · simpa only [FundingLive, hid, hbase] using hlive
      · simpa only [fundingDebit, hid, hbase] using hf

/-- The debit of a live subscription is what its row has beyond the baseline. -/
theorem fundingDebit_subscription {db₀ db : QuotaDB} {s : SubscriptionFunding}
    {sub : UserSubscription} (h : db.subscriptions.find? s.subscriptionId = some sub) :
    fundingDebit db₀ db (.subscription s) = sub.amountUsed - s.usedBefore := by
  simp [fundingDebit, QuotaDB.amountUsed, h]

/-- A token step leaves the funding source alone. -/
theorem fundingDebit_congr (db₀ : QuotaDB) {db db' : QuotaDB} (F : FundingSource)
    (hu : db'.users = db.users) (hs : db'.subscriptions = db.subscriptions) :
    fundingDebit db₀ db' F = fundingDebit db₀ db F ∧ (FundingLive db F → FundingLive db' F) := by
  cases F with
  | wallet w => simp [fundingDebit, QuotaDB.getUserQuota, FundingLive, hu]
  | subscription s => simp [fundingDebit, QuotaDB.amountUsed, FundingLive, hs]

/-- A write to the user's wallet. -/
theorem Debited.addUserQuota {db₀ db : QuotaDB} {info : RelayInfo} {w : WalletFunding} {f t : Int}
    (h : Debited db₀ info (.wallet w) db f t) (quota : Int) :
    Debited db₀ info (.wallet w) (db.addUserQuota w.userId (-quota)) (f + quota) t := by
  have hlive : (db.users.find? w.userId).isSome = true := h.live
  have hf := h.funding_eq
  simp only [fundingDebit] at hf
  refine ⟨?_, ?_, h.token_live, h.token_eq⟩
  · rw [FundingLive, QuotaDB.isSome_addUserQuota]
    exact hlive
  · rw [fundingDebit, QuotaDB.getUserQuota_addUserQuota _ _ _ hlive]
    omega

/-- A write to the subscription row. -/
theorem Debited.postConsume {db₀ db db' : QuotaDB} {info : RelayInfo} {s : SubscriptionFunding}
    {f t delta : Int} (h : Debited db₀ info (.subscription s) db f t)
    (hok : db.postConsumeUserSubscriptionDelta s.subscriptionId delta = .ok db')
    (hroom : 0 ≤ f + delta) :
    Debited db₀ info (.subscription s) db' (f + delta) t ∧ db'.records = db.records := by
  obtain ⟨hid, hbase, sub, hfind, htotal⟩ := h.live
  have hf := h.funding_eq
  rw [fundingDebit_subscription hfind] at hf
  obtain ⟨-, htokens, hrecords, sub', hfind', hused, hsame, hle⟩ :=
    QuotaDB.postConsumeUserSubscriptionDelta_ok hok hfind (by omega)
  refine ⟨⟨⟨hid, hbase, sub', hfind', ?_⟩, ?_, ?_, ?_⟩, hrecords⟩
  · intro hpos
    rw [hsame] at hpos ⊢
    rcases hle with hzero | hle
    · have := htotal hpos
      omega
    · exact hle hpos
  · rw [fundingDebit_subscription hfind', hused]
    omega
  · rw [htokens]
    exact h.token_live
  · rw [← h.token_eq]
    simp only [tokenDebit, QuotaDB.tokenRemain, htokens]

/-! ## Funding steps -/

/-- `FundingSource.Settle` debits the difference; only a subscription stops at nothing used. -/
theorem Debited.fundingSettle {db₀ db db' : QuotaDB} {info : RelayInfo} {F : FundingSource}
    {f t delta : Int} (h : Debited db₀ info F db f t) (hok : F.settle db delta = .ok db')
    (hroom : F.source = .subscription → 0 ≤ f + delta) : Debited db₀ info F db' (f + delta) t ∧ db'.records = db.records := by
  cases F with
  | wallet w =>
    simp only [FundingSource.settle] at hok
    split at hok
    · next hzero =>
      simp only [Except.ok.injEq] at hok
      subst hok
      rw [hzero, add_zero]
      exact ⟨h, rfl⟩
    split at hok
    · next hpos =>
      rw [QuotaDB.decreaseUserQuota_of_nonneg _ _ hpos.le, Except.ok.injEq] at hok
      subst hok
      exact ⟨h.addUserQuota delta, rfl⟩
    · next hneg =>
      rw [QuotaDB.increaseUserQuota_of_nonneg _ _ (by omega), Except.ok.injEq] at hok
      subst hok
      exact ⟨h.addUserQuota delta, rfl⟩
  | subscription s =>
    simp only [FundingSource.settle] at hok
    split at hok
    · next hzero =>
      simp only [Except.ok.injEq] at hok
      subst hok
      rw [hzero, add_zero]
      exact ⟨h, rfl⟩
    · exact h.postConsume hok (hroom rfl)

/-- `reserveFunding` debits the difference and counts it in a wallet's `consumed`. -/
theorem Debited.fundingReserve {db₀ db db' : QuotaDB} {info : RelayInfo} {F F' : FundingSource}
    {f t delta : Int} (h : Debited db₀ info F db f t)
    (hok : F.reserve db delta = .ok (F', db')) (hroom : 0 ≤ f + delta) :
    Debited db₀ info F' db' (f + delta) t ∧ db'.records = db.records ∧
      ((∃ w, F = .wallet w ∧ F' = .wallet { w with consumed := w.consumed + delta }) ∨
        ∃ s, F = .subscription s ∧ F' = .subscription s) := by
  cases F with
  | wallet w =>
    simp only [FundingSource.reserve] at hok
    split at hok
    · exact nomatch hok
    next db₁ hdec =>
    unfold QuotaDB.decreaseUserQuota at hdec
    split at hdec
    · exact nomatch hdec
    simp only [Except.ok.injEq] at hdec hok
    obtain ⟨rfl, rfl⟩ := Prod.mk.inj hok
    subst hdec
    refine ⟨(h.addUserQuota delta).sameSource rfl, rfl, .inl ⟨w, rfl, rfl⟩⟩
  | subscription s =>
    simp only [FundingSource.reserve] at hok
    split at hok
    · exact nomatch hok
    next db₁ hpost =>
    simp only [Except.ok.injEq] at hok
    obtain ⟨rfl, rfl⟩ := Prod.mk.inj hok
    obtain ⟨hdeb, hrec⟩ := h.postConsume hpost hroom
    exact ⟨hdeb, hrec, .inr ⟨s, rfl, rfl⟩⟩

/-- `rollbackFundingReserve` takes a reservation back. -/
theorem Debited.rollbackReserve {db₀ db : QuotaDB} {info : RelayInfo} {F : FundingSource}
    {f t delta : Int} (h : Debited db₀ info F db f t) (hdelta : 0 ≤ delta)
    (hroom : delta ≤ f) :
    Debited db₀ info (F.rollbackReserve db delta).1 (F.rollbackReserve db delta).2 (f - delta) t ∧
      (F.rollbackReserve db delta).2.records = db.records ∧
      ((∃ w, F = .wallet w ∧
          (F.rollbackReserve db delta).1 = .wallet { w with consumed := w.consumed - delta }) ∨
        ∃ s, F = .subscription s ∧ (F.rollbackReserve db delta).1 = .subscription s) := by
  cases F with
  | wallet w =>
    have hadd := h.addUserQuota (-delta)
    rw [neg_neg] at hadd
    simp only [FundingSource.rollbackReserve, QuotaDB.increaseUserQuota_of_nonneg _ _ hdelta]
    exact ⟨hadd.sameSource rfl, rfl, .inl ⟨w, rfl, rfl⟩⟩
  | subscription s =>
    obtain ⟨hid, -, sub, hfind, htotal⟩ := h.live
    obtain ⟨db', hok⟩ :=
      QuotaDB.postConsumeUserSubscriptionDelta_of_le hid hfind htotal hdelta
    obtain ⟨hdeb, hrec⟩ := h.postConsume hok (by omega)
    simp only [FundingSource.rollbackReserve, hok]
    exact ⟨hdeb, hrec, .inr ⟨s, rfl, rfl⟩⟩

/-! ## Token steps -/

/-- A write to the request's token. -/
theorem Debited.addTokenQuota {db₀ db : QuotaDB} {info : RelayInfo} {F : FundingSource}
    {f t : Int} (h : Debited db₀ info F db f t) (hplay : info.isPlayground = false)
    (quota : Int) : Debited db₀ info F (db.addTokenQuota info.tokenId (-quota)) f (t + quota) := by
  have hlive : (db.tokens.find? info.tokenId).isSome = true := by
    rcases h.token_live with hp | hl
    · rw [hplay] at hp
      exact nomatch hp
    · exact hl
  have ht := h.token_eq
  simp only [hplay, Bool.false_eq_true, if_false, tokenDebit] at ht
  have hframe : (db.addTokenQuota info.tokenId (-quota)).users = db.users := rfl
  obtain ⟨hsame, hkeep⟩ := fundingDebit_congr db₀ F hframe rfl
  refine ⟨hkeep h.live, hsame.trans h.funding_eq, .inr ?_, ?_⟩
  · rw [QuotaDB.isSome_addTokenQuota]
    exact hlive
  · rw [tokenDebit, QuotaDB.tokenRemain_addTokenQuota _ _ _ hlive, hplay]
    simp only [Bool.false_eq_true, if_false]
    omega

/-- On the playground the token figure is not looked at. -/
theorem Debited.playground {db₀ db : QuotaDB} {info : RelayInfo} {F : FundingSource}
    {f t : Int} (h : Debited db₀ info F db f t) (hplay : info.isPlayground = true) (t' : Int) :
    Debited db₀ info F db f t' := by
  refine ⟨h.live, h.funding_eq, h.token_live, ?_⟩
  rw [h.token_eq, hplay]
  rfl

/-- The token step of `Settle` debits the difference and never fails. -/
theorem Debited.settleToken {db₀ db : QuotaDB} {info : RelayInfo} {F : FundingSource}
    {f t : Int} (h : Debited db₀ info F db f t) (delta : Int) :
    ∃ db', SessionState.settleToken db info delta = .ok db' ∧
      Debited db₀ info F db' f (t + delta) ∧ db'.records = db.records := by
  unfold SessionState.settleToken
  cases hplay : info.isPlayground with
  | true =>
    simp only [if_true]
    exact ⟨db, rfl, h.playground hplay _, rfl⟩
  | false =>
    simp only [Bool.false_eq_true, if_false]
    have hadd := h.addTokenQuota hplay delta
    split
    · next hpos =>
      exact ⟨_, QuotaDB.decreaseTokenQuota_of_nonneg _ _ hpos.le, hadd, rfl⟩
    · next hneg =>
      refine ⟨_, QuotaDB.increaseTokenQuota_of_nonneg _ _ (by omega), hadd, rfl⟩

/-- What a successful `PreConsumeTokenQuota` wrote. -/
theorem preConsumeTokenQuota_ok {env : BillingEnv} {db db' : QuotaDB} {info : RelayInfo}
    {quota : Int} (h : db.preConsumeTokenQuota env info quota = .ok db') :
    (info.isPlayground = true ∧ db' = db) ∨
    (info.isPlayground = false ∧ (db.tokens.find? info.tokenId).isSome = true ∧
      db' = db.addTokenQuota info.tokenId (-quota)) := by
  unfold QuotaDB.preConsumeTokenQuota at h
  split at h
  · exact nomatch h
  next hnn =>
  split at h
  · next hplay => exact .inl ⟨hplay, (Except.ok.inj h).symm⟩
  next hplay =>
  split at h
  · exact nomatch h
  next token hfind =>
  split at h
  · exact nomatch h
  rw [QuotaDB.decreaseTokenQuota_of_nonneg _ _ (by omega)] at h
  exact .inr ⟨by simpa using hplay, by rw [hfind]; rfl, (Except.ok.inj h).symm⟩

/-- `PreConsumeTokenQuota` debits the token. -/
theorem Debited.preConsumeTokenQuota {env : BillingEnv} {db₀ db db' : QuotaDB} {info : RelayInfo}
    {F : FundingSource} {f t quota : Int} (h : Debited db₀ info F db f t)
    (hok : db.preConsumeTokenQuota env info quota = .ok db') :
    Debited db₀ info F db' f (t + quota) ∧ db'.records = db.records := by
  rcases preConsumeTokenQuota_ok hok with ⟨hplay, rfl⟩ | ⟨hplay, -, rfl⟩
  · exact ⟨h.playground hplay _, rfl⟩
  · exact ⟨h.addTokenQuota hplay quota, rfl⟩

/-- `reserveToken` debits the token. -/
theorem Debited.reserveToken {env : BillingEnv} {db₀ db db' : QuotaDB} {info : RelayInfo}
    {F : FundingSource} {f t delta : Int} (h : Debited db₀ info F db f t) (hdelta : 0 < delta)
    (hok : SessionState.reserveToken env db info delta = .ok db') :
    Debited db₀ info F db' f (t + delta) ∧ db'.records = db.records := by
  unfold SessionState.reserveToken at hok
  split at hok
  · next hskip =>
    simp only [Except.ok.injEq] at hok
    subst hok
    have hplay : info.isPlayground = true := by
      rcases hskip with hle | hplay
      · omega
      · exact hplay
    exact ⟨h.playground hplay _, rfl⟩
  split at hok
  · exact nomatch hok
  next db₁ hpre =>
  simp only [Except.ok.injEq] at hok
  subst hok
  exact h.preConsumeTokenQuota hpre

/-! ## The refund -/

/-- The pre-consume record of a subscription session, refunded or not. Wallet
    sessions have none. -/
def RecordIs (db : QuotaDB) (refunded : Bool) : FundingSource → Prop
  | .wallet _ => True
  | .subscription s => trimSpace s.requestId ≠ "" ∧
      ∃ r, db.records.find? s.requestId = some r ∧ r.refunded = refunded ∧
        r.userSubscriptionId = s.subscriptionId ∧ r.preConsumed = s.preConsumed

theorem RecordIs.congr {db db' : QuotaDB} {refunded : Bool} {F : FundingSource}
    (h : RecordIs db refunded F) (hrec : db'.records = db.records) : RecordIs db' refunded F := by
  cases F with
  | wallet w => trivial
  | subscription s => simpa only [RecordIs, hrec] using h

/-- What `FundingSource.Refund` gives back of a session's reservations. -/
def FundingSource.refundable : FundingSource → Int
  | .wallet w => w.consumed
  | .subscription s => s.preConsumed

/-- `FundingSource.Refund` gives its part back. -/
theorem Debited.fundingRefund {db₀ db : QuotaDB} {info : RelayInfo} {F : FundingSource}
    {f t : Int} (h : Debited db₀ info F db f t) (hrec : RecordIs db false F)
    (hnn : 0 ≤ F.refundable) (hle : F.refundable ≤ f) :
    ∃ db', F.refund db = .ok db' ∧ Debited db₀ info F db' (f - F.refundable) t := by
  cases F with
  | wallet w =>
    simp only [FundingSource.refund, FundingSource.refundable] at hnn hle ⊢
    split
    · next hzero =>
      have : w.consumed = 0 := by omega
      rw [this, sub_zero]
      exact ⟨db, rfl, h⟩
    · have hadd := h.addUserQuota (-w.consumed)
      rw [neg_neg] at hadd
      exact ⟨_, QuotaDB.increaseUserQuota_of_nonneg _ _ hnn, hadd⟩
  | subscription s =>
    simp only [FundingSource.refund, FundingSource.refundable] at hnn hle ⊢
    split
    · next hzero =>
      have : s.preConsumed = 0 := by omega
      rw [this, sub_zero]
      exact ⟨db, rfl, h⟩
    · next hpos =>
      obtain ⟨hid, -, sub, hfind, htotal⟩ := h.live
      obtain ⟨hreq, r, hr, hrefunded, hsub, hpre⟩ := hrec
      obtain ⟨db', hok⟩ := QuotaDB.postConsumeUserSubscriptionDelta_of_le hid hfind htotal hnn
      obtain ⟨hdeb, -⟩ := h.postConsume hok (by omega)
      rw [← sub_eq_add_neg] at hdeb
      refine ⟨{ db' with records := db'.records.set { r with refunded := true } }, ?_, ?_⟩
      · simp only [QuotaDB.refundSubscriptionPreConsume, if_neg hreq, hr, hrefunded,
          Bool.false_eq_true, if_false, hpre, if_neg hpos, hsub, hok]
      · exact ⟨hdeb.live, hdeb.funding_eq, hdeb.token_live, hdeb.token_eq⟩

/-- The goroutine of `Refund` takes both debits of a session back. -/
theorem Debited.refundTask {db₀ db : QuotaDB} {info : RelayInfo} {task : RefundTask} {x : Int}
    (h : Debited db₀ info task.funding db x x) (hrec : RecordIs db false task.funding)
    (htoken : task.tokenConsumed = x) (htokenId : task.tokenId = info.tokenId)
    (hplay : task.isPlayground = info.isPlayground) (hx : 0 ≤ x)
    (hextra : 0 ≤ task.extraReserved)
    (hfunding : match task.funding with
      | .wallet w => w.consumed = x
      | .subscription s => 0 ≤ s.preConsumed ∧ s.preConsumed + task.extraReserved = x ∧
          task.subscriptionId = s.subscriptionId) :
    Debited db₀ info task.funding (task.run db) 0 0 := by
  -- first the funding source, then what was reserved later, then the token
  have hnn : 0 ≤ task.funding.refundable := by
    cases hF : task.funding with
    | wallet w => rw [hF] at hfunding; simp only [FundingSource.refundable, hfunding]; exact hx
    | subscription s => rw [hF] at hfunding; exact hfunding.1
  have hle : task.funding.refundable ≤ x := by
    cases hF : task.funding with
    | wallet w => rw [hF] at hfunding; exact le_of_eq hfunding
    | subscription s =>
      rw [hF] at hfunding
      simp only [FundingSource.refundable]
      omega
  obtain ⟨db₁, hok₁, hdeb₁⟩ := h.fundingRefund hrec hnn hle
  have hsecond : ∃ db₂,
      (if 0 < task.extraReserved ∧ task.funding.source = .subscription ∧
          0 < task.subscriptionId then
        logged db₁ (db₁.postConsumeUserSubscriptionDelta task.subscriptionId
          (-task.extraReserved))
      else db₁) = db₂ ∧ Debited db₀ info task.funding db₂ 0 x := by
    cases hF : task.funding with
    | wallet w =>
      rw [hF] at hfunding hdeb₁
      simp only [FundingSource.refundable, hfunding, sub_self] at hdeb₁
      exact ⟨db₁, by simp [FundingSource.source], hdeb₁⟩
    | subscription s =>
      rw [hF] at hfunding hdeb₁
      obtain ⟨-, hsum, hsid⟩ := hfunding
      have hrest : x - s.preConsumed = task.extraReserved := by omega
      simp only [FundingSource.refundable, hrest] at hdeb₁
      obtain ⟨hid, -, sub, hfind, htotal⟩ := hdeb₁.live
      by_cases hpos : 0 < task.extraReserved
      · obtain ⟨db₂, hok₂⟩ :=
          QuotaDB.postConsumeUserSubscriptionDelta_of_le hid hfind htotal hextra
        obtain ⟨hdeb₂, -⟩ := hdeb₁.postConsume hok₂ (by omega)
        rw [add_neg_cancel] at hdeb₂
        refine ⟨db₂, ?_, hdeb₂⟩
        rw [if_pos ⟨hpos, rfl, by omega⟩, hsid, hok₂]
        rfl
      · have hzero : task.extraReserved = 0 := by omega
        rw [hzero] at hdeb₁
        exact ⟨db₁, if_neg fun h => hpos h.1, hdeb₁⟩
  obtain ⟨db₂, hdb₂, hdeb₂⟩ := hsecond
  simp only [RefundTask.run, hok₁, logged] at hdb₂ ⊢
  rw [hdb₂]
  split
  · next hpos =>
    rw [htoken, htokenId, QuotaDB.increaseTokenQuota_of_nonneg _ _ hx]
    have hadd := hdeb₂.addTokenQuota (hplay ▸ hpos.2) (-x)
    rw [neg_neg, add_neg_cancel] at hadd
    exact hadd
  · next hnot =>
    by_cases hzero : x = 0
    · rw [hzero] at hdeb₂
      exact hdeb₂
    · refine hdeb₂.playground ?_ 0
      rw [← hplay]
      by_contra hne
      exact hnot ⟨by omega, by simpa using hne⟩

end TokenRouter
