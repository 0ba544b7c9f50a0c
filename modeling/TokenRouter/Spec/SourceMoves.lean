import TokenRouter.Spec.FundingDebit
import TokenRouter.Spec.BillingSettled

/-!
# What the steps of a charge take

`Taken db db' userId tokenId subscriptionId d` says what `db'` has less than `db` of the wallet of
a user, of a token and of a subscription. Every step of a charge takes from these three, and the
amounts of several steps add up.

## Key results

- `Taken.trans`: steps one after the other
- `Taken.same_iff`: two charges of the same tables
- `newBillingSession_funded`: the payer of a prepaid session
- `preConsumeBilling_funded`: the payer of a request
-/

namespace TokenRouter

/-- Quota taken from a wallet, a token and a subscription. -/
@[ext] structure Draw where
  wallet : Int := 0
  token : Int := 0
  subscription : Int := 0
  deriving DecidableEq

/-- The three rows that a request may be charged to. -/
structure Payer where
  userId : Int
  tokenId : Int
  subscriptionId : Nat

/-- The rows of a payer's wallet and token exist. -/
structure Payer.Live (payer : Payer) (db : QuotaDB) : Prop where
  user : (db.users.find? payer.userId).isSome = true
  token : (db.tokens.find? payer.tokenId).isSome = true

/-- What a step took from its payer; the rows of other subscriptions are as they were. -/
structure Taken (payer : Payer) (db db' : QuotaDB) (d : Draw) : Prop where
  live : payer.Live db'
  wallet : db'.getUserQuota payer.userId = db.getUserQuota payer.userId - d.wallet
  token : db'.tokenRemain payer.tokenId = db.tokenRemain payer.tokenId - d.token
  subscription : db'.amountUsed payer.subscriptionId =
    db.amountUsed payer.subscriptionId + d.subscription
  others : ∀ id, id ≠ payer.subscriptionId → db'.amountUsed id = db.amountUsed id

namespace Taken

variable {payer : Payer} {db db' db'' : QuotaDB} {d d' : Draw}

theorem refl (h : payer.Live db) : Taken payer db db {} :=
  ⟨h, (sub_zero _).symm, (sub_zero _).symm, (add_zero _).symm, fun _ _ => rfl⟩

theorem trans (h : Taken payer db db' d) (h' : Taken payer db' db'' d') :
    Taken payer db db''
      ⟨d.wallet + d'.wallet, d.token + d'.token, d.subscription + d'.subscription⟩ := by
  refine ⟨h'.live, ?_, ?_, ?_, ?_⟩
  · rw [h'.wallet, h.wallet]
    exact sub_sub _ _ _
  · rw [h'.token, h.token]
    exact sub_sub _ _ _
  · rw [h'.subscription, h.subscription]
    exact add_assoc _ _ _
  · intro id hid
    rw [h'.others id hid, h.others id hid]

theorem addUserQuota (h : payer.Live db) (quota : Int) :
    Taken payer db (db.addUserQuota payer.userId (-quota)) { wallet := quota } := by
  refine ⟨⟨?_, h.token⟩, ?_, ?_, ?_, fun _ _ => rfl⟩
  · rw [QuotaDB.isSome_addUserQuota]
    exact h.user
  · rw [QuotaDB.getUserQuota_addUserQuota db _ _ h.user]
    exact (sub_eq_add_neg _ _).symm
  · exact (sub_zero _).symm
  · exact (add_zero _).symm

theorem addTokenQuota (h : payer.Live db) (quota : Int) :
    Taken payer db (db.addTokenQuota payer.tokenId (-quota)) { token := quota } := by
  refine ⟨⟨h.user, ?_⟩, ?_, ?_, ?_, fun _ _ => rfl⟩
  · rw [QuotaDB.isSome_addTokenQuota]
    exact h.token
  · exact (sub_zero _).symm
  · rw [QuotaDB.tokenRemain_addTokenQuota db _ _ h.token]
    exact (sub_eq_add_neg _ _).symm
  · exact (add_zero _).symm

/-- Two charges of the same tables leave the same, exactly when they took the same. -/
theorem same_iff {db₁ db₂ : QuotaDB} (h₁ : Taken payer db db₁ d) (h₂ : Taken payer db db₂ d') :
    (db₁.getUserQuota payer.userId = db₂.getUserQuota payer.userId ∧
        db₁.tokenRemain payer.tokenId = db₂.tokenRemain payer.tokenId ∧
        db₁.amountUsed = db₂.amountUsed) ↔ d = d' := by
  constructor
  · rintro ⟨hwallet, htoken, hused⟩
    have hsubscription := congrFun hused payer.subscriptionId
    rw [h₁.wallet, h₂.wallet] at hwallet
    rw [h₁.token, h₂.token] at htoken
    rw [h₁.subscription, h₂.subscription] at hsubscription
    apply Draw.ext <;> omega
  · rintro rfl
    refine ⟨h₁.wallet.trans h₂.wallet.symm, h₁.token.trans h₂.token.symm, ?_⟩
    funext id
    by_cases hid : id = payer.subscriptionId
    · rw [hid, h₁.subscription, h₂.subscription]
    · rw [h₁.others id hid, h₂.others id hid]

end Taken

/-! ## Room in a subscription -/

/-- A subscription takes `amount` more without exceeding its total. -/
def Fits (db : QuotaDB) (subscriptionId : Nat) (amount : Int) : Prop :=
  ∀ row ∈ db.subscriptions.find? subscriptionId, 0 < row.amountTotal →
    row.amountUsed + amount ≤ row.amountTotal

/-- A delta on a subscription with room is taken, as far as the usage is not below zero then. -/
theorem Taken.postConsume {payer : Payer} {db : QuotaDB} (h : payer.Live db) {amount : Int}
    (hid : payer.subscriptionId ≠ 0)
    (hrow : (db.subscriptions.find? payer.subscriptionId).isSome = true)
    (hfits : Fits db payer.subscriptionId amount) (hne : amount ≠ 0) :
    ∃ db', db.postConsumeUserSubscriptionDelta payer.subscriptionId amount = .ok db' ∧
      Taken payer db db' ⟨0, 0,
        max 0 (db.amountUsed payer.subscriptionId + amount) - db.amountUsed payer.subscriptionId⟩ ∧
      (db'.subscriptions.find? payer.subscriptionId).isSome = true ∧
      (0 ≤ db.amountUsed payer.subscriptionId + amount →
        ∀ more, Fits db' payer.subscriptionId more ↔
          Fits db payer.subscriptionId (amount + more)) := by
  obtain ⟨row, hfind⟩ := Option.isSome_iff_exists.mp hrow
  have hused : db.amountUsed payer.subscriptionId = row.amountUsed := by
    simp [QuotaDB.amountUsed, hfind]
  have hkey : row.id = payer.subscriptionId := Table.find?_key hfind
  have hroom : ¬ (0 < row.amountTotal ∧ row.amountTotal < max 0 (row.amountUsed + amount)) := by
    rintro ⟨hpos, hover⟩
    have := hfits row hfind hpos
    omega
  obtain ⟨row', hid', hused', htotal', hok⟩ : ∃ row' : UserSubscription, row'.id = row.id ∧
      row'.amountUsed = max 0 (row.amountUsed + amount) ∧ row'.amountTotal = row.amountTotal ∧
      db.postConsumeUserSubscriptionDelta payer.subscriptionId amount =
        .ok { db with subscriptions := db.subscriptions.set row' } := by
    rw [QuotaDB.postConsumeUserSubscriptionDelta, if_neg hid, if_neg hne, hfind]
    exact ⟨{ row with
      amountUsed := max 0 (row.amountUsed + amount), amountUsed_nonneg := le_max_left _ _ },
      rfl, rfl, rfl, if_neg hroom⟩
  have hkey' : row'.id = payer.subscriptionId := hid'.trans hkey
  have hafter := Table.find?_set_self hfind hkey'
  refine ⟨_, hok, ⟨⟨h.user, h.token⟩, (sub_zero _).symm, (sub_zero _).symm, ?_, ?_⟩, ?_, ?_⟩
  · rw [hused]
    simp only [QuotaDB.amountUsed, hafter, Option.map_some, Option.getD_some, hused']
    omega
  · intro id hne'
    simp only [QuotaDB.amountUsed]
    rw [Table.find?_set_of_ne _ (hkey'.trans_ne hne'.symm)]
  · exact Option.isSome_of_mem hafter
  · intro hnn more
    rw [hused] at hnn
    simp only [Fits, hafter, hfind, Option.mem_some_iff, forall_eq', hused', htotal',
      max_eq_right hnn, add_assoc]

/-- Without room nothing is written. -/
theorem postConsume_of_not_fits {db : QuotaDB} {id : Nat} {amount : Int} (hne : amount ≠ 0)
    (h : ¬ Fits db id amount) : ∃ e, db.postConsumeUserSubscriptionDelta id amount = .error e := by
  unfold Fits at h
  push Not at h
  obtain ⟨row, hrow, hpos, hover⟩ := h
  have hfind : db.subscriptions.find? id = some row := hrow
  rw [QuotaDB.postConsumeUserSubscriptionDelta]
  by_cases hid : id = 0
  · exact ⟨_, if_pos hid⟩
  · rw [if_neg hid, if_neg hne, hfind]
    exact ⟨_, if_pos ⟨hpos, by omega⟩⟩

end TokenRouter

/-! ## Who pays for an opened request

`PreConsumeBilling` notes on the request which source pays, and leaves the request's user and
token as they were. A session that it opens draws on them.
-/

namespace TokenRouter

/-- The columns of a request that name its user, token and tenant. -/
structure SameRequest (info info' : RelayInfo) : Prop where
  userId : info'.userId = info.userId
  tokenId : info'.tokenId = info.tokenId
  tenantId : info'.tenantId = info.tenantId
  isPlayground : info'.isPlayground = info.isPlayground

theorem SameRequest.refl (info : RelayInfo) : SameRequest info info := ⟨rfl, rfl, rfl, rfl⟩

theorem SameRequest.trans {info info' info'' : RelayInfo} (h : SameRequest info info')
    (h' : SameRequest info' info'') : SameRequest info info'' :=
  ⟨h'.userId.trans h.userId, h'.tokenId.trans h.tokenId, h'.tenantId.trans h.tenantId,
    h'.isPlayground.trans h.isPlayground⟩

theorem syncRelayInfo_sameRequest (info : RelayInfo) (s : BillingSession) :
    SameRequest info (syncRelayInfo info s) := by
  unfold syncRelayInfo
  cases s.funding <;> exact ⟨rfl, rfl, rfl, rfl⟩

theorem syncRelayInfo_source (info : RelayInfo) (s : BillingSession) :
    (syncRelayInfo info s).billingSource = s.funding.source := by
  unfold syncRelayInfo
  dsimp only
  split <;> rfl

/-- The same users have a wallet. -/
def SameUsers (db db' : QuotaDB) : Prop :=
  ∀ userId, (db'.users.find? userId).isSome = (db.users.find? userId).isSome

theorem SameUsers.of_eq {db db' : QuotaDB} (h : db'.users = db.users) : SameUsers db db' := by
  intro userId
  rw [h]

theorem SameUsers.trans {db db' db'' : QuotaDB} (h : SameUsers db db') (h' : SameUsers db' db'') :
    SameUsers db db'' := fun userId => (h' userId).trans (h userId)

/-- A wallet stays the wallet of its user. -/
def SameWallet (F F' : FundingSource) : Prop :=
  ∀ w', F' = .wallet w' → ∃ w, F = .wallet w ∧ w'.userId = w.userId

/-- A funding source that pre-consumes. -/
theorem fundingPreConsume_payer {env : BillingEnv} {db db' : QuotaDB} {amount : Int}
    {F F' : FundingSource}
    (hrec : ∀ s, F = .subscription s → db.records.find? s.requestId = none)
    (hok : F.preConsume env db amount = .ok (F', db')) : SameWallet F F' ∧ SameUsers db db' := by
  unfold FundingSource.preConsume at hok
  cases F with
  | wallet w =>
    dsimp only at hok
    split at hok
    · obtain ⟨rfl, rfl⟩ := Prod.mk.inj (Except.ok.inj hok)
      exact ⟨fun w' h => ⟨w', h, rfl⟩, fun _ => rfl⟩
    · next hpos =>
      rw [QuotaDB.decreaseUserQuota_of_nonneg _ _ (by omega)] at hok
      obtain ⟨rfl, rfl⟩ := Prod.mk.inj (Except.ok.inj hok)
      refine ⟨?_, fun _ => QuotaDB.isSome_addUserQuota _ _ _ _⟩
      intro w' h
      cases h
      exact ⟨w, rfl, rfl⟩
  | subscription s =>
    dsimp only at hok
    split at hok
    · exact nomatch hok
    · next res db'' hpre =>
      obtain ⟨rfl, rfl⟩ := Prod.mk.inj (Except.ok.inj hok)
      have hpreconsumed := (preConsumeUserSubscription_ok (hrec s rfl) hpre).2
      exact ⟨nofun, SameUsers.of_eq hpreconsumed.users⟩

/-- What an attempt that opens a session notes on the request. -/
structure PayerNoted (info : RelayInfo) (db : QuotaDB) (F : FundingSource) (r : OpenResult)
    (s : BillingSession) : Prop where
  request : SameRequest info r.info
  source : r.info.billingSource = s.funding.source
  wallet : SameWallet F s.funding
  users : SameUsers db r.db

theorem preConsumeFunding_noted {env : BillingEnv} {db : QuotaDB} {info : RelayInfo}
    {s s' : BillingSession} {amount : Int}
    (hrec : ∀ sub, s.funding = .subscription sub → db.records.find? sub.requestId = none)
    (hok : (preConsumeFunding env db info s amount).result = .ok s') :
    PayerNoted info db s.funding (preConsumeFunding env db info s amount) s' := by
  unfold preConsumeFunding at hok ⊢
  split
  · next e he =>
    rw [he] at hok
    exact nomatch hok
  · next F' db' hF =>
    rw [hF] at hok
    obtain ⟨hwallet, husers⟩ := fundingPreConsume_payer hrec hF
    obtain rfl := Except.ok.inj hok
    exact ⟨syncRelayInfo_sameRequest _ _, syncRelayInfo_source _ _, hwallet, husers⟩

/-- One attempt that opens. -/
theorem preConsume_noted {env : BillingEnv} {db : QuotaDB} {info : RelayInfo} {tokenQuota : Int}
    {F : FundingSource} {quota : Int} {s : BillingSession}
    (hrec : ∀ sub, F = .subscription sub → db.records.find? sub.requestId = none)
    (hok : (preConsume env db info tokenQuota F quota).result = .ok s) :
    PayerNoted info db F (preConsume env db info tokenQuota F quota) s := by
  unfold preConsume at hok ⊢
  dsimp only at hok ⊢
  generalize BillingSession.shouldTrust env info tokenQuota { funding := F } = trusted at *
  generalize (if trusted = true then 0 else quota) = effective at *
  by_cases hpos : 0 < effective
  · simp only [if_pos hpos] at hok ⊢
    split at hok
    · exact nomatch hok
    next db' hpre =>
    -- the token step writes neither wallets nor records
    have hframe : db'.users = db.users ∧ db'.records = db.records := by
      rcases preConsumeTokenQuota_ok hpre with ⟨-, rfl⟩ | ⟨-, -, rfl⟩
      · exact ⟨rfl, rfl⟩
      · exact ⟨rfl, rfl⟩
    have hnoted := preConsumeFunding_noted
      (fun sub h => hframe.2 ▸ hrec sub h) hok
    exact ⟨hnoted.request, hnoted.source, hnoted.wallet,
      (SameUsers.of_eq hframe.1).trans hnoted.users⟩
  · simp only [if_neg hpos] at hok ⊢
    exact preConsumeFunding_noted hrec hok

theorem tryWallet_noted {env : BillingEnv} {db : QuotaDB} {info : RelayInfo} {tokenQuota : Int}
    {quota : Int} {s : BillingSession} (hok : (tryWallet env db info tokenQuota quota).result = .ok s) :
    PayerNoted info db (.wallet { userId := info.userId })
      (tryWallet env db info tokenQuota quota) s := by
  unfold tryWallet at hok ⊢
  dsimp only at hok ⊢
  split at hok
  · exact nomatch hok
  split at hok
  · exact nomatch hok
  next hquota henough =>
  rw [if_neg hquota, if_neg henough]
  obtain ⟨hrequest, hsource, hwallet, husers⟩ := preConsume_noted (by intro sub h; cases h) hok
  exact ⟨⟨hrequest.userId, hrequest.tokenId, hrequest.tenantId, hrequest.isPlayground⟩, hsource,
    hwallet, husers⟩

theorem trySubscription_noted {env : BillingEnv} {db : QuotaDB} {info : RelayInfo}
    {tokenQuota quota : Int} {s : BillingSession}
    (hrec : db.records.find? info.requestId = none)
    (hok : (trySubscription env db info tokenQuota quota).result = .ok s) (userId : Int) :
    PayerNoted info db (.wallet { userId := userId })
      (trySubscription env db info tokenQuota quota) s := by
  have hnoted := preConsume_noted (by intro sub h; cases h; exact hrec) hok
  refine ⟨hnoted.request, hnoted.source, ?_, hnoted.users⟩
  intro w' hw'
  obtain ⟨w, hw, -⟩ := hnoted.wallet w' hw'
  exact nomatch hw

/-- An attempt after one that failed. -/
theorem PayerNoted.of_untouched {info : RelayInfo} {userQuota : Int} {db db₁ : QuotaDB}
    {F : FundingSource} {r : OpenResult} {s : BillingSession} (huntouched : Untouched db db₁ info)
    (h : PayerNoted { info with userQuota := userQuota } db₁ F r s) : PayerNoted info db F r s := by
  obtain ⟨hrequest, hsource, hwallet, husers⟩ := h
  exact ⟨⟨hrequest.userId, hrequest.tokenId, hrequest.tenantId, hrequest.isPlayground⟩, hsource,
    hwallet, (SameUsers.of_eq huntouched.users).trans husers⟩

/-- What `NewBillingSession` notes on the request when it opens a session. -/
theorem newBillingSession_noted {env : BillingEnv} {db : QuotaDB} {info : RelayInfo}
    {tokenQuota : Int} {quota : Nat} {s : BillingSession}
    (htoken : info.isPlayground = true ∨ (db.tokens.find? info.tokenId).isSome = true)
    (hrec : db.records.find? info.requestId = none)
    (hok : (newBillingSession env db info tokenQuota quota).result = .ok s) :
    PayerNoted info db (.wallet { userId := info.userId })
      (newBillingSession env db info tokenQuota quota) s := by
  have hdb : Untouched db db info := ⟨rfl, rfl, rfl, htoken, sub_self _⟩
  have hwallet := tryWallet_attempted env tokenQuota quota hdb
  have hsub := trySubscription_attempted env tokenQuota quota hdb hrec
  unfold newBillingSession at hok ⊢
  cases hpreference : info.billingPreference with
  | subscriptionOnly =>
    rw [hpreference] at hok
    exact trySubscription_noted hrec hok _
  | walletOnly =>
    rw [hpreference] at hok
    exact tryWallet_noted hok
  | walletFirst =>
    rw [hpreference] at hok
    dsimp only at hok ⊢
    cases hwallet with
    | opened s' hok' h =>
      simp only [hok'] at hok ⊢
      exact tryWallet_noted (hok'.trans hok)
    | failed e herr hinfo h =>
      simp only [herr] at hok ⊢
      obtain ⟨userQuota, hinfo⟩ := hinfo
      split
      · next hcode =>
        rw [if_pos hcode] at hok
        rw [hinfo] at hok ⊢
        apply PayerNoted.of_untouched h
        exact trySubscription_noted (h.records ▸ hrec) hok _
      · next hcode =>
        rw [if_neg hcode, herr] at hok
        exact nomatch hok
  | subscriptionFirst =>
    rw [hpreference] at hok
    dsimp only at hok ⊢
    split at hok
    · exact nomatch hok
    · exact tryWallet_noted hok
    · cases hsub with
      | opened s' hok' h =>
        simp only [hok'] at hok ⊢
        exact trySubscription_noted hrec (hok'.trans hok) _
      | failed e herr hinfo h =>
        simp only [herr] at hok ⊢
        obtain ⟨userQuota, hinfo⟩ := hinfo
        split
        · next hcode =>
          rw [if_pos hcode] at hok
          split at hok
          · exact nomatch hok
          · rw [hinfo] at hok ⊢
            exact PayerNoted.of_untouched h (tryWallet_noted hok)
          · rw [herr] at hok
            exact nomatch hok
        · next hcode =>
          rw [if_neg hcode, herr] at hok
          exact nomatch hok

/-! ### Sessions that draw on their payer -/

/-- The rows that a session draws on. -/
def FundingSource.payer (info : RelayInfo) : FundingSource → Payer
  | .wallet _ => ⟨info.userId, info.tokenId, 0⟩
  | .subscription sub => ⟨info.userId, info.tokenId, sub.subscriptionId⟩

/-- The source of an open session has what it pre-consumed. -/
def SourceFunded (info : RelayInfo) (db : QuotaDB) (s : BillingSession) : Prop :=
  match s.funding with
  | .wallet w => w.userId = info.userId
  | .subscription sub => info.subscriptionId = sub.subscriptionId ∧ sub.subscriptionId ≠ 0 ∧
      0 < s.preConsumedQuota ∧ s.preConsumedQuota ≤ db.amountUsed sub.subscriptionId ∧
      (db.subscriptions.find? sub.subscriptionId).isSome = true ∧ Fits db sub.subscriptionId 0

/-- An open session that draws on the user and the token of its request. -/
structure Funded (info : RelayInfo) (db : QuotaDB) (s : BillingSession) : Prop where
  settled : s.settled = false
  fundingSettled : s.fundingSettled = false
  isPlayground : info.isPlayground = false
  pre_nonneg : 0 ≤ s.preConsumedQuota
  live : (s.funding.payer info).Live db
  source : SourceFunded info db s

/-- What `NewBillingSession` opens for an authenticated request draws on it. -/
theorem newBillingSession_funded {env : BillingEnv} {db : QuotaDB} {info : RelayInfo}
    {tokenQuota : Int} {quota : Nat} {s : BillingSession}
    (huser : (db.users.find? info.userId).isSome = true)
    (htoken : (db.tokens.find? info.tokenId).isSome = true) (hplay : info.isPlayground = false)
    (hrec : db.records.find? info.requestId = none)
    (hok : (newBillingSession env db info tokenQuota quota).result = .ok s) :
    Funded (newBillingSession env db info tokenQuota quota).info
      (newBillingSession env db info tokenQuota quota).db s := by
  have hnoted := newBillingSession_noted (.inr htoken) hrec hok
  have hattempt := newBillingSession_attempted env tokenQuota quota (.inr htoken) hrec
  generalize newBillingSession env db info tokenQuota quota = r at hok hnoted hattempt
  cases hattempt with
  | failed e herr =>
    rw [hok] at herr
    exact nomatch herr
  | opened s' hok' h =>
    obtain rfl := Except.ok.inj (hok.symm.trans hok')
    obtain ⟨hrequest, -, hwallet, husers⟩ := hnoted
    have hplay' := hrequest.isPlayground.trans hplay
    have huser' : (r.db.users.find? r.info.userId).isSome = true := by
      rw [hrequest.userId, husers]
      exact huser
    have htoken' : (r.db.tokens.find? r.info.tokenId).isSome = true := by
      simpa [hplay'] using h.debited.token_live
    have hfs : s.fundingSettled = false := by
      by_contra hne
      have hset := h.counts.committed (by simpa using hne)
      rw [h.settled] at hset
      exact nomatch hset
    refine ⟨h.settled, hfs, hplay', h.counts.pre_nonneg, ?_, ?_⟩
    · cases hF : s.funding with
      | wallet w => exact ⟨huser', htoken'⟩
      | subscription sub => exact ⟨huser', htoken'⟩
    · have hcounts := h.counts.funding
      have hlive := h.debited.live
      have hdebit := h.debited.funding_eq
      have hextra := h.counts.extra_nonneg
      unfold FundingCounts at hcounts
      unfold SourceFunded
      cases hF : s.funding with
      | wallet w =>
        obtain ⟨w₀, hw₀, hid⟩ := hwallet w hF
        cases hw₀
        exact hid.trans hrequest.userId.symm
      | subscription sub =>
        rw [hF] at hcounts hlive hdebit
        obtain ⟨hpre, hsum, hnoted⟩ := hcounts
        obtain ⟨hid, hbase, row, hfind, htotal⟩ := hlive
        simp only [fundingDebit] at hdebit
        refine ⟨hnoted, by omega, by omega, by omega, Option.isSome_of_mem hfind, ?_⟩
        intro row' hrow' hpos
        obtain rfl : row = row' := Option.some.inj (hfind.symm.trans hrow')
        rw [add_zero]
        exact htotal hpos

/-! ### A tenant's request -/

/-- The rows that a request draws on exist. -/
def ChargeState.payer (c : ChargeState) : Payer := ⟨c.info.userId, c.info.tokenId, 0⟩

/-- The request of a task: it is authenticated by a token, and no billing has touched it. -/
structure TaskRequest (c : ChargeState) : Prop extends NewRequest c where
  notPlayground : c.info.isPlayground = false
  tokenId_pos : 0 < c.info.tokenId

theorem TaskRequest.live {c : ChargeState} (h : TaskRequest c) : c.payer.Live c.quota := by
  have htoken := h.token
  rw [h.notPlayground] at htoken
  exact ⟨h.user, htoken.resolve_left Bool.false_ne_true⟩

/-- What a tenant's session notes on the request. -/
structure TenantNoted (info : RelayInfo) (c : ChargeState) (s : TenantCreditBillingSession) :
    Prop where
  request : SameRequest info c.info
  source : c.info.billingSource ≠ .subscription
  mode : s.mode ≠ .prepaid
  live : c.payer.Live c.quota
  prepaid : ∀ p, s.prepaid = some p → Funded c.info c.quota p

/-- A session that only uses the tenant's credit. -/
theorem openPostpaid_noted {env : BillingEnv} {db : DB} {quota : QuotaDB} {info : RelayInfo}
    {mode : BillingMode} {preConsumedQuota : Int} {s : TenantCreditBillingSession}
    {r : TenantOpenResult} (hr : openPostpaid env db quota info mode preConsumedQuota = r)
    (hok : r.result = .ok (some s)) (hmode : mode ≠ .prepaid)
    (hlive : (Payer.mk info.userId info.tokenId 0).Live quota) :
    TenantNoted info { db := r.db, quota := r.quota, info := r.info } s := by
  have hprepaid := (openPostpaid_frame (hr ▸ hok)).2.2
  unfold openPostpaid newTenantPostpaidBillingSession TenantSessionState.reserve at hr
  dsimp only at hr
  obtain ⟨db', reserved, hframe⟩ := reservePostpaid_frame
    { db, quota, session := { mode := mode }, info := { info with
        billingSource := if mode = .mixed then .tenantMixed else .tenantPostpaid
        finalPreConsumedQuota := 0 } }
    (TenantCreditBillingSession.targetPostpaidQuota { mode := mode } preConsumedQuota)
  split at hr
  · subst hr
    exact nomatch hok
  next st hres =>
  rw [hres] at hframe
  dsimp only at hframe
  subst hframe hr
  obtain rfl := Option.some.inj (Except.ok.inj hok)
  refine ⟨⟨rfl, rfl, rfl, rfl⟩, ?_, hmode, hlive, ?_⟩
  · dsimp only
    split
    · exact nofun
    · exact nofun
  · intro p hp
    rw [hprepaid] at hp
    exact nomatch hp

/-- What `PrepareTenantBillingSession` notes on the request of a task. -/
theorem prepareTenantBillingSession_noted {env : BillingEnv} {st : ChargeState}
    (hnew : TaskRequest st) {tokenQuota : Int} {preConsumedQuota : Nat}
    {s : TenantCreditBillingSession} {r : TenantOpenResult}
    (hr : prepareTenantBillingSession env st.db st.quota st.info tokenQuota preConsumedQuota = r)
    (hok : r.result = .ok (some s)) :
    TenantNoted st.info { db := r.db, quota := r.quota, info := r.info } s := by
  have hlive := hnew.live
  unfold prepareTenantBillingSession at hr
  split at hr
  · subst hr
    cases hok
  dsimp only at hr
  cases hmode : tenantBillingMode st.db st.info.tenantId with
  | prepaid =>
    rw [hmode] at hr
    subst hr
    cases hok
  | postpaid =>
    rw [hmode] at hr
    obtain ⟨hrequest, hsource, hmode', hlive', hprepaid⟩ := openPostpaid_noted hr hok (fun h => by cases h) hlive
    exact ⟨⟨hrequest.userId, hrequest.tokenId, hrequest.tenantId, hrequest.isPlayground⟩, hsource,
      hmode', hlive', hprepaid⟩
  | mixed =>
    rw [hmode] at hr
    dsimp only at hr
    generalize hinfo : ({ st.info with tenantBillingMode := some .mixed } : RelayInfo) = info at hr
    have hrequest : SameRequest st.info info := by
      subst hinfo
      exact ⟨rfl, rfl, rfl, rfl⟩
    have huser : (st.quota.users.find? info.userId).isSome = true := hrequest.userId ▸ hlive.user
    have htoken : (st.quota.tokens.find? info.tokenId).isSome = true :=
      hrequest.tokenId ▸ hlive.token
    have hrec : st.quota.records.find? info.requestId = none := by
      subst hinfo
      exact hnew.record
    have hattempt := newBillingSession_attempted env tokenQuota preConsumedQuota (.inr htoken) hrec
    cases hres : (newBillingSession env st.quota info tokenQuota preConsumedQuota).result with
    | ok p =>
      have hnoted := newBillingSession_noted (.inr htoken) hrec hres
      have hfunded := newBillingSession_funded huser htoken
        (hrequest.isPlayground.trans hnew.notPlayground) hrec hres
      simp only [hres, newTenantMixedBillingSession] at hr
      subst hr
      obtain rfl := Option.some.inj (Except.ok.inj hok)
      have hrequest' := hrequest.trans hnoted.request
      have hlive' := hfunded.live
      refine ⟨⟨hrequest'.userId, hrequest'.tokenId, hrequest'.tenantId, hrequest'.isPlayground⟩,
        (fun h => by cases h), (fun h => by cases h), ?_, ?_⟩
      · cases hF : p.funding with
        | wallet w =>
          rw [hF] at hlive'
          exact ⟨hlive'.user, hlive'.token⟩
        | subscription sub =>
          rw [hF] at hlive'
          exact ⟨hlive'.user, hlive'.token⟩
      · intro p' hp'
        obtain rfl := Option.some.inj hp'
        exact ⟨hfunded.settled, hfunded.fundingSettled, hfunded.isPlayground, hfunded.pre_nonneg,
          hfunded.live, hfunded.source⟩
    | error e =>
      cases hattempt with
      | opened s' hok' => cases hres.symm.trans hok'
      | failed e' herr hfailed huntouched =>
        simp only [hres] at hr
        split at hr
        · -- the request goes on credit after an attempt that took nothing
          obtain ⟨userQuota, hfailed⟩ := hfailed
          rw [hfailed] at hr
          have hlive' : (Payer.mk info.userId info.tokenId 0).Live
              (newBillingSession env st.quota info tokenQuota preConsumedQuota).db := by
            refine ⟨?_, ?_⟩
            · rw [huntouched.users]
              exact huser
            · simpa [hrequest.isPlayground.trans hnew.notPlayground] using huntouched.token_live
          obtain ⟨hrequest', hsource, hmode', hlive', hprepaid⟩ :=
            openPostpaid_noted hr hok (fun h => by cases h) hlive'
          exact ⟨hrequest.trans ⟨hrequest'.userId, hrequest'.tokenId, hrequest'.tenantId,
            hrequest'.isPlayground⟩, hsource, hmode', hlive', hprepaid⟩
        · subst hr
          cases hok

end TokenRouter
