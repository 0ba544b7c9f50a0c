import TokenRouter.Spec.FundingDebit

/-!
# One call on a billing session

The counters of a session (`preConsumedQuota`, `tokenConsumed`, `extraReserved`, the
funding source's own count and the request's copies) agree with each other, and an
open session is debited by what they say. `Reserve` and `Settle` keep that.

## Key results

- `reserve_open`: `Reserve` raises the cost of an open session, or changes nothing
- `settle_open`: `Settle` makes the cost the actual quota, or changes nothing
- `refundTask_debited`: the goroutine of `Refund` makes the cost zero
-/

namespace TokenRouter

/-! ## The counters of a session -/

/-- The funding source's own counter agrees with the session's. -/
def FundingCounts (info : RelayInfo) (s : BillingSession) : Prop :=
  match s.funding with
  | .wallet w => w.consumed = s.preConsumedQuota
  | .subscription sub => 0 < sub.preConsumed ∧
      sub.preConsumed + s.extraReserved = s.preConsumedQuota ∧
      info.subscriptionId = sub.subscriptionId

/-- The counters of a session are consistent. -/
structure SessionCounts (info : RelayInfo) (s : BillingSession) : Prop where
  pre_nonneg : 0 ≤ s.preConsumedQuota
  extra_nonneg : 0 ≤ s.extraReserved
  token_eq : s.tokenConsumed = s.preConsumedQuota
  funding : FundingCounts info s
  final_eq : info.finalPreConsumedQuota = s.preConsumedQuota
  committed : s.fundingSettled = true → s.settled = true

/-- Flags play no role in the counters. -/
theorem SessionCounts.flags {info : RelayInfo} {s : BillingSession} (h : SessionCounts info s)
    {fundingSettled settled refunded : Bool} (hc : fundingSettled = true → settled = true) :
    SessionCounts info { s with
      fundingSettled := fundingSettled, settled := settled, refunded := refunded } :=
  ⟨h.pre_nonneg, h.extra_nonneg, h.token_eq, h.funding, h.final_eq, hc⟩

/-- The goroutine of `Refund` takes an open session's debits back. -/
theorem refundTask_debited {db₀ : QuotaDB} {st : SessionState}
    (hcounts : SessionCounts st.info st.session) (hrec : RecordIs st.db false st.session.funding)
    (hdeb : Debited db₀ st.info st.session.funding st.db
      st.session.preConsumedQuota st.session.preConsumedQuota) :
    Debited db₀ st.info st.session.funding (st.refundTask.run st.db) 0 0 := by
  have hfunding := hcounts.funding
  unfold FundingCounts at hfunding
  have hdeb' : Debited db₀ st.info st.refundTask.funding st.db
      st.session.preConsumedQuota st.session.preConsumedQuota := hdeb
  refine hdeb'.refundTask hrec hcounts.token_eq rfl rfl hcounts.pre_nonneg
    hcounts.extra_nonneg ?_
  simp only [SessionState.refundTask]
  cases hF : st.session.funding with
  | wallet w => rw [hF] at hfunding; exact hfunding
  | subscription s =>
    rw [hF] at hfunding
    exact ⟨hfunding.1.le, hfunding.2.1, hfunding.2.2⟩

/-! ## One call -/

/-- `Reserve` on an open session raises its cost to the target, or changes nothing. -/
theorem reserve_open (env : BillingEnv) {db₀ : QuotaDB} {st : SessionState}
    (hcounts : SessionCounts st.info st.session) (hrec : RecordIs st.db false st.session.funding)
    (hdeb : Debited db₀ st.info st.session.funding st.db
      st.session.preConsumedQuota st.session.preConsumedQuota) (targetQuota : Int) :
    let st' := (st.reserve env targetQuota).2
    SessionCounts st'.info st'.session ∧ RecordIs st'.db false st'.session.funding ∧
      Debited db₀ st'.info st'.session.funding st'.db
        st'.session.preConsumedQuota st'.session.preConsumedQuota ∧
      st'.session.refunded = st.session.refunded ∧ st'.session.settled = st.session.settled := by
  obtain ⟨db, info, s⟩ := st
  have hpre := hcounts.pre_nonneg
  have hextra := hcounts.extra_nonneg
  have htoken := hcounts.token_eq
  have hfunding := hcounts.funding
  dsimp only at hpre hextra htoken hfunding hdeb hrec hcounts
  simp only [SessionState.reserve]
  split
  · exact ⟨hcounts, hrec, hdeb, rfl, rfl⟩
  next hguard =>
  have hdelta : 0 < targetQuota - s.preConsumedQuota := by
    simp only [Bool.or_eq_true, decide_eq_true_eq, not_or, not_le] at hguard
    omega
  split
  · exact ⟨hcounts, hrec, hdeb, rfl, rfl⟩
  next F db₁ hres =>
  obtain ⟨hdeb₁, hrec₁, hshape⟩ := hdeb.fundingReserve hres (by omega)
  split
  · -- the token refuses: the funding reservation is taken back
    obtain ⟨hdeb₂, hrec₂, hshape₂⟩ := hdeb₁.rollbackReserve hdelta.le (by omega)
    rw [add_sub_cancel_right] at hdeb₂
    have hF : (F.rollbackReserve db₁ (targetQuota - s.preConsumedQuota)).1 = s.funding := by
      rcases hshape with ⟨w, hw, rfl⟩ | ⟨sub, hsub, rfl⟩
      · rcases hshape₂ with ⟨w', hw', hback⟩ | ⟨sub', hsub', -⟩
        · obtain rfl := FundingSource.wallet.inj hw'
          rw [hback, hw, add_sub_cancel_right]
        · exact nomatch hsub'
      · rcases hshape₂ with ⟨w', hw', -⟩ | ⟨sub', hsub', hback⟩
        · exact nomatch hw'
        · obtain rfl := FundingSource.subscription.inj hsub'
          rw [hback, hsub]
    rw [hF] at hdeb₂
    refine ⟨?_, ?_, ?_, rfl, rfl⟩
    · simp only [hF]
      exact hcounts
    · simp only [hF]
      exact hrec.congr (hrec₂.trans hrec₁)
    · simp only [hF]
      exact hdeb₂
  · -- both sides are debited
    next db₂ htok =>
    obtain ⟨hdeb₂, hrec₂⟩ := hdeb₁.reserveToken hdelta htok
    have hinfo : ∀ s' : BillingSession, (syncRelayInfo info s').isPlayground = info.isPlayground ∧
        (syncRelayInfo info s').tokenId = info.tokenId := by
      intro s'
      unfold syncRelayInfo
      cases s'.funding <;> exact ⟨rfl, rfl⟩
    refine ⟨⟨by dsimp only; omega, by dsimp only; omega, by dsimp only; omega, ?_, ?_, ?_⟩,
      ?_, ?_, rfl, rfl⟩
    · unfold FundingCounts at hfunding ⊢
      rcases hshape with ⟨w, hw, rfl⟩ | ⟨sub, hsub, rfl⟩
      · rw [hw] at hfunding
        simp only [hfunding]
      · rw [hsub] at hfunding
        refine ⟨hfunding.1, ?_, rfl⟩
        dsimp only
        omega
    · unfold syncRelayInfo
      cases F <;> rfl
    · exact hcounts.committed
    · have hF : RecordIs db₂ false s.funding := hrec.congr (hrec₂.trans hrec₁)
      rcases hshape with ⟨w, hw, rfl⟩ | ⟨sub, hsub, rfl⟩
      · trivial
      · rw [hsub] at hF
        exact hF
    · obtain ⟨hlive, hf, htl, ht⟩ := hdeb₂
      refine ⟨hlive, hf, ?_, ?_⟩
      · rw [(hinfo _).1, (hinfo _).2]
        exact htl
      · rw [(hinfo _).1, (hinfo _).2]
        exact ht

/-- `Settle` on a session that is not settled commits the actual quota, or reports an
    error and changes nothing. -/
theorem settle_open {db₀ : QuotaDB} {st : SessionState}
    (hcounts : SessionCounts st.info st.session) (hrec : RecordIs st.db false st.session.funding)
    (hsettled : st.session.settled = false)
    (hdeb : Debited db₀ st.info st.session.funding st.db
      st.session.preConsumedQuota st.session.preConsumedQuota)
    {actualQuota : Int} (hactual : st.session.funding.source = .subscription → 0 ≤ actualQuota) :
    ((st.settle actualQuota).1 ≠ none ∧ (st.settle actualQuota).2 = st) ∨
    ((st.settle actualQuota).1 = none ∧ ∃ db' info' fs,
      (st.settle actualQuota).2 = ⟨db', info', { st.session with
        fundingSettled := fs, settled := true }⟩ ∧
      info'.isPlayground = st.info.isPlayground ∧ info'.tokenId = st.info.tokenId ∧
      info'.subscriptionId = st.info.subscriptionId ∧
      info'.finalPreConsumedQuota = st.info.finalPreConsumedQuota ∧
      RecordIs db' false st.session.funding ∧
      Debited db₀ st.info st.session.funding db' actualQuota actualQuota) := by
  obtain ⟨db, info, s⟩ := st
  dsimp only at hcounts hrec hsettled hdeb
  have hfs : s.fundingSettled = false := by
    by_contra hne
    have := hcounts.committed (by simpa using hne)
    rw [hsettled] at this
    exact nomatch this
  simp only [SessionState.settle, hsettled, Bool.false_eq_true, if_false, hfs]
  split
  · next hzero =>
    have heq : actualQuota = s.preConsumedQuota := by omega
    refine .inr ⟨rfl, db, info, false, ?_, rfl, rfl, rfl, rfl, hrec, ?_⟩
    · rw [← hfs]
    · rw [heq]
      exact hdeb
  · split
    · exact .inl ⟨nofun, rfl⟩
    next db₁ hset =>
    obtain ⟨hdeb₁, hrec₁⟩ := hdeb.fundingSettle hset (fun hsub => by have := hactual hsub; omega)
    obtain ⟨db₂, hok, hdeb₂, hrec₂⟩ := hdeb₁.settleToken (actualQuota - s.preConsumedQuota)
    rw [add_sub_cancel] at hdeb₂
    simp only [hok]
    refine .inr ⟨trivial, db₂, _, true, rfl, ?_, ?_, ?_, ?_, ?_, hdeb₂⟩
    · split <;> rfl
    · split <;> rfl
    · split <;> rfl
    · split <;> rfl
    · exact hrec.congr (hrec₂.trans hrec₁)

/-- Debits depend on the request only through the token and the playground flag. -/
theorem Debited.info {db₀ db : QuotaDB} {info info' : RelayInfo} {F : FundingSource} {f t : Int}
    (h : Debited db₀ info F db f t) (hplay : info'.isPlayground = info.isPlayground)
    (htoken : info'.tokenId = info.tokenId) : Debited db₀ info' F db f t := by
  refine ⟨h.live, h.funding_eq, ?_, ?_⟩
  · rw [hplay, htoken]
    exact h.token_live
  · rw [hplay, htoken]
    exact h.token_eq

/-- The counters depend on the request only through its copies of them. -/
theorem SessionCounts.info {info info' : RelayInfo} {s : BillingSession}
    (h : SessionCounts info s) (hsub : info'.subscriptionId = info.subscriptionId)
    (hfinal : info'.finalPreConsumedQuota = info.finalPreConsumedQuota) :
    SessionCounts info' s := by
  have hfunding := h.funding
  refine ⟨h.pre_nonneg, h.extra_nonneg, h.token_eq, ?_, hfinal.trans h.final_eq, h.committed⟩
  unfold FundingCounts at hfunding ⊢
  cases hF : s.funding with
  | wallet w => simpa only [hF] using hfunding
  | subscription sub =>
    rw [hF] at hfunding
    simp only [hsub]
    exact hfunding

end TokenRouter
