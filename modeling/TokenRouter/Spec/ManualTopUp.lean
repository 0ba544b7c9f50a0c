import TokenRouter.Model.PaymentOrder
import TokenRouter.ForStd.Run

/-!
# Completing a top-up by hand

`ManualCompleteTopUp` completes the order of any provider. What it credits is compared with
what the provider's own callback credits for the same order.

## Key results

- `walletQuota_call`: what one undisturbed call adds to the quota of the order's user
- `manual_credits_same_iff`: the orders for which both calls add the same
-/

namespace TokenRouter

/-! ## The integer part -/

theorem intPart_of_nonneg {x : ℚ} (h : 0 ≤ x) : intPart x = ⌊x⌋ := by
  rw [intPart, Int.tdiv_eq_ediv_of_nonneg (Rat.num_nonneg.mpr h)]
  exact (Rat.floor_def x).symm

theorem intPart_neg (x : ℚ) : intPart (-x) = -intPart x := by
  simp [intPart, Int.neg_tdiv]

/-- The integer part is an integer if it is what lies between. -/
theorem intPart_eq_iff {x : ℚ} {n : Int} (hn : 0 < n) : intPart x = n ↔ (n : ℚ) ≤ x ∧ x < n + 1 := by
  by_cases hx : 0 ≤ x
  · rw [intPart_of_nonneg hx, Int.floor_eq_iff]
  · have hx' : 0 ≤ -x := by linarith
    have hneg : intPart x ≤ 0 := by
      have h := intPart_neg (-x)
      rw [neg_neg] at h
      rw [h, intPart_of_nonneg hx']
      have := Int.floor_nonneg.mpr hx'
      omega
    constructor
    · intro h
      omega
    · rintro ⟨h, -⟩
      have : (0 : ℚ) < n := by exact_mod_cast hn
      linarith

theorem intPart_nonneg_iff (x : ℚ) : 0 ≤ intPart x ↔ -1 < x := by
  by_cases hx : 0 ≤ x
  · rw [intPart_of_nonneg hx]
    constructor
    · intro _
      linarith
    · intro _
      exact Int.floor_nonneg.mpr hx
  · have hx' : 0 ≤ -x := by linarith
    have h := intPart_neg (-x)
    rw [neg_neg] at h
    rw [h, intPart_of_nonneg hx']
    constructor
    · intro hle
      have hlt : ⌊-x⌋ < 1 := by omega
      have := Int.floor_lt.mp hlt
      push_cast at this
      linarith
    · intro hlt
      have : ⌊-x⌋ < 1 := by
        apply Int.floor_lt.mpr
        push_cast
        linarith
      omega

/-! ## One call -/

/-- The quota of a user, `0` when there is no such user. -/
def PaymentDB.walletQuota (db : PaymentDB) (userId : Int) : Int :=
  ((db.wallets.find? userId).map (·.quota)).getD 0

/-- What a completing function credits. -/
def credited : Except String (Option TopUpWrite) → Int
  | .ok (some write) => write.credit.getD 0
  | _ => 0

namespace PaySystem

/-- A call that no other call disturbs. -/
def call (env : PaymentEnv) (s : PaySystem) (pid : Nat) (op : PayOp) (now : Timestamp) : PaySystem :=
  Run.run (step env) s [.start pid op now, .read pid, .commit pid]

/-- The commit of a top-up adds its credit. -/
theorem commitTopUp_walletQuota {s : PaySystem} {email : String} {write : TopUpWrite}
    {result : Except String PaySystem} (h : s.commitTopUp email write = result) {user : User}
    (huser : s.db.wallets.find? write.topUp.userId = some user) :
    ∃ s', result = .ok s' ∧
      s'.db.walletQuota write.topUp.userId = user.quota + write.credit.getD 0 := by
  subst h
  unfold commitTopUp
  cases hcredit : write.credit with
  | none => exact ⟨_, rfl, by simp [PaymentDB.walletQuota, huser]⟩
  | some quota =>
    simp only [huser]
    refine ⟨_, rfl, ?_⟩
    have hfind := Table.find?_update s.db.wallets write.topUp.userId write.topUp.userId
      (f := fun u => { u with quota := u.quota + quota }) fun _ => rfl
    simp only [PaymentDB.walletQuota, PaymentDB.addQuota, hfind, if_true, huser, Option.map_some,
      Option.getD_some]

/-- What a call on a top-up order adds to the quota of the order's user. -/
theorem walletQuota_call (env : PaymentEnv) (s : PaySystem) {pid : Nat} {op : PayOp}
    {now : Timestamp} {topUp : TopUp} {user : User} {result : Except String (Option TopUpWrite)}
    (hfresh : s.procs.find? pid = none) (htrade : op.tradeNo ≠ "")
    (hrow : s.db.topUps.find? op.tradeNo = some topUp)
    (huser : s.db.wallets.find? topUp.userId = some user)
    (hresult : op.topUpWrite env now.unix topUp = some result)
    (hkeep : ∀ write, result = .ok (some write) → write.topUp.userId = topUp.userId) :
    (s.call env pid op now).db.walletQuota topUp.userId = user.quota + credited result := by
  -- the process after its read
  have hread : PayProc.read env s.db { pid := pid, op := op, now := now } =
      match result with
      | .ok (some write) => .topUpReady write
      | .ok none => .returned (.ok ())
      | .error e => .returned (.error e) := by
    have hread' : PayProc.read env s.db { pid := pid, op := op, now := now } =
        PayProc.readTopUp env s.db { pid := pid, op := op, now := now } := by
      simp only [PayProc.read, if_neg htrade]
      cases op with
      | completeSubscriptionOrder tradeNo payload expected method => cases hresult
      | expireSubscriptionOrder tradeNo expected => cases hresult
      | _ => rfl
    rw [hread', PayProc.readTopUp]
    simp only [hrow, hresult]
    rcases result with e | - | write <;> rfl
  have hfind : (s.procs.insert { pid := pid, op := op, now := now }).find? pid =
      some { pid := pid, op := op, now := now } := by
    rw [Table.find?_insert, if_pos rfl, hfresh]
    rfl
  have hset (stage : PayStage) : ((s.procs.insert { pid := pid, op := op, now := now }).set
      { pid := pid, op := op, now := now, stage := stage }).find? pid =
      some { pid := pid, op := op, now := now, stage := stage } :=
    Table.find?_set_self hfind rfl
  have hplain : s.db.walletQuota topUp.userId = user.quota := by
    simp [PaymentDB.walletQuota, huser]
  simp only [call, Run.run_cons, Run.run_nil, step, stepCore, hfind, hread, hset]
  rcases result with e | - | write
  · simpa [writes, credited] using hplain
  · simpa [writes, credited] using hplain
  · simp only [writes]
    have hkeep' := hkeep write rfl
    rw [← hkeep'] at huser ⊢
    split
    · next hnone => cases hnone
    · next e herr =>
      obtain ⟨s', hok, -⟩ := commitTopUp_walletQuota (Option.some.inj herr) huser
      cases hok
    · next s' hcommit =>
      obtain ⟨s'', hok, hquota⟩ := commitTopUp_walletQuota (Option.some.inj hcommit) huser
      cases hok
      exact hquota

/-- The callback of a provider. -/
inductive Callback where
  | stripe
  | creem (customerEmail : String)
  | waffo
  | waffoPancake
deriving DecidableEq

/-- `PaymentProvider...` -/
def Callback.provider : Callback → String
  | .stripe => "stripe"
  | .creem _ => "creem"
  | .waffo => "waffo"
  | .waffoPancake => "waffo_pancake"

/-- The function that completes the order of a callback. -/
def Callback.op (tradeNo : String) : Callback → PayOp
  | .stripe => .recharge tradeNo
  | .creem customerEmail => .rechargeCreem tradeNo customerEmail
  | .waffo => .rechargeWaffo tradeNo
  | .waffoPancake => .rechargeWaffoPancake tradeNo

/-- Its rule. -/
def Callback.rule (env : PaymentEnv) : Callback → TopUpRule
  | .stripe => recharge env
  | .creem _ => TokenRouter.rechargeCreem
  | .waffo => rechargeWaffo env
  | .waffoPancake => rechargeWaffoPancake env

theorem Callback.tradeNo_op (callback : Callback) (tradeNo : String) :
    (callback.op tradeNo).tradeNo = tradeNo := by
  cases callback <;> rfl

theorem Callback.topUpWrite_op (callback : Callback) (env : PaymentEnv) (tradeNo : String)
    (now : Int) (topUp : TopUp) :
    (callback.op tradeNo).topUpWrite env now topUp =
      some ((callback.rule env).complete now topUp) := by
  cases callback <;> rfl

theorem Callback.provider_rule (callback : Callback) (env : PaymentEnv) :
    (callback.rule env).provider = some callback.provider := by
  cases callback <;> rfl

/-- Where the two agree: a Stripe order is not worth a negative quota, and a unit of a Creem
    order, which counts quota and not money, is worth itself after the conversion. -/
def CreditsAlike (env : PaymentEnv) (topUp : TopUp) : Callback → Prop
  | .stripe => -1 < topUp.money * env.quotaPerUnit
  | .creem _ => topUp.amount = 0 ∨ 0 < topUp.amount ∧
      (topUp.amount : ℚ) ≤ topUp.amount * env.quotaPerUnit ∧
      topUp.amount * env.quotaPerUnit < (topUp.amount : ℚ) + 1
  | .waffo => True
  | .waffoPancake => True

/-- A pending order of the right provider is credited with the quota of the rule, unless
    the rule wants a positive one. -/
theorem credited_complete {rule : TopUpRule} {now : Int} {topUp : TopUp}
    (hpending : topUp.status = "pending")
    (hprovider : ∀ provider, rule.provider = some provider → topUp.paymentProvider = provider) :
    credited (rule.complete now topUp) =
        (if rule.positiveOnly ∧ rule.quota topUp ≤ 0 then 0 else rule.quota topUp) ∧
      ∀ write, rule.complete now topUp = .ok (some write) → write.topUp.userId = topUp.userId := by
  have hmatch : rule.provider.any (topUp.paymentProvider ≠ ·) = false := by
    cases hp : rule.provider with
    | none => rfl
    | some provider => simpa using hprovider provider hp
  have hsuccess : topUp.status ≠ "success" := by
    rw [hpending]
    decide
  unfold TopUpRule.complete
  rw [if_neg (by rw [hmatch]; exact Bool.false_ne_true), if_neg fun h => hsuccess h.2, if_neg (not_not_intro hpending)]
  dsimp only
  by_cases hrefused : rule.positiveOnly = true ∧ rule.quota topUp ≤ 0
  · rw [if_pos hrefused, if_pos hrefused]
    exact ⟨rfl, fun write h => by cases h⟩
  · rw [if_neg hrefused, if_neg hrefused]
    exact ⟨rfl, fun write h => by cases h; rfl⟩

/-- What the manual completion credits. -/
theorem credited_manual (env : PaymentEnv) (now : Int) {topUp : TopUp}
    (hpending : topUp.status = "pending") :
    credited ((manualCompleteTopUp env).complete now topUp) =
      if topUp.paymentProvider = "stripe" then max 0 (intPart (topUp.money * env.quotaPerUnit))
      else max 0 (intPart (topUp.amount * env.quotaPerUnit)) := by
  rw [(credited_complete hpending fun _ h => by cases h).1]
  simp only [manualCompleteTopUp, true_and]
  split_ifs <;> omega

/-- For every pending order, with exact arithmetic: completing it by hand adds the same to the
    user's quota as the callback of its provider if and only if the two rules agree on it. -/
theorem manual_credits_same_iff (env : PaymentEnv)
    (hexact : ∀ money, env.stripe money = intPart (money * env.quotaPerUnit)) (s : PaySystem)
    (pid : Nat) (now : Timestamp) (callback : Callback) (topUp : TopUp) (user : User)
    (hfresh : s.procs.find? pid = none) (htrade : topUp.tradeNo ≠ "")
    (hrow : s.db.topUps.find? topUp.tradeNo = some topUp) (hpending : topUp.status = "pending")
    (hprovider : topUp.paymentProvider = callback.provider)
    (huser : s.db.wallets.find? topUp.userId = some user) :
    (s.call env pid (.manualCompleteTopUp topUp.tradeNo) now).db.walletQuota topUp.userId =
        (s.call env pid (callback.op topUp.tradeNo) now).db.walletQuota topUp.userId ↔
      CreditsAlike env topUp callback := by
  have hmanual := @walletQuota_call env s pid (.manualCompleteTopUp topUp.tradeNo) now _ _ _
    hfresh htrade hrow huser rfl (credited_complete hpending fun _ h => by cases h).2
  have hrule := @credited_complete (callback.rule env) now.unix topUp hpending
    fun provider h => hprovider.trans (Option.some.inj ((callback.provider_rule env).symm.trans h))
  have hcallback := @walletQuota_call env s pid (callback.op topUp.tradeNo) now _ _ _ hfresh
    (by rwa [callback.tradeNo_op]) (by rwa [callback.tradeNo_op]) huser
    (callback.topUpWrite_op env topUp.tradeNo now.unix topUp) hrule.2
  rw [hmanual, hcallback, credited_manual env now.unix hpending, hprovider, hrule.1,
    add_right_inj]
  cases callback with
  | stripe =>
    simp only [Callback.rule, recharge, hexact, Callback.provider, CreditsAlike, Bool.false_eq_true,
      false_and, if_false, if_true]
    rw [← intPart_nonneg_iff]
    omega
  | creem customerEmail =>
    simp only [Callback.rule, rechargeCreem, Callback.provider, CreditsAlike, Bool.false_eq_true,
      false_and, if_false, String.reduceEq]
    rcases lt_trichotomy topUp.amount 0 with hneg | hzero | hpos
    · omega
    · simp [hzero, intPart]
    · rw [← intPart_eq_iff hpos]
      omega
  | waffo =>
    simp only [Callback.rule, rechargeWaffo, Callback.provider, CreditsAlike, true_and, if_false,
      String.reduceEq, iff_true]
    split_ifs <;> omega
  | waffoPancake =>
    simp only [Callback.rule, rechargeWaffoPancake, Callback.provider, CreditsAlike, true_and,
      if_false, String.reduceEq, iff_true]
    split_ifs <;> omega

/-- 500000 units of quota for one unit of money, counted exactly. -/
def exactPayment : PaymentEnv :=
  { stripe := fun money => intPart (money * 500000)
    quotaPerUnit := 500000
    plans := fun _ => .error "record not found"
    calendar := ⟨fun t _ _ => t, id, id, id⟩ }

/-- An order of 20 at a provider. -/
def orderAt (provider : String) : TopUp :=
  { tradeNo := "ref_1", userId := 1, amount := 20, money := 20, paymentProvider := provider }

/-- User 1 with that order. -/
def pendingAt (provider : String) : PaySystem :=
  { db :=
      { topUps := Table.empty.insert (orderAt provider)
        orders := .empty
        wallets := Table.empty.insert { id := 1, quota := 0 }
        subscriptions := { users := .empty, subs := .empty } }
    procs := .empty
    credits := fun _ => 0
    created := fun _ => 0
    succeeded := fun _ => false }

/-- Waffo. -/
theorem manual_credits_waffo :
    ((pendingAt "waffo").call exactPayment 1 (.manualCompleteTopUp "ref_1") ⟨1, by decide⟩
      ).db.walletQuota 1 =
    ((pendingAt "waffo").call exactPayment 1 (.rechargeWaffo "ref_1") ⟨1, by decide⟩
      ).db.walletQuota 1 :=
  (manual_credits_same_iff exactPayment (fun _ => rfl) (pendingAt "waffo") 1 ⟨1, by decide⟩ .waffo
    (orderAt "waffo") { id := 1, quota := 0 } rfl (by decide) (by decide) rfl rfl
    (by decide)).mpr trivial

/-- A Creem order of 20 units of quota: by hand it is worth 20 units of money. -/
theorem creem_by_hand_credits_more :
    ((pendingAt "creem").call exactPayment 1 (.rechargeCreem "ref_1" "") ⟨1, by decide⟩
      ).db.walletQuota 1 = 20 ∧
    ((pendingAt "creem").call exactPayment 1 (.manualCompleteTopUp "ref_1") ⟨1, by decide⟩
      ).db.walletQuota 1 = 10000000 := by
  constructor
  · decide
  · decide +kernel

end PaySystem

end TokenRouter
