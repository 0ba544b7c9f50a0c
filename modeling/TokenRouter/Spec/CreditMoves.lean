import TokenRouter.Spec.TenantCases

/-!
# A tenant's credit as three numbers

`Credit` is what the sessions of a tenant share: the reserved amount, the unbilled
amount and the credit that is available. Reservations grow it, releases and ledgers take
from the reservation, but never below zero: what could not be taken is the `loss`. The
database transactions refine these moves (`DB.credit`).

## Key results

- `reserveTenantCredit_credit`, `releaseTenantCredit_credit`,
  `applyTenantLedgerCreditTx_credit`: the transactions refine the moves
-/

namespace TokenRouter

/-! ## The moves -/

/-- The amounts of a credit account that sessions and ledgers move. -/
structure Credit where
  reserved : Int
  unbilled : Int
  available : Int

namespace Credit

/-- Reserve more. -/
def reserve (c : Credit) (quota : Int) : Credit :=
  { c with reserved := c.reserved + quota, available := c.available - quota }

/-- Release at most what is reserved. -/
def release (c : Credit) (quota : Int) : Credit :=
  { c with
    reserved := c.reserved - min c.reserved quota
    available := c.available + min c.reserved quota }

/-- Book a ledger, against the reservation as far as that goes. -/
def book (c : Credit) (quota : Int) : Credit :=
  { reserved := c.reserved - min c.reserved quota
    unbilled := c.unbilled + quota
    available := c.available + min c.reserved quota - quota }

/-- What a reservation falls short of an amount to be taken from it. -/
def loss (c : Credit) (quota : Int) : Int := max 0 (quota - c.reserved)

/-- Change one part of the reservation from `current` to `target`. -/
def adjust (c : Credit) (current target : Int) : Credit :=
  if current < target then c.reserve (target - current) else c.release (current - target)

theorem loss_nonneg (c : Credit) (quota : Int) : 0 ≤ c.loss quota := le_max_left _ _

theorem loss_eq_zero_iff (c : Credit) (quota : Int) : c.loss quota = 0 ↔ quota ≤ c.reserved := by
  simp only [loss]
  omega

/-- Taking leaves what is there, plus what could not be taken. -/
theorem release_reserved (c : Credit) (quota : Int) :
    (c.release quota).reserved = c.reserved - quota + c.loss quota := by
  simp only [release, loss]
  omega

theorem book_reserved (c : Credit) (quota : Int) :
    (c.book quota).reserved = c.reserved - quota + c.loss quota := by
  simp only [book, loss]
  omega

theorem release_reserved_nonneg (c : Credit) (quota : Int) :
    0 ≤ (c.release quota).reserved := by
  simp only [release]
  omega

theorem book_reserved_nonneg (c : Credit) (quota : Int) :
    0 ≤ (c.book quota).reserved := by
  simp only [book]
  omega

/-- Booking keeps the credit from going below zero exactly if reservation and credit
    together cover it. -/
theorem book_available_nonneg_iff {c : Credit} (hav : 0 ≤ c.available) (quota : Int) :
    0 ≤ (c.book quota).available ↔ quota ≤ c.reserved + c.available := by
  simp only [book]
  omega

theorem adjust_self {c : Credit} (h : 0 ≤ c.reserved) (current : Int) :
    c.adjust current current = c := by
  simp only [adjust, lt_irrefl, if_false, release, sub_self]
  rw [min_eq_right h, sub_zero, add_zero]

theorem adjust_reserved {c : Credit} (h : 0 ≤ c.reserved) (current target : Int) :
    (c.adjust current target).reserved =
      c.reserved + (target - current) + c.loss (current - target) := by
  unfold adjust
  split
  · simp only [reserve, loss]
    omega
  · rw [release_reserved]
    omega

theorem adjust_reserved_nonneg {c : Credit} (h : 0 ≤ c.reserved) (current target : Int) :
    0 ≤ (c.adjust current target).reserved := by
  unfold adjust
  split
  · simp only [reserve]
    omega
  · exact release_reserved_nonneg c _

@[simp] theorem adjust_unbilled (c : Credit) (current target : Int) :
    (c.adjust current target).unbilled = c.unbilled := by
  unfold adjust
  split <;> rfl

/-- An adjustment within the available credit keeps it from going below zero. -/
theorem adjust_available_nonneg {c : Credit} (h : 0 ≤ c.reserved) (hav : 0 ≤ c.available)
    {current target : Int} (hguard : current < target → target - current ≤ c.available) :
    0 ≤ (c.adjust current target).available := by
  unfold adjust
  split
  · next hlt =>
    have := hguard hlt
    simp only [reserve]
    omega
  · simp only [release]
    omega

end Credit

/-! ## The transactions -/

/-- The tenant's account as the transactions read it: without a row it is a new account
    with the configured limit. -/
def DB.creditAccount (db : DB) (tenantId : Int) : CreditAccount :=
  (db.accounts.find? tenantId).getD
    { tenantId := tenantId
      creditLimit := ((db.configs.find? tenantId).map (·.creditLimit)).getD 0 }

/-- The tenant's credit. -/
def DB.credit (db : DB) (tenantId : Int) : Credit :=
  { reserved := (db.creditAccount tenantId).reservedAmount
    unbilled := (db.creditAccount tenantId).unbilledAmount
    available := (db.creditAccount tenantId).available }

/-- The tenant's policy is `block`. -/
def BlockPolicy (db : DB) (tenantId : Int) : Prop :=
  ∀ config, db.configs.find? tenantId = some config → config.overCreditPolicy = .block

theorem DB.creditAccount_tenantId (db : DB) (tenantId : Int) :
    (db.creditAccount tenantId).tenantId = tenantId :=
  find?_getD_tenantId db tenantId _

theorem DB.credit_saveAccount (db : DB) {a : CreditAccount} {tenantId : Int}
    (h : a.tenantId = tenantId) (reserved unbilled : Int) :
    (db.saveAccount { a with
        reservedAmount := reserved, unbilledAmount := unbilled }.recalculate).credit tenantId =
      ⟨reserved, unbilled,
        a.available + (a.reservedAmount - reserved) + (a.unbilledAmount - unbilled)⟩ := by
  simp only [DB.credit, DB.creditAccount, DB.find?_saveAccount, CreditAccount.recalculate_tenantId,
    h, if_true, Option.getD_some, CreditAccount.recalculate_reservedAmount,
    CreditAccount.recalculate_unbilledAmount, CreditAccount.available,
    CreditAccount.recalculate_creditLimit, CreditAccount.recalculate_billedUnpaidAmount,
    CreditAccount.recalculate_overdueAmount, Credit.mk.injEq, true_and]
  omega

/-- A successful `ReserveTenantCredit` reserves, within the available credit if the
    policy is `block`. -/
theorem reserveTenantCredit_credit {db db' : DB} {tenantId quota : Int} (hpos : 0 < tenantId)
    (hquota : 0 < quota) (h : reserveTenantCredit db tenantId quota = .ok db') :
    db'.configs = db.configs ∧ db'.credit tenantId = (db.credit tenantId).reserve quota ∧
      (BlockPolicy db tenantId → quota ≤ (db.credit tenantId).available) := by
  rcases reserveTenantCredit_ok h with ⟨-, hskip⟩ | ⟨-, -, config, a, hconfig, ha, -, hblock, rfl⟩
  · omega
  have hacc : db.creditAccount tenantId = a := by
    simp [DB.creditAccount, hconfig, ha]
  have htenant : a.tenantId = tenantId := hacc ▸ db.creditAccount_tenantId tenantId
  refine ⟨rfl, ?_, fun hpolicy => ?_⟩
  · rw [DB.credit_saveAccount db htenant]
    simp only [DB.credit, hacc, Credit.reserve, CreditAccount.available, Credit.mk.injEq, true_and]
    omega
  · simp only [DB.credit, hacc]
    exact hblock (hpolicy config hconfig)

/-- `ReleaseTenantCredit` releases. -/
theorem releaseTenantCredit_credit {db db' : DB} {tenantId quota : Int} (hpos : 0 < tenantId)
    (hquota : 0 < quota) (hreserved : 0 ≤ (db.credit tenantId).reserved)
    (h : releaseTenantCredit db tenantId quota = .ok db') :
    db'.configs = db.configs ∧ db'.credit tenantId = (db.credit tenantId).release quota := by
  rcases releaseTenantCredit_cases db tenantId quota with ⟨hok, hskip⟩ | ⟨-, -, a, hfind, -, hok⟩
  · -- nothing is reserved
    rw [hok, Except.ok.injEq] at h
    subst h
    have hcol : (db.credit tenantId).reserved = db.accountColumn tenantId (·.reservedAmount) :=
      column_find?_getD db tenantId _ (·.reservedAmount) rfl
    have hzero : (db.credit tenantId).reserved = 0 := by omega
    have hmin : min (db.credit tenantId).reserved quota = 0 := by omega
    refine ⟨rfl, ?_⟩
    simp only [Credit.release, hmin, sub_zero, add_zero]
  · rw [hok, Except.ok.injEq] at h
    subst h
    have hacc : db.creditAccount tenantId = a := by
      simp [DB.creditAccount, hfind]
    refine ⟨rfl, ?_⟩
    rw [DB.credit_saveAccount db (Table.find?_key hfind)]
    simp only [DB.credit, hacc, Credit.release, CreditAccount.available, Credit.mk.injEq, true_and]
    omega

/-- `applyTenantLedgerCreditTx` books. -/
theorem applyTenantLedgerCreditTx_credit {db db' : DB} {ledger : UsageLedger}
    (hpos : 0 < ledger.tenantId) (hquota : 0 ≤ ledger.postpaidQuota)
    (hreserved : 0 ≤ (db.credit ledger.tenantId).reserved)
    (h : applyTenantLedgerCreditTx db ledger = .ok db') :
    db'.configs = db.configs ∧
      db'.credit ledger.tenantId = (db.credit ledger.tenantId).book ledger.postpaidQuota := by
  rcases applyTenantLedgerCreditTx_cases db ledger with ⟨hok, hskip⟩ | ⟨-, -, a, ha, hok⟩
  · -- a ledger without postpaid quota
    rw [hok, Except.ok.injEq] at h
    subst h
    have hzero : ledger.postpaidQuota = 0 := by omega
    have hmin : min (db.credit ledger.tenantId).reserved 0 = 0 := min_eq_right hreserved
    refine ⟨rfl, ?_⟩
    simp only [Credit.book, hzero, hmin, sub_zero, add_zero]
  · rw [hok, Except.ok.injEq] at h
    subst h
    have hacc : db.creditAccount ledger.tenantId = a := ha.symm
    have htenant : a.tenantId = ledger.tenantId := hacc ▸ db.creditAccount_tenantId _
    refine ⟨rfl, ?_⟩
    rw [DB.credit_saveAccount db htenant]
    simp only [DB.credit, hacc, Credit.book, CreditAccount.available, Credit.mk.injEq, true_and]
    omega

end TokenRouter
