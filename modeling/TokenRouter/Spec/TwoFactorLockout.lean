import TokenRouter.ForStd.Run
import TokenRouter.Model.TwoFA

/-!
# Guessing a second factor

A refused attempt that compares a guess with a secret counts as a failure, and from the fifth one
on each failure locks the record again. The number of guesses is therefore bounded by the time that
they take, whatever the guesses are. A backup code is accepted once.

## Key results

- `validateTwoFactorAuth_cases`: what one attempt does
- `guesses_le`: runs of refused attempts
- `backup_codes_spent`: the backup codes of any run
-/

namespace TokenRouter.TwoFactor

/-- An attempt to pass the second factor. -/
structure Attempt where
  now : Int
  code : List Char

variable (lib : TwoFALib)

/-- One attempt after the other. -/
def step (u : TwoFactor) (e : Attempt) : TwoFactor := (u.validateTwoFactorAuth lib e.code e.now).2

/-- The attempt is refused. -/
def Refused (u : TwoFactor) (e : Attempt) : Prop :=
  (u.validateTwoFactorAuth lib e.code e.now).1 = false

instance (u : TwoFactor) (e : Attempt) : Decidable (Refused lib u e) :=
  inferInstanceAs (Decidable (_ = false))

/-- How often an attempt compares a guess with a secret. -/
def guesses (u : TwoFactor) (e : Attempt) : Nat :=
  if u.twoFA.isLocked e.now then 0
  else (validateNumericCode e.code).isSome.toNat + (isBackupCode e.code).toNat

/-- The guesses of a run. -/
def guessesIn : TwoFactor → List Attempt → Nat
  | _, [] => 0
  | u, e :: es => u.guesses e + guessesIn (u.step lib e) es

/-- The attempt is accepted for a backup code. -/
def spendsBackupCode (u : TwoFactor) (e : Attempt) : Bool :=
  (u.validateTwoFactorAuth lib e.code e.now).1 &&
    !(validateNumericCode e.code).any fun code => validateTOTPCode lib u.twoFA.secret code e.now

/-- The attempts of a run that are accepted for a backup code. -/
def spentIn : TwoFactor → List Attempt → Nat
  | _, [] => 0
  | u, e :: es => (u.spendsBackupCode lib e).toNat + spentIn (u.step lib e) es

/-- The backup codes that are left. -/
def unused (u : TwoFactor) : Nat := u.backupCodes.countP (!·.isUsed)

variable {lib}

/-! ## One attempt -/

theorem length_le_byteLength (cs : List Char) : cs.length ≤ byteLength cs := by
  induction cs with
  | nil => exact Nat.le_refl 0
  | cons c cs ih =>
    have hc := c.utf8Size_pos
    simp only [byteLength, List.length_cons, List.map_cons, List.sum_cons] at ih ⊢
    omega

theorem byteLength_eq_length {cs : List Char} (h : ∀ c ∈ cs, c.utf8Size = 1) :
    byteLength cs = cs.length := by
  induction cs with
  | nil => rfl
  | cons c cs ih =>
    rw [List.forall_mem_cons] at h
    have hrest := ih h.2
    simp only [byteLength, List.map_cons, List.sum_cons, List.length_cons, h.1] at hrest ⊢
    omega

/-- No text is both a numeric code and a backup code. -/
theorem not_isBackupCode {code clean : List Char} (h : validateNumericCode code = some clean) :
    isBackupCode code = false := by
  have hlength : byteLength (code.filter (· ≠ ' ')) = 6 := by
    unfold validateNumericCode at h
    by_contra hne
    rw [if_pos hne] at h
    exact nomatch h
  rw [Bool.eq_false_iff]
  intro hbackup
  simp only [isBackupCode, Bool.and_eq_true, beq_iff_eq, List.all_eq_true] at hbackup
  obtain ⟨hbytes, hchars⟩ := hbackup
  -- each character of a backup code is a byte, and none is a space
  have hascii : byteLength (cleanBackupCode code) = (cleanBackupCode code).length := by
    apply byteLength_eq_length
    intro c hc
    have := hchars c hc
    simp only [Char.isUpper, Char.isDigit, Bool.or_eq_true, Bool.and_eq_true,
      decide_eq_true_eq] at this
    apply Char.utf8Size_eq_one_iff.mpr
    grind
  have hspace : code.filter (· ≠ ' ') = code := by
    rw [List.filter_eq_self]
    intro c hc
    rw [decide_eq_true_iff]
    rintro rfl
    have hmem : upperRune ' ' ∈ cleanBackupCode code :=
      List.mem_map_of_mem (List.mem_filter.mpr ⟨hc, by decide⟩)
    exact absurd (hchars _ hmem) (by decide)
  have hle := length_le_byteLength (code.filter (· ≠ ' '))
  have hfilter := List.length_filter_le (· ≠ '-') code
  rw [hspace] at hle hlength
  rw [hascii, cleanBackupCode, List.length_map, backupCodeLength] at hbytes
  omega

theorem unused_of_useBackupCode {code : String} {now : Int} {backupCodes used : List TwoFABackupCode}
    (h : useBackupCode lib code now backupCodes = some used) :
    used.countP (!·.isUsed) + 1 = backupCodes.countP (!·.isUsed) := by
  induction backupCodes generalizing used with
  | nil => exact nomatch h
  | cons bc backupCodes ih =>
    rw [useBackupCode] at h
    rw [List.countP_cons]
    split at h
    · next hmatch =>
      rw [Bool.and_eq_true] at hmatch
      cases h
      rw [List.countP_cons, if_pos hmatch.1]
      simp
    · obtain ⟨rest, hrest, rfl⟩ := Option.map_eq_some_iff.mp h
      have := ih hrest
      rw [List.countP_cons]
      omega

variable (lib) in
/-- What comes of a text that is taken for a backup code. -/
theorem validateBackup_cases (u : TwoFactor) (code : List Char) (now : Int) :
    (u.twoFA.isLocked now = true ∨ isBackupCode code = false) ∧
        u.validateBackup lib code now = (false, u) ∨
      (u.twoFA.isLocked now = false ∧ isBackupCode code = true) ∧
        (u.validateBackup lib code now =
            (false, { u with twoFA := u.twoFA.incrementFailedAttempts now }) ∨
          (u.validateBackup lib code now).1 = true ∧
            (u.validateBackup lib code now).2.unused + 1 = u.unused) := by
  unfold validateBackup validateBackupCodeAndUpdateUsage validateBackupCode
  cases u.twoFA.isLocked now with
  | true => exact .inl ⟨.inl rfl, rfl⟩
  | false =>
    cases isBackupCode code with
    | false => exact .inl ⟨.inr rfl, rfl⟩
    | true =>
      refine .inr ⟨⟨rfl, rfl⟩, ?_⟩
      cases huse : useBackupCode lib (String.ofList (normalizeBackupCode code)) now
          u.backupCodes with
      | none => exact .inl rfl
      | some backupCodes => exact .inr ⟨rfl, unused_of_useBackupCode huse⟩

variable (lib) in
/-- An attempt compares nothing and is refused, compares one guess and counts a failure, or is
    accepted. -/
theorem validateTwoFactorAuth_cases (u : TwoFactor) (e : Attempt) :
    (u.guesses e = 0 ∧ u.validateTwoFactorAuth lib e.code e.now = (false, u)) ∨
      u.twoFA.isLocked e.now = false ∧
        (u.guesses e = 1 ∧ u.validateTwoFactorAuth lib e.code e.now =
            (false, { u with twoFA := u.twoFA.incrementFailedAttempts e.now }) ∨
          (u.validateTwoFactorAuth lib e.code e.now).1 = true ∧
            (u.spendsBackupCode lib e).toNat + (u.step lib e).unused = u.unused) := by
  unfold step spendsBackupCode guesses
  cases hnumeric : validateNumericCode e.code with
  | none =>
    have hauth : u.validateTwoFactorAuth lib e.code e.now = u.validateBackup lib e.code e.now := by
      rw [validateTwoFactorAuth, hnumeric]
    rw [hauth]
    rcases validateBackup_cases lib u e.code e.now with ⟨hnone, heq⟩ |
      ⟨⟨hlocked, hformat⟩, heq | ⟨haccepted, hspent⟩⟩
    · refine .inl ⟨?_, heq⟩
      rcases hnone with hlocked | hformat
      · rw [if_pos hlocked]
      · rw [hformat]
        exact ite_self 0
    · refine .inr ⟨hlocked, .inl ⟨?_, heq⟩⟩
      simp [hlocked, hformat]
    · refine .inr ⟨hlocked, .inr ⟨haccepted, ?_⟩⟩
      rw [haccepted, ← hspent]
      exact Nat.add_comm _ _
  | some clean =>
    have hformat := not_isBackupCode hnumeric
    have hbackup (u' : TwoFactor) : u'.validateBackup lib e.code e.now = (false, u') := by
      rcases validateBackup_cases lib u' e.code e.now with ⟨-, heq⟩ | ⟨⟨-, htrue⟩, -⟩
      · exact heq
      · exact absurd htrue (by simp [hformat])
    rw [validateTwoFactorAuth, hnumeric]
    dsimp only
    rw [TwoFA.validateTOTPAndUpdateUsage]
    cases hlocked : u.twoFA.isLocked e.now with
    | true => exact .inl ⟨rfl, hbackup u⟩
    | false =>
      cases hvalid : validateTOTPCode lib u.twoFA.secret clean e.now with
      | false =>
        refine .inr ⟨rfl, .inl ⟨by simp [hformat], ?_⟩⟩
        exact hbackup { u with twoFA := u.twoFA.incrementFailedAttempts e.now }
      | true =>
        refine .inr ⟨rfl, .inr ⟨rfl, ?_⟩⟩
        simp [hvalid, unused]

/-! ## Runs -/

/-- The failures of a record since an instant, and how long it is locked for them. -/
def LockedFor (start now : Int) (t : TwoFA) : Prop :=
  t.failedAttempts < maxFailAttempts ∧ t.lockedUntil = none ∨
    maxFailAttempts ≤ t.failedAttempts ∧ ∃ lockedUntil, t.lockedUntil = some lockedUntil ∧
      start + lockoutDuration * (t.failedAttempts - (maxFailAttempts - 1)) ≤ lockedUntil ∧
        lockedUntil ≤ now + lockoutDuration

/-- Another failure of a record that is not locked. -/
theorem LockedFor.increment {start now now' : Int} {t : TwoFA} (h : LockedFor start now t)
    (hstart : start ≤ now') (hunlocked : t.isLocked now' = false) :
    LockedFor start now' (t.incrementFailedAttempts now') := by
  rcases h with ⟨hless, hnone⟩ | ⟨hmore, lockedUntil, hsome, hfrom, -⟩
  · by_cases hlast : t.failedAttempts + 1 ≥ maxFailAttempts
    · refine .inr ⟨hlast, now' + lockoutDuration, if_pos hlast, ?_, Int.le_refl _⟩
      have heq : (t.incrementFailedAttempts now').failedAttempts = maxFailAttempts := by
        simp only [TwoFA.incrementFailedAttempts]
        omega
      rw [heq]
      simp only [maxFailAttempts, lockoutDuration]
      omega
    · refine .inl ⟨by simp only [TwoFA.incrementFailedAttempts]; omega, ?_⟩
      simp only [TwoFA.incrementFailedAttempts, if_neg hlast, hnone]
  · have hexpired : lockedUntil ≤ now' := by
      simpa [TwoFA.isLocked, hsome] using hunlocked
    have hlast : t.failedAttempts + 1 ≥ maxFailAttempts := by omega
    refine .inr ⟨hlast, now' + lockoutDuration, if_pos hlast, ?_, Int.le_refl _⟩
    simp only [TwoFA.incrementFailedAttempts, maxFailAttempts, lockoutDuration] at hfrom ⊢
    omega

/-- Refused attempts count their guesses. -/
theorem refused_run {start stop : Int} {u : TwoFactor} {now : Int} {es : List Attempt}
    (h : LockedFor start now u.twoFA) (hnow : now ≤ stop)
    (htimes : ∀ e ∈ es, start ≤ e.now ∧ e.now ≤ stop)
    (hrefused : Run.Steps (step lib) (Refused lib) u es) :
    ∃ now' ≤ stop, LockedFor start now' (Run.run (step lib) u es).twoFA ∧
      (Run.run (step lib) u es).twoFA.failedAttempts =
        u.twoFA.failedAttempts + guessesIn lib u es := by
  induction es generalizing u now with
  | nil => exact ⟨now, hnow, h, by simp [guessesIn]⟩
  | cons e es ih =>
    rw [List.forall_mem_cons] at htimes
    obtain ⟨hfirst, hrest⟩ := hrefused
    rw [Run.run_cons, guessesIn]
    rcases validateTwoFactorAuth_cases lib u e with ⟨hguesses, heq⟩ |
      ⟨hunlocked, ⟨hguesses, heq⟩ | ⟨haccepted, -⟩⟩
    · have hstep : u.step lib e = u := congrArg Prod.snd heq
      rw [hguesses]
      rw [hstep] at hrest ⊢
      simpa using ih h hnow htimes.2 hrest
    · have hstep : u.step lib e = { u with twoFA := u.twoFA.incrementFailedAttempts e.now } :=
        congrArg Prod.snd heq
      rw [hguesses]
      rw [hstep] at hrest ⊢
      obtain ⟨now', hle, hlocked, hcount⟩ :=
        ih (h.increment htimes.1.1 hunlocked) htimes.1.2 htimes.2 hrest
      refine ⟨now', hle, hlocked, ?_⟩
      rw [hcount]
      simp only [TwoFA.incrementFailedAttempts]
      omega
    · exact absurd hfirst (by simp [Refused, haccepted])

/-- From a record without failures, as it is after enabling and after each success, the guesses
    that are compared in a period, all of them refused, are at most 5 and one more for every
    300 seconds. -/
theorem guesses_le (lib : TwoFALib) (u : TwoFactor) (hfailures : u.twoFA.failedAttempts = 0)
    (hunlocked : u.twoFA.lockedUntil = none) {start stop : Int} {es : List Attempt}
    (hperiod : start ≤ stop) (htimes : ∀ e ∈ es, start ≤ e.now ∧ e.now ≤ stop)
    (hrefused : Run.Steps (step lib) (Refused lib) u es) :
    (guessesIn lib u es : Int) ≤ maxFailAttempts + (stop - start) / lockoutDuration := by
  have hfresh : LockedFor start start u.twoFA := .inl ⟨by rw [hfailures]; decide, hunlocked⟩
  obtain ⟨now, hle, hlocked, hcount⟩ := refused_run hfresh hperiod htimes hrefused
  rw [hfailures, Int.zero_add] at hcount
  rw [← hcount]
  generalize (Run.run (step lib) u es).twoFA = t at hlocked
  simp only [LockedFor, maxFailAttempts, lockoutDuration] at hlocked ⊢
  rcases hlocked with ⟨hless, -⟩ | ⟨-, lockedUntil, -, hfrom, hto⟩
  · omega
  · omega

/-- Five wrong codes within a second lock the record, and a sixth is compared after five minutes. -/
theorem guesses_le_six :
    (guessesIn { totp := fun code _ _ => code == "123456", validatePasswordAndHash := fun _ _ => false }
      { twoFA := { secret := "S" }, backupCodes := [] }
      ([1, 2, 3, 4, 5, 6, 300 * 10 ^ 9 + 5].map fun now : Int =>
        { now, code := "000000".toList }) : Int) ≤
      maxFailAttempts + (300 * 10 ^ 9 + 5 - 0) / lockoutDuration :=
  guesses_le _ _ rfl rfl (by decide) (by decide) (by decide)

/-- Whatever is tried, each attempt that is accepted for a backup code uses one up. -/
theorem backup_codes_spent (lib : TwoFALib) (u : TwoFactor) (es : List Attempt) :
    spentIn lib u es + (Run.run (step lib) u es).unused = u.unused := by
  induction es generalizing u with
  | nil => exact Nat.zero_add _
  | cons e es ih =>
    rw [spentIn, Run.run_cons, Nat.add_assoc, ih]
    rcases validateTwoFactorAuth_cases lib u e with ⟨-, heq⟩ |
      ⟨-, ⟨-, heq⟩ | ⟨-, hspent⟩⟩
    · simp [spendsBackupCode, step, heq]
    · simp [spendsBackupCode, step, heq, unused]
    · exact hspent

end TokenRouter.TwoFactor
