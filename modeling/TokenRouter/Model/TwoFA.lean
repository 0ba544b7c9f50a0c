import TokenRouter.Setting.StatusCodeRanges

/-!
# Two-factor authentication (`model/twofa.go`, `common/totp.go`)

The two-factor rows of one user and the check of a code, which is a one-time code of six digits or
a backup code. Codes are lists of characters and instants are nanoseconds; the algorithm of the
one-time codes and the comparison with a hash are parameters.
-/

namespace TokenRouter

def backupCodeLength : Nat := 8
def maxFailAttempts : Int := 5

/-- 300 seconds -/
def lockoutDuration : Int := 300 * 10 ^ 9

structure TwoFA where
  secret : String
  failedAttempts : Int := 0
  lockedUntil : Option Int := none
  lastUsedAt : Option Int := none

structure TwoFABackupCode where
  codeHash : String
  isUsed : Bool := false
  usedAt : Option Int := none

/-- The rows of a user. -/
structure TwoFactor where
  twoFA : TwoFA
  backupCodes : List TwoFABackupCode

structure TwoFALib where
  /-- `totp.Validate` at an instant -/
  totp : String → String → Int → Bool
  validatePasswordAndHash : String → String → Bool

inductive TwoFAError where
  | locked (until_ : Option Int)
  /-- The text has the format of no code. -/
  | malformed

/-! ## Formats -/

/-- The length of a Go string, in bytes. -/
def byteLength (cs : List Char) : Nat := (cs.map Char.utf8Size).sum

/-- One rune of `strings.ToUpper`, as far as ASCII texts can tell: of the other runes only the
    dotless i and the long s become ASCII letters. -/
def upperRune (c : Char) : Char :=
  if c = '\u0131' then 'I' else if c = '\u017f' then 'S' else c.toUpper

/-- `ValidateNumericCode`: the code without spaces. -/
def validateNumericCode (code : List Char) : Option (List Char) :=
  let code := code.filter (· ≠ ' ')
  if byteLength code ≠ 6 then none else (atoi code).map fun _ => code

def validateTOTPCode (lib : TwoFALib) (secret : String) (code : List Char) (now : Int) : Bool :=
  let cleanCode := code.filter (· ≠ ' ')
  byteLength cleanCode == 6 && lib.totp (String.ofList cleanCode) secret now

/-- A backup code without separators, in upper case. -/
def cleanBackupCode (code : List Char) : List Char := (code.filter (· ≠ '-')).map upperRune

/-- `common.ValidateBackupCode` -/
def isBackupCode (code : List Char) : Bool :=
  byteLength (cleanBackupCode code) == backupCodeLength &&
    (cleanBackupCode code).all fun c => c.isUpper || c.isDigit

def normalizeBackupCode (code : List Char) : List Char :=
  if byteLength (cleanBackupCode code) = backupCodeLength then
    (cleanBackupCode code).take 4 ++ '-' :: (cleanBackupCode code).drop 4
  else code

/-! ## The check of a code -/

namespace TwoFA

def isLocked (t : TwoFA) (now : Int) : Bool := t.lockedUntil.any fun lockedUntil => now < lockedUntil

def incrementFailedAttempts (t : TwoFA) (now : Int) : TwoFA :=
  { t with
    failedAttempts := t.failedAttempts + 1
    lockedUntil :=
      if t.failedAttempts + 1 ≥ maxFailAttempts then some (now + lockoutDuration)
      else t.lockedUntil }

/-- The record after a code that was accepted. -/
def recordUsage (t : TwoFA) (now : Int) : TwoFA :=
  { t with failedAttempts := 0, lockedUntil := none, lastUsedAt := some now }

def validateTOTPAndUpdateUsage (lib : TwoFALib) (t : TwoFA) (code : List Char) (now : Int) :
    Except TwoFAError Bool × TwoFA :=
  if t.isLocked now then (.error (.locked t.lockedUntil), t)
  else if !validateTOTPCode lib t.secret code now then (.ok false, t.incrementFailedAttempts now)
  else (.ok true, t.recordUsage now)

end TwoFA

/-- Mark the first unused code that matches as used. -/
def useBackupCode (lib : TwoFALib) (code : String) (now : Int) :
    List TwoFABackupCode → Option (List TwoFABackupCode)
  | [] => none
  | bc :: backupCodes =>
    if !bc.isUsed && lib.validatePasswordAndHash code bc.codeHash then
      some ({ bc with isUsed := true, usedAt := some now } :: backupCodes)
    else (useBackupCode lib code now backupCodes).map (bc :: ·)

/-- `ValidateBackupCode`: the codes with the one that matched marked as used, if one did. -/
def validateBackupCode (lib : TwoFALib) (backupCodes : List TwoFABackupCode) (code : List Char)
    (now : Int) : Except TwoFAError (Option (List TwoFABackupCode)) :=
  if !isBackupCode code then .error .malformed
  else .ok (useBackupCode lib (String.ofList (normalizeBackupCode code)) now backupCodes)

namespace TwoFactor

def validateBackupCodeAndUpdateUsage (lib : TwoFALib) (u : TwoFactor) (code : List Char)
    (now : Int) : Except TwoFAError Bool × TwoFactor :=
  if u.twoFA.isLocked now then (.error (.locked u.twoFA.lockedUntil), u)
  else match validateBackupCode lib u.backupCodes code now with
    | .error err => (.error err, u)
    | .ok none => (.ok false, { u with twoFA := u.twoFA.incrementFailedAttempts now })
    | .ok (some backupCodes) => (.ok true, { twoFA := u.twoFA.recordUsage now, backupCodes })

/-- The second half of `validateTwoFactorAuth`. -/
def validateBackup (lib : TwoFALib) (u : TwoFactor) (code : List Char) (now : Int) :
    Bool × TwoFactor :=
  match u.validateBackupCodeAndUpdateUsage lib code now with
  | (.ok valid, u) => (valid, u)
  | (.error _, u) => (false, u)

/-- `validateTwoFactorAuth`; `Verify2FALogin` and `Disable2FA` check a code in the same way. -/
def validateTwoFactorAuth (lib : TwoFALib) (u : TwoFactor) (code : List Char) (now : Int) :
    Bool × TwoFactor :=
  match validateNumericCode code with
  | none => u.validateBackup lib code now
  | some cleanCode =>
    match u.twoFA.validateTOTPAndUpdateUsage lib cleanCode now with
    | (.ok true, twoFA) => (true, { u with twoFA })
    | (_, twoFA) => { u with twoFA }.validateBackup lib code now

end TwoFactor

end TokenRouter
