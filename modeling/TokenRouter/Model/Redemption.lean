import TokenRouter.Model.Quota

/-!
# Redemption codes (`model/redemption.go`)

`Redeem` runs one transaction: read the code, add its quota to the user, save the code as
used. The configured `gorm` ignores the `query_option` that asks for a lock on the read, so
the three statements of several calls interleave. Under read-committed isolation a statement
sees what others have committed, an update waits for the row that another open transaction
has written, and what a transaction wrote counts from its commit on.
-/

namespace TokenRouter

/-- The `RedemptionCodeStatus...` constants. -/
inductive RedemptionStatus where
  | enabled
  | disabled
  | used
deriving DecidableEq

/-- `redemptions` -/
structure Redemption where
  id : Nat
  key : String
  status : RedemptionStatus := .enabled
  quota : Int := 100
  redeemedTime : Int := 0
  usedUserId : Int := 0
  expiredTime : Int := 0
  deleted : Bool := false
deriving DecidableEq

/-- The fields that `Redeem` sets before it saves the code. -/
def Redemption.redeemedBy (redemption : Redemption) (userId now : Int) : Redemption :=
  { redemption with redeemedTime := now, status := .used, usedUserId := userId }

/-- Where a call of `Redeem` is, with the copy of the code that it holds. -/
inductive RedeemStage where
  | started
  | found (redemption : Redemption)
  | credited (redemption : Redemption)
  | saved (redemption : Redemption)
  | returned
deriving DecidableEq

/-- A call of `Redeem`. -/
structure RedeemCall where
  userId : Int
  stage : RedeemStage
deriving DecidableEq

/-- The tables, the calls in the order in which they were made, and the user and the quota of
    each call that has succeeded. -/
structure RedeemState where
  users : Table User (·.id)
  codes : Table Redemption (·.key)
  calls : List RedeemCall := []
  paid : List (Int × Int) := []

/-- What happens to calls of `Redeem`: one is made, makes its next statement, commits, or is
    rolled back because a statement or the commit failed. -/
inductive RedeemEvent where
  | call (userId : Int)
  | read (i : Nat) (now : Int)
  | credit (i : Nat)
  | save (i : Nat) (now : Int)
  | commit (i : Nat)
  | rollback (i : Nat)
deriving DecidableEq

/-- `quota + ?` on a user. -/
def User.addQuota (quota : Int) (user : User) : User := { user with quota := user.quota + quota }

namespace RedeemState

/-- A call goes on to its next stage. -/
def advance (s : RedeemState) (i : Nat) (userId : Int) (stage : RedeemStage) : RedeemState :=
  { s with calls := s.calls.set i { userId, stage } }

/-- `Where(key = ?).First(redemption)` -/
def first (s : RedeemState) (key : String) : Option Redemption :=
  (s.codes.find? key).filter fun redemption => !redemption.deleted

/-- Another open transaction has updated the row of the user. -/
def userLocked (s : RedeemState) (userId : Int) : Bool :=
  (s.users.find? userId).isSome && s.calls.any fun c =>
    c.userId = userId && match c.stage with
      | .credited _ | .saved _ => true
      | _ => false

/-- Another open transaction has saved the code. -/
def codeLocked (s : RedeemState) : Bool :=
  s.calls.any fun c => match c.stage with
    | .saved _ => true
    | _ => false

/-- `Redeem` up to the transaction. -/
def call (s : RedeemState) (key : String) (userId : Int) : RedeemState :=
  if key = "" ∨ userId = 0 then { s with calls := s.calls ++ [{ userId, stage := .returned }] }
  else { s with calls := s.calls ++ [{ userId, stage := .started }] }

/-- The read of the code and the checks on it. -/
def read (s : RedeemState) (key : String) (i : Nat) (now : Int) : RedeemState :=
  match s.calls[i]? with
  | some ⟨userId, .started⟩ =>
    match s.first key with
    | some redemption =>
      if redemption.status ≠ .enabled then s.advance i userId .returned
      else if redemption.expiredTime ≠ 0 ∧ redemption.expiredTime < now then
        s.advance i userId .returned
      else s.advance i userId (.found redemption)
    | none => s.advance i userId .returned
  | _ => s

/-- The update of the user. -/
def credit (s : RedeemState) (i : Nat) : RedeemState :=
  match s.calls[i]? with
  | some ⟨userId, .found redemption⟩ =>
    if s.userLocked userId then s else s.advance i userId (.credited redemption)
  | _ => s

/-- `tx.Save(redemption)` -/
def save (s : RedeemState) (i : Nat) (now : Int) : RedeemState :=
  match s.calls[i]? with
  | some ⟨userId, .credited redemption⟩ =>
    if s.codeLocked then s else s.advance i userId (.saved (redemption.redeemedBy userId now))
  | _ => s

/-- The commit of both updates; the call returns the quota. -/
def commit (s : RedeemState) (i : Nat) : RedeemState :=
  match s.calls[i]? with
  | some ⟨userId, .saved redemption⟩ =>
    { s.advance i userId .returned with
      users := s.users.update userId (User.addQuota redemption.quota)
      codes := s.codes.set redemption
      paid := s.paid ++ [(userId, redemption.quota)] }
  | _ => s

/-- The call returns `ErrRedeemFailed`. -/
def rollback (s : RedeemState) (i : Nat) : RedeemState :=
  match s.calls[i]? with
  | some ⟨userId, _⟩ => s.advance i userId .returned
  | none => s

/-- One event of the calls for a key. -/
def step (key : String) (s : RedeemState) : RedeemEvent → RedeemState
  | .call userId => s.call key userId
  | .read i now => s.read key i now
  | .credit i => s.credit i
  | .save i now => s.save i now
  | .commit i => s.commit i
  | .rollback i => s.rollback i

end RedeemState

end TokenRouter
