import Mathlib.Tactic
import TokenRouter.ForStd.Table

/-!
# Tokens (`model/token.go`, `controller/token.go`)

The rows that the editors of a token load and write back, and the relative updates of billing.
A soft-deleted row stays in the table, and no statement here touches it.
-/

namespace TokenRouter

/-- `common.TokenStatus...`; a request may carry any number. -/
inductive TokenStatus where
  | enabled
  | disabled
  | expired
  | exhausted
  | other (code : Int)
  deriving DecidableEq

/-- `tokens`, with the columns that validation, billing and the editors read. -/
structure TokenRow where
  id : Nat
  userId : Int := 0
  key : String := ""
  status : TokenStatus := .enabled
  expiredTime : Int := -1
  remainQuota : Int := 0
  usedQuota : Int := 0
  unlimitedQuota : Bool := false
  modelLimitsEnabled : Bool := false
  modelLimits : String := ""
  deleted : Bool := false
  deriving DecidableEq

abbrev TokenTable := Table TokenRow (·.id)

namespace TokenRow

/-- The columns that `Token.Update` writes. -/
def updateColumns (copy row : TokenRow) : TokenRow :=
  { row with
    status := copy.status
    expiredTime := copy.expiredTime
    remainQuota := copy.remainQuota
    unlimitedQuota := copy.unlimitedQuota
    modelLimitsEnabled := copy.modelLimitsEnabled
    modelLimits := copy.modelLimits }

/-- The column that `Token.SelectUpdate` writes, besides the time of access. -/
def selectColumns (copy row : TokenRow) : TokenRow := { row with status := copy.status }

/-- `remain_quota + ?`, `used_quota - ?` -/
def addQuota (quota : Int) (row : TokenRow) : TokenRow :=
  { row with remainQuota := row.remainQuota + quota, usedQuota := row.usedQuota - quota }

@[simp] theorem id_updateColumns (copy row : TokenRow) : (updateColumns copy row).id = row.id := rfl
@[simp] theorem id_selectColumns (copy row : TokenRow) : (selectColumns copy row).id = row.id := rfl
@[simp] theorem id_addQuota (quota : Int) (row : TokenRow) : (addQuota quota row).id = row.id := rfl
@[simp] theorem deleted_updateColumns (copy row : TokenRow) :
    (updateColumns copy row).deleted = row.deleted := rfl
@[simp] theorem deleted_addQuota (quota : Int) (row : TokenRow) :
    (addQuota quota row).deleted = row.deleted := rfl

end TokenRow

namespace TokenTable

/-- The row of an id that is not deleted. -/
def live? (t : TokenTable) (id : Nat) : Option TokenRow :=
  (t.find? id).filter fun row => !row.deleted

/-- An `UPDATE` of the row of an id. -/
def updateLive (t : TokenTable) (id : Nat) (f : TokenRow → TokenRow) : TokenTable :=
  t.update id fun row => if row.deleted then row else f row

/-- What an `UPDATE` leaves of the rows that are not deleted. -/
theorem live?_updateLive (t : TokenTable) (id id' : Nat) {f : TokenRow → TokenRow}
    (hid : ∀ row, (f row).id = row.id) (hdel : ∀ row, row.deleted = false → (f row).deleted = false) :
    (t.updateLive id f).live? id' = if id = id' then (t.live? id').map f else t.live? id' := by
  have hkey : ∀ row : TokenRow, (if row.deleted then row else f row).id = row.id := by
    intro row
    split
    · rfl
    · exact hid row
  unfold live? updateLive
  rw [Table.find?_update t id id' hkey]
  by_cases h : id = id'
  · subst h
    cases hrow : t.find? id with
    | none => simp [hrow]
    | some row =>
      cases hd : row.deleted with
      | true => simp [hrow, Option.filter, hd]
      | false => simp [hrow, Option.filter, hd, hdel row hd]
  · simp [h]

end TokenTable

/-! ## The editors -/

/-- The fields of the body of `UpdateToken` that are read with `status_only`. -/
structure TokenRequest where
  id : Nat
  userId : Int
  name : String := ""
  status : TokenStatus := .enabled
  unlimitedQuota : Bool := false
  remainQuota : Int := 0
  deriving DecidableEq

/-- The errors that an edit is refused with. -/
inductive TokenEditError where
  | nameTooLong
  | quotaNegative
  | quotaExceedMax
  | emptyId
  | notFound
  | expiredCannotEnable
  | exhaustedCannotEnable
  deriving DecidableEq

/-- `UpdateToken` with `status_only` up to its write: the row as it was loaded, with the new
    status. `maxQuotaValue` is `1000000000 * QuotaPerUnit`. -/
def readStatusEdit (t : TokenTable) (maxQuotaValue now : Int) (req : TokenRequest) :
    Except TokenEditError TokenRow :=
  if 50 < req.name.utf8ByteSize then .error .nameTooLong
  else if req.unlimitedQuota = false ∧ req.remainQuota < 0 then .error .quotaNegative
  else if req.unlimitedQuota = false ∧ maxQuotaValue < req.remainQuota then .error .quotaExceedMax
  else if req.id = 0 ∨ req.userId = 0 then .error .emptyId
  else
    match (t.live? req.id).filter fun row => row.userId = req.userId with
    | none => .error .notFound
    | some row =>
      if req.status = .enabled ∧ row.status = .expired ∧ row.expiredTime ≤ now ∧
          row.expiredTime ≠ -1 then .error .expiredCannotEnable
      else if req.status = .enabled ∧ row.status = .exhausted ∧ row.remainQuota ≤ 0 ∧
          row.unlimitedQuota = false then .error .exhaustedCannotEnable
      else .ok { row with status := req.status }

/-- `DisableModelLimits` up to its write. -/
def readDisableModelLimits (t : TokenTable) (id : Nat) : Except TokenEditError TokenRow :=
  if id = 0 then .error .emptyId
  else match t.live? id with
  | none => .error .notFound
  | some row => .ok { row with modelLimitsEnabled := false, modelLimits := "" }

/-- The write of `Token.Update`. -/
def TokenTable.writeToken (t : TokenTable) (copy : TokenRow) : TokenTable :=
  t.updateLive copy.id copy.updateColumns

end TokenRouter
