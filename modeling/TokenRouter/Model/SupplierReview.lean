import TokenRouter.Model.Supplier

/-!
# Reviewed recommendations about suppliers

`model/supplier_posture_recommendation.go` and `model/supplier_evaluation.go` run the same
workflow: rows are generated from scorecards by an upsert on their key, a reviewer approves
or rejects them, and an approved row is applied to the supplier once. `ReviewKind` holds
what the two do differently; their own definitions are in `SupplierPosture` and
`SupplierEvaluation`.

A review reads the row and writes it in two statements of no transaction. Applying runs in
a transaction that locks the row first.
-/

namespace TokenRouter

/-- `Status`; evaluations do not use `applied`. -/
inductive ReviewStatus where
  | draft
  | approved
  | rejected
  | applied
  deriving DecidableEq

/-- The columns that a review writes. -/
structure ReviewAudit where
  status : ReviewStatus := .draft
  reviewedAt : Int := 0
  reviewedBy : Int := 0
  reviewNote : String := ""
  deriving DecidableEq

/-- The columns that applying writes. -/
structure ApplyAudit where
  appliedAt : Int := 0
  appliedBy : Int := 0
  appliedNote : String := ""
  supplierStatusBefore : ChannelStatus := .unknown
  supplierStatusAfter : ChannelStatus := .unknown
  deriving DecidableEq

/-- A row with the content `γ` that generation writes. -/
structure ReviewedRow (γ : Type) where
  id : Nat
  key : String
  content : γ
  generatedAt : Int := 0
  review : ReviewAudit := {}
  applied : ApplyAudit := {}

/-- A table of reviewed rows; the key is unique too. -/
abbrev ReviewedRows (γ : Type) := Table (ReviewedRow γ) (·.id)

/-- What the two kinds of rows do differently. `ι` is what generation reads, `α` the kind of
    action that a row recommends. -/
structure ReviewKind (γ ι α : Type) where
  /-- what generation builds for the present suppliers, by key -/
  build : Suppliers → ι → Except String (List (String × γ))
  /-- the recommended action -/
  action : γ → α
  /-- `SupplierId` -/
  supplierId : γ → Int
  /-- the normaliser of status texts; `none` is the empty text -/
  normalizeStatus : String → Option ReviewStatus
  /-- rows that can no longer be reviewed -/
  refusesReview : ReviewedRow γ → Bool
  reviewRefusal : String
  unapproved : String
  alreadyApplied : String
  /-- the supplier status that applying writes -/
  targetSupplierStatus : α → ChannelStatus → ChannelStatus
  applyNote : ReviewedRow γ → Int → String → String
  /-- the change of the supplier's route preference -/
  applyPreference : SupplierRoutePreferences → ReviewedRow γ → Int → String → Timestamp →
    SupplierRoutePreferences
  /-- the status that applying writes, if it writes one -/
  appliedStatus : Option ReviewStatus

section

variable {γ ι α : Type} (kind : ReviewKind γ ι α)

/-- One row of the `INSERT ... ON CONFLICT (key) DO UPDATE`. -/
def upsertReviewed (now : Timestamp) (rows : ReviewedRows γ) (b : String × γ) : ReviewedRows γ :=
  rows.upsertOn (·.key) b.1
    (fun row => { row with content := b.2, generatedAt := now.unix })
    (fun id => { id := id, key := b.1, content := b.2, generatedAt := now.unix })

/-- Generation: every row built is upserted. -/
def generateReviewed (rows : ReviewedRows γ) (suppliers : Suppliers) (input : ι)
    (now : Timestamp) : Except String (ReviewedRows γ) := do
  let built ← kind.build suppliers input
  return built.foldl (upsertReviewed now) rows

/-- The first half of a review: the checks of the status text and of the row read. -/
def checkReview (row : Option (ReviewedRow γ)) (status : String) : Except String ReviewStatus :=
  let status := kind.normalizeStatus status
  if status = none ∨ status = some .draft ∨ status = some .applied then
    .error "review status must be approved or rejected"
  else
    match row with
    | none => .error "record not found"
    | some row =>
      if kind.refusesReview row then .error kind.reviewRefusal
      else .ok (status.getD .draft)

/-- The second half of a review: the update by id. -/
def writeReview (rows : ReviewedRows γ) (id : Nat) (status : ReviewStatus) (reviewedBy : Int)
    (reviewNote : String) (now : Timestamp) : ReviewedRows γ :=
  rows.update id fun row =>
    { row with
      review :=
        { status := status
          reviewedAt := now.unix
          reviewedBy := reviewedBy
          reviewNote := trimSpace reviewNote } }

/-- `appendSupplierPostureNote`, `appendSupplierEvaluationNote` -/
def appendSupplierNote (existing addition : String) : String :=
  if trimSpace existing = "" then addition else trimSpace existing ++ "\n" ++ addition

/-- The three tables that applying writes. -/
structure ApplyTables (γ : Type) where
  rows : ReviewedRows γ
  suppliers : Suppliers
  preferences : SupplierRoutePreferences

/-- The row after it is applied. -/
def appliedRow (row : ReviewedRow γ) (supplier : Supplier) (appliedBy : Int) (note : String)
    (now : Timestamp) : ReviewedRow γ :=
  { row with
    review := { row.review with status := kind.appliedStatus.getD row.review.status }
    applied :=
      { appliedAt := now.unix
        appliedBy := appliedBy
        appliedNote := kind.applyNote row appliedBy note
        supplierStatusBefore := supplier.status
        supplierStatusAfter := kind.targetSupplierStatus (kind.action row.content) supplier.status } }

/-- The supplier after a row is applied to it. -/
def appliedSupplier (row : ReviewedRow γ) (supplier : Supplier) (appliedBy : Int) (note : String)
    (now : Timestamp) : Supplier :=
  { supplier with
    status := kind.targetSupplierStatus (kind.action row.content) supplier.status
    notes := appendSupplierNote supplier.notes (kind.applyNote row appliedBy note)
    updatedTime := now.unix }

/-- The transaction that applies a row. -/
def applyReviewed (t : ApplyTables γ) (id : Nat) (appliedBy : Int) (operatorNote : String)
    (now : Timestamp) : Except String (ApplyTables γ) :=
  match t.rows.find? id with
  | none => .error "record not found"
  | some row =>
    if row.review.status ≠ .approved then .error kind.unapproved
    else if 0 < row.applied.appliedAt then .error kind.alreadyApplied
    else
      match t.suppliers.first (kind.supplierId row.content) with
      | none => .error "record not found"
      | some supplier =>
        let note := trimSpace operatorNote
        .ok
          { rows := t.rows.set (appliedRow kind row supplier appliedBy note now)
            suppliers := t.suppliers.set (appliedSupplier kind row supplier appliedBy note now)
            preferences := kind.applyPreference t.preferences row appliedBy note now }

end

end TokenRouter
