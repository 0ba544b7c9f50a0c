import TokenRouter.Model.SupplierEvaluation
import TokenRouter.ForStd.Run

/-!
# What was approved and what is applied to a supplier

`ReviewWorld` interleaves generation, the reads and writes of reviews, and the applying
transaction, for any kind of reviewed row. A row is applied at most once, and with the
action it carries while it is approved; generation refreshes that action in place. A review
whose write comes after the row was applied changes its status again, so the last part
is about runs in which no review is that late.

## Key results

- `mem_generatedReviews`: the rows after a generation
- `ReviewWorld.inv_step`: one invariant for all steps
- `applied_as_recommended`: the result for both kinds of rows
- `refreshed_action_applied`: a supplier is boosted after its disabling was approved
-/

namespace TokenRouter

variable {γ ι α : Type}

/-! ## The rows after a generation -/

theorem mem_upsertReviewed (now : Timestamp) {t : ReviewedRows γ} {b : String × γ}
    (ht : t.UniqueOn (·.key)) {r : ReviewedRow γ} :
    r ∈ (upsertReviewed now t b).rows ↔
      (r ∈ t.rows ∧ r.key ≠ b.1) ∨
      (∃ r₀ ∈ t.rows, r₀.key = b.1 ∧ r = { r₀ with content := b.2, generatedAt := now.unix }) ∨
      ((∀ x ∈ t.rows, x.key ≠ b.1) ∧
        r = { id := t.nextId, key := b.1, content := b.2, generatedAt := now.unix }) := by
  apply Table.mem_upsertOn ht
  · exact fun _ => rfl
  · exact fun _ => rfl

theorem uniqueOn_upsertReviewed {now : Timestamp} {t : ReviewedRows γ} {b : String × γ}
    (ht : t.UniqueOn (·.key)) : (upsertReviewed now t b).UniqueOn (·.key) := by
  apply ht.upsertOn
  · exact fun _ => rfl
  · exact fun _ => rfl
  · exact fun _ => rfl
  · exact fun _ => rfl

theorem uniqueOn_generatedReviews {now : Timestamp} {bs : List (String × γ)} {t : ReviewedRows γ}
    (ht : t.UniqueOn (·.key)) : (bs.foldl (upsertReviewed now) t).UniqueOn (·.key) := by
  induction bs generalizing t with
  | nil => exact ht
  | cons b bs ih => exact ih (uniqueOn_upsertReviewed ht)

/-- A row and what a generation makes of it. -/
structure Refreshed (bs : List (String × γ)) (r₀ r : ReviewedRow γ) : Prop where
  id : r.id = r₀.id
  key : r.key = r₀.key
  review : r.review = r₀.review
  applied : r.applied = r₀.applied
  content : r.content = r₀.content ∨ (r₀.key, r.content) ∈ bs

theorem Refreshed.refl (bs : List (String × γ)) (r : ReviewedRow γ) : Refreshed bs r r :=
  ⟨rfl, rfl, rfl, rfl, .inl rfl⟩

/-- A row that `b` refreshes and the rest of the rows built refreshes once more. -/
theorem Refreshed.cons {bs : List (String × γ)} {b : String × γ} {now : Int}
    {r₀ r : ReviewedRow γ} (hkey : r₀.key = b.1)
    (h : Refreshed bs { r₀ with content := b.2, generatedAt := now } r) :
    Refreshed (b :: bs) r₀ r where
  id := h.id
  key := h.key
  review := h.review
  applied := h.applied
  content := by
    rcases h.content with hcontent | hmem
    · rw [hcontent, hkey]
      exact .inr List.mem_cons_self
    · exact .inr (List.mem_cons_of_mem b hmem)

theorem Refreshed.tail {bs : List (String × γ)} {b : String × γ} {r₀ r : ReviewedRow γ}
    (h : Refreshed bs r₀ r) : Refreshed (b :: bs) r₀ r :=
  ⟨h.id, h.key, h.review, h.applied, h.content.imp_right (List.mem_cons_of_mem b)⟩

/-- A row after a generation is an old one refreshed, or a new draft. -/
theorem mem_generatedReviews {now : Timestamp} {bs : List (String × γ)} {t : ReviewedRows γ}
    (ht : t.UniqueOn (·.key)) {r : ReviewedRow γ}
    (h : r ∈ (bs.foldl (upsertReviewed now) t).rows) :
    (∃ r₀ ∈ t.rows, Refreshed bs r₀ r) ∨ (r.review = {} ∧ r.applied = {}) := by
  induction bs generalizing t with
  | nil => exact .inl ⟨r, h, Refreshed.refl _ r⟩
  | cons b bs ih =>
    rcases ih (uniqueOn_upsertReviewed ht) h with ⟨r₁, hr₁, href⟩ | hdraft
    · rcases (mem_upsertReviewed now ht).mp hr₁ with ⟨hr₁, -⟩ | ⟨r₀, hr₀, hkey, rfl⟩ | ⟨-, rfl⟩
      · exact .inl ⟨r₁, hr₁, href.tail⟩
      · exact .inl ⟨r₀, hr₀, href.cons hkey⟩
      · exact .inr ⟨href.review, href.applied⟩
    · exact .inr hdraft

/-- Every row survives a generation, refreshed. -/
theorem generatedReviews_keep (now : Timestamp) (bs : List (String × γ)) {t : ReviewedRows γ}
    (ht : t.UniqueOn (·.key)) {r₀ : ReviewedRow γ} (h : r₀ ∈ t.rows) :
    ∃ r ∈ (bs.foldl (upsertReviewed now) t).rows, Refreshed bs r₀ r := by
  induction bs generalizing t r₀ with
  | nil => exact ⟨r₀, h, Refreshed.refl _ r₀⟩
  | cons b bs ih =>
    by_cases hkey : r₀.key = b.1
    · obtain ⟨r, hr, href⟩ := ih (uniqueOn_upsertReviewed ht)
        ((mem_upsertReviewed now ht).mpr (.inr (.inl ⟨r₀, h, hkey, rfl⟩)))
      exact ⟨r, hr, href.cons hkey⟩
    · obtain ⟨r, hr, href⟩ := ih (uniqueOn_upsertReviewed ht)
        ((mem_upsertReviewed now ht).mpr (.inl ⟨h, hkey⟩))
      exact ⟨r, hr, href.tail⟩

/-! ## Runs -/

/-- A review that has passed its checks and has not written yet. -/
structure PendingReview where
  id : Nat
  status : ReviewStatus
  reviewedBy : Int
  reviewNote : String

/-- An application that was carried out: the row, its content then, and the content it had
    when it was last approved. -/
structure Performed (γ : Type) where
  id : Nat
  content : γ
  approved : Option γ

/-- The tables, the reviews under way, and what is recorded of the past. -/
structure ReviewWorld (γ : Type) where
  tables : ApplyTables γ
  pending : Nat → Option PendingReview := fun _ => none
  approvedAs : Nat → Option γ := fun _ => none
  performed : List (Performed γ) := []

/-- The steps. -/
inductive ReviewEvent (ι : Type) where
  | generate (input : ι) (now : Timestamp)
  /-- the read of a review and its checks -/
  | readReview (call id : Nat) (status : String) (reviewedBy : Int) (reviewNote : String)
  /-- the update of a review -/
  | writeReview (call : Nat) (now : Timestamp)
  /-- the update fails, or the process is killed -/
  | stopReview (call : Nat)
  | apply (id : Nat) (appliedBy : Int) (operatorNote : String) (now : Timestamp)
  /-- suppliers and preferences change otherwise -/
  | environment (suppliers : Suppliers) (preferences : SupplierRoutePreferences)

namespace ReviewWorld

variable (kind : ReviewKind γ ι α)

/-- The reviews under way after a review has read its row. -/
def startReview (w : ReviewWorld γ) (call id : Nat) (status : String) (reviewedBy : Int)
    (reviewNote : String) : Nat → Option PendingReview :=
  Function.update w.pending call
    (match checkReview kind (w.tables.rows.find? id) status with
    | .error _ => none
    | .ok status => some ⟨id, status, reviewedBy, reviewNote⟩)

/-- The record of approvals after a review is written. -/
def noteReview (w : ReviewWorld γ) (u : PendingReview) : Nat → Option γ :=
  if u.status = .approved then
    Function.update w.approvedAs u.id ((w.tables.rows.find? u.id).map (·.content))
  else w.approvedAs

/-- The record of applications after a row is applied. -/
def noteApply (w : ReviewWorld γ) (id : Nat) : List (Performed γ) :=
  match w.tables.rows.find? id with
  | none => w.performed
  | some row => ⟨id, row.content, w.approvedAs id⟩ :: w.performed

/-- One step; what fails changes nothing. -/
def step (w : ReviewWorld γ) : ReviewEvent ι → ReviewWorld γ
  | .generate input now =>
    match generateReviewed kind w.tables.rows w.tables.suppliers input now with
    | .error _ => w
    | .ok rows => { w with tables := { w.tables with rows := rows } }
  | .readReview call id status reviewedBy reviewNote =>
    { w with pending := startReview kind w call id status reviewedBy reviewNote }
  | .writeReview call now =>
    match w.pending call with
    | none => w
    | some u =>
      { w with
        tables :=
          { w.tables with
            rows := writeReview w.tables.rows u.id u.status u.reviewedBy u.reviewNote now }
        pending := Function.update w.pending call none
        approvedAs := w.noteReview u }
  | .stopReview call => { w with pending := Function.update w.pending call none }
  | .apply id appliedBy operatorNote now =>
    match applyReviewed kind w.tables id appliedBy operatorNote now with
    | .error _ => w
    | .ok tables => { w with tables := tables, performed := w.noteApply id }
  | .environment suppliers preferences =>
    { w with tables := { w.tables with suppliers := suppliers, preferences := preferences } }

/-- No row yet; suppliers and preferences are what they are. -/
def start (suppliers : Suppliers) (preferences : SupplierRoutePreferences) : ReviewWorld γ :=
  { tables := { rows := Table.empty, suppliers := suppliers, preferences := preferences } }

/-! ## The properties -/

/-- Every action that was performed is the recommended action of the row when it was
    approved. -/
def PerformedAsApproved (w : ReviewWorld γ) : Prop :=
  ∀ p ∈ w.performed, p.approved.map kind.action = some (kind.action p.content)

instance [DecidableEq α] (w : ReviewWorld γ) : Decidable (PerformedAsApproved kind w) :=
  inferInstanceAs (Decidable (∀ p ∈ w.performed,
    p.approved.map kind.action = some (kind.action p.content)))

/-- No row is applied twice. -/
def AppliedOnce (w : ReviewWorld γ) : Prop := (w.performed.map (·.id)).Nodup

/-- Applying performs the action that the row carries, on an approved row that was not
    applied before, and on no other row. -/
def AppliesRecommended (w : ReviewWorld γ) : ReviewEvent ι → Prop
  | .apply id appliedBy operatorNote now =>
    let w' := step kind w (.apply id appliedBy operatorNote now)
    w' = w ∨ ∃ row supplier, w.tables.rows.find? id = some row ∧ row.review.status = .approved ∧
      row.applied.appliedAt ≤ 0 ∧
      w.tables.suppliers.first (kind.supplierId row.content) = some supplier ∧
      w'.performed = ⟨id, row.content, w.approvedAs id⟩ :: w.performed ∧
      w'.tables.suppliers = w.tables.suppliers.set
        (appliedSupplier kind row supplier appliedBy (trimSpace operatorNote) now) ∧
      w'.tables.preferences = kind.applyPreference w.tables.preferences row appliedBy
        (trimSpace operatorNote) now
  | .generate input now =>
    (step kind w (.generate input now)).performed = w.performed ∧
    ∀ r₀ ∈ w.tables.rows.rows, ∃ r ∈ (step kind w (.generate input now)).tables.rows.rows,
      r.id = r₀.id ∧ r.review = r₀.review ∧ r.applied = r₀.applied
  | e => (step kind w e).performed = w.performed

/-- A generation rebuilds the rows it covers that are approved and not yet applied with the
    action they recommend. -/
def RebuildsAlike (w : ReviewWorld γ) : ReviewEvent ι → Prop
  | .generate input _ =>
    ∀ bs, kind.build w.tables.suppliers input = .ok bs → ∀ b ∈ bs, ∀ r ∈ w.tables.rows.rows,
      r.review.status = .approved → r.applied.appliedAt ≤ 0 → r.key = b.1 →
      kind.action b.2 = kind.action r.content
  | _ => True

/-- No review writes to a row that was applied after the review has read it. -/
def ReviewInTime (w : ReviewWorld γ) : ReviewEvent ι → Prop
  | .writeReview call _ => ∀ u, w.pending call = some u →
      ∀ row, w.tables.rows.find? u.id = some row → row.applied.appliedAt ≤ 0
  | _ => True

/-- A row that is applied keeps its status and stays applied. -/
def AppliedStays (w w' : ReviewWorld γ) : Prop :=
  ∀ r ∈ w.tables.rows.rows, 0 < r.applied.appliedAt →
    ∃ r' ∈ w'.tables.rows.rows, r'.id = r.id ∧ r'.review.status = r.review.status ∧
      r'.applied = r.applied

/-! ## What one step does -/

theorem step_generate (w : ReviewWorld γ) (input : ι) (now : Timestamp) :
    step kind w (.generate input now) = w ∨
    ∃ bs, kind.build w.tables.suppliers input = .ok bs ∧
      step kind w (.generate input now) =
        { w with tables := { w.tables with rows := bs.foldl (upsertReviewed now) w.tables.rows } } := by
  simp only [step, generateReviewed, bind, Except.bind, pure, Except.pure]
  cases kind.build w.tables.suppliers input with
  | error e => exact .inl rfl
  | ok bs => exact .inr ⟨bs, rfl, rfl⟩

/-- A review that writes replaces the review of one row, or finds no row. -/
theorem step_writeReview (w : ReviewWorld γ) (call : Nat) (now : Timestamp) :
    step kind w (.writeReview call now) = w ∨
    ∃ u, w.pending call = some u ∧
      (step kind w (.writeReview call now)).performed = w.performed ∧
      (step kind w (.writeReview call now)).approvedAs = w.noteReview u ∧
      ((w.tables.rows.find? u.id = none ∧
          (step kind w (.writeReview call now)).tables.rows = w.tables.rows) ∨
        ∃ row review, w.tables.rows.find? u.id = some row ∧ review.status = u.status ∧
          (step kind w (.writeReview call now)).tables.rows =
            w.tables.rows.set { row with review := review }) := by
  simp only [step, writeReview, Table.update]
  cases hu : w.pending call with
  | none => exact .inl rfl
  | some u =>
    refine .inr ⟨u, rfl, rfl, rfl, ?_⟩
    dsimp only
    cases hfind : w.tables.rows.find? u.id with
    | none => exact .inl ⟨rfl, rfl⟩
    | some row => exact .inr ⟨row, _, rfl, rfl, rfl⟩

/-- Applying a row: it is approved and was not applied, and the row and its supplier are
    written. -/
theorem step_apply (w : ReviewWorld γ) (id : Nat) (appliedBy : Int) (operatorNote : String)
    (now : Timestamp) :
    step kind w (.apply id appliedBy operatorNote now) = w ∨
    ∃ row supplier, w.tables.rows.find? id = some row ∧ row.review.status = .approved ∧
      row.applied.appliedAt ≤ 0 ∧
      w.tables.suppliers.first (kind.supplierId row.content) = some supplier ∧
      step kind w (.apply id appliedBy operatorNote now) =
        { w with
          tables :=
            { rows := w.tables.rows.set
                (appliedRow kind row supplier appliedBy (trimSpace operatorNote) now)
              suppliers := w.tables.suppliers.set
                (appliedSupplier kind row supplier appliedBy (trimSpace operatorNote) now)
              preferences := kind.applyPreference w.tables.preferences row appliedBy
                (trimSpace operatorNote) now }
          performed := ⟨id, row.content, w.approvedAs id⟩ :: w.performed } := by
  simp only [step, applyReviewed, noteApply]
  cases hfind : w.tables.rows.find? id with
  | none => exact .inl rfl
  | some row =>
    dsimp only
    by_cases happroved : row.review.status = .approved
    · rw [if_neg (not_not.mpr happroved)]
      by_cases happlied : 0 < row.applied.appliedAt
      · rw [if_pos happlied]
        exact .inl rfl
      · rw [if_neg happlied]
        cases hsupplier : w.tables.suppliers.first (kind.supplierId row.content) with
        | none => exact .inl rfl
        | some supplier =>
          exact .inr ⟨row, supplier, rfl, happroved, not_lt.mp happlied, hsupplier, rfl⟩
    · rw [if_pos happroved]
      exact .inl rfl

variable {kind}

/-! ## The invariants -/

/-- Keys are unique, and a row whose action was performed is marked as applied. -/
structure Inv (w : ReviewWorld γ) : Prop where
  unique : w.tables.rows.UniqueOn (·.key)
  marked : ∀ p ∈ w.performed, ∃ r ∈ w.tables.rows.rows, r.id = p.id ∧ 0 < r.applied.appliedAt
  once : w.AppliedOnce

theorem inv_start (suppliers : Suppliers) (preferences : SupplierRoutePreferences) :
    Inv (start suppliers preferences : ReviewWorld γ) where
  unique := Table.uniqueOn_empty
  marked := fun p hp => by cases hp
  once := List.nodup_nil

/-- What is marked stays marked when one row is overwritten by one that is as applied. -/
theorem marked_set {rows : ReviewedRows γ} {row : ReviewedRow γ} (row' : ReviewedRow γ)
    (hfind : rows.find? row'.id = some row)
    (happlied : 0 < row.applied.appliedAt → 0 < row'.applied.appliedAt) {id : Nat}
    (h : ∃ r ∈ rows.rows, r.id = id ∧ 0 < r.applied.appliedAt) :
    ∃ r ∈ (rows.set row').rows, r.id = id ∧ 0 < r.applied.appliedAt := by
  obtain ⟨r, hr, hid, hpos⟩ := h
  by_cases hk : r.id = row'.id
  · have hsame : r = row :=
      rows.eq_of_key_eq hr (Table.find?_mem hfind) (hk.trans (Table.find?_key hfind).symm)
    refine ⟨row', Table.mem_set_self hfind, hk.symm.trans hid, happlied ?_⟩
    rw [← hsame]
    exact hpos
  · exact ⟨r, Table.mem_set_of_ne hr hk, hid, hpos⟩

theorem inv_step (w : ReviewWorld γ) (e : ReviewEvent ι) (hw : Inv w) : Inv (step kind w e) := by
  cases e with
  | generate input now =>
    rcases step_generate kind w input now with h | ⟨bs, -, h⟩
    · rw [h]
      exact hw
    · rw [h]
      refine ⟨uniqueOn_generatedReviews hw.unique, ?_, hw.once⟩
      intro p hp
      obtain ⟨r₀, hr₀, hid, hpos⟩ := hw.marked p hp
      obtain ⟨r, hr, href⟩ := generatedReviews_keep now bs hw.unique hr₀
      exact ⟨r, hr, href.id.trans hid, href.applied ▸ hpos⟩
  | readReview call id status reviewedBy reviewNote => exact ⟨hw.unique, hw.marked, hw.once⟩
  | stopReview call => exact ⟨hw.unique, hw.marked, hw.once⟩
  | environment suppliers preferences => exact ⟨hw.unique, hw.marked, hw.once⟩
  | writeReview call now =>
    rcases step_writeReview kind w call now with
      h | ⟨u, -, hperf, -, ⟨-, hrows⟩ | ⟨row, review, hfind, -, hrows⟩⟩
    · rw [h]
      exact hw
    · refine ⟨?_, ?_, ?_⟩
      · rw [hrows]
        exact hw.unique
      · rw [hrows, hperf]
        exact hw.marked
      · rw [AppliedOnce, hperf]
        exact hw.once
    · have hself : w.tables.rows.find? row.id = some row := by
        rw [Table.find?_key hfind]
        exact hfind
      refine ⟨?_, ?_, ?_⟩
      · rw [hrows]
        exact hw.unique.set hself rfl
      · rw [hrows, hperf]
        intro p hp
        exact marked_set { row with review := review } hself id (hw.marked p hp)
      · rw [AppliedOnce, hperf]
        exact hw.once
  | apply id appliedBy operatorNote now =>
    rcases step_apply kind w id appliedBy operatorNote now with
      h | ⟨row, supplier, hfind, -, hunapplied, -, h⟩
    · rw [h]
      exact hw
    · rw [h]
      have hid : row.id = id := Table.find?_key hfind
      have hself : w.tables.rows.find? row.id = some row := hid ▸ hfind
      refine ⟨hw.unique.set hself rfl, ?_, ?_⟩
      · intro p hp
        rcases List.mem_cons.mp hp with rfl | hp
        · exact ⟨_, Table.mem_set_self hself, hid, now.pos⟩
        · exact marked_set (appliedRow kind row supplier appliedBy (trimSpace operatorNote) now)
            hself (fun _ => now.pos) (hw.marked p hp)
      · -- an entry of this row would have marked it
        refine List.nodup_cons.mpr ⟨?_, hw.once⟩
        intro hmem
        obtain ⟨p, hp, hpid⟩ := List.mem_map.mp hmem
        obtain ⟨r, hr, hrid, hpos⟩ := hw.marked p hp
        have hsame : r = row := by
          apply w.tables.rows.eq_of_key_eq hr (Table.find?_mem hfind)
          rw [hrid, hpid, hid]
        rw [hsame] at hpos
        omega

/-- What was approved is what a row recommends until it is applied, and what is performed. -/
structure AsApproved (kind : ReviewKind γ ι α) (w : ReviewWorld γ) : Prop where
  rows : ∀ r ∈ w.tables.rows.rows, r.review.status = .approved → r.applied.appliedAt ≤ 0 →
    (w.approvedAs r.id).map kind.action = some (kind.action r.content)
  performed : PerformedAsApproved kind w

theorem asApproved_start (suppliers : Suppliers) (preferences : SupplierRoutePreferences) :
    AsApproved kind (start suppliers preferences : ReviewWorld γ) where
  rows := fun r hr => by cases hr
  performed := fun p hp => by cases hp

/-- While generations rebuild approved rows alike, what was approved stays. -/
theorem asApproved_step (w : ReviewWorld γ) (e : ReviewEvent ι) (hw : Inv w ∧ AsApproved kind w)
    (halike : RebuildsAlike kind w e) : AsApproved kind (step kind w e) := by
  obtain ⟨hinv, happ⟩ := hw
  cases e with
  | generate input now =>
    rcases step_generate kind w input now with h | ⟨bs, hbuild, h⟩
    · rw [h]
      exact happ
    · rw [h]
      refine ⟨?_, happ.performed⟩
      intro r hr hstatus hunapplied
      rcases mem_generatedReviews hinv.unique hr with ⟨r₀, hr₀, href⟩ | ⟨hdraft, -⟩
      · have hstatus₀ : r₀.review.status = .approved := href.review ▸ hstatus
        have hunapplied₀ : r₀.applied.appliedAt ≤ 0 := href.applied ▸ hunapplied
        have hsame : kind.action r.content = kind.action r₀.content := by
          rcases href.content with hcontent | hbuilt
          · rw [hcontent]
          · exact halike bs hbuild _ hbuilt r₀ hr₀ hstatus₀ hunapplied₀ rfl
        show (w.approvedAs r.id).map kind.action = some (kind.action r.content)
        rw [href.id, hsame]
        exact happ.rows r₀ hr₀ hstatus₀ hunapplied₀
      · rw [hdraft] at hstatus
        cases hstatus
  | readReview call id status reviewedBy reviewNote => exact ⟨happ.rows, happ.performed⟩
  | stopReview call => exact ⟨happ.rows, happ.performed⟩
  | environment suppliers preferences => exact ⟨happ.rows, happ.performed⟩
  | writeReview call now =>
    rcases step_writeReview kind w call now with
      h | ⟨u, -, hperf, hnote, hwrite⟩
    · rw [h]
      exact happ
    · refine ⟨?_, ?_⟩
      · intro r hr hstatus hunapplied
        rw [hnote, noteReview]
        rcases hwrite with ⟨hnone, hrows⟩ | ⟨row, review, hfind, hreview, hrows⟩
        · rw [hrows] at hr
          have hne : r.id ≠ u.id := Table.find?_eq_none_iff.mp hnone r hr
          split
          · rw [Function.update_of_ne hne]
            exact happ.rows r hr hstatus hunapplied
          · exact happ.rows r hr hstatus hunapplied
        · rw [hrows] at hr
          have hid : row.id = u.id := Table.find?_key hfind
          rcases Table.mem_set hr with rfl | ⟨hr, hne⟩
          · rw [if_pos (hreview.symm.trans hstatus)]
            show (Function.update w.approvedAs u.id _ row.id).map kind.action = _
            rw [hid, Function.update_self, hfind]
            rfl
          · have hne' : r.id ≠ u.id := fun hc => hne (hc.trans hid.symm)
            split
            · rw [Function.update_of_ne hne']
              exact happ.rows r hr hstatus hunapplied
            · exact happ.rows r hr hstatus hunapplied
      · rw [PerformedAsApproved, hperf]
        exact happ.performed
  | apply id appliedBy operatorNote now =>
    rcases step_apply kind w id appliedBy operatorNote now with
      h | ⟨row, supplier, hfind, happroved, hunapplied, -, h⟩
    · rw [h]
      exact happ
    · rw [h]
      have hid : row.id = id := Table.find?_key hfind
      refine ⟨?_, ?_⟩
      · intro r hr hstatus hle
        rcases Table.mem_set hr with rfl | ⟨hr, -⟩
        · exact absurd now.pos (not_lt.mpr hle)
        · exact happ.rows r hr hstatus hle
      · intro p hp
        rcases List.mem_cons.mp hp with rfl | hp
        · show (w.approvedAs id).map kind.action = some (kind.action row.content)
          rw [← hid]
          exact happ.rows row (Table.find?_mem hfind) happroved hunapplied
        · exact happ.performed p hp

/-- Every step of a run applies what is recommended. -/
theorem appliesRecommended (w : ReviewWorld γ) (e : ReviewEvent ι) (hw : Inv w) :
    AppliesRecommended kind w e := by
  cases e with
  | generate input now =>
    show (step kind w (.generate input now)).performed = w.performed ∧ _
    rcases step_generate kind w input now with h | ⟨bs, -, h⟩
    · rw [h]
      exact ⟨rfl, fun r hr => ⟨r, hr, rfl, rfl, rfl⟩⟩
    · rw [h]
      refine ⟨rfl, ?_⟩
      intro r₀ hr₀
      obtain ⟨r, hr, href⟩ := generatedReviews_keep now bs hw.unique hr₀
      exact ⟨r, hr, href.id, href.review, href.applied⟩
  | apply id appliedBy operatorNote now =>
    rcases step_apply kind w id appliedBy operatorNote now with
      h | ⟨row, supplier, hfind, happroved, hunapplied, hsupplier, h⟩
    · exact .inl h
    · refine .inr ⟨row, supplier, hfind, happroved, hunapplied, hsupplier, ?_⟩
      rw [h]
      exact ⟨rfl, rfl, rfl⟩
  | readReview call id status reviewedBy reviewNote => rfl
  | stopReview call => rfl
  | environment suppliers preferences => rfl
  | writeReview call now =>
    show (step kind w (.writeReview call now)).performed = w.performed
    rcases step_writeReview kind w call now with h | ⟨u, -, hperf, -⟩
    · rw [h]
    · exact hperf

/-! ## Applied rows -/

theorem AppliedStays.refl (w : ReviewWorld γ) : AppliedStays w w :=
  fun r hr _ => ⟨r, hr, rfl, rfl, rfl⟩

theorem AppliedStays.trans (a b c : ReviewWorld γ) (hab : AppliedStays a b)
    (hbc : AppliedStays b c) : AppliedStays a c := by
  intro r hr hpos
  obtain ⟨r₁, hr₁, hid₁, hstatus₁, happlied₁⟩ := hab r hr hpos
  obtain ⟨r₂, hr₂, hid₂, hstatus₂, happlied₂⟩ := hbc r₁ hr₁ (happlied₁ ▸ hpos)
  exact ⟨r₂, hr₂, hid₂.trans hid₁, hstatus₂.trans hstatus₁, happlied₂.trans happlied₁⟩

/-- Overwriting a row that is not applied leaves the applied ones alone. -/
theorem appliedStays_set {w w' : ReviewWorld γ} {row : ReviewedRow γ} (row' : ReviewedRow γ)
    (hfind : w.tables.rows.find? row'.id = some row) (hle : row.applied.appliedAt ≤ 0)
    (h : w'.tables.rows = w.tables.rows.set row') : AppliedStays w w' := by
  intro r hr hpos
  refine ⟨r, ?_, rfl, rfl, rfl⟩
  rw [h]
  apply Table.mem_set_of_ne hr
  intro hk
  have hsame : r = row := w.tables.rows.eq_of_key_eq hr (Table.find?_mem hfind)
    (hk.trans (Table.find?_key hfind).symm)
  rw [hsame] at hpos
  omega

theorem appliedStays_step (w : ReviewWorld γ) (e : ReviewEvent ι) (hw : Inv w)
    (htime : ReviewInTime w e) : AppliedStays w (step kind w e) := by
  cases e with
  | generate input now =>
    rcases step_generate kind w input now with h | ⟨bs, -, h⟩
    · rw [h]
      exact AppliedStays.refl w
    · rw [h]
      intro r₀ hr₀ _
      obtain ⟨r, hr, href⟩ := generatedReviews_keep now bs hw.unique hr₀
      exact ⟨r, hr, href.id, by rw [href.review], href.applied⟩
  | readReview call id status reviewedBy reviewNote => exact AppliedStays.refl w
  | stopReview call => exact AppliedStays.refl w
  | environment suppliers preferences => exact AppliedStays.refl w
  | writeReview call now =>
    rcases step_writeReview kind w call now with
      h | ⟨u, hu, -, -, ⟨-, hrows⟩ | ⟨row, review, hfind, -, hrows⟩⟩
    · rw [h]
      exact AppliedStays.refl w
    · intro r hr _
      exact ⟨r, hrows ▸ hr, rfl, rfl, rfl⟩
    · apply appliedStays_set { row with review := review }
      · show w.tables.rows.find? row.id = some row
        rw [Table.find?_key hfind]
        exact hfind
      · exact htime u hu row hfind
      · exact hrows
  | apply id appliedBy operatorNote now =>
    rcases step_apply kind w id appliedBy operatorNote now with
      h | ⟨row, supplier, hfind, -, hle, -, h⟩
    · rw [h]
      exact AppliedStays.refl w
    · rw [h]
      apply appliedStays_set (appliedRow kind row supplier appliedBy (trimSpace operatorNote) now)
      · show w.tables.rows.find? row.id = some row
        rw [Table.find?_key hfind]
        exact hfind
      · exact hle
      · rfl

/-! ## Whole runs -/

/-- What a kind of rows guarantees over every run: each application performs the action that
    the approved row recommends then, no row is applied twice, and generation leaves reviews
    alone; where generations rebuild approved rows alike, it is the action that was approved;
    and where no review is late, an applied row never changes its status. -/
structure AppliesApproved (kind : ReviewKind γ ι α) (w : ReviewWorld γ)
    (es : List (ReviewEvent ι)) : Prop where
  recommended : Run.Steps (step kind) (AppliesRecommended kind) w es
  once : Run.Always (step kind) AppliedOnce w es
  approved : Run.Steps (step kind) (RebuildsAlike kind) w es →
    Run.Always (step kind) (PerformedAsApproved kind) w es
  stays : Run.Steps (step kind) ReviewInTime w es → ∀ es₁ es₂, es = es₁ ++ es₂ →
    AppliedStays (Run.run (step kind) w es₁) (Run.run (step kind) w es)

theorem appliesApproved (kind : ReviewKind γ ι α) (suppliers : Suppliers)
    (preferences : SupplierRoutePreferences) (es : List (ReviewEvent ι)) :
    AppliesApproved kind (start suppliers preferences) es := by
  have hstart : Inv (start suppliers preferences : ReviewWorld γ) := inv_start ..
  have hinv : Run.Always (step kind) Inv (start suppliers preferences) es :=
    Run.always_of_inv inv_step hstart es
  refine ⟨Run.steps_of_always appliesRecommended hinv, hinv.mono fun _ h => h.once, ?_, ?_⟩
  · intro halike
    have hboth : Run.Always (step kind) (fun w => Inv w ∧ AsApproved kind w)
        (start suppliers preferences) es :=
      Run.always_of_steps (fun w e hw h => ⟨inv_step w e hw.1, asApproved_step w e hw h⟩)
        ⟨hstart, asApproved_start suppliers preferences⟩ halike
    exact hboth.mono fun _ h => h.2.performed
  · rintro htime es₁ es₂ rfl
    rw [Run.run_append]
    exact Run.run_rel_of_steps AppliedStays.refl AppliedStays.trans inv_step appliedStays_step
      (Run.run_inv inv_step hstart es₁) (Run.steps_append.mp htime).2

/-- Posture recommendations and evaluations apply what is recommended while approved. -/
theorem applied_as_recommended (suppliers : Suppliers) (preferences : SupplierRoutePreferences)
    (postures : List (ReviewEvent PostureInput))
    (evaluations : List (ReviewEvent EvaluationInput)) :
    AppliesApproved postureKind (start suppliers preferences) postures ∧
      AppliesApproved evaluationKind (start suppliers preferences) evaluations :=
  ⟨appliesApproved postureKind suppliers preferences postures,
    appliesApproved evaluationKind suppliers preferences evaluations⟩

/-- A failing scorecard, and the one that replaces it. -/
def failingScorecard : SupplierScorecard :=
  { id := 1, supplierId := 1, periodStart := 1, periodEnd := 2, score := 40 }

@[inherit_doc failingScorecard]
def strongScorecard : SupplierScorecard :=
  { failingScorecard with totalRequests := 5, score := 95, grade := .a }

/-- The disabling of a supplier is approved; the recommendation is generated again from a
    better scorecard, and applying it boosts the supplier. -/
theorem refreshed_action_applied :
    ¬ ∀ (suppliers : Suppliers) (preferences : SupplierRoutePreferences)
      (es : List (ReviewEvent PostureInput)),
      Run.Always (step postureKind) (PerformedAsApproved postureKind)
        (start suppliers preferences) es := by
  intro h
  have hlast := (h ⟨[{ id := 1 }], by decide⟩ Table.empty
    [.generate { input := { periodStart := 1, periodEnd := 2 }, scorecards := [failingScorecard] }
        ⟨10, by decide⟩,
      .readReview 1 1 "approved" 7 "", .writeReview 1 ⟨11, by decide⟩,
      .generate { input := { periodStart := 1, periodEnd := 2 }, scorecards := [strongScorecard] }
        ⟨12, by decide⟩,
      .apply 1 8 "" ⟨13, by decide⟩]).last
  revert hlast
  decide

end ReviewWorld

end TokenRouter
