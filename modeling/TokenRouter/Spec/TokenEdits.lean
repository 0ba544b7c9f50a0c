import TokenRouter.ForStd.Run
import TokenRouter.Model.TokenRow

/-!
# Edits of a token against its consumption

An edit loads the whole row, changes one field and later writes a list of columns that
`remain_quota` is one of and `used_quota` is not. Billing changes both by relative updates in
between. What an edit writes is the quota as it was when the row was loaded.

## Key results

- `kept_step_iff`: what one step does to the quota
- `quota_kept_iff_writes_current`: the equivalence over every interleaving
- `consumption_between_resurrected`: a status change that gives consumed quota back
-/

namespace TokenRouter

/-- One token with the edits that have loaded it, and what billing has added and taken. -/
structure TokenEdits where
  tokens : TokenTable
  edits : List TokenRow := []
  increased : Int := 0
  decreased : Int := 0

/-- The steps: billing, and the two halves of an edit. -/
inductive TokenEvent where
  | increase (quota : Int)
  | decrease (quota : Int)
  | readStatus (maxQuotaValue now : Int) (req : TokenRequest)
  | readDisable (id : Nat)
  | write (i : Nat)

namespace TokenEdits

/-- `IncreaseTokenQuota` of a token; a negative quota is refused. -/
def increase (s : TokenEdits) (id : Nat) (quota : Int) : TokenEdits :=
  if quota < 0 then s
  else { s with
    tokens := s.tokens.updateLive id (TokenRow.addQuota quota)
    increased := s.increased + quota }

/-- `DecreaseTokenQuota`. -/
def decrease (s : TokenEdits) (id : Nat) (quota : Int) : TokenEdits :=
  if quota < 0 then s
  else { s with
    tokens := s.tokens.updateLive id (TokenRow.addQuota (-quota))
    decreased := s.decreased + quota }

/-- A row that was loaded for an edit; a refused edit ends. -/
def load (s : TokenEdits) : Except TokenEditError TokenRow → TokenEdits
  | .ok copy => { s with edits := s.edits ++ [copy] }
  | .error _ => s

/-- One step around the token of an id. Edits may be about other tokens too. -/
def step (id : Nat) (s : TokenEdits) : TokenEvent → TokenEdits
  | .increase quota => s.increase id quota
  | .decrease quota => s.decrease id quota
  | .readStatus maxQuotaValue now req => s.load (readStatusEdit s.tokens maxQuotaValue now req)
  | .readDisable id => s.load (readDisableModelLimits s.tokens id)
  | .write i =>
    match s.edits[i]? with
    | some copy => { s with tokens := s.tokens.writeToken copy, edits := s.edits.eraseIdx i }
    | none => s

/-- The token has the quota that billing left it of the row it started with, and what remains
    and what is used add up as before. -/
def Kept (id : Nat) (row₀ : TokenRow) (s : TokenEdits) : Prop :=
  ∃ row, s.tokens.live? id = some row ∧
    row.remainQuota = row₀.remainQuota + s.increased - s.decreased ∧
    row.remainQuota + row.usedQuota = row₀.remainQuota + row₀.usedQuota

/-- A write of an edit of the token finds the quota that the edit loaded. -/
def WritesCurrent (id : Nat) (s : TokenEdits) : TokenEvent → Prop
  | .write i => ∀ copy ∈ s.edits[i]?, copy.id = id →
      ∀ row ∈ s.tokens.live? id, copy.remainQuota = row.remainQuota
  | _ => True

instance (id : Nat) (s : TokenEdits) : ∀ e, Decidable (WritesCurrent id s e)
  | .write i => inferInstanceAs (Decidable (∀ copy ∈ s.edits[i]?, copy.id = id →
      ∀ row ∈ s.tokens.live? id, copy.remainQuota = row.remainQuota))
  | .increase _ => inferInstanceAs (Decidable True)
  | .decrease _ => inferInstanceAs (Decidable True)
  | .readStatus .. => inferInstanceAs (Decidable True)
  | .readDisable _ => inferInstanceAs (Decidable True)

variable {id : Nat} {row₀ : TokenRow} {s : TokenEdits}

/-- A relative update moves both columns of the token. -/
theorem live?_addQuota (t : TokenTable) (id : Nat) (quota : Int) :
    (t.updateLive id (TokenRow.addQuota quota)).live? id =
      (t.live? id).map (TokenRow.addQuota quota) := by
  rw [TokenTable.live?_updateLive t id id (TokenRow.id_addQuota quota) fun _ h => h, if_pos rfl]

/-- Billing keeps the account of the token. -/
theorem Kept.addQuota {s' : TokenEdits} {quota : Int} (h : s.Kept id row₀)
    (htokens : s'.tokens = s.tokens.updateLive id (TokenRow.addQuota quota))
    (hnet : s'.increased - s'.decreased = s.increased - s.decreased + quota) :
    s'.Kept id row₀ := by
  obtain ⟨row, hrow, hremain, hsum⟩ := h
  refine ⟨row.addQuota quota, ?_, ?_, ?_⟩
  · rw [htokens, live?_addQuota, hrow]
    rfl
  · show row.remainQuota + quota = _
    omega
  · show row.remainQuota + quota + (row.usedQuota - quota) = _
    omega

/-- Loading a row for an edit changes nothing. -/
theorem kept_load (r : Except TokenEditError TokenRow) :
    (s.load r).Kept id row₀ ↔ s.Kept id row₀ := by
  cases r <;> exact Iff.rfl

/-- The write of an edit keeps the account if it writes the quota that is there. -/
theorem kept_write_iff (h : s.Kept id row₀) (copy : TokenRow) (edits : List TokenRow) :
    ({ s with tokens := s.tokens.writeToken copy, edits } : TokenEdits).Kept id row₀ ↔
      (copy.id = id → ∀ row ∈ s.tokens.live? id, copy.remainQuota = row.remainQuota) := by
  obtain ⟨row, hrow, hremain, hsum⟩ := h
  have hlive : (s.tokens.writeToken copy).live? id =
      if copy.id = id then some (copy.updateColumns row) else some row := by
    rw [TokenTable.writeToken, TokenTable.live?_updateLive s.tokens copy.id id
      (TokenRow.id_updateColumns copy) fun _ h => h, hrow]
    rfl
  by_cases hid : copy.id = id
  · -- only `remain_quota` is written, so both accounts hold together or fail together
    rw [if_pos hid] at hlive
    constructor
    · rintro ⟨row', hrow', hremain', -⟩ - row'' hrow''
      rw [hlive] at hrow'
      rw [hrow] at hrow''
      cases hrow'
      cases hrow''
      show (copy.updateColumns row).remainQuota = _
      exact hremain'.trans hremain.symm
    · intro hcur
      have hcopy := hcur hid row hrow
      refine ⟨copy.updateColumns row, hlive, ?_, ?_⟩
      · show copy.remainQuota = _
        exact hcopy.trans hremain
      · show copy.remainQuota + row.usedQuota = _
        rw [hcopy]
        exact hsum
  · rw [if_neg hid] at hlive
    constructor
    · intro _ h
      exact absurd h hid
    · intro _
      exact ⟨row, hlive, hremain, hsum⟩

/-- What one step does to the quota of the token. -/
theorem kept_step_iff (s : TokenEdits) (e : TokenEvent) (h : s.Kept id row₀) :
    (s.step id e).Kept id row₀ ↔ s.WritesCurrent id e := by
  cases e with
  | increase quota =>
    refine iff_of_true ?_ trivial
    show (s.increase id quota).Kept id row₀
    unfold increase
    split
    · exact h
    · exact h.addQuota rfl (by show s.increased + quota - s.decreased = _; omega)
  | decrease quota =>
    refine iff_of_true ?_ trivial
    show (s.decrease id quota).Kept id row₀
    unfold decrease
    split
    · exact h
    · exact h.addQuota rfl (by show s.increased - (s.decreased + quota) = _; omega)
  | readStatus maxQuotaValue now req => exact iff_of_true ((kept_load _).mpr h) trivial
  | readDisable id' => exact iff_of_true ((kept_load _).mpr h) trivial
  | write i =>
    simp only [step, WritesCurrent]
    cases hi : s.edits[i]? with
    | none => simpa using h
    | some copy => simpa using kept_write_iff h copy (s.edits.eraseIdx i)

end TokenEdits

open TokenEdits in
/-- For every token and every interleaving of increases and decreases of its quota with the
    reads and writes of edits that set no quota, the quota is what billing left of it, in every
    state, if and only if every edit writes while the quota is the one it loaded. -/
theorem quota_kept_iff_writes_current (tokens : TokenTable) (id : Nat) (row₀ : TokenRow)
    (hrow : tokens.live? id = some row₀) (es : List TokenEvent) :
    Run.Always (step id) (Kept id row₀) { tokens } es ↔
      Run.Steps (step id) (WritesCurrent id) { tokens } es := by
  apply Run.always_iff_steps_step kept_step_iff
  exact ⟨row₀, hrow, by simp, rfl⟩

/-- One token with a quota of 100. -/
def hundredTokens : TokenTable :=
  ⟨[{ id := 1, userId := 7, key := "k", remainQuota := 100 }], by simp⟩

open TokenEdits in
theorem quota_kept_disable_between :
    Run.Always (step 1) (Kept 1 { id := 1, userId := 7, key := "k", remainQuota := 100 })
      { tokens := hundredTokens }
      [.decrease 30, .readStatus 500 0 { id := 1, userId := 7, status := .disabled }, .write 0,
        .increase 10] :=
  (@quota_kept_iff_writes_current hundredTokens 1 _ (by decide) _).mpr (by decide)

open TokenEdits in
/-- The token is loaded to be disabled, 30 are consumed, and the write gives them back. -/
theorem consumption_between_resurrected :
    ¬ ∀ (tokens : TokenTable) (id : Nat) (row₀ : TokenRow), tokens.live? id = some row₀ →
        ∀ es, Run.Always (step id) (Kept id row₀) { tokens } es := by
  intro h
  have hall := h hundredTokens 1 { id := 1, userId := 7, key := "k", remainQuota := 100 }
    (by decide)
    [.readStatus 500 0 { id := 1, userId := 7, status := .disabled }, .decrease 30, .write 0]
  have hsteps := (Run.always_iff_steps_step kept_step_iff hall.head _).mp hall
  exact absurd hsteps (by decide)

end TokenRouter
