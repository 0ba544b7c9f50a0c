import TokenRouter.Model.RoutePreference

/-!
# Activating a route preference

The answer to an activation is the preference that is active when it is read back. A window that
does not hold at that moment makes it an error, after the row has been written.

## Key results

- `activateSupplierRoutePreference_written`: an accepted activation writes its row
- `activateSupplierRoutePreference_iff`: the answer tells the truth about the table if the window
  holds when the row is read back
-/

namespace TokenRouter

variable {suppliers : Suppliers} {preferences : SupplierRoutePreferences}
  {input : SupplierRoutePreferenceActivateInput} {activatedBy : Int} {now rereadAt : Timestamp}
  {rereadFails : Option String}

/-- The input is valid and its supplier is enabled. -/
structure Accepted (suppliers : Suppliers) (input : SupplierRoutePreferenceActivateInput) :
    Prop where
  valid : validateSupplierRoutePreferenceActivateInput input = none
  supplier : (suppliers.first input.supplierId).any (fun s => s.status = .enabled) = true

/-- The window of the row that is written holds at a moment. -/
def SupplierRoutePreferenceActivateInput.holdsAt (input : SupplierRoutePreferenceActivateInput)
    (now : Timestamp) (moment : Timestamp) : Prop :=
  input.startsAt now ≤ moment.unix ∧ (input.effectiveTo = 0 ∨ moment.unix ≤ input.effectiveTo)

/-- The supplier that is read is the one asked for. -/
theorem isSupplierStatusEnabled_first {supplier : Supplier} {id : Int} (hid : 0 < id)
    (h : suppliers.first id = some supplier) :
    isSupplierStatusEnabled supplier.id
        (fun i => if i = supplier.id then some supplier.status else none) = true ↔
      supplier.status = .enabled := by
  obtain ⟨hfind, -⟩ := Option.filter_eq_some_iff.mp h
  have hkey : supplier.id = id := Table.find?_key hfind
  have hpos : ¬ supplier.id ≤ 0 := by omega
  simp [isSupplierStatusEnabled, hpos]

/-- An input that is not accepted is an error and writes nothing. -/
theorem activateSupplierRoutePreference_rejected (h : ¬ Accepted suppliers input) :
    ∃ e, activateSupplierRoutePreference suppliers preferences input activatedBy now rereadAt
      rereadFails = (.error e, preferences) := by
  unfold activateSupplierRoutePreference
  split
  · next e _ => exact ⟨e, rfl⟩
  · next hvalid =>
    split
    · exact ⟨_, rfl⟩
    · next supplier hfirst =>
      have henabled := isSupplierStatusEnabled_first (weightPercent_of_valid hvalid).1 hfirst
      split
      · next hon =>
        have haccepted : Accepted suppliers input := by
          constructor
          · exact hvalid
          · rw [hfirst, Option.any_some]
            exact decide_eq_true (henabled.mp hon)
        exact absurd haccepted h
      · exact ⟨_, rfl⟩

/-- An accepted activation writes its row, and answers with what it reads back. -/
theorem activateSupplierRoutePreference_written (h : Accepted suppliers input) :
    activateSupplierRoutePreference suppliers preferences input activatedBy now rereadAt
        rereadFails =
      let written := preferences.upsert (activatedPreference input activatedBy now
        (weightPercent_of_valid h.valid).2.1 (weightPercent_of_valid h.valid).2.2)
      (getActiveSupplierRoutePreferenceBySupplierID written input.supplierId rereadAt rereadFails,
        written) := by
  obtain ⟨hvalid, hsupplier⟩ := h
  unfold activateSupplierRoutePreference
  split
  · next e hinvalid =>
    rw [hvalid] at hinvalid
    cases hinvalid
  · split
    · next hnone =>
      rw [hnone] at hsupplier
      cases hsupplier
    · next supplier hfirst =>
      rw [hfirst, Option.any_some, decide_eq_true_eq] at hsupplier
      rw [if_pos ((isSupplierStatusEnabled_first (weightPercent_of_valid hvalid).1 hfirst).mpr
        hsupplier)]

/-- Reading a written row back succeeds if and only if the query does and its window holds. -/
theorem getActive_upsert (hvalid : validateSupplierRoutePreferenceActivateInput input = none)
    (preferences : SupplierRoutePreferences) (activatedBy : Int) (now rereadAt : Timestamp)
    (rereadFails : Option String) :
    let row := activatedPreference input activatedBy now (weightPercent_of_valid hvalid).2.1
      (weightPercent_of_valid hvalid).2.2
    let answer := getActiveSupplierRoutePreferenceBySupplierID (preferences.upsert row)
      input.supplierId rereadAt rereadFails
    (rereadFails = none ∧ input.holdsAt now rereadAt → answer = .ok row) ∧
      (¬ (rereadFails = none ∧ input.holdsAt now rereadAt) → ∃ e, answer = .error e) := by
  intro row answer
  have hid : ¬ input.supplierId ≤ 0 := by
    have := (weightPercent_of_valid hvalid).1
    omega
  have hfind : (preferences.upsert row).find? input.supplierId = some row := by
    rw [Table.find?_upsert]
    exact if_pos rfl
  have hnow := now.pos
  have hmoment := rereadAt.pos
  have hactive : row.isActive rereadAt.unix = true ↔ input.holdsAt now rereadAt := by
    have hfrom : row.effectiveFrom = input.startsAt now := rfl
    have hto : row.effectiveTo = input.effectiveTo := rfl
    have hstatus : row.status = .active := rfl
    simp only [SupplierRoutePreference.isActive, hstatus, hfrom, hto, decide_true, Bool.true_and,
      Bool.and_eq_true, Bool.or_eq_true, decide_eq_true_eq,
      SupplierRoutePreferenceActivateInput.holdsAt]
    omega
  cases rereadFails with
  | some e =>
    constructor
    · rintro ⟨⟨⟩, -⟩
    · intro _
      exact ⟨e, if_neg hid⟩
  | none =>
    have hanswer : answer = _ := if_neg hid
    rw [hanswer, hfind]
    by_cases hholds : row.isActive rereadAt.unix = true
    · simp [Option.filter, hholds, hactive.mp hholds]
    · simp [Option.filter, hholds, mt hactive.mpr hholds]

/-- What the answer promises: an error leaves the stored row of the supplier as it was; a success
    is the stored row, with the input's weight, reason and window. -/
structure Truthful (preferences : SupplierRoutePreferences)
    (input : SupplierRoutePreferenceActivateInput) (now : Timestamp)
    (result : Except String SupplierRoutePreference × SupplierRoutePreferences) : Prop where
  error : ∀ e, result.1 = .error e →
    result.2.find? input.supplierId = preferences.find? input.supplierId
  ok : ∀ p, result.1 = .ok p → result.2.find? input.supplierId = some p ∧
    (p.weightPercent : Int) = input.weightPercent ∧ p.reason = trimSpace input.reason ∧
    p.effectiveFrom = input.startsAt now ∧ p.effectiveTo = input.effectiveTo

/-- For every input, whether accepted or not, and all readings of the clock: the answer is
    truthful if and only if the input is not accepted, or the row can be read back and its window
    holds then, or the stored row already was the one to write. -/
theorem activateSupplierRoutePreference_iff (suppliers : Suppliers)
    (preferences : SupplierRoutePreferences) (input : SupplierRoutePreferenceActivateInput)
    (activatedBy : Int) (now rereadAt : Timestamp) (rereadFails : Option String) :
    Truthful preferences input now
        (activateSupplierRoutePreference suppliers preferences input activatedBy now rereadAt
          rereadFails) ↔
      ¬ Accepted suppliers input ∨ (rereadFails = none ∧ input.holdsAt now rereadAt) ∨
        ∃ hpos hle, preferences.find? input.supplierId =
          some (activatedPreference input activatedBy now hpos hle) := by
  by_cases haccepted : Accepted suppliers input
  · have hpercent := weightPercent_of_valid haccepted.valid
    have hback := getActive_upsert haccepted.valid preferences activatedBy now rereadAt rereadFails
    have hfind : (preferences.upsert (activatedPreference input activatedBy now hpercent.2.1
        hpercent.2.2)).find? input.supplierId =
          some (activatedPreference input activatedBy now hpercent.2.1 hpercent.2.2) := by
      rw [Table.find?_upsert]
      exact if_pos rfl
    rw [activateSupplierRoutePreference_written haccepted]
    simp only [haccepted, not_true, false_or]
    by_cases hread : rereadFails = none ∧ input.holdsAt now rereadAt
    · have hok := hback.1 hread
      rw [hok]
      apply iff_of_true _ (.inl hread)
      constructor
      · intro e he
        cases he
      · rintro p ⟨⟩
        refine ⟨hfind, ?_, rfl, rfl, rfl⟩
        show ((input.weightPercent.toNat : Nat) : Int) = input.weightPercent
        omega
    · -- the row has been written all the same
      obtain ⟨e, herror⟩ := hback.2 hread
      rw [herror]
      simp only [hread, false_or]
      constructor
      · intro h
        have hsame := h.error e rfl
        rw [hfind] at hsame
        exact ⟨hpercent.2.1, hpercent.2.2, hsame.symm⟩
      · rintro ⟨_, _, hsame⟩
        constructor
        · intro e' _
          rw [hfind, hsame]
        · intro p hp
          cases hp
  · obtain ⟨e, he⟩ : ∃ e, activateSupplierRoutePreference suppliers preferences input activatedBy
        now rereadAt rereadFails = (.error e, preferences) :=
      activateSupplierRoutePreference_rejected haccepted
    rw [he]
    simp only [haccepted, not_false_eq_true, true_or, iff_true]
    constructor
    · intro e' _
      rfl
    · intro p hp
      cases hp

/-- A window that starts tomorrow is stored and answered with an error. -/
theorem activateSupplierRoutePreference_scheduled :
    let suppliers : Suppliers := ⟨[{ id := 1 }], by decide⟩
    let input : SupplierRoutePreferenceActivateInput :=
      { supplierId := 1, weightPercent := 150, reason := "price", effectiveFrom := 86500 }
    let result := activateSupplierRoutePreference suppliers .empty input 1 ⟨100, by decide⟩
      ⟨101, by decide⟩ none
    result.1.toOption.isNone = true ∧
      (Table.find? (.empty : SupplierRoutePreferences) 1).isNone = true ∧
      (result.2.find? 1).map (·.weightPercent) = some 150 := by
  decide

end TokenRouter
