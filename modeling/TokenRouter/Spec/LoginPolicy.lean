import TokenRouter.Oauth.AccessPolicy

/-!
# Who a login policy admits

The check of a policy at login accepts exactly what the check at saving accepted, so that a stored
provider never refuses a user for its configuration; the loops of the evaluation compute the
Boolean meaning of the nested groups, and a denial names a condition that the user fails.

## Key results

- `validators_agree`: the two checks of a policy accept the same policies
- `evaluateAccessPolicy_decides`: an evaluation, against the meaning of the policy
- `stored_provider`: what a provider that was saved does at every login
-/

namespace TokenRouter.Oauth

variable {F : Type}

/-- Induction over a policy and its groups. -/
@[induction_eliminator]
theorem AccessPolicy.induct {P : AccessPolicy F → Prop}
    (mk : ∀ logic conditions groups, (∀ group ∈ groups, P group) →
      P (.mk logic conditions groups)) : ∀ policy, P policy
  | .mk logic conditions groups =>
    mk logic conditions groups fun group _ => AccessPolicy.induct mk group

/-! ## Well-formed policies -/

/-- A condition with its field and operator as they are evaluated. -/
def AccessCondition.normalized (c : AccessCondition F) : AccessCondition F :=
  { c with
    field := trimSpace c.field
    op := normalizePolicyOp c.op }

/-- A condition on a named field, with an operator that fits its value. -/
structure AccessCondition.WellFormed (c : AccessCondition F) : Prop where
  field : trimSpace c.field ≠ ""
  op : normalizePolicyOp c.op ∈ supportedAccessPolicyOps
  list : normalizePolicyOp c.op ∈ ["in", "not_in"] → c.value.isArray = true

/-- A policy and all its groups have a logic and something to ask. -/
inductive AccessPolicy.WellFormed : AccessPolicy F → Prop
  | mk {logic : String} {conditions : List (AccessCondition F)} {groups : List (AccessPolicy F)}
      (hlogic : policyLogic logic ∈ ["and", "or"])
      (hany : (conditions.isEmpty && groups.isEmpty) = false)
      (hconditions : ∀ c ∈ conditions, c.WellFormed)
      (hgroups : ∀ group ∈ groups, group.WellFormed) : WellFormed (.mk logic conditions groups)

/-- A policy as it is evaluated. -/
def AccessPolicy.normalized : AccessPolicy F → AccessPolicy F
  | .mk logic conditions groups =>
    .mk (policyLogic logic) (conditions.map (·.normalized))
      (groups.attach.map fun ⟨group, _⟩ => group.normalized)

theorem AccessPolicy.normalized_mk (logic : String) (conditions : List (AccessCondition F))
    (groups : List (AccessPolicy F)) :
    (AccessPolicy.mk logic conditions groups).normalized =
      .mk (policyLogic logic) (conditions.map (·.normalized)) (groups.map (·.normalized)) := by
  rw [AccessPolicy.normalized, List.map_attach_eq_pmap, List.pmap_eq_map]

theorem AccessPolicy.wellFormed_mk_iff (logic : String) (conditions : List (AccessCondition F))
    (groups : List (AccessPolicy F)) :
    (AccessPolicy.mk logic conditions groups).WellFormed ↔
      policyLogic logic ∈ ["and", "or"] ∧ (conditions.isEmpty && groups.isEmpty) = false ∧
        (∀ c ∈ conditions, c.WellFormed) ∧ ∀ group ∈ groups, group.WellFormed := by
  constructor
  · intro h
    cases h with
    | mk hlogic hany hconditions hgroups => exact ⟨hlogic, hany, hconditions, hgroups⟩
  · intro h
    exact .mk h.1 h.2.1 h.2.2.1 h.2.2.2

/-! ## The two checks -/

/-- A check succeeds with `x` exactly when `P` holds. -/
def Checks {α : Type} (result : Except String α) (P : Prop) (x : α) : Prop :=
  P ∧ result = .ok x ∨ ¬ P ∧ ∃ err, result = .error err

theorem Checks.isOk_iff {α : Type} {result : Except String α} {P : Prop} {x : α}
    (h : Checks result P x) : result.isOk = true ↔ P := by
  rcases h with ⟨hP, rfl⟩ | ⟨hP, err, rfl⟩
  · exact iff_of_true rfl hP
  · exact iff_of_false Bool.false_ne_true hP

theorem checks_ite {α : Type} {result : Except String α} {c P : Prop} [Decidable c] {x : α}
    {err : String} (h : Checks result P x) :
    Checks (if c then .error err else result) (¬ c ∧ P) x := by
  by_cases hc : c
  · rw [if_pos hc]
    exact .inr ⟨fun hand => hand.1 hc, err, rfl⟩
  · rw [if_neg hc]
    rcases h with ⟨hP, rfl⟩ | ⟨hP, hresult⟩
    · exact .inl ⟨⟨hc, hP⟩, rfl⟩
    · exact .inr ⟨fun hand => hP hand.2, hresult⟩

theorem checks_ok {α : Type} (x : α) : Checks (.ok x) True x := .inl ⟨trivial, rfl⟩

theorem Checks.congr {α : Type} {result : Except String α} {P Q : Prop} {x : α}
    (h : Checks result P x) (hPQ : P ↔ Q) : Checks result Q x := by
  rwa [Checks, ← hPQ]

/-- One check after another. -/
theorem Checks.bind {α β : Type} {result : Except String α} {P Q : Prop} {x : α}
    {next : α → Except String β} {y : β} (h : Checks result P x) (hnext : Checks (next x) Q y) :
    Checks (result >>= next) (P ∧ Q) y := by
  rcases h with ⟨hP, rfl⟩ | ⟨hP, err, rfl⟩
  · rcases hnext with ⟨hQ, hy⟩ | ⟨hQ, hy⟩
    · exact .inl ⟨⟨hP, hQ⟩, hy⟩
    · exact .inr ⟨fun hand => hQ hand.2, hy⟩
  · exact .inr ⟨fun hand => hP hand.1, err, rfl⟩

theorem Checks.seq {β : Type} {result : Except String Unit} {P Q : Prop} {next : Except String β}
    {y : β} (h : Checks result P ()) (hnext : Checks next Q y) :
    Checks (result >>= fun _ => next) (P ∧ Q) y :=
  Checks.bind h hnext

theorem Checks.map {α β : Type} {result : Except String α} {P : Prop} {x : α} (f : α → β)
    (h : Checks result P x) : Checks (result >>= fun y => pure (f y)) P (f x) := by
  rcases h with ⟨hP, rfl⟩ | ⟨hP, err, rfl⟩
  · exact .inl ⟨hP, rfl⟩
  · exact .inr ⟨hP, err, rfl⟩

theorem AccessCondition.wellFormed_iff (c : AccessCondition F) :
    c.WellFormed ↔ ¬ trimSpace c.field = "" ∧
      ¬ normalizePolicyOp c.op ∉ supportedAccessPolicyOps ∧
        ¬ (normalizePolicyOp c.op ∈ ["in", "not_in"] ∧ (!c.value.isArray) = true) := by
  constructor
  · intro h
    refine ⟨h.field, not_not.mpr h.op, ?_⟩
    intro hlist
    simpa [h.list hlist.1] using hlist.2
  · intro h
    refine ⟨h.1, not_not.mp h.2.1, ?_⟩
    intro hlist
    by_contra harray
    exact h.2.2 ⟨hlist, by simpa using harray⟩

theorem validateAccessCondition_checks (c : AccessCondition F) (index : Nat) :
    Checks (validateAccessCondition c index) c.WellFormed c.normalized := by
  refine (checks_ite (checks_ite (checks_ite (checks_ok c.normalized)))).congr ?_
  rw [AccessCondition.wellFormed_iff, and_true]

theorem validateConditions_checks (conditions : List (AccessCondition F)) (index : Nat) :
    Checks (validateConditions index conditions) (∀ c ∈ conditions, c.WellFormed)
      (conditions.map (·.normalized)) := by
  induction conditions generalizing index with
  | nil => exact (checks_ok []).congr (by simp)
  | cons c conditions ih =>
    rw [List.forall_mem_cons]
    exact (validateAccessCondition_checks c index).bind ((ih (index + 1)).map _)

theorem validateGroups_checks {groups : List (AccessPolicy F)}
    (h : ∀ group ∈ groups, Checks (validateAccessPolicy group) group.WellFormed group.normalized)
    (index : Nat) :
    Checks (validateGroups index groups) (∀ group ∈ groups, group.WellFormed)
      (groups.map (·.normalized)) := by
  induction groups generalizing index with
  | nil => exact (checks_ok []).congr (by simp)
  | cons group groups ih =>
    rw [List.forall_mem_cons] at h ⊢
    rw [validateGroups]
    rcases h.1 with ⟨hgroup, heq⟩ | ⟨hgroup, err, heq⟩
    · rw [heq]
      exact ((ih h.2 (index + 1)).map (group.normalized :: ·)).congr (by simp [hgroup])
    · rw [heq]
      exact .inr ⟨fun hall => hgroup hall.1, _, rfl⟩

/-- The check at login accepts the well-formed policies, and normalizes them. -/
theorem validateAccessPolicy_checks (policy : AccessPolicy F) :
    Checks (validateAccessPolicy policy) policy.WellFormed policy.normalized := by
  induction policy with
  | mk logic conditions groups ih =>
    rw [AccessPolicy.normalized_mk, validateAccessPolicy]
    have hgroups := (validateGroups_checks ih 0).map
      (AccessPolicy.mk (policyLogic logic) (conditions.map (·.normalized)))
    refine (checks_ite (checks_ite ((validateConditions_checks conditions 0).bind hgroups))).congr ?_
    rw [AccessPolicy.wellFormed_mk_iff, not_not, Bool.not_eq_true]

theorem validateConditionItems_checks (conditions : List (AccessCondition F)) (index : Nat) :
    Checks (validateConditionItems index conditions) (∀ c ∈ conditions, c.WellFormed) () := by
  induction conditions generalizing index with
  | nil => exact (checks_ok ()).congr (by simp)
  | cons c conditions ih =>
    rw [List.forall_mem_cons, validateConditionItems]
    refine (checks_ite (checks_ite (checks_ite (ih (index + 1))))).congr ?_
    rw [AccessCondition.wellFormed_iff]
    simp only [normalizePolicyOp, List.mem_cons, List.not_mem_nil, or_false, and_assoc]

theorem validatePayloadGroups_checks {groups : List (AccessPolicy F)}
    (h : ∀ group ∈ groups, Checks (validateAccessPolicyPayload group) group.WellFormed ())
    (index : Nat) :
    Checks (validatePayloadGroups index groups) (∀ group ∈ groups, group.WellFormed) () := by
  induction groups generalizing index with
  | nil => exact (checks_ok ()).congr (by simp)
  | cons group groups ih =>
    rw [List.forall_mem_cons] at h ⊢
    rw [validatePayloadGroups]
    rcases h.1 with ⟨hgroup, heq⟩ | ⟨hgroup, err, heq⟩
    · rw [heq]
      exact (ih h.2 (index + 1)).congr (by simp [hgroup])
    · rw [heq]
      exact .inr ⟨fun hall => hgroup hall.1, _, rfl⟩

/-- The check at saving accepts the well-formed policies. -/
theorem validateAccessPolicyPayload_checks (policy : AccessPolicy F) :
    Checks (validateAccessPolicyPayload policy) policy.WellFormed () := by
  induction policy with
  | mk logic conditions groups ih =>
    rw [validateAccessPolicyPayload]
    refine (checks_ite (checks_ite ((validateConditionItems_checks conditions 0).seq
      (validatePayloadGroups_checks ih 0)))).congr ?_
    rw [AccessPolicy.wellFormed_mk_iff, Bool.not_eq_true]
    refine and_congr ?_ Iff.rfl
    rw [List.mem_cons, List.mem_singleton, not_and_or, not_not, not_not]

/-- What is accepted when a provider is saved is accepted at every login, and nothing else. -/
theorem validators_agree (policy : AccessPolicy F) :
    (validateAccessPolicyPayload policy).isOk = (validateAccessPolicy policy).isOk := by
  rw [Bool.eq_iff_iff, (validateAccessPolicyPayload_checks policy).isOk_iff,
    (validateAccessPolicy_checks policy).isOk_iff]

/-! ## The meaning of a policy -/

section
variable (lib : Lib F) (body : String)

/-- A condition holds of a profile. -/
def AccessCondition.Holds (c : AccessCondition F) : Prop :=
  opHolds lib c.op (lib.get body c.field) c.value = true

/-- What a denial says about a condition. -/
def AccessCondition.failure (c : AccessCondition F) : AccessPolicyFailure F :=
  { field := c.field, op := c.op, expected := c.value,
    current := (lib.get body c.field).getD .nil }

/-- A policy holds of a profile: one part of an `or`, and all parts of an `and`. -/
def AccessPolicy.Holds : AccessPolicy F → Prop
  | .mk logic conditions groups =>
    if (conditions.isEmpty && groups.isEmpty) = false ∧ policyLogic logic = "or" then
      (∃ c ∈ conditions, c.Holds lib body) ∨ ∃ group, ∃ _ : group ∈ groups, group.Holds
    else (∀ c ∈ conditions, c.Holds lib body) ∧ ∀ group, ∀ _ : group ∈ groups, group.Holds

/-- The conditions of a policy and its groups. -/
inductive AccessPolicy.HasCondition : AccessPolicy F → AccessCondition F → Prop
  | condition {logic : String} {conditions : List (AccessCondition F)}
      {groups : List (AccessPolicy F)} {c : AccessCondition F} (h : c ∈ conditions) :
      HasCondition (.mk logic conditions groups) c
  | group {logic : String} {conditions : List (AccessCondition F)}
      {groups : List (AccessPolicy F)} {group : AccessPolicy F} {c : AccessCondition F}
      (h : group ∈ groups) (hc : group.HasCondition c) :
      HasCondition (.mk logic conditions groups) c

/-- A failure that is the one of a condition of the policy that does not hold. -/
def AccessPolicy.Blames (policy : AccessPolicy F) (failure : AccessPolicyFailure F) : Prop :=
  ∃ c, policy.HasCondition c ∧ ¬ c.Holds lib body ∧ failure = c.failure lib body

end

variable {lib : Lib F} {body : String}

theorem evaluateAccessCondition_of_holds {c : AccessCondition F} (h : c.Holds lib body) :
    evaluateAccessCondition lib body c = (true, c.failure lib body) :=
  Prod.ext h rfl

theorem evaluateAccessCondition_of_not {c : AccessCondition F} (h : ¬ c.Holds lib body) :
    evaluateAccessCondition lib body c = (false, c.failure lib body) :=
  Prod.ext (Bool.eq_false_iff.mpr h) rfl

/-- The result of a loop: success without a failure when `P` holds, else a failure in `B`. -/
def Decides (result : Bool × Option (AccessPolicyFailure F)) (P : Prop)
    (B : AccessPolicyFailure F → Prop) : Prop :=
  P ∧ result = (true, none) ∨ ¬ P ∧ ∃ failure, B failure ∧ result = (false, some failure)

section
variable (lib body)

theorem anyCondition_cases (firstFailure : Option (AccessPolicyFailure F))
    (conditions : List (AccessCondition F)) :
    (∃ c ∈ conditions, c.Holds lib body) ∧
        anyCondition lib body firstFailure conditions = (true, none) ∨
      (∀ c ∈ conditions, ¬ c.Holds lib body) ∧
        anyCondition lib body firstFailure conditions =
          (false, firstFailure.or (conditions.head?.map (·.failure lib body))) := by
  induction conditions generalizing firstFailure with
  | nil => exact .inr ⟨by simp, by simp [anyCondition]⟩
  | cons c conditions ih =>
    rw [anyCondition]
    by_cases hc : c.Holds lib body
    · rw [evaluateAccessCondition_of_holds hc]
      exact .inl ⟨⟨c, List.mem_cons_self, hc⟩, rfl⟩
    · rw [evaluateAccessCondition_of_not hc]
      rcases ih (firstFailure.or (some (c.failure lib body))) with ⟨⟨c', hmem, hc'⟩, heq⟩ |
        ⟨hall, heq⟩
      · exact .inl ⟨⟨c', List.mem_cons_of_mem c hmem, hc'⟩, heq⟩
      · refine .inr ⟨List.forall_mem_cons.mpr ⟨hc, hall⟩, ?_⟩
        dsimp only
        rw [heq]
        cases firstFailure <;> simp

theorem allConditions_cases (conditions : List (AccessCondition F)) :
    (∀ c ∈ conditions, c.Holds lib body) ∧ allConditions lib body conditions = (true, none) ∨
      ∃ c ∈ conditions, ¬ c.Holds lib body ∧
        allConditions lib body conditions = (false, some (c.failure lib body)) := by
  induction conditions with
  | nil => exact .inl ⟨by simp, rfl⟩
  | cons c conditions ih =>
    rw [allConditions]
    by_cases hc : c.Holds lib body
    · rw [evaluateAccessCondition_of_holds hc]
      rcases ih with ⟨hall, heq⟩ | ⟨c', hmem, hc', heq⟩
      · exact .inl ⟨List.forall_mem_cons.mpr ⟨hc, hall⟩, heq⟩
      · exact .inr ⟨c', List.mem_cons_of_mem c hmem, hc', heq⟩
    · rw [evaluateAccessCondition_of_not hc]
      exact .inr ⟨c, List.mem_cons_self, hc, rfl⟩

end

section
variable {groups : List (AccessPolicy F)}
  (h : ∀ group ∈ groups, Decides (evaluateAccessPolicy lib body group) (group.Holds lib body)
    (group.Blames lib body))
include h

theorem anyGroup_cases (firstFailure : Option (AccessPolicyFailure F)) :
    (∃ group ∈ groups, group.Holds lib body) ∧
        anyGroup lib body firstFailure groups = (true, none) ∨
      (∀ group ∈ groups, ¬ group.Holds lib body) ∧ ∃ last : Option (AccessPolicyFailure F),
        (last = none → groups = []) ∧
        (∀ failure, last = some failure → ∃ group ∈ groups, group.Blames lib body failure) ∧
          anyGroup lib body firstFailure groups = (false, firstFailure.or last) := by
  induction groups generalizing firstFailure with
  | nil => exact .inr ⟨by simp, none, by simp, by simp, by simp [anyGroup]⟩
  | cons group groups ih =>
    rw [List.forall_mem_cons] at h
    rw [anyGroup]
    rcases h.1 with ⟨hgroup, heq⟩ | ⟨hgroup, failure, hblame, heq⟩
    · rw [heq]
      exact .inl ⟨⟨group, List.mem_cons_self, hgroup⟩, rfl⟩
    · rw [heq]
      rcases ih h.2 (firstFailure.or (some failure)) with ⟨⟨g, hmem, hg⟩, heq⟩ |
        ⟨hall, last, -, -, heq⟩
      · exact .inl ⟨⟨g, List.mem_cons_of_mem group hmem, hg⟩, heq⟩
      · refine .inr ⟨List.forall_mem_cons.mpr ⟨hgroup, hall⟩, some failure, nofun, ?_, ?_⟩
        · intro f hf
          cases hf
          exact ⟨group, List.mem_cons_self, hblame⟩
        · dsimp only
          rw [heq]
          cases firstFailure <;> simp

theorem allGroups_cases :
    (∀ group ∈ groups, group.Holds lib body) ∧ allGroups lib body groups = (true, none) ∨
      ∃ group ∈ groups, ¬ group.Holds lib body ∧ ∃ failure, group.Blames lib body failure ∧
        allGroups lib body groups = (false, some failure) := by
  induction groups with
  | nil => exact .inl ⟨by simp, by simp [allGroups]⟩
  | cons group groups ih =>
    rw [List.forall_mem_cons] at h
    rw [allGroups]
    rcases h.1 with ⟨hgroup, heq⟩ | ⟨hgroup, failure, hblame, heq⟩
    · rw [heq]
      rcases ih h.2 with ⟨hall, heq⟩ | ⟨g, hmem, hg, heq⟩
      · exact .inl ⟨List.forall_mem_cons.mpr ⟨hgroup, hall⟩, heq⟩
      · exact .inr ⟨g, List.mem_cons_of_mem group hmem, hg, heq⟩
    · rw [heq]
      exact .inr ⟨group, List.mem_cons_self, hgroup, failure, hblame, rfl⟩

end

variable (lib body) in
/-- A policy is evaluated to its meaning, and a denial blames a condition that does not hold. -/
theorem evaluateAccessPolicy_decides (policy : AccessPolicy F) :
    Decides (evaluateAccessPolicy lib body policy) (policy.Holds lib body)
      (policy.Blames lib body) := by
  induction policy with
  | mk logic conditions groups ih =>
    have hcondition : ∀ c ∈ conditions, ¬ c.Holds lib body →
        (AccessPolicy.mk logic conditions groups).Blames lib body (c.failure lib body) :=
      fun c hc hnot => ⟨c, .condition hc, hnot, rfl⟩
    have hgroup : ∀ group ∈ groups, ∀ failure, group.Blames lib body failure →
        (AccessPolicy.mk logic conditions groups).Blames lib body failure :=
      fun group hmem failure ⟨c, hc, hblame⟩ => ⟨c, .group hmem hc, hblame⟩
    rw [evaluateAccessPolicy, AccessPolicy.Holds]
    simp only [exists_prop]
    by_cases hempty : (conditions.isEmpty && groups.isEmpty) = true
    · rw [if_pos hempty, if_neg (by simp [hempty])]
      rw [Bool.and_eq_true, List.isEmpty_iff, List.isEmpty_iff] at hempty
      obtain ⟨rfl, rfl⟩ := hempty
      exact .inl ⟨by simp, rfl⟩
    rw [if_neg hempty]
    rw [Bool.not_eq_true] at hempty
    by_cases hor : policyLogic logic = "or"
    · rw [if_pos hor, if_pos ⟨hempty, hor⟩]
      rcases anyCondition_cases lib body none conditions with ⟨hsome, heq⟩ |
        ⟨hnone, heq⟩
      · rw [heq]
        exact .inl ⟨.inl hsome, rfl⟩
      rw [heq]
      rcases anyGroup_cases ih (Option.none.or (conditions.head?.map (·.failure lib body))) with
        ⟨hsome, heq⟩ | ⟨hnone', last, hnil, hlast, heq⟩
      · exact .inl ⟨.inr hsome, heq⟩
      refine .inr ⟨?_, ?_⟩
      · rintro (⟨c, hc, hholds⟩ | ⟨g, hg, hholds⟩)
        · exact hnone c hc hholds
        · exact hnone' g hg hholds
      · -- the first failure is the one of the first part
        cases conditions with
        | cons c conditions =>
          exact ⟨_, hcondition c List.mem_cons_self (hnone c List.mem_cons_self), heq⟩
        | nil =>
          cases last with
          | none => simp [hnil rfl] at hempty
          | some failure =>
            obtain ⟨g, hg, hblame⟩ := hlast failure rfl
            exact ⟨failure, hgroup g hg failure hblame, heq⟩
    · rw [if_neg hor, if_neg fun h => hor h.2]
      rcases allConditions_cases lib body conditions with ⟨hall, heq⟩ |
        ⟨c, hc, hnot, heq⟩
      · rw [heq]
        rcases allGroups_cases ih with ⟨hall', heq⟩ | ⟨g, hg, hnot, failure, hblame, heq⟩
        · exact .inl ⟨⟨hall, hall'⟩, heq⟩
        · exact .inr ⟨fun h => hnot (h.2 g hg), failure, hgroup g hg failure hblame, heq⟩
      · rw [heq]
        exact .inr ⟨fun h => hnot (h.1 c hc), _, hcondition c hc hnot, rfl⟩

/-! ## Stored providers -/

theorem lowerRune_of_isSlugChar {c : Char} (h : isSlugChar (Dto.lowerRune c) = true) :
    Dto.lowerRune (Dto.lowerRune c) = Dto.lowerRune c := by
  have hslug : ∀ d : Char, isSlugChar d = true → Dto.lowerRune d = d := by
    intro d hd
    have hupper : ¬ d.isUpper = true := by
      simp only [isSlugChar, Char.isLower, Char.isDigit, Char.isUpper, Bool.or_eq_true,
        Bool.and_eq_true, decide_eq_true_eq, beq_iff_eq] at hd ⊢
      rcases hd with (hd | hd) | rfl
      · grind
      · grind
      · decide
    have hne : d ≠ '\u212a' ∧ d ≠ '\u0130' :=
      ⟨fun heq => absurd (heq ▸ hd) (by decide), fun heq => absurd (heq ▸ hd) (by decide)⟩
    rw [Dto.lowerRune, if_neg hne.1, if_neg hne.2]
    rw [Char.toLower, dif_neg]
    intro hval
    exact hupper (by simpa [Char.isUpper] using hval)
  exact hslug _ h

theorem orDefault_orDefault {default : String} (h : default ≠ "") (field : String) :
    orDefault (orDefault field default) default = orDefault field default := by
  unfold orDefault
  by_cases hfield : field = ""
  · rw [if_pos hfield, if_neg h]
  · rw [if_neg hfield, if_neg hfield]

theorem CustomOAuthProvider.withDefaults_withDefaults (provider : CustomOAuthProvider) :
    provider.withDefaults.withDefaults = provider.withDefaults := by
  simp [CustomOAuthProvider.withDefaults, orDefault_orDefault]

theorem checkAccessPolicy_ok {raw : String} (h : checkAccessPolicy lib raw = .ok ()) :
    trimSpace raw = "" ∨ ∃ policy, lib.unmarshal raw = some policy ∧ policy.WellFormed := by
  rw [checkAccessPolicy] at h
  split at h
  · next hblank => exact .inl hblank
  · split at h
    · exact nomatch h
    · next policy hpolicy =>
      refine .inr ⟨policy, hpolicy, ?_⟩
      rcases validateAccessPolicyPayload_checks policy with ⟨hwf, -⟩ | ⟨-, err, heq⟩
      · exact hwf
      · rw [heq] at h
        exact nomatch h

/-- What a provider that passes the check is stored as. -/
theorem validateCustomOAuthProvider_ok {provider stored : CustomOAuthProvider}
    (h : validateCustomOAuthProvider lib provider = .ok stored) :
    stored = { provider with slug := Dto.toLower provider.slug }.withDefaults ∧
      checkAccessPolicy lib stored.accessPolicy = .ok () ∧
        validateCustomOAuthProvider lib stored = .ok stored := by
  unfold validateCustomOAuthProvider at h
  simp only [] at h
  split at h
  · exact nomatch h
  next hname =>
  split at h
  · exact nomatch h
  next hslug =>
  split at h
  · exact nomatch h
  next hchars =>
  split at h
  · exact nomatch h
  next hclient =>
  split at h
  · exact nomatch h
  next hauth =>
  split at h
  · exact nomatch h
  next htoken =>
  split at h
  · exact nomatch h
  next hinfo =>
  cases hpolicy : checkAccessPolicy lib provider.accessPolicy with
  | error err =>
    rw [hpolicy] at h
    exact nomatch h
  | ok _ =>
    rw [hpolicy] at h
    cases h
    have hlower : Dto.toLower (Dto.toLower provider.slug) = Dto.toLower provider.slug := by
      simp only [Bool.not_eq_true', Bool.not_eq_false, List.all_eq_true] at hchars
      simp only [Dto.toLower, String.toList_ofList, List.map_map] at hchars ⊢
      congr 1
      refine List.map_congr_left ?_
      intro c hc
      exact lowerRune_of_isSlugChar (hchars _ (List.mem_map_of_mem hc))
    have hne : Dto.toLower provider.slug ≠ "" := by
      intro hempty
      have hlist := congrArg String.toList hempty
      simp only [Dto.toLower, String.toList_ofList, String.toList_empty, List.map_eq_nil_iff] at hlist
      exact hslug (String.toList_inj.mp (hlist.trans String.toList_empty.symm))
    refine ⟨rfl, hpolicy, ?_⟩
    have hdefaults := CustomOAuthProvider.withDefaults_withDefaults
      { provider with slug := Dto.toLower provider.slug }
    unfold validateCustomOAuthProvider
    simp only [CustomOAuthProvider.withDefaults] at hdefaults ⊢
    simp only [hname, hne, hlower, hchars, hclient, hauth, htoken, hinfo, hpolicy, if_false]
    exact congrArg Except.ok hdefaults

/-- A provider that was saved passes its check again as it is. At every login its policy admits the
    profiles it holds of, and a denial names one of its conditions that does not hold, with the
    value found in the profile. -/
theorem stored_provider (lib : Lib F)
    (hunmarshal : ∀ raw policy, lib.unmarshal raw = some policy →
      lib.unmarshal (trimSpace raw) = some policy)
    {provider stored : CustomOAuthProvider}
    (h : validateCustomOAuthProvider lib provider = .ok stored) :
    validateCustomOAuthProvider lib stored = .ok stored ∧
      (trimSpace stored.accessPolicy = "" ∧
          (∀ body, checkUserAccess lib stored body = .admitted) ∨
        ∃ policy, lib.unmarshal stored.accessPolicy = some policy ∧ ∀ body,
          policy.normalized.Holds lib body ∧ checkUserAccess lib stored body = .admitted ∨
            ¬ policy.normalized.Holds lib body ∧ ∃ c, policy.normalized.HasCondition c ∧
              ¬ c.Holds lib body ∧
                checkUserAccess lib stored body = .denied (c.failure lib body)) := by
  obtain ⟨-, hpolicy, hagain⟩ := validateCustomOAuthProvider_ok h
  refine ⟨hagain, ?_⟩
  by_cases hblank : trimSpace stored.accessPolicy = ""
  · refine .inl ⟨hblank, ?_⟩
    intro body
    exact if_pos hblank
  rcases checkAccessPolicy_ok hpolicy with hempty | ⟨policy, hdecoded, hwf⟩
  · exact absurd hempty hblank
  refine .inr ⟨policy, hdecoded, ?_⟩
  intro body
  have hparse : parseAccessPolicy lib (trimSpace stored.accessPolicy) = some policy.normalized := by
    rw [parseAccessPolicy, hunmarshal _ _ hdecoded]
    rcases validateAccessPolicy_checks policy with ⟨-, heq⟩ | ⟨hnot, -⟩
    · rw [Option.bind_some, heq]
      rfl
    · exact absurd hwf hnot
  rw [checkUserAccess, if_neg hblank, hparse]
  rcases evaluateAccessPolicy_decides lib body policy.normalized with
    ⟨hholds, heq⟩ | ⟨hnot, failure, ⟨c, hc, hfails, rfl⟩, heq⟩
  · dsimp only
    rw [heq]
    exact .inl ⟨hholds, rfl⟩
  · dsimp only
    rw [heq]
    exact .inr ⟨hnot, c, hc, hfails, rfl⟩

def exampleText : String :=
  "\x7b\"conditions\":[\x7b\"field\":\"email\",\"op\":\"Contains\",\"value\":\"@example.com\"\x7d]\x7d"

/-- One policy and one profile, as they are decoded. -/
def exampleLib : Lib ℚ where
  lt x y := decide (x < y)
  parseFloat _ := none
  sprint
    | .str s => s
    | _ => ""
  get body path :=
    if body = "\x7b\"email\":\"a@example.com\"\x7d" ∧ path = "email" then
      some (.str "a@example.com")
    else none
  unmarshal raw :=
    if trimSpace raw = exampleText then
      some (.mk "" [{ field := "email", op := "Contains", value := .str "@example.com" }] [])
    else none

def exampleProvider : CustomOAuthProvider where
  name := "Example"
  slug := "Example-1"
  clientId := "client"
  authorizationEndpoint := "https://example.com/authorize"
  tokenEndpoint := "https://example.com/token"
  userInfoEndpoint := "https://example.com/userinfo"
  userIdField := ""
  usernameField := ""
  displayNameField := ""
  emailField := "mail"
  scopes := ""
  accessPolicy := exampleText

/-- A provider for the profiles with an address in one domain. -/
theorem stored_provider_example :
    ∃ stored, validateCustomOAuthProvider exampleLib exampleProvider = .ok stored ∧
      validateCustomOAuthProvider exampleLib stored = .ok stored := by
  have h : validateCustomOAuthProvider exampleLib exampleProvider =
      .ok { exampleProvider with slug := "example-1" }.withDefaults := by decide
  refine ⟨_, h, (stored_provider exampleLib ?_ h).1⟩
  intro raw policy hpolicy
  simpa [exampleLib] using hpolicy

end TokenRouter.Oauth
