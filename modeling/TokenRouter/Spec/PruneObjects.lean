import TokenRouter.Common.Json
import TokenRouter.Spec.PathSyntax

/-!
# Pruning objects by type

`prune_objects` with a type removes the objects below the target whose `type` is that text. The
test of an object compares its `type`, or that of the context where it has none, and fails on a
value that is neither a text nor null. So the objects are removed as asked exactly if every
object that is come to can be tested and none takes its type from the context.

## Key results

- `pruneObjects_iff`: when the objects of a type are what is removed
-/

namespace TokenRouter.ParamOverride

open Json (EveryObject EveryBelow removeObjects dropped)

/-! ## The test of an object -/

/-- What is read of an object by the name of its field `type`. -/
def ReadsType (lib : JsonPaths) : Prop :=
  ∀ fields, lib.get (.obj fields) "type" = GoMap.get? fields "type"

/-- Whether a `type` is a text. -/
def textIs (t : String) : Option Json → Bool
  | some (.str s) => s = t
  | _ => false

/-- Whether a `type` can be compared with a text. -/
def comparable : Option Json → Bool
  | none => true
  | some .null => true
  | some (.str _) => true
  | _ => false

/-- Whether the own `type` of an object is a text. -/
def typeIs (t : String) (fields : GoMap Json) : Bool := textIs t (GoMap.get? fields "type")

/-- The `type` that an object is tested by: its own, or that of the context. -/
def testedType (contextType : Option Json) (fields : GoMap Json) : Option Json :=
  (GoMap.get? fields "type").or contextType

/-- The `type` of the context. -/
def contextTypeOf (lib : JsonPaths) (contextJSON : Option Json) : Option Json :=
  contextJSON.bind fun c => lib.get c "type"

/-- `parsePruneObjectsOptions` of a type name. -/
def typeOptions (v : String) : PruneObjectsOptions :=
  { conditions := [fieldEquals "type" (.str v)] }

variable {lib : JsonPaths}

theorem compareEqual_text (lib : JsonPaths) (value : Json) (v : String) :
    if comparable (some value) then
      lib.compareEqual value (.str v) = .ok (textIs v (some value))
    else ∃ e, lib.compareEqual value (.str v) = .error e := by
  cases value with
  | null => rfl
  | str s => rfl
  | bool b => exact ⟨_, rfl⟩
  | num literal => exact ⟨_, rfl⟩
  | arr items => exact ⟨_, rfl⟩
  | obj fields => exact ⟨_, rfl⟩

/-- An object is tested by its `type`; a value that cannot be compared is an error. -/
theorem shouldPruneObject_type (htype : ReadsType lib) (v : String) (contextJSON : Option Json)
    (fields : GoMap Json) :
    if comparable (testedType (contextTypeOf lib contextJSON) fields) then
      lib.shouldPruneObject (typeOptions v) contextJSON fields =
        .ok (textIs v (testedType (contextTypeOf lib contextJSON) fields))
    else ∃ e, lib.shouldPruneObject (typeOptions v) contextJSON fields = .error e := by
  have hsingle : lib.checkSingleCondition (.obj fields) contextJSON (fieldEquals "type" (.str v)) =
      (testedType (contextTypeOf lib contextJSON) fields).elim (.ok false) fun value =>
        (lib.compareEqual value (.str v)).mapError ("comparison failed for path type: " ++ ·) := by
    have hpath : lib.processNegativeIndex (.obj fields) "type" = "type" := by
      unfold JsonPaths.processNegativeIndex
      rw [show negativeIndexes "type".toList = [] by decide, List.foldl_nil, String.ofList_toList]
    unfold JsonPaths.checkSingleCondition
    dsimp only [fieldEquals]
    rw [hpath, htype, show Dto.toLower "full" = "full" by decide]
    show _ = ((fields.get? "type").or (contextJSON.bind fun c => lib.get c "type")).elim _ _
    cases (fields.get? "type").or (contextJSON.bind fun c => lib.get c "type") with
    | none => rfl
    | some value =>
      have hfull : lib.compareGjsonValues value (.str v) "full" =
          lib.compareEqual value (.str v) := rfl
      dsimp only [Option.elim]
      rw [hfull]
      cases lib.compareEqual value (.str v) <;> rfl
  have hconditions : lib.shouldPruneObject (typeOptions v) contextJSON fields =
      lib.checkSingleCondition (.obj fields) contextJSON (fieldEquals "type" (.str v)) := by
    have hand : String.ofList ((typeOptions v).logic.toList.map upperRune) = "AND" := by
      show String.ofList ("AND".toList.map upperRune) = "AND"
      decide
    unfold JsonPaths.shouldPruneObject JsonPaths.checkConditions
    rw [hand]
    cases hcheck : lib.checkSingleCondition (.obj fields) contextJSON
        (fieldEquals "type" (.str v)) with
    | error e => simp [typeOptions, hcheck, bind, Except.bind]
    | ok b => simp [typeOptions, hcheck, bind, Except.bind, pure, Except.pure]
  rw [hconditions, hsingle]
  cases htested : testedType (contextTypeOf lib contextJSON) fields with
  | none => rfl
  | some value =>
    have hcompare := compareEqual_text lib value v
    split
    · rename_i hcomparable
      rw [if_pos hcomparable] at hcompare
      rw [Option.elim_some, hcompare]
      rfl
    · rename_i hnot
      rw [if_neg hnot] at hcompare
      obtain ⟨e, he⟩ := hcompare
      rw [Option.elim_some, he]
      exact ⟨_, rfl⟩

/-! ## Pruning -/

variable {options : PruneObjectsOptions} {contextJSON : Option Json}

/-- A loop over an array succeeds at every item, and keeps what the items leave. -/
theorem pruneItems_ok {items kept : List Json}
    (h : lib.pruneItems options contextJSON items = .ok kept) :
    (∀ item ∈ items, ∃ next, lib.pruneObjectsNode options contextJSON false item = .ok next) ∧
      ∀ c, c ∈ kept ↔
        ∃ item ∈ items, lib.pruneObjectsNode options contextJSON false item = .ok (some c) := by
  induction items generalizing kept with
  | nil =>
    cases h
    exact ⟨fun item hitem => (nomatch hitem), fun c => by simp⟩
  | cons item items ih =>
    rw [JsonPaths.pruneItems] at h
    cases hnode : lib.pruneObjectsNode options contextJSON false item with
    | error e =>
      rw [hnode] at h
      cases h
    | ok next =>
      rw [hnode] at h
      dsimp only at h
      cases hrest : lib.pruneItems options contextJSON items with
      | error e =>
        rw [hrest] at h
        cases h
      | ok kept' =>
        rw [hrest] at h
        cases h
        obtain ⟨hall, hkept⟩ := ih hrest
        refine ⟨List.forall_mem_cons.mpr ⟨⟨next, hnode⟩, hall⟩, fun c => ?_⟩
        rw [List.mem_append, Option.mem_toList, hkept]
        simp only [List.mem_cons, exists_eq_or_imp, hnode, Except.ok.injEq]

/-- A loop over a map succeeds at every field, and keeps what the fields leave. -/
theorem pruneFields_ok {fields kept : List (String × Json)}
    (h : lib.pruneFields options contextJSON fields = .ok kept) :
    (∀ e ∈ fields, ∃ next, lib.pruneObjectsNode options contextJSON false e.2 = .ok next) ∧
      ∀ key c, (key, c) ∈ kept ↔ ∃ e ∈ fields, e.1 = key ∧
        lib.pruneObjectsNode options contextJSON false e.2 = .ok (some c) := by
  induction fields generalizing kept with
  | nil =>
    cases h
    exact ⟨fun e he => (nomatch he), fun key c => by simp⟩
  | cons e fields ih =>
    obtain ⟨k, value⟩ := e
    rw [JsonPaths.pruneFields] at h
    cases hnode : lib.pruneObjectsNode options contextJSON false value with
    | error err =>
      rw [hnode] at h
      cases h
    | ok next =>
      rw [hnode] at h
      dsimp only at h
      cases hrest : lib.pruneFields options contextJSON fields with
      | error err =>
        rw [hrest] at h
        cases h
      | ok kept' =>
        rw [hrest] at h
        cases h
        obtain ⟨hall, hkept⟩ := ih hrest
        refine ⟨List.forall_mem_cons.mpr ⟨⟨next, hnode⟩, hall⟩, fun key c => ?_⟩
        rw [List.mem_append, hkept]
        cases next with
        | none => simp [hnode]
        | some c' => simp [hnode, eq_comm]

/-- A field whose value is kept. -/
theorem get?_pruneFields {fields kept : GoMap Json} {key : String} {value c : Json}
    (h : lib.pruneFields options contextJSON fields = .ok kept)
    (hvalue : GoMap.get? fields key = some value)
    (hnode : lib.pruneObjectsNode options contextJSON false value = .ok (some c)) :
    GoMap.get? kept key = some c := by
  induction fields generalizing kept with
  | nil => cases hvalue
  | cons e fields ih =>
    obtain ⟨k, v⟩ := e
    rw [JsonPaths.pruneFields] at h
    cases hfirst : lib.pruneObjectsNode options contextJSON false v with
    | error err =>
      rw [hfirst] at h
      cases h
    | ok next =>
      rw [hfirst] at h
      dsimp only at h
      cases hrest : lib.pruneFields options contextJSON fields with
      | error err =>
        rw [hrest] at h
        cases h
      | ok kept' =>
        rw [hrest] at h
        cases h
        rw [GoMap.get?_cons] at hvalue
        by_cases hkey : key = k
        · rw [if_pos hkey] at hvalue
          cases hvalue
          rw [hnode] at hfirst
          cases hfirst
          simp [GoMap.get?_cons, hkey]
        · rw [if_neg hkey] at hvalue
          cases next with
          | none => exact ih hrest hvalue
          | some c' => simpa [GoMap.get?_cons, hkey] using ih hrest hvalue

/-- Pruning does not change the `type` by which an object is tested. -/
theorem testedType_pruneFields {fields kept : GoMap Json} {contextType : Option Json}
    (h : lib.pruneFields options contextJSON fields = .ok kept)
    (hcomparable : comparable (testedType contextType fields) = true) :
    testedType contextType kept = testedType contextType fields ∧
      ∀ t, typeIs t kept = typeIs t fields := by
  have hsame : GoMap.get? kept "type" = GoMap.get? fields "type" := by
    cases hown : GoMap.get? fields "type" with
    | none =>
      rw [GoMap.get?_eq_none_iff] at hown ⊢
      intro hmem
      obtain ⟨⟨k, c⟩, hkc, hk⟩ := List.mem_map.mp hmem
      cases hk
      obtain ⟨e, he, hkey, -⟩ := ((pruneFields_ok h).2 "type" c).mp hkc
      exact hown (hkey ▸ List.mem_map_of_mem he)
    | some value =>
      unfold testedType at hcomparable
      rw [hown] at hcomparable
      change comparable (some value) = true at hcomparable
      cases value with
      | null => exact get?_pruneFields h hown rfl
      | str s => exact get?_pruneFields h hown rfl
      | bool b => cases hcomparable
      | num literal => cases hcomparable
      | arr items => cases hcomparable
      | obj fields => cases hcomparable
  exact ⟨by rw [testedType, testedType, hsame], fun t => by rw [typeIs, typeIs, hsame]⟩

/-! ## Objects that are tested as asked -/

/-- The test of an object succeeds and says what `drop` says. -/
def TestsAs (drop : GoMap Json → Bool) (v : String) (contextType : Option Json)
    (fields : GoMap Json) : Prop :=
  comparable (testedType contextType fields) = true ∧
    textIs v (testedType contextType fields) = drop fields

/-- Where no object is told apart. -/
def noObject : GoMap Json → Bool := fun _ => false

/-- An object has each key once. -/
def DistinctKeys (fields : GoMap Json) : Prop := (fields.map Prod.fst).Nodup

variable {drop : GoMap Json → Bool} {t v : String}

theorem pruneItems_eq {items : List Json}
    (h : ∀ item ∈ items, lib.pruneObjectsNode options contextJSON false item =
      .ok (if dropped drop item then none else some (removeObjects drop item))) :
    lib.pruneItems options contextJSON items = .ok (Json.removeItems drop items) := by
  induction items with
  | nil => rfl
  | cons item items ih =>
    rw [JsonPaths.pruneItems, h item List.mem_cons_self,
      ih fun item' hitem' => h item' (List.mem_cons_of_mem item hitem'), Json.removeItems]
    cases dropped drop item <;> rfl

theorem pruneFields_eq {fields : List (String × Json)}
    (h : ∀ e ∈ fields, lib.pruneObjectsNode options contextJSON false e.2 =
      .ok (if dropped drop e.2 then none else some (removeObjects drop e.2))) :
    lib.pruneFields options contextJSON fields = .ok (Json.removeFields drop fields) := by
  induction fields with
  | nil => rfl
  | cons e fields ih =>
    rw [JsonPaths.pruneFields, h e List.mem_cons_self,
      ih fun e' he' => h e' (List.mem_cons_of_mem e he'), Json.removeFields]
    cases dropped drop e.2 <;> rfl

/-- An object whose test succeeds. -/
theorem pruneObject_of_comparable (htype : ReadsType lib) {fields : GoMap Json}
    (h : comparable (testedType (contextTypeOf lib contextJSON) fields) = true) (isRoot : Bool) :
    lib.pruneObjectsNode (typeOptions v) contextJSON isRoot (.obj fields) =
      if textIs v (testedType (contextTypeOf lib contextJSON) fields) && !isRoot then .ok none
      else (lib.pruneFields (typeOptions v) contextJSON fields).map fun kept =>
        some (.obj kept) := by
  have hshould := shouldPruneObject_type htype v contextJSON fields
  rw [if_pos h] at hshould
  rw [JsonPaths.pruneObjectsNode, hshould]
  simp only [typeOptions, not_true_eq_false, if_false]

/-- Where every test says what `drop` says, these are the objects removed. -/
theorem pruneObjectsNode_eq (htype : ReadsType lib) (doc : Json) :
    EveryObject drop (TestsAs drop v (contextTypeOf lib contextJSON)) doc →
      lib.pruneObjectsNode (typeOptions v) contextJSON false doc =
        .ok (if dropped drop doc then none else some (removeObjects drop doc)) := by
  induction doc using Json.induction with
  | null => exact fun _ => rfl
  | bool b => exact fun _ => rfl
  | num literal => exact fun _ => rfl
  | str s => exact fun _ => rfl
  | arr items ih =>
    intro h
    rw [Json.everyObject_arr] at h
    rw [JsonPaths.pruneObjectsNode, pruneItems_eq fun item hitem => ih item hitem (h item hitem)]
    rfl
  | obj fields ih =>
    intro h
    rw [Json.everyObject_obj] at h
    obtain ⟨⟨hcomparable, hsame⟩, hfields⟩ := h
    rw [pruneObject_of_comparable htype hcomparable, hsame]
    cases hdrop : drop fields with
    | true => simp [dropped, hdrop]
    | false =>
      rw [pruneFields_eq fun e he => ih e he (hfields hdrop e he)]
      simp [dropped, hdrop, removeObjects, Except.map]

/-- The target itself is tested, but not removed. -/
theorem pruneRoot_eq (htype : ReadsType lib) {target : Json}
    (hroot : ∀ fields, target = .obj fields →
      comparable (testedType (contextTypeOf lib contextJSON) fields) = true)
    (hbelow : EveryBelow drop (TestsAs drop v (contextTypeOf lib contextJSON)) target) :
    lib.pruneObjectsNode (typeOptions v) contextJSON true target =
      .ok (some (removeObjects drop target)) := by
  cases target with
  | null => rfl
  | bool b => rfl
  | num literal => rfl
  | str s => rfl
  | arr items =>
    have hitems := Json.everyItem_iff.mp hbelow
    rw [JsonPaths.pruneObjectsNode,
      pruneItems_eq fun item hitem => pruneObjectsNode_eq htype item (hitems item hitem)]
    rfl
  | obj fields =>
    have hfields := Json.everyField_iff.mp hbelow
    rw [pruneObject_of_comparable htype (hroot fields rfl), Bool.not_true, Bool.and_false,
      if_neg Bool.false_ne_true,
      pruneFields_eq fun e he => pruneObjectsNode_eq htype e.2 (hfields e he)]
    rfl

/-- Removing no object changes nothing. -/
theorem removeObjects_noObject (doc : Json) : removeObjects noObject doc = doc := by
  have hdropped : ∀ value, dropped noObject value = false := fun value => by cases value <;> rfl
  induction doc using Json.induction with
  | null => rfl
  | bool b => rfl
  | num literal => rfl
  | str s => rfl
  | arr items ih =>
    have hitems : Json.removeItems noObject items = items := by
      induction items with
      | nil => rfl
      | cons item items ihItems =>
        rw [Json.removeItems, hdropped, ih item List.mem_cons_self,
          ihItems fun item' hitem' => ih item' (List.mem_cons_of_mem item hitem')]
        rfl
    rw [removeObjects, hitems]
  | obj fields ih =>
    have hfields : Json.removeFields noObject fields = fields := by
      induction fields with
      | nil => rfl
      | cons e fields ihFields =>
        rw [Json.removeFields, hdropped, ih e List.mem_cons_self,
          ihFields fun e' he' => ih e' (List.mem_cons_of_mem e he')]
        rfl
    rw [removeObjects, hfields]

/-! ## What is left of a document -/

/-- An object that is not an error was tested; it is dropped or its fields are pruned. -/
theorem pruneObject_ok (htype : ReadsType lib) {fields : GoMap Json} {isRoot : Bool}
    {next : Option Json}
    (h : lib.pruneObjectsNode (typeOptions v) contextJSON isRoot (.obj fields) = .ok next) :
    comparable (testedType (contextTypeOf lib contextJSON) fields) = true ∧
      ((textIs v (testedType (contextTypeOf lib contextJSON) fields) = true ∧ isRoot = false ∧
        next = none) ∨
      ((textIs v (testedType (contextTypeOf lib contextJSON) fields) = false ∨ isRoot = true) ∧
        ∃ kept, lib.pruneFields (typeOptions v) contextJSON fields = .ok kept ∧
          next = some (.obj kept))) := by
  have hshould := shouldPruneObject_type htype v contextJSON fields
  by_cases hcomparable : comparable (testedType (contextTypeOf lib contextJSON) fields) = true
  · refine ⟨hcomparable, ?_⟩
    rw [pruneObject_of_comparable htype hcomparable] at h
    split at h
    · rename_i hdrop
      rw [Bool.and_eq_true, Bool.not_eq_true'] at hdrop
      cases h
      exact .inl ⟨hdrop.1, hdrop.2, rfl⟩
    · rename_i hkeep
      right
      constructor
      · by_contra hboth
        rw [not_or, Bool.not_eq_false, Bool.not_eq_true] at hboth
        exact hkeep (by rw [hboth.1, hboth.2]; rfl)
      · cases hfields : lib.pruneFields (typeOptions v) contextJSON fields with
        | error e =>
          rw [hfields] at h
          cases h
        | ok kept =>
          rw [hfields] at h
          cases h
          exact ⟨kept, rfl, rfl⟩
  · rw [if_neg hcomparable] at hshould
    obtain ⟨e, he⟩ := hshould
    rw [JsonPaths.pruneObjectsNode, he] at h
    cases h

theorem pruneArray_ok {items : List Json} {isRoot : Bool} {next : Option Json}
    (h : lib.pruneObjectsNode options contextJSON isRoot (.arr items) = .ok next) :
    ∃ kept, lib.pruneItems options contextJSON items = .ok kept ∧ next = some (.arr kept) := by
  rw [JsonPaths.pruneObjectsNode] at h
  cases hitems : lib.pruneItems options contextJSON items with
  | error e =>
    rw [hitems] at h
    cases h
  | ok kept =>
    rw [hitems] at h
    cases h
    exact ⟨kept, rfl, rfl⟩

/-- What is left would not be removed by a second pass. -/
theorem pruneObjectsNode_leaves (htype : ReadsType lib) (doc : Json) :
    ∀ c, lib.pruneObjectsNode (typeOptions v) contextJSON false doc = .ok (some c) →
      EveryObject noObject (TestsAs noObject v (contextTypeOf lib contextJSON)) c := by
  induction doc using Json.induction with
  | null =>
    rintro c ⟨⟩
    trivial
  | bool b =>
    rintro c ⟨⟩
    trivial
  | num literal =>
    rintro c ⟨⟩
    trivial
  | str s =>
    rintro c ⟨⟩
    trivial
  | arr items ih =>
    intro c h
    obtain ⟨kept, hkept, heq⟩ := pruneArray_ok h
    cases heq
    rw [Json.everyObject_arr]
    intro c' hc'
    obtain ⟨item, hitem, hnode⟩ := ((pruneItems_ok hkept).2 c').mp hc'
    exact ih item hitem c' hnode
  | obj fields ih =>
    intro c h
    obtain ⟨hcomparable, ⟨-, -, hnone⟩ | ⟨hkeep, kept, hkept, heq⟩⟩ := pruneObject_ok htype h
    · cases hnone
    · cases heq
      have hsame := (testedType_pruneFields hkept hcomparable).1
      rw [Json.everyObject_obj]
      refine ⟨⟨by rw [hsame]; exact hcomparable, ?_⟩, fun _ e he => ?_⟩
      · rw [hsame]
        exact hkeep.resolve_right Bool.false_ne_true
      · obtain ⟨e', he', -, hnode⟩ := ((pruneFields_ok hkept).2 e.1 e.2).mp he
        exact ih e' he' e.2 hnode

/-- The same of what is left below the target. -/
theorem pruneRoot_leaves (htype : ReadsType lib) {target c : Json}
    (h : lib.pruneObjectsNode (typeOptions v) contextJSON true target = .ok (some c)) :
    EveryBelow noObject (TestsAs noObject v (contextTypeOf lib contextJSON)) c ∧
      ∀ fields, c = .obj fields →
        comparable (testedType (contextTypeOf lib contextJSON) fields) = true := by
  cases target with
  | null =>
    cases h
    exact ⟨trivial, fun _ heq => (nomatch heq)⟩
  | bool b =>
    cases h
    exact ⟨trivial, fun _ heq => (nomatch heq)⟩
  | num literal =>
    cases h
    exact ⟨trivial, fun _ heq => (nomatch heq)⟩
  | str s =>
    cases h
    exact ⟨trivial, fun _ heq => (nomatch heq)⟩
  | arr items =>
    obtain ⟨kept, hkept, heq⟩ := pruneArray_ok h
    cases heq
    refine ⟨Json.everyItem_iff.mpr fun c' hc' => ?_, fun _ heq => (nomatch heq)⟩
    obtain ⟨item, -, hnode⟩ := ((pruneItems_ok hkept).2 c').mp hc'
    exact pruneObjectsNode_leaves htype item c' hnode
  | obj fields =>
    obtain ⟨hcomparable, ⟨-, hroot, -⟩ | ⟨-, kept, hkept, heq⟩⟩ := pruneObject_ok htype h
    · cases hroot
    · cases heq
      refine ⟨Json.everyField_iff.mpr fun e he => ?_, ?_⟩
      · obtain ⟨e', -, -, hnode⟩ := ((pruneFields_ok hkept).2 e.1 e.2).mp he
        exact pruneObjectsNode_leaves htype e'.2 e.2 hnode
      · rintro fields' ⟨⟩
        rw [(testedType_pruneFields hkept hcomparable).1]
        exact hcomparable

/-- Removing the objects of a type leaves none of it. -/
theorem removeObjects_leaves (t : String) (doc : Json) :
    EveryObject noObject DistinctKeys doc → dropped (typeIs t) doc = false →
      EveryObject noObject (fun fields => typeIs t fields = false)
        (removeObjects (typeIs t) doc) := by
  induction doc using Json.induction with
  | null => exact fun _ _ => trivial
  | bool b => exact fun _ _ => trivial
  | num literal => exact fun _ _ => trivial
  | str s => exact fun _ _ => trivial
  | arr items ih =>
    intro hdistinct _
    rw [Json.everyObject_arr] at hdistinct
    rw [removeObjects, Json.everyObject_arr]
    intro kept hkept
    obtain ⟨item, hitem, hdrop, rfl⟩ := Json.mem_removeItems.mp hkept
    exact ih item hitem (hdistinct item hitem) hdrop
  | obj fields ih =>
    intro hdistinct hdrop
    rw [Json.everyObject_obj] at hdistinct
    rw [removeObjects, Json.everyObject_obj]
    constructor
    · change typeIs t fields = false at hdrop
      unfold typeIs at hdrop ⊢
      rw [Json.get?_removeFields hdistinct.1]
      cases hown : GoMap.get? fields "type" with
      | none => rfl
      | some value =>
        rw [hown] at hdrop
        rw [Option.bind_some]
        split
        · rfl
        · cases value with
          | str s => exact hdrop
          | null => rfl
          | bool b => rfl
          | num literal => rfl
          | arr items => rfl
          | obj fields => rfl
    · intro _ e he
      obtain ⟨e', he', hdrop', rfl⟩ := Json.mem_removeFields.mp he
      exact ih e' he' (hdistinct.2 rfl e' he') hdrop'

theorem testedType_removeFields {fields : GoMap Json} (hdistinct : DistinctKeys fields)
    {contextType : Option Json}
    (hcomparable : comparable (testedType contextType fields) = true) :
    testedType contextType (Json.removeFields drop fields) = testedType contextType fields := by
  unfold testedType at hcomparable ⊢
  rw [Json.get?_removeFields hdistinct]
  cases hown : GoMap.get? fields "type" with
  | none => rfl
  | some value =>
    rw [hown] at hcomparable
    change comparable (some value) = true at hcomparable
    cases value with
    | null => rfl
    | str s => rfl
    | bool b => cases hcomparable
    | num literal => cases hcomparable
    | arr items => cases hcomparable
    | obj fields => cases hcomparable

/-- Where pruning succeeds, what it leaves has no object of the type and what should be left has
    no object that is removed, every object is tested as asked. -/
theorem testsAs_of_pruned (htype : ReadsType lib) (doc : Json) :
    ∀ next, EveryObject noObject DistinctKeys doc →
      lib.pruneObjectsNode (typeOptions v) contextJSON false doc = .ok next →
      (dropped (typeIs t) doc = false →
        EveryObject noObject (TestsAs noObject v (contextTypeOf lib contextJSON))
          (removeObjects (typeIs t) doc)) →
      (∀ c, next = some c → EveryObject noObject (fun fields => typeIs t fields = false) c) →
      EveryObject (typeIs t) (TestsAs (typeIs t) v (contextTypeOf lib contextJSON)) doc := by
  induction doc using Json.induction with
  | null => exact fun _ _ _ _ _ => trivial
  | bool b => exact fun _ _ _ _ _ => trivial
  | num literal => exact fun _ _ _ _ _ => trivial
  | str s => exact fun _ _ _ _ _ => trivial
  | arr items ih =>
    intro next hdistinct hnode hasked hleft
    obtain ⟨kept, hkept, rfl⟩ := pruneArray_ok hnode
    obtain ⟨hall, hmem⟩ := pruneItems_ok hkept
    have hasked' := hasked rfl
    have hleft' := hleft _ rfl
    rw [Json.everyObject_arr] at hdistinct hleft' ⊢
    rw [removeObjects, Json.everyObject_arr] at hasked'
    intro item hitem
    obtain ⟨next', hnext'⟩ := hall item hitem
    refine ih item hitem next' (hdistinct item hitem) hnext'
      (fun hdrop => hasked' _ (Json.mem_removeItems.mpr ⟨item, hitem, hdrop, rfl⟩)) ?_
    rintro c rfl
    exact hleft' c ((hmem c).mpr ⟨item, hitem, hnext'⟩)
  | obj fields ih =>
    intro next hdistinct hnode hasked hleft
    obtain ⟨hcomparable, hcases⟩ := pruneObject_ok htype hnode
    rw [Json.everyObject_obj] at hdistinct ⊢
    cases htypeIs : typeIs t fields with
    | true =>
      refine ⟨⟨hcomparable, ?_⟩, fun h => absurd h Bool.noConfusion⟩
      rcases hcases with ⟨hdrop, -, -⟩ | ⟨-, kept, hkept, rfl⟩
      · rw [hdrop, htypeIs]
      · -- an object of the type would be left
        have hkeptType := (Json.everyObject_obj.mp (hleft _ rfl)).1
        rw [(testedType_pruneFields hkept hcomparable).2, htypeIs] at hkeptType
        cases hkeptType
    | false =>
      have hasked' := hasked htypeIs
      rw [removeObjects, Json.everyObject_obj] at hasked'
      have hkeep : textIs v (testedType (contextTypeOf lib contextJSON) fields) = false := by
        have := hasked'.1.2
        rwa [testedType_removeFields hdistinct.1 hcomparable] at this
      refine ⟨⟨hcomparable, by rw [hkeep, htypeIs]⟩, fun _ e he => ?_⟩
      rcases hcases with ⟨hdrop, -, -⟩ | ⟨-, kept, hkept, rfl⟩
      · rw [hdrop] at hkeep
        cases hkeep
      · obtain ⟨hall, hmem⟩ := pruneFields_ok hkept
        obtain ⟨next', hnext'⟩ := hall e he
        refine ih e he next' (hdistinct.2 rfl e he) hnext'
          (fun hdrop => hasked'.2 rfl _ (Json.mem_removeFields.mpr ⟨e, he, hdrop, rfl⟩)) ?_
        rintro c rfl
        exact (Json.everyObject_obj.mp (hleft _ rfl)).2 rfl (e.1, c)
          ((hmem e.1 c).mpr ⟨e, he, rfl, hnext'⟩)

/-! ## Pruning a target -/

/-- What is relied on of the path of a target: its value can be replaced, what is written is read
    back, and the last write counts. -/
structure TargetPath (lib : JsonPaths) (path : String) : Prop where
  set_ok : ∀ {data target} value, lib.get data path = some target →
    ∃ result, lib.set data path value = .ok result
  get_set : ∀ {data result target value}, lib.get data path = some target →
    lib.set data path value = .ok result → lib.get result path = some value
  set_set : ∀ {data result target value} value', lib.get data path = some target →
    lib.set data path value = .ok result → lib.set result path value' = lib.set data path value'

/-- The target of a path; the empty path is the document. -/
def targetAt (lib : JsonPaths) (data : Json) (path : String) : Option Json :=
  if path = "" then some data else lib.get data path

/-- The document with another target. -/
def replaceTarget (lib : JsonPaths) (data : Json) (path : String) (target : Json) :
    Except String Json :=
  if path = "" then .ok target else lib.set data path target

/-- Pruning by a type name is pruning the target. -/
theorem pruneObjects_type {path : String} {data target : Json}
    (htarget : targetAt lib data path = some target) (contextJSON : Option Json) (t : String) :
    lib.pruneObjects data path contextJSON (.str t) =
      if trimSpace t = "" then .error "prune_objects value is required"
      else
        match lib.pruneObjectsNode (typeOptions (trimSpace t)) contextJSON true target with
        | .error e => .error e
        | .ok cleaned => replaceTarget lib data path (cleaned.getD .null) := by
  unfold JsonPaths.pruneObjects parsePruneObjectsOptions
  unfold targetAt at htarget
  unfold replaceTarget
  by_cases hblank : trimSpace t = ""
  · simp [hblank, bind, Except.bind]
  · simp only [hblank, if_false]
    show (if path = "" then _ else _) = _
    split
    · rename_i hpath
      rw [if_pos hpath] at htarget
      cases htarget
      show (lib.pruneObjectsNode (typeOptions (trimSpace t)) contextJSON true data >>= _) = _
      cases lib.pruneObjectsNode (typeOptions (trimSpace t)) contextJSON true data with
      | error e => rfl
      | ok cleaned => rfl
    · rename_i hpath
      rw [if_neg hpath] at htarget
      rw [htarget]
      show (lib.pruneObjectsNode (typeOptions (trimSpace t)) contextJSON true target >>= _) = _
      cases lib.pruneObjectsNode (typeOptions (trimSpace t)) contextJSON true target with
      | error e => rfl
      | ok cleaned => rfl

/-- The condition on the objects that pruning comes to: each can be tested, and below the target
    the test says what the own `type` says. -/
structure PrunableBy (t : String) (contextType : Option Json) (target : Json) : Prop where
  named : trimSpace t ≠ ""
  root : ∀ fields, target = .obj fields → comparable (testedType contextType fields) = true
  below : EveryBelow (typeIs t) (TestsAs (typeIs t) (trimSpace t) contextType) target

/-- The target is never dropped. -/
theorem pruneRoot_some (htype : ReadsType lib) {target : Json} {next : Option Json}
    (h : lib.pruneObjectsNode (typeOptions v) contextJSON true target = .ok next) :
    ∃ c, next = some c := by
  cases target with
  | null => exact ⟨_, (Except.ok.inj h).symm⟩
  | bool b => exact ⟨_, (Except.ok.inj h).symm⟩
  | num literal => exact ⟨_, (Except.ok.inj h).symm⟩
  | str s => exact ⟨_, (Except.ok.inj h).symm⟩
  | arr items =>
    obtain ⟨kept, -, rfl⟩ := pruneArray_ok h
    exact ⟨_, rfl⟩
  | obj fields =>
    obtain ⟨-, ⟨-, hroot, -⟩ | ⟨-, kept, -, rfl⟩⟩ := pruneObject_ok htype h
    · cases hroot
    · exact ⟨_, rfl⟩

/-- A target pruned to what is asked is prunable. -/
theorem prunableBy_of_pruned (htype : ReadsType lib) {target : Json}
    (hdistinct : EveryObject noObject DistinctKeys target) (hnamed : trimSpace t ≠ "")
    (h : lib.pruneObjectsNode (typeOptions (trimSpace t)) contextJSON true target =
      .ok (some (removeObjects (typeIs t) target))) :
    PrunableBy t (contextTypeOf lib contextJSON) target := by
  obtain ⟨hasked, -⟩ := pruneRoot_leaves htype h
  cases target with
  | null => exact ⟨hnamed, fun _ heq => (nomatch heq), trivial⟩
  | bool b => exact ⟨hnamed, fun _ heq => (nomatch heq), trivial⟩
  | num literal => exact ⟨hnamed, fun _ heq => (nomatch heq), trivial⟩
  | str s => exact ⟨hnamed, fun _ heq => (nomatch heq), trivial⟩
  | arr items =>
    refine ⟨hnamed, fun _ heq => (nomatch heq), ?_⟩
    refine testsAs_of_pruned htype (.arr items) _ hdistinct h (fun _ => hasked) ?_
    rintro c ⟨⟩
    exact removeObjects_leaves t (.arr items) hdistinct rfl
  | obj fields =>
    obtain ⟨hcomparable, ⟨-, hroot, -⟩ | ⟨-, kept, hkept, heq⟩⟩ := pruneObject_ok htype h
    · cases hroot
    · refine ⟨hnamed, fun fields' heq' => ?_, Json.everyField_iff.mpr fun e he => ?_⟩
      · cases heq'
        exact hcomparable
      · have hkeptEq : Json.removeFields (typeIs t) fields = kept :=
          Json.obj.inj (Option.some.inj heq)
        obtain ⟨hall, hmem⟩ := pruneFields_ok hkept
        obtain ⟨next, hnext⟩ := hall e he
        rw [Json.everyObject_obj] at hdistinct
        have hfields := Json.everyField_iff.mp hasked
        refine testsAs_of_pruned htype e.2 next (hdistinct.2 rfl e he) hnext
          (fun hdrop => hfields _ (Json.mem_removeFields.mpr ⟨e, he, hdrop, rfl⟩)) ?_
        rintro c rfl
        have hc : (e.1, c) ∈ Json.removeFields (typeIs t) fields := by
          rw [hkeptEq]
          exact (hmem e.1 c).mpr ⟨e, he, rfl, hnext⟩
        obtain ⟨e', he', hdrop, heq'⟩ := Json.mem_removeFields.mp hc
        rw [show c = removeObjects (typeIs t) e'.2 from congrArg Prod.snd heq']
        exact removeObjects_leaves t e'.2 (hdistinct.2 rfl e' he') hdrop

/-- Pruning by a type name succeeds, removes just the objects of the type below the target and
    changes nothing when it is done again, exactly if the target is prunable. -/
theorem pruneObjects_iff {lib : JsonPaths} (htype : ReadsType lib) {path : String}
    (hpath : path ≠ "" → TargetPath lib path) {data target : Json}
    (htarget : targetAt lib data path = some target)
    (hdistinct : EveryObject noObject DistinctKeys target) (contextJSON : Option Json)
    (t : String) :
    (∃ result, lib.pruneObjects data path contextJSON (.str t) = .ok result ∧
      replaceTarget lib data path (removeObjects (typeIs t) target) = .ok result ∧
      lib.pruneObjects result path contextJSON (.str t) = .ok result) ↔
      PrunableBy t (contextTypeOf lib contextJSON) target := by
  have hreplaced : ∀ {result value}, replaceTarget lib data path value = .ok result →
      targetAt lib result path = some value := by
    intro result value h
    unfold replaceTarget at h
    unfold targetAt at htarget ⊢
    split at h
    · rename_i hempty
      cases h
      rw [if_pos hempty]
    · rename_i hne
      rw [if_neg hne] at htarget ⊢
      exact (hpath hne).get_set htarget h
  constructor
  · rintro ⟨result, hpruned, hasked, -⟩
    rw [pruneObjects_type htarget] at hpruned
    by_cases hnamed : trimSpace t = ""
    · rw [if_pos hnamed] at hpruned
      cases hpruned
    · rw [if_neg hnamed] at hpruned
      cases hnode : lib.pruneObjectsNode (typeOptions (trimSpace t)) contextJSON true target with
      | error e =>
        rw [hnode] at hpruned
        cases hpruned
      | ok next =>
        rw [hnode] at hpruned
        obtain ⟨c, rfl⟩ := pruneRoot_some htype hnode
        have hsame : some c = some (removeObjects (typeIs t) target) :=
          (hreplaced hpruned).symm.trans (hreplaced hasked)
        rw [hsame] at hnode
        exact prunableBy_of_pruned htype hdistinct hnamed hnode
  · intro h
    have hnode := pruneRoot_eq htype h.root h.below
    have hresult : ∃ result,
        replaceTarget lib data path (removeObjects (typeIs t) target) = .ok result := by
      unfold replaceTarget
      unfold targetAt at htarget
      split
      · exact ⟨_, rfl⟩
      · rename_i hne
        rw [if_neg hne] at htarget
        exact (hpath hne).set_ok _ htarget
    obtain ⟨result, hresult⟩ := hresult
    refine ⟨result, ?_, hresult, ?_⟩
    · rw [pruneObjects_type htarget, if_neg h.named, hnode]
      exact hresult
    · obtain ⟨hbelow, hroot⟩ := pruneRoot_leaves htype hnode
      have hagain := pruneRoot_eq htype hroot hbelow
      rw [removeObjects_noObject] at hagain
      rw [pruneObjects_type (hreplaced hresult), if_neg h.named, hagain]
      show replaceTarget lib result path _ = _
      unfold replaceTarget at hresult ⊢
      unfold targetAt at htarget
      split
      · rename_i hempty
        rw [if_pos hempty] at hresult
        exact hresult
      · rename_i hne
        rw [if_neg hne] at htarget hresult
        rw [(hpath hne).set_set _ htarget hresult]
        exact hresult

/-! ## A field of a tool that is called `type` -/

theorem dotted_readsType : ReadsType dotted := by
  intro fields
  rw [dotted_get (by decide), show components "type".toList = ["type".toList] by decide]
  show (GoMap.get? fields "type").bind some = _
  exact Option.bind_fun_some _

theorem dotted_targetPath : TargetPath dotted "messages" := by
  have hplain : hasQuery "messages".toList = false := by decide
  have hread : (components "messages".toList).map String.ofList = ["messages"] := by decide
  have hwrite : (components "messages".toList).map unforced = ["messages"] := by decide
  have hobj : ∀ {data target}, dotted.get data "messages" = some target →
      ∃ fields, data = .obj fields := by
    intro data target h
    rw [dotted_get hplain, hread] at h
    cases data with
    | obj fields => exact ⟨fields, rfl⟩
    | arr items => cases h
    | null => cases h
    | bool b => cases h
    | num literal => cases h
    | str s => cases h
  have hset : ∀ fields value, dotted.set (.obj fields) "messages" value =
      .ok (.obj (GoMap.set "messages" value fields)) := by
    intro fields value
    rw [dotted_set hplain, hwrite, setAt_key]
  constructor
  · intro data target value h
    obtain ⟨fields, rfl⟩ := hobj h
    exact ⟨_, hset fields value⟩
  · intro data result target value h hwritten
    obtain ⟨fields, rfl⟩ := hobj h
    rw [hset] at hwritten
    cases hwritten
    rw [dotted_get hplain, hread]
    show (GoMap.get? (GoMap.set "messages" value fields) "messages").bind some = _
    rw [GoMap.get?_set_self, Option.bind_some]
  · intro data result target value value' h hwritten
    obtain ⟨fields, rfl⟩ := hobj h
    rw [hset] at hwritten
    cases hwritten
    rw [hset, hset, GoMap.set_set]

/-- A thought between two texts. -/
def thoughtDoc : Json :=
  .obj [("messages", .arr [.obj [("type", .str "text")], .obj [("type", .str "thinking")]])]

def thoughtTarget : Json := .arr [.obj [("type", .str "text")], .obj [("type", .str "thinking")]]

/-- The thought is removed. -/
theorem pruneObjects_thought :
    (∃ result, dotted.pruneObjects thoughtDoc "messages" none (.str "thinking") = .ok result ∧
      replaceTarget dotted thoughtDoc "messages"
        (removeObjects (typeIs "thinking") thoughtTarget) = .ok result ∧
      dotted.pruneObjects result "messages" none (.str "thinking") = .ok result) ↔
      PrunableBy "thinking" (contextTypeOf dotted none) thoughtTarget :=
  pruneObjects_iff dotted_readsType (fun _ => dotted_targetPath)
    (show targetAt dotted thoughtDoc "messages" = some thoughtTarget from rfl)
    (by simp [thoughtTarget, EveryObject, Json.EveryItem, Json.EveryField, DistinctKeys]) none
    "thinking"

/-- The schema of a value that may be null: `{"format": {"type": ["string", "null"]}}`. -/
def nullableSchema : Json :=
  .obj [("format", .obj [("type", .arr [.str "string", .str "null"])])]

/-- A list of types is an error for every type name. -/
theorem nullable_type_not_pruned :
    ¬ ∀ (lib : JsonPaths), ReadsType lib → ∀ (data : Json),
      EveryObject noObject DistinctKeys data → ∀ (t : String),
      ∃ result, lib.pruneObjects data "" none (.str t) = .ok result ∧
        removeObjects (typeIs t) data = result ∧
        lib.pruneObjects result "" none (.str t) = .ok result := by
  intro h
  obtain ⟨result, hpruned, -⟩ := h dotted dotted_readsType nullableSchema
    (by simp [nullableSchema, EveryObject, Json.EveryItem, Json.EveryField, DistinctKeys]) "tool"
  rw [pruneObjects_type (show targetAt dotted nullableSchema "" = some nullableSchema from rfl),
    if_neg (by decide)] at hpruned
  have hnode : ∀ next, dotted.pruneObjectsNode (typeOptions (trimSpace "tool")) none true
      nullableSchema ≠ .ok next := by
    intro next hnode
    obtain ⟨-, ⟨-, hroot, -⟩ | ⟨-, kept, hkept, -⟩⟩ := pruneObject_ok dotted_readsType hnode
    · cases hroot
    · obtain ⟨next', hnext'⟩ := (pruneFields_ok hkept).1
        ("format", .obj [("type", .arr [.str "string", .str "null"])]) List.mem_cons_self
      cases (pruneObject_ok dotted_readsType hnext').1
  cases hresult : dotted.pruneObjectsNode (typeOptions (trimSpace "tool")) none true
      nullableSchema with
  | error e =>
    rw [hresult] at hpruned
    cases hpruned
  | ok next => exact hnode next hresult

end TokenRouter.ParamOverride
