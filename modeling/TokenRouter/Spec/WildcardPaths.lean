import TokenRouter.Common.Json
import TokenRouter.ForStd.Split
import TokenRouter.Spec.PathSyntax

/-!
# Operations on wildcard paths

The paths of a wildcard are collected as texts and the operation is then run on one after the
other. Each run changes the document for the next, and an item of an array that is deleted moves
the ones behind it. So a run over the paths is the operation at once on everything that is matched,
unless it deletes the items of an array.

## Key results

- `foldlM_collect`: the run over the paths, as one operation on the document
- `wildcard_iff`: when it is the operation at once
-/

namespace TokenRouter.ParamOverride

open Json (setChild replaceAt EveryObject)

/-! ## The operation at once -/

/-- What an operation makes of a node or of a missing field, with `none` for no node. -/
abbrev NodeOperation := Option Json → Except String (Option Json)

/-- A node with another child, or without it. -/
def putChild (key : String) (value : Option Json) (node : Json) : Json :=
  match value with
  | some v => (setChild key v node).getD node
  | none => node.deleteAt [key]

/-- The fields of an object with other values. -/
def fieldsWith (fields : List (String × Json)) (values : List (Option Json)) :
    List (String × Json) :=
  (fields.zip values).filterMap fun e => e.2.map fun value => (e.1.1, value)

/-- A node after an operation on everything that the segments match in it. `left` is what is left
    of an array for what the operation makes of its items. -/
def operateWith (left : List Json → List (Option Json) → List Json) (op : NodeOperation) :
    List String → Json → Except String (Option Json)
  | [], node => op (some node)
  | segment :: rest, node =>
    if segment = "*" then
      match node with
      | .obj fields => (fields.mapM fun e => operateWith left op rest e.2).map fun values =>
          some (.obj (fieldsWith fields values))
      | .arr items => (items.mapM (operateWith left op rest)).map fun values =>
          some (.arr (left items values))
      | node => .ok (some node)
    else
      match node.child segment, node with
      | some next, node => (operateWith left op rest next).map fun value =>
          some (putChild segment value node)
      | none, .obj fields =>
        -- the last segment may name a field that is missing
        if rest = [] then (op none).map fun value => some (putChild segment value (.obj fields))
        else .ok (some (.obj fields))
      | none, node => .ok (some node)

section Equations

variable {left : List Json → List (Option Json) → List Json} {op : NodeOperation}
variable {segment : String} {rest : List String} {node : Json}

theorem operateWith_obj (fields : List (String × Json)) :
    operateWith left op ("*" :: rest) (.obj fields) =
      (fields.mapM fun e => operateWith left op rest e.2).map fun values =>
        some (.obj (fieldsWith fields values)) :=
  if_pos rfl

theorem operateWith_arr (items : List Json) :
    operateWith left op ("*" :: rest) (.arr items) =
      (items.mapM (operateWith left op rest)).map fun values => some (.arr (left items values)) :=
  if_pos rfl

theorem operateWith_plain (hstar : segment ≠ "*") :
    operateWith left op (segment :: rest) node =
      match node.child segment, node with
      | some next, node => (operateWith left op rest next).map fun value =>
          some (putChild segment value node)
      | none, .obj fields =>
        if rest = [] then (op none).map fun value => some (putChild segment value (.obj fields))
        else .ok (some (.obj fields))
      | none, node => .ok (some node) := by
  cases node <;> exact if_neg hstar

end Equations

/-- The operation at once: an array keeps what is made of its items. -/
def operateAtOnce (op : NodeOperation) : List String → Json → Except String (Option Json) :=
  operateWith (fun _ values => values.reduceOption) op

/-- What `prune_objects` writes for the value at a path. -/
def prunedNode (lib : JsonPaths) (value : Json) (contextJSON : Option Json)
    (current : Option Json) : Except String (Option Json) :=
  (parsePruneObjectsOptions value).bind fun options =>
    match current with
    | none => .ok none
    | some target => (lib.pruneObjectsNode options contextJSON true target).map fun cleaned =>
        some (cleaned.getD .null)

/-- What a path-based operation writes for the value at a path; `none` leaves it as it is. -/
def writtenNode (lib : JsonPaths) (op : ParamOperation) (contextJSON : Option Json)
    (current : Option Json) : Except String (Option Json) :=
  match op.mode with
  | "set" => .ok (if op.keepOrigin ∧ current.isSome then none else some op.value)
  | "prepend" => (lib.modifiedValue op.value op.keepOrigin true current).map some
  | "append" => (lib.modifiedValue op.value op.keepOrigin false current).map some
  | "trim_prefix" => JsonPaths.updatedString (lib.trimmedText op.value true) current
  | "trim_suffix" => JsonPaths.updatedString (lib.trimmedText op.value false) current
  | "ensure_prefix" => JsonPaths.updatedString (lib.ensuredText op.value true) current
  | "ensure_suffix" => JsonPaths.updatedString (lib.ensuredText op.value false) current
  | "trim_space" => JsonPaths.updatedString (fun s => .ok (some (trimSpace s))) current
  | "to_lower" => JsonPaths.updatedString (fun s => .ok (some (lib.toLower s))) current
  | "to_upper" => JsonPaths.updatedString (fun s => .ok (some (lib.toUpper s))) current
  | "replace" => JsonPaths.updatedString (JsonPaths.replacedText op.fromPath op.toPath) current
  | "regex_replace" => JsonPaths.updatedString (lib.regexReplacedText op.fromPath op.toPath) current
  | _ => prunedNode lib op.value contextJSON current

/-- What a path-based operation makes of a node. -/
def nodeOperation (lib : JsonPaths) (op : ParamOperation) (contextJSON : Option Json) :
    NodeOperation := fun current =>
  if op.mode = "delete" then .ok none
  else (writtenNode lib op contextJSON current).map fun written => written.or current

/-! ## Readable patterns -/

/-- A segment that matches any key, or one that names the same child for the code and in a
    path. -/
def plainSegment (s : String) : Prop :=
  s = "*" ∨ (plainComponent s ∧ trimSpace s = s ∧
    ((atoi s.toList).bind fun i => if i < 0 then none else some i.toNat) = Json.index? s)

instance (s : String) : Decidable (plainSegment s) := inferInstanceAs (Decidable (_ ∨ _))

/-- The children of a node. -/
def childValues : Json → List Json
  | .obj fields => fields.map Prod.snd
  | .arr items => items
  | _ => []

/-- `P` holds of every node whose children a wildcard matches, and of the segments behind it. -/
def EveryMatched (P : List String → Json → Prop) : List String → Json → Prop
  | [], _ => True
  | segment :: rest, node =>
    if segment = "*" then P rest node ∧ ∀ c ∈ childValues node, EveryMatched P rest c
    else ∀ next, node.child segment = some next → EveryMatched P rest next

/-- The keys that a wildcard matches are read as themselves in a path. -/
def ReadableKeys : List String → Json → Prop :=
  EveryMatched fun _ node => ∀ fields, node = .obj fields → ∀ e ∈ fields, plainComponent e.1

/-- An array whose items the last segment matches has one item at most. -/
def SingleItems : List String → Json → Prop :=
  EveryMatched fun rest node => rest = [] → ∀ items, node = .arr items → items.length ≤ 1

/-- The objects of a document are Go maps. -/
def GoMaps : Json → Prop := EveryObject (fun _ => false) GoMap.Sorted

/-! ## The texts of paths -/

section Texts

variable {segments segments' : List String}

/-- Plain components are told apart by their path. -/
theorem joinPath_inj (hplain : ∀ s ∈ segments, plainComponent s)
    (hplain' : ∀ s ∈ segments', plainComponent s) (hne : segments ≠ []) (hne' : segments' ≠ [])
    (h : joinPath segments = joinPath segments') : segments = segments' := by
  rw [← (dotted_joinPath hne hplain).2.1, ← (dotted_joinPath hne' hplain').2.1, h]

theorem trimSpace_eq_empty_iff (s : String) :
    trimSpace s = "" ↔ ∀ c ∈ s.toList, isSpace c = true := by
  unfold trimSpace
  rw [String.ofList_eq_empty_iff]
  exact List.trimBy_eq_nil_iff

theorem joinPath_not_blank (hplain : ∀ s ∈ segments, plainComponent s) (hne : segments ≠ []) :
    trimSpace (joinPath segments) ≠ "" := by
  obtain ⟨s, rest, rfl⟩ := List.exists_cons_of_ne_nil hne
  intro hblank
  rw [trimSpace_eq_empty_iff, toList_joinPath] at hblank
  refine (hplain s List.mem_cons_self).2.1 ((trimSpace_eq_empty_iff s).mpr fun c hc => ?_)
  refine hblank c ?_
  cases rest with
  | nil => simpa using hc
  | cons s' rest =>
    rw [List.map_cons, List.map_cons, List.intercalate_cons_cons]
    simp [hc]

/-- The text of an index is plain. -/
theorem plainComponent_toString (i : Nat) : plainComponent (toString i) := by
  have hdigits : ∀ c ∈ (toString i).toList, c.isDigit = true := by
    rw [Nat.toString_eq_repr, Nat.toList_repr]
    exact fun c hc => Nat.isDigit_of_mem_toDigits (by decide) (by decide) hc
  have hne : (toString i).toList ≠ [] := by
    rw [Nat.toString_eq_repr, Nat.toList_repr]
    exact Nat.toDigits_ne_nil
  obtain ⟨d, digits, heq⟩ := List.exists_cons_of_ne_nil hne
  have hd : d.isDigit = true := hdigits d (by rw [heq]; exact List.mem_cons_self)
  refine ⟨fun c hc hspecial => ?_, fun hblank => ?_, ?_⟩
  · have hdigit := hdigits c hc
    simp only [List.mem_cons, List.not_mem_nil, or_false] at hspecial
    rcases hspecial with rfl | rfl | rfl | rfl | rfl | rfl | rfl <;> cases hdigit
  · have hspace := (trimSpace_eq_empty_iff _).mp hblank d (by rw [heq]; exact List.mem_cons_self)
    have hrange : 48 ≤ d.toNat ∧ d.toNat ≤ 57 := by
      simpa [Char.isDigit, UInt32.le_iff_toNat_le] using hd
    simp [isSpace] at hspace
    omega
  · rw [heq, List.head?_cons]
    intro hspecial
    simp only [List.mem_cons, List.not_mem_nil, or_false, Option.some.injEq] at hspecial
    rcases hspecial with rfl | rfl | rfl | rfl <;> cases hd

end Texts

/-! ## The collected paths -/

section Collect

variable {segment : String} {rest segments before : List String} {node : Json}

theorem collect_nil (node : Json) (before : List String) :
    collectWildcardPaths [] node before = [joinPath before] := rfl

/-- A segment that is read as it is written. -/
theorem collect_cons (htrim : trimSpace segment = segment) (hne : segment ≠ "")
    (rest : List String) (node : Json) (before : List String) :
    collectWildcardPaths (segment :: rest) node before =
      if segment = "*" then
        match node with
        | .obj fields => fields.flatMap fun e => collectWildcardPaths rest e.2 (before ++ [e.1])
        | .arr items => items.zipIdx.flatMap fun e =>
            collectWildcardPaths rest e.1 (before ++ [toString e.2])
        | _ => []
      else
        match node with
        | .obj fields =>
          if rest = [] then [joinPath (before ++ [segment])]
          else
            match GoMap.get? fields segment with
            | none => []
            | some next => collectWildcardPaths rest next (before ++ [segment])
        | .arr items =>
          match (atoi segment.toList).bind fun i =>
              if i < 0 then none else items[i.toNat]? with
          | none => []
          | some item =>
            if rest = [] then [joinPath (before ++ [segment])]
            else collectWildcardPaths rest item (before ++ [segment])
        | _ => [] := by
  refine (if_neg (by rw [htrim]; exact hne)).trans ?_
  rw [htrim] <;> rfl

theorem collect_obj (rest : List String) (fields : List (String × Json)) (before : List String) :
    collectWildcardPaths ("*" :: rest) (.obj fields) before =
      fields.flatMap fun e => collectWildcardPaths rest e.2 (before ++ [e.1]) := by
  rw [collect_cons (by decide) (by decide), if_pos rfl]

theorem collect_arr (rest : List String) (items : List Json) (before : List String) :
    collectWildcardPaths ("*" :: rest) (.arr items) before =
      items.zipIdx.flatMap fun e =>
        collectWildcardPaths rest e.1 (before ++ [toString e.2]) := by
  rw [collect_cons (by decide) (by decide), if_pos rfl]

theorem collect_leaf (hobj : ∀ fields, node ≠ .obj fields) (harr : ∀ items, node ≠ .arr items)
    (segment : String) (rest before : List String) :
    collectWildcardPaths (segment :: rest) node before = [] := by
  cases node with
  | obj fields => exact absurd rfl (hobj fields)
  | arr items => exact absurd rfl (harr items)
  | _ => simp [collectWildcardPaths]

/-- A plain segment goes on with its child; the last one may name a missing field. -/
theorem collect_plain (hplain : plainSegment segment) (hstar : segment ≠ "*")
    (rest : List String) (node : Json) (before : List String) :
    collectWildcardPaths (segment :: rest) node before =
      match node.child segment, node with
      | some next, _ => collectWildcardPaths rest next (before ++ [segment])
      | none, .obj _ => if rest = [] then [joinPath (before ++ [segment])] else []
      | none, _ => [] := by
  obtain ⟨hcomponent, htrim, hindex⟩ := hplain.resolve_left hstar
  have hne : segment ≠ "" := htrim ▸ hcomponent.2.1
  cases node with
  | obj fields =>
    rw [collect_cons htrim hne, if_neg hstar, Json.child_obj]
    dsimp only
    cases hget : GoMap.get? fields segment with
    | none => rfl
    | some next =>
      dsimp only
      split
      · rename_i hrest
        rw [hrest, collect_nil]
      · rfl
  | arr items =>
    have hchild : ((atoi segment.toList).bind fun i =>
        if i < 0 then none else items[i.toNat]?) = Json.child segment (.arr items) := by
      rw [Json.child, ← hindex, Option.bind_assoc]
      congr 1
      funext i
      split <;> rfl
    rw [collect_cons htrim hne, if_neg hstar]
    dsimp only
    rw [hchild]
    cases Json.child segment (.arr items) with
    | none => rfl
    | some item =>
      dsimp only
      split
      · rename_i hrest
        rw [hrest, collect_nil]
      · rfl
  | _ => simp [collect_cons htrim hne, hstar, Json.child]

theorem everyMatched_star {P : List String → Json → Prop} :
    EveryMatched P ("*" :: rest) node ↔
      P rest node ∧ ∀ c ∈ childValues node, EveryMatched P rest c :=
  iff_of_eq (if_pos rfl)

theorem everyMatched_plain {P : List String → Json → Prop} (hstar : segment ≠ "*") :
    EveryMatched P (segment :: rest) node ↔
      ∀ next, node.child segment = some next → EveryMatched P rest next :=
  iff_of_eq (if_neg hstar)

theorem mem_zipIdx_fst {α : Type} {l : List α} {i : Nat} {e : α × Nat} (h : e ∈ l.zipIdx i) :
    e.1 ∈ l := by
  have := List.mem_map_of_mem (f := Prod.fst) h
  rwa [List.zipIdx_map_fst] at this

/-- The collected paths lead on by plain components. -/
theorem exists_of_mem_collect (hsegments : ∀ s ∈ segments, plainSegment s)
    (hkeys : ReadableKeys segments node) {path : String}
    (h : path ∈ collectWildcardPaths segments node before) :
    ∃ further, (∀ s ∈ further, plainComponent s) ∧ path = joinPath (before ++ further) := by
  induction segments generalizing node before with
  | nil => exact ⟨[], by simp, by simpa [collect_nil] using h⟩
  | cons segment rest ih =>
    have hrest := fun s hs => hsegments s (List.mem_cons_of_mem segment hs)
    -- what is found below a child
    have hbelow : ∀ key c, plainComponent key → ReadableKeys rest c →
        path ∈ collectWildcardPaths rest c (before ++ [key]) →
        ∃ further, (∀ s ∈ further, plainComponent s) ∧ path = joinPath (before ++ further) := by
      intro key c hkey hc hmem
      obtain ⟨further, hfurther, rfl⟩ := ih hrest hc hmem
      refine ⟨key :: further, ?_, by rw [List.append_assoc, List.singleton_append]⟩
      intro s hs
      rcases List.mem_cons.mp hs with rfl | hs
      · exact hkey
      · exact hfurther s hs
    by_cases hstar : segment = "*"
    · subst hstar
      obtain ⟨hread, hchildren⟩ := everyMatched_star.mp hkeys
      cases node with
      | obj fields =>
        rw [collect_obj, List.mem_flatMap] at h
        obtain ⟨e, he, hmem⟩ := h
        exact hbelow e.1 e.2 (hread fields rfl e he)
          (hchildren e.2 (List.mem_map_of_mem he)) hmem
      | arr items =>
        rw [collect_arr, List.mem_flatMap] at h
        obtain ⟨e, he, hmem⟩ := h
        exact hbelow (toString e.2) e.1 (plainComponent_toString e.2)
          (hchildren e.1 (mem_zipIdx_fst he)) hmem
      | _ =>
        rw [collect_leaf (fun _ => Json.noConfusion) (fun _ => Json.noConfusion)] at h
        cases h
    · have hplain := hsegments segment List.mem_cons_self
      have hcomponent := (hplain.resolve_left hstar).1
      rw [collect_plain hplain hstar] at h
      cases hchild : node.child segment with
      | some next =>
        rw [hchild] at h
        exact hbelow segment next hcomponent ((everyMatched_plain hstar).mp hkeys next hchild) h
      | none =>
        rw [hchild] at h
        cases node with
        | obj fields =>
          dsimp only at h
          split at h
          · exact ⟨[segment], by simpa using hcomponent, by simpa using h⟩
          · cases h
        | _ => cases h

/-- Different children have different paths. -/
theorem disjoint_collect {key key' : String} {c c' : Json}
    (hbefore : ∀ s ∈ before, plainComponent s) (hkey : plainComponent key)
    (hkey' : plainComponent key') (hsegments : ∀ s ∈ segments, plainSegment s)
    (hc : ReadableKeys segments c) (hc' : ReadableKeys segments c') (hne : key ≠ key') :
    List.Disjoint (collectWildcardPaths segments c (before ++ [key]))
      (collectWildcardPaths segments c' (before ++ [key'])) := by
  intro path hmem hmem'
  obtain ⟨further, hfurther, rfl⟩ := exists_of_mem_collect hsegments hc hmem
  obtain ⟨further', hfurther', heq⟩ := exists_of_mem_collect hsegments hc' hmem'
  have hplain : ∀ (k : String) (l : List String), plainComponent k →
      (∀ s ∈ l, plainComponent s) → ∀ s ∈ before ++ [k] ++ l, plainComponent s := by
    intro k l hk hl s hs
    simp only [List.mem_append, List.mem_singleton] at hs
    rcases hs with (hs | rfl) | hs
    · exact hbefore s hs
    · exact hk
    · exact hl s hs
  have hsame := joinPath_inj (hplain key further hkey hfurther)
    (hplain key' further' hkey' hfurther') (by simp) (by simp) heq
  rw [List.append_assoc, List.append_assoc, List.append_cancel_left_eq, List.singleton_append,
    List.singleton_append] at hsame
  exact hne (List.cons.inj hsame).1

theorem goMaps_obj {fields : List (String × Json)} :
    GoMaps (.obj fields) ↔ GoMap.Sorted fields ∧ ∀ e ∈ fields, GoMaps e.2 := by
  unfold GoMaps
  rw [Json.everyObject_obj]
  simp

theorem goMaps_arr {items : List Json} : GoMaps (.arr items) ↔ ∀ item ∈ items, GoMaps item :=
  Json.everyObject_arr

theorem GoMaps.child (h : GoMaps node) {key : String} {next : Json}
    (hchild : node.child key = some next) : GoMaps next := by
  cases node with
  | obj fields => exact (goMaps_obj.mp h).2 (key, next) (GoMap.mem_of_get? hchild)
  | arr items =>
    obtain ⟨i, -, hitem⟩ := Option.bind_eq_some_iff.mp hchild
    exact goMaps_arr.mp h next (List.mem_of_getElem? hitem)
  | _ => cases hchild

theorem nodup_flatMap_collect {α : Type} {l : List α} {key : α → String} {value : α → Json}
    (hbefore : ∀ s ∈ before, plainComponent s) (hkey : ∀ x ∈ l, plainComponent (key x))
    (hsegments : ∀ s ∈ segments, plainSegment s)
    (hread : ∀ x ∈ l, ReadableKeys segments (value x))
    (hnodup : ∀ x ∈ l,
      (collectWildcardPaths segments (value x) (before ++ [key x])).Nodup)
    (hne : l.Pairwise fun x y => key x ≠ key y) :
    (l.flatMap fun x => collectWildcardPaths segments (value x) (before ++ [key x])).Nodup := by
  rw [List.nodup_flatMap]
  refine ⟨hnodup, hne.imp_of_mem fun hx hy hxy => ?_⟩
  exact disjoint_collect hbefore (hkey _ hx) (hkey _ hy) hsegments (hread _ hx) (hread _ hy) hxy

theorem plain_snoc (hbefore : ∀ s ∈ before, plainComponent s) {key : String}
    (hkey : plainComponent key) : ∀ s ∈ before ++ [key], plainComponent s := by
  intro s hs
  rcases List.mem_append.mp hs with hs | hs
  · exact hbefore s hs
  · exact List.mem_singleton.mp hs ▸ hkey

/-- No path is collected twice. -/
theorem collect_nodup (hbefore : ∀ s ∈ before, plainComponent s)
    (hsegments : ∀ s ∈ segments, plainSegment s) (hmaps : GoMaps node)
    (hkeys : ReadableKeys segments node) :
    (collectWildcardPaths segments node before).Nodup := by
  induction segments generalizing node before with
  | nil => simp [collect_nil]
  | cons segment rest ih =>
    have hrest := fun s hs => hsegments s (List.mem_cons_of_mem segment hs)
    by_cases hstar : segment = "*"
    · subst hstar
      obtain ⟨hread, hchildren⟩ := everyMatched_star.mp hkeys
      cases node with
      | obj fields =>
        obtain ⟨hsorted, hmaps⟩ := goMaps_obj.mp hmaps
        have hvalues : ∀ e ∈ fields, ReadableKeys rest e.2 := fun e he =>
          hchildren e.2 (List.mem_map_of_mem he)
        rw [collect_obj]
        refine nodup_flatMap_collect hbefore (hread fields rfl) hrest hvalues (fun e he => ?_)
          ((List.pairwise_map.mp hsorted).imp ne_of_lt)
        exact ih (plain_snoc hbefore (hread fields rfl e he)) hrest (hmaps e he) (hvalues e he)
      | arr items =>
        have hmaps := goMaps_arr.mp hmaps
        have hindexes : items.zipIdx.Pairwise fun e e' => toString e.2 ≠ toString e'.2 := by
          have hlt : (items.zipIdx.map Prod.snd).Pairwise (· < ·) := by
            rw [List.zipIdx_map_snd]
            exact List.pairwise_lt_range'
          refine (List.pairwise_map.mp hlt).imp fun {e e'} h heq => ?_
          have := congrArg Json.index? heq
          rw [Json.index?_toString, Json.index?_toString, Option.some.injEq] at this
          omega
        rw [collect_arr]
        refine nodup_flatMap_collect hbefore (fun e _ => plainComponent_toString e.2) hrest
          (fun e he => hchildren e.1 (mem_zipIdx_fst he)) (fun e he => ?_) hindexes
        exact ih (plain_snoc hbefore (plainComponent_toString e.2)) hrest
          (hmaps e.1 (mem_zipIdx_fst he)) (hchildren e.1 (mem_zipIdx_fst he))
      | _ =>
        rw [collect_leaf (fun _ => Json.noConfusion) (fun _ => Json.noConfusion)]
        exact List.nodup_nil
    · have hplain := hsegments segment List.mem_cons_self
      rw [collect_plain hplain hstar]
      cases hchild : node.child segment with
      | some next =>
        exact ih (plain_snoc hbefore (hplain.resolve_left hstar).1) hrest (hmaps.child hchild)
          ((everyMatched_plain hstar).mp hkeys next hchild)
      | none =>
        cases node with
        | obj fields =>
          dsimp only
          split <;> simp
        | _ => exact List.nodup_nil

theorem dedupOn_of_nodup {l seen : List String} (h : l.Nodup) (hseen : ∀ x ∈ l, x ∉ seen) :
    dedupOn id seen l = l := by
  induction l generalizing seen with
  | nil => rfl
  | cons x l ih =>
    obtain ⟨hx, hnodup⟩ := List.nodup_cons.mp h
    rw [dedupOn, id, if_neg (hseen x List.mem_cons_self), ih hnodup]
    intro y hy hmem
    rcases List.mem_cons.mp hmem with rfl | hmem
    · exact hx hy
    · exact hseen y (List.mem_cons_of_mem x hy) hmem

end Collect

/-! ## One path -/

section OnePath

variable {lib : JsonPaths} {op : ParamOperation} {contextJSON : Option Json}
variable {doc parent old : Json} {before : List String} {key : String}

/-- Read a path and write what is made of its value. -/
def writeNode (lib : JsonPaths) (written : Option Json → Except String (Option Json)) (data : Json)
    (path : String) : Except String Json := do
  match ← written (lib.get data path) with
  | none => return data
  | some newValue => lib.set data path newValue

/-- Every operation but `delete` writes what it makes of the value. -/
theorem pathOperation_eq (hmode : op.mode ≠ "delete") {path : String} (hpath : path ≠ "")
    (data : Json) :
    lib.pathOperation op contextJSON data path =
      writeNode lib (writtenNode lib op contextJSON) data path := by
  have hbind : ∀ (x : Except String Json), (x >>= fun newValue => lib.set data path newValue) =
      (x.map some >>= fun written =>
        match written with
        | none => return data
        | some newValue => lib.set data path newValue) := by
    intro x
    cases x <;> rfl
  have hprune : lib.pruneObjects data path contextJSON op.value =
      prunedNode lib op.value contextJSON (lib.get data path) >>= fun written =>
        match written with
        | none => return data
        | some newValue => lib.set data path newValue := by
    unfold prunedNode
    unfold JsonPaths.pruneObjects
    cases parsePruneObjectsOptions op.value with
    | error e => rfl
    | ok options =>
      simp only [Except.bind, bind, if_neg hpath]
      cases lib.get data path with
      | none => rfl
      | some target =>
        dsimp only
        cases lib.pruneObjectsNode options contextJSON true target <;> rfl
  unfold JsonPaths.pathOperation writeNode writtenNode
  generalize op.mode = mode at hmode ⊢
  split
  · exact absurd rfl hmode
  · unfold JsonPaths.setValue
    split <;> rfl
  · exact hbind _
  · exact hbind _
  · rfl
  · rfl
  · rfl
  · rfl
  · rfl
  · rfl
  · rfl
  · rfl
  · rfl
  · rw [hprune]
    split <;> first | contradiction | rfl

/-- A node whose children can be put back. -/
def SortedNode : Json → Prop
  | .obj fields => GoMap.Sorted fields
  | _ => True

theorem GoMaps.sortedNode {node : Json} (h : GoMaps node) : SortedNode node := by
  cases node with
  | obj fields => exact (goMaps_obj.mp h).1
  | _ => trivial

theorem deleteAt_missing (hmissing : parent.child key = none) :
    parent.deleteAt [key] = parent := by
  cases parent with
  | obj fields => exact congrArg Json.obj (GoMap.erase_of_get?_none hmissing)
  | arr items =>
    rw [Json.deleteAt]
    split
    · rename_i i hi
      rw [Json.child, hi, Option.bind_some] at hmissing
      rw [List.eraseIdx_of_length_le (List.getElem?_eq_none_iff.mp hmissing)]
    · rfl
  | _ => rfl

/-- Putting back the child of a node changes nothing. -/
theorem putChild_child (hsorted : SortedNode parent) :
    putChild key (parent.child key) parent = parent := by
  cases hchild : parent.child key with
  | none => exact deleteAt_missing hchild
  | some value =>
    cases parent with
    | obj fields =>
      change Json.obj (GoMap.set key value fields) = Json.obj fields
      rw [GoMap.set_get? hsorted hchild]
    | arr items =>
      obtain ⟨i, hi, hget⟩ := Option.bind_eq_some_iff.mp hchild
      unfold putChild setChild
      dsimp only
      rw [Json.item?_eq_some.mpr ⟨hi, hget⟩, Option.map_some, Option.getD_some]
      obtain ⟨hlt, rfl⟩ := List.getElem?_eq_some_iff.mp hget
      rw [List.set_getElem_self hlt]
    | _ => cases hchild

theorem read_child (hold : doc.valueAt before = some old) (parent : Json) (key : String) :
    (replaceAt parent before doc).valueAt (before ++ [key]) = parent.child key := by
  rw [Json.valueAt_append, Json.valueAt_replaceAt hold, Option.bind_some, Json.valueAt_cons]
  exact Option.bind_fun_some _

/-- `delete` of one path deletes a child. -/
theorem deleteOperation_child (hlib : DottedPaths lib) (hmode : op.mode = "delete")
    (hplain : ∀ s ∈ before ++ [key], plainComponent s) (hold : doc.valueAt before = some old)
    (parent : Json) :
    lib.pathOperation op contextJSON (replaceAt parent before doc) (joinPath (before ++ [key])) =
      .ok (replaceAt (parent.deleteAt [key]) before doc) := by
  have hne : before ++ [key] ≠ [] := by simp
  have hdelete : lib.pathOperation op contextJSON (replaceAt parent before doc)
      (joinPath (before ++ [key])) =
        lib.delete (replaceAt parent before doc) (joinPath (before ++ [key])) := by
    unfold JsonPaths.pathOperation
    rw [hmode]
    exact if_neg (joinPath_not_blank hplain hne)
  rw [hdelete]
  cases hcurrent : parent.child key with
  | some current =>
    rw [hlib.delete hplain (Json.valueAt_replaceAt hold parent)
      (by rw [hcurrent]; exact Option.some_ne_none current), Json.replaceAt_replaceAt hold]
  | none =>
    rw [hlib.delete_missing hne hplain ((read_child hold parent key).trans hcurrent),
      deleteAt_missing hcurrent]

/-- A run over one path does to a child what the operation does to a node. -/
theorem pathOperation_child (hlib : DottedPaths lib)
    (hplain : ∀ s ∈ before ++ [key], plainComponent s) (hold : doc.valueAt before = some old)
    (hsorted : SortedNode parent)
    (hchild : parent.child key ≠ none ∨ ∃ fields, parent = .obj fields) :
    lib.pathOperation op contextJSON (replaceAt parent before doc) (joinPath (before ++ [key])) =
      (nodeOperation lib op contextJSON (parent.child key)).map fun value =>
        replaceAt (putChild key value parent) before doc := by
  by_cases hmode : op.mode = "delete"
  · rw [deleteOperation_child hlib hmode hplain hold, nodeOperation, if_pos hmode]
    rfl
  · have hne : before ++ [key] ≠ [] := by simp
    have hempty : joinPath (before ++ [key]) ≠ "" := fun h =>
      joinPath_not_blank hplain hne (by rw [h]; decide)
    rw [pathOperation_eq hmode hempty, writeNode, hlib.get _ hne hplain, read_child hold,
      nodeOperation, if_neg hmode]
    cases writtenNode lib op contextJSON (parent.child key) with
    | error e => rfl
    | ok written =>
      cases written with
      | none =>
        simp only [Except.map, Option.none_or, putChild_child hsorted]
        rfl
      | some value =>
        obtain ⟨parent', hset⟩ : ∃ parent', setChild key value parent = some parent' := by
          rcases hchild with hsome | ⟨fields, rfl⟩
          · obtain ⟨current, hcurrent⟩ := Option.ne_none_iff_exists'.mp hsome
            obtain ⟨parent', hset, -⟩ := Json.setChild_of_child hcurrent value
            exact ⟨parent', hset⟩
          · exact ⟨_, rfl⟩
        have hput : putChild key (some value) parent = parent' := by
          unfold putChild
          dsimp only
          rw [hset, Option.getD_some]
        change lib.set _ _ value = .ok (replaceAt (putChild key (some value) parent) before doc)
        rw [hlib.set hplain (Json.valueAt_replaceAt hold parent) hset,
          Json.replaceAt_replaceAt hold, hput]

end OnePath

/-! ## The run over the paths -/

/-- Delete the items of an array one after the other, each at the index it had at first. -/
def eraseInTurn (items : List Json) : List Json :=
  items.zipIdx.foldl (fun left e => left.eraseIdx e.2) items

/-- What a run leaves of an array. -/
def leftInTurn (items : List Json) (values : List (Option Json)) : List Json :=
  if values.reduceOption = [] then eraseInTurn items else values.reduceOption

/-- The operation as a run over the paths does it. -/
def operateInTurn (op : NodeOperation) : List String → Json → Except String (Option Json) :=
  operateWith leftInTurn op

section Run

variable {lib : JsonPaths} {op : ParamOperation} {contextJSON : Option Json}
variable {left : List Json → List (Option Json) → List Json} {rest : List String}
variable {doc old : Json} {before : List String}

theorem reduceOption_map_some {α : Type} (values : List α) :
    (values.map some).reduceOption = values := by
  simp [List.reduceOption, List.filterMap_map]

/-- What a run leaves of an array: the items that are kept, or what deleting them in turn leaves. -/
structure LeftByRun (op : ParamOperation) (left : List Json → List (Option Json) → List Json) :
    Prop where
  kept : ∀ items values, values.length = items.length → left items (values.map some) = values
  deleted : op.mode = "delete" → ∀ items, left items (items.map fun _ => none) = eraseInTurn items

theorem leftByRun_inTurn (op : ParamOperation) : LeftByRun op leftInTurn where
  kept items values hlength := by
    unfold leftInTurn
    rw [reduceOption_map_some]
    split
    · rename_i hnil
      subst hnil
      rw [List.length_eq_zero_iff.mp hlength.symm]
      rfl
    · rfl
  deleted _ items := by
    unfold leftInTurn
    rw [if_pos]
    rw [List.map_const', List.reduceOption_replicate_none]

theorem leftByRun_atOnce (hmode : op.mode ≠ "delete") :
    LeftByRun op fun _ values => values.reduceOption where
  kept _ values _ := reduceOption_map_some values
  deleted h := absurd h hmode

/-- A run over the paths of a child does to it what the operation does. -/
def RunsOnChild (lib : JsonPaths) (op : ParamOperation) (contextJSON : Option Json)
    (left : List Json → List (Option Json) → List Json) (rest : List String) : Prop :=
  ∀ (parent : Json) {doc old child : Json} {key : String} {before : List String},
    (∀ s ∈ before ++ [key], plainComponent s) → doc.valueAt before = some old →
    SortedNode parent → parent.child key = some child → GoMaps child → ReadableKeys rest child →
    (collectWildcardPaths rest child (before ++ [key])).foldlM (lib.pathOperation op contextJSON)
        (replaceAt parent before doc) =
      (operateWith left (nodeOperation lib op contextJSON) rest child).map fun value =>
        replaceAt (putChild key value parent) before doc

/-- Another value of a field, between those before and behind it. -/
theorem putChild_field {done fields : List (String × Json)} {key : String} {c : Json}
    (hsorted : GoMap.Sorted (done ++ (key, c) :: fields)) (value : Option Json) :
    putChild key value (.obj (done ++ (key, c) :: fields)) =
      .obj (done ++ value.toList.map (fun v => (key, v)) ++ fields) := by
  cases value with
  | none =>
    change Json.obj (GoMap.erase key _) = _
    rw [GoMap.erase_split hsorted]
    simp
  | some v =>
    change Json.obj (GoMap.set key v _) = _
    rw [GoMap.set_split hsorted]
    simp

theorem fieldsWith_cons (e : String × Json) (fields : List (String × Json)) (value : Option Json)
    (values : List (Option Json)) :
    fieldsWith (e :: fields) (value :: values) =
      value.toList.map (fun v => (e.1, v)) ++ fieldsWith fields values := by
  cases value <;> rfl

/-- The loop over the fields of an object. -/
theorem foldlM_fields (hrun : RunsOnChild lib op contextJSON left rest)
    (hbefore : ∀ s ∈ before, plainComponent s) (hold : doc.valueAt before = some old)
    (fields done : List (String × Json)) (hsorted : GoMap.Sorted (done ++ fields))
    (hfields : ∀ e ∈ fields, plainComponent e.1 ∧ GoMaps e.2 ∧ ReadableKeys rest e.2) :
    (fields.flatMap fun e => collectWildcardPaths rest e.2 (before ++ [e.1])).foldlM
        (lib.pathOperation op contextJSON) (replaceAt (.obj (done ++ fields)) before doc) =
      (fields.mapM fun e => operateWith left (nodeOperation lib op contextJSON) rest e.2).map
        fun values => replaceAt (.obj (done ++ fieldsWith fields values)) before doc := by
  induction fields generalizing done with
  | nil => simp [fieldsWith, Except.map, pure, Except.pure]
  | cons e fields ih =>
    obtain ⟨key, c⟩ := e
    obtain ⟨hkey, hmaps, hread⟩ := hfields (key, c) List.mem_cons_self
    rw [List.flatMap_cons, List.foldlM_append, List.mapM_cons,
      hrun (.obj (done ++ (key, c) :: fields)) (plain_snoc hbefore hkey) hold hsorted
        (GoMap.get?_split hsorted) hmaps hread]
    cases operateWith left (nodeOperation lib op contextJSON) rest c with
    | error e => rfl
    | ok value =>
      -- the fields that are done are still in order
      have hkeys : (done ++ value.toList.map (fun v => (key, v)) ++ fields).Sublist
          (done ++ (key, (value.getD .null)) :: fields) := by
        rw [List.append_assoc]
        refine List.Sublist.append_left ?_ done
        cases value with
        | none => exact List.sublist_cons_self _ _
        | some v => exact List.Sublist.refl _
      have hsorted' : GoMap.Sorted (done ++ value.toList.map (fun v => (key, v)) ++ fields) := by
        refine List.Pairwise.sublist (hkeys.map Prod.fst) ?_
        simpa [GoMap.Sorted] using hsorted
      have hrest := ih (done ++ value.toList.map (fun v => (key, v))) hsorted' fun e he =>
        hfields e (List.mem_cons_of_mem _ he)
      simp only [Except.map, bind, Except.bind, putChild_field hsorted]
      rw [hrest]
      cases fields.mapM fun e =>
          operateWith left (nodeOperation lib op contextJSON) rest e.2 with
      | error e => rfl
      | ok values =>
        simp only [Except.map, pure, Except.pure, fieldsWith_cons, List.append_assoc]

/-- Another value of an item, between those before and behind it. -/
theorem putChild_item (done items : List Json) (c v : Json) :
    putChild (toString done.length) (some v) (.arr (done ++ c :: items)) =
      .arr (done ++ v :: items) := by
  have hitem : Json.item? (toString done.length) (done ++ c :: items) = some (done.length, c) :=
    Json.item?_eq_some.mpr ⟨Json.index?_toString _, by simp⟩
  unfold putChild setChild
  dsimp only
  rw [hitem, Option.map_some, Option.getD_some, List.set_append_right _ _ (Nat.le_refl _),
    Nat.sub_self]
  rfl

/-- The loop over the items of an array, where none is deleted. -/
theorem foldlM_items (hrun : RunsOnChild lib op contextJSON left rest)
    (hbefore : ∀ s ∈ before, plainComponent s) (hold : doc.valueAt before = some old)
    (hkeeps : ∀ c, operateWith left (nodeOperation lib op contextJSON) rest c ≠ .ok none)
    (items done : List Json) (hitems : ∀ c ∈ items, GoMaps c ∧ ReadableKeys rest c) :
    ((items.zipIdx done.length).flatMap fun e =>
        collectWildcardPaths rest e.1 (before ++ [toString e.2])).foldlM
        (lib.pathOperation op contextJSON) (replaceAt (.arr (done ++ items)) before doc) =
      (items.mapM (operateWith left (nodeOperation lib op contextJSON) rest)).map
        fun values => replaceAt (.arr (done ++ values.reduceOption)) before doc := by
  induction items generalizing done with
  | nil => simp [Except.map, pure, Except.pure]
  | cons c items ih =>
    obtain ⟨hmaps, hread⟩ := hitems c List.mem_cons_self
    have hchild : Json.child (toString done.length) (.arr (done ++ c :: items)) = some c := by
      rw [Json.child, Json.index?_toString]
      simp
    rw [List.zipIdx_cons, List.flatMap_cons, List.foldlM_append, List.mapM_cons,
      hrun (.arr (done ++ c :: items))
        (plain_snoc hbefore (plainComponent_toString done.length)) hold trivial hchild hmaps hread]
    have hkeep := hkeeps c
    cases hc : operateWith left (nodeOperation lib op contextJSON) rest c with
    | error e => rfl
    | ok value =>
      rw [hc] at hkeep
      obtain ⟨v, rfl⟩ := Option.ne_none_iff_exists'.mp fun h => hkeep (congrArg Except.ok h)
      have hrest := ih (done ++ [v]) fun c' hc' => hitems c' (List.mem_cons_of_mem c hc')
      rw [List.length_append, List.length_singleton] at hrest
      simp only [Except.map, bind, Except.bind, putChild_item]
      rw [← List.singleton_append, ← List.append_assoc, hrest]
      cases items.mapM (operateWith left (nodeOperation lib op contextJSON) rest) with
      | error e => rfl
      | ok values =>
        simp only [Except.map, pure, Except.pure, List.reduceOption_cons_of_some,
          List.append_assoc, List.singleton_append]

/-- The loop that deletes the items of an array. -/
theorem foldlM_deleted (hlib : DottedPaths lib) (hmode : op.mode = "delete")
    (hbefore : ∀ s ∈ before, plainComponent s) (hold : doc.valueAt before = some old)
    (indexed : List (Json × Nat)) (items : List Json) :
    (indexed.flatMap fun e => collectWildcardPaths [] e.1 (before ++ [toString e.2])).foldlM
        (lib.pathOperation op contextJSON) (replaceAt (.arr items) before doc) =
      .ok (replaceAt (.arr (indexed.foldl (fun left e => left.eraseIdx e.2) items)) before doc) := by
  induction indexed generalizing items with
  | nil => rfl
  | cons e indexed ih =>
    have hplain := plain_snoc hbefore (plainComponent_toString e.2)
    have hdelete : lib.pathOperation op contextJSON (replaceAt (.arr items) before doc)
        (joinPath (before ++ [toString e.2])) = _ :=
      deleteOperation_child hlib hmode hplain hold (.arr items)
    have herase : (Json.arr items).deleteAt [toString e.2] = .arr (items.eraseIdx e.2) := by
      rw [Json.deleteAt, Json.index?_toString]
    rw [List.flatMap_cons, collectWildcardPaths, List.singleton_append, List.foldlM_cons, hdelete,
      herase]
    exact ih (items.eraseIdx e.2)

/-- Only the last segment can delete the node that is reached. -/
theorem operateWith_ne_none (hne : rest ≠ []) (op : NodeOperation) (node : Json) :
    operateWith left op rest node ≠ .ok none := by
  have hsome : ∀ {α : Type} (x : Except String α) (f : α → Json),
      (x.map fun a => some (f a)) ≠ .ok none := by
    intro α x f h
    cases x <;> cases h
  obtain ⟨segment, rest', rfl⟩ := List.exists_cons_of_ne_nil hne
  by_cases hstar : segment = "*"
  · subst hstar
    cases node with
    | obj fields =>
      rw [operateWith_obj]
      exact hsome _ _
    | arr items =>
      rw [operateWith_arr]
      exact hsome _ _
    | _ => exact fun h => nomatch h
  · rw [operateWith_plain hstar]
    split
    · exact hsome _ _
    · split
      · exact hsome _ _
      · exact fun h => nomatch h
    · exact fun h => nomatch h

theorem operateWith_keeps (h : rest = [] → op.mode ≠ "delete") (node : Json) :
    operateWith left (nodeOperation lib op contextJSON) rest node ≠ .ok none := by
  by_cases hrest : rest = []
  · subst hrest
    rw [operateWith, nodeOperation, if_neg (h rfl)]
    cases writtenNode lib op contextJSON (some node) with
    | error e => exact fun h => nomatch h
    | ok written => cases written <;> exact fun h => nomatch h
  · exact operateWith_ne_none hrest _ node

theorem mapM_keeps {α : Type} {f : α → Except String (Option Json)} (hf : ∀ x, f x ≠ .ok none)
    {l : List α} {values : List (Option Json)} (h : l.mapM f = .ok values) :
    ∃ kept : List Json, values = kept.map some ∧ kept.length = l.length := by
  induction l generalizing values with
  | nil =>
    cases h
    exact ⟨[], rfl, rfl⟩
  | cons x l ih =>
    rw [List.mapM_cons] at h
    cases hx : f x with
    | error e =>
      rw [hx] at h
      cases h
    | ok value =>
      cases hl : l.mapM f with
      | error e =>
        rw [hx, hl] at h
        cases h
      | ok values' =>
        rw [hx, hl] at h
        cases h
        obtain ⟨v, rfl⟩ := Option.ne_none_iff_exists'.mp fun hnone => hf x (hnone ▸ hx)
        obtain ⟨kept, rfl, hlength⟩ := ih hl
        exact ⟨v :: kept, rfl, by simp [hlength]⟩

/-- The loop over the items of an array. -/
theorem foldlM_array (hlib : DottedPaths lib) (hleft : LeftByRun op left)
    (hrun : RunsOnChild lib op contextJSON left rest)
    (hbefore : ∀ s ∈ before, plainComponent s) (hold : doc.valueAt before = some old)
    (items : List Json) (hitems : ∀ c ∈ items, GoMaps c ∧ ReadableKeys rest c) :
    (collectWildcardPaths ("*" :: rest) (.arr items) before).foldlM
        (lib.pathOperation op contextJSON) (replaceAt (.arr items) before doc) =
      (items.mapM (operateWith left (nodeOperation lib op contextJSON) rest)).map
        fun values => replaceAt (.arr (left items values)) before doc := by
  rw [collect_arr]
  by_cases hdelete : rest = [] ∧ op.mode = "delete"
  · obtain ⟨rfl, hmode⟩ := hdelete
    have hnone : operateWith left (nodeOperation lib op contextJSON) [] =
        fun _ => (pure none : Except String (Option Json)) := by
      funext c
      rw [operateWith, nodeOperation, if_pos hmode]
      rfl
    rw [foldlM_deleted hlib hmode hbefore hold, hnone, List.mapM_pure]
    change _ = Except.ok (replaceAt (.arr (left items (items.map fun _ => none))) before doc)
    rw [hleft.deleted hmode]
    rfl
  · have hkeeps : ∀ c, operateWith left (nodeOperation lib op contextJSON) rest c ≠ .ok none :=
      operateWith_keeps fun hrest hmode => hdelete ⟨hrest, hmode⟩
    have hloop := foldlM_items hrun hbefore hold hkeeps items [] hitems
    simp only [List.length_nil, List.nil_append] at hloop
    rw [hloop]
    cases hvalues : items.mapM (operateWith left (nodeOperation lib op contextJSON) rest) with
    | error e => rfl
    | ok values =>
      obtain ⟨kept, rfl, hlength⟩ := mapM_keeps hkeeps hvalues
      simp only [Except.map, reduceOption_map_some, hleft.kept items kept hlength]

/-- A run over the paths of a node does to it what the operation does, if that holds of the
    children. -/
theorem foldlM_node (hlib : DottedPaths lib) (hleft : LeftByRun op left)
    (hrun : RunsOnChild lib op contextJSON left rest) {segment : String}
    (hsegment : plainSegment segment) (hbefore : ∀ s ∈ before, plainComponent s)
    (hold : doc.valueAt before = some old) {node : Json} (hmaps : GoMaps node)
    (hkeys : ReadableKeys (segment :: rest) node) :
    (collectWildcardPaths (segment :: rest) node before).foldlM (lib.pathOperation op contextJSON)
        (replaceAt node before doc) =
      (operateWith left (nodeOperation lib op contextJSON) (segment :: rest) node).map
        fun value => replaceAt (value.getD node) before doc := by
  have hmap : ∀ {α : Type} (x : Except String α) (f : α → Json),
      (x.map fun a => some (f a)).map (fun value => replaceAt (value.getD node) before doc) =
        x.map fun a => replaceAt (f a) before doc := by
    intro α x f
    cases x <;> rfl
  by_cases hstar : segment = "*"
  · subst hstar
    obtain ⟨hread, hchildren⟩ := everyMatched_star.mp hkeys
    cases node with
    | obj fields =>
      obtain ⟨hsorted, hvalues⟩ := goMaps_obj.mp hmaps
      rw [collect_obj, operateWith_obj, hmap]
      exact foldlM_fields hrun hbefore hold fields [] hsorted fun e he =>
        ⟨hread fields rfl e he, hvalues e he, hchildren e.2 (List.mem_map_of_mem he)⟩
    | arr items =>
      rw [operateWith_arr, hmap]
      exact foldlM_array hlib hleft hrun hbefore hold items fun c hc =>
        ⟨goMaps_arr.mp hmaps c hc, hchildren c hc⟩
    | _ => simp [collectWildcardPaths, operateWith, Except.map, pure, Except.pure]
  · have hplain := plain_snoc hbefore (hsegment.resolve_left hstar).1
    rw [collect_plain hsegment hstar, operateWith_plain hstar]
    cases hchild : node.child segment with
    | some next =>
      dsimp only
      rw [hmap, hrun node hplain hold hmaps.sortedNode hchild (hmaps.child hchild)
        ((everyMatched_plain hstar).mp hkeys next hchild)]
    | none =>
      cases node with
      | obj fields =>
        dsimp only
        by_cases hrest : rest = []
        · rw [if_pos hrest, if_pos hrest, hmap, List.foldlM_cons,
            pathOperation_child hlib hplain hold hmaps.sortedNode (Or.inr ⟨fields, rfl⟩), hchild]
          cases nodeOperation lib op contextJSON none <;> rfl
        · rw [if_neg hrest, if_neg hrest]
          rfl
      | _ => rfl

/-- A run over the paths is one operation on the document. -/
theorem foldlM_collect (hlib : DottedPaths lib) (hleft : LeftByRun op left)
    (rest : List String) (hsegments : ∀ s ∈ rest, plainSegment s) :
    RunsOnChild lib op contextJSON left rest := by
  induction rest with
  | nil =>
    intro parent doc old child key before hplain hold hsorted hchild _ _
    rw [collectWildcardPaths, List.foldlM_cons, operateWith,
      pathOperation_child hlib hplain hold hsorted
        (Or.inl (by rw [hchild]; exact Option.some_ne_none child)), hchild]
    cases nodeOperation lib op contextJSON (some child) <;> rfl
  | cons segment rest ih =>
    intro parent doc old child key before hplain hold hsorted hchild hmaps hkeys
    have hrun : RunsOnChild lib op contextJSON left rest :=
      ih fun s hs => hsegments s (List.mem_cons_of_mem segment hs)
    -- the document is the one where the child is put back
    have hread := read_child hold parent key
    rw [hchild] at hread
    have hput : ∀ v, replaceAt v (before ++ [key]) (replaceAt parent before doc) =
        replaceAt (putChild key (some v) parent) before doc := by
      intro v
      rw [Json.replaceAt_append (Json.valueAt_replaceAt hold parent),
        Json.replaceAt_replaceAt hold, replaceAt, hchild]
      rfl
    have hsame : replaceAt child (before ++ [key]) (replaceAt parent before doc) =
        replaceAt parent before doc := by
      rw [hput, ← hchild, putChild_child hsorted]
    have hnode := foldlM_node hlib hleft hrun (hsegments segment List.mem_cons_self) hplain hread
      hmaps hkeys
    rw [hsame] at hnode
    rw [hnode]
    have hne : operateWith left (nodeOperation lib op contextJSON) (segment :: rest) child ≠
        .ok none :=
      operateWith_ne_none (List.cons_ne_nil segment rest) _ child
    cases hresult :
        operateWith left (nodeOperation lib op contextJSON) (segment :: rest) child with
    | error e => rfl
    | ok value =>
      rw [hresult] at hne
      obtain ⟨v, rfl⟩ := Option.ne_none_iff_exists'.mp fun h => hne (congrArg Except.ok h)
      exact congrArg Except.ok (hput v)

end Run

/-! ## Deleting -/

section Deleting

variable {left : List Json → List (Option Json) → List Json}

/-- The operation `delete`. -/
def deletion : NodeOperation := fun _ => .ok none

theorem mapM_ok {α β : Type} {f : α → Except String β} {g : α → β} {l : List α}
    (h : ∀ x ∈ l, f x = .ok (g x)) : l.mapM f = .ok (l.map g) := by
  induction l with
  | nil => rfl
  | cons x l ih =>
    rw [List.mapM_cons, h x List.mem_cons_self, ih fun y hy => h y (List.mem_cons_of_mem x hy)]
    rfl

theorem fieldsWith_map (g : Json → Json) (fields : List (String × Json)) :
    fieldsWith fields (fields.map fun e => some (g e.2)) =
      fields.map fun e => (e.1, g e.2) := by
  induction fields with
  | nil => rfl
  | cons e fields ih => rw [List.map_cons, fieldsWith_cons, ih]; rfl

/-- Deleting what is matched below a node does not fail and leaves the node. -/
theorem deletion_ok (left : List Json → List (Option Json) → List Json) {segments : List String}
    (hne : segments ≠ []) (node : Json) :
    ∃ v, operateWith left deletion segments node = .ok (some v) := by
  induction segments generalizing node with
  | nil => exact absurd rfl hne
  | cons segment rest ih =>
    have hbelow : ∀ c, ∃ r, operateWith left deletion rest c = .ok r := by
      intro c
      by_cases hrest : rest = []
      · exact ⟨none, by rw [hrest]; rfl⟩
      · obtain ⟨v, hv⟩ := ih hrest c
        exact ⟨some v, hv⟩
    choose g hg using hbelow
    by_cases hstar : segment = "*"
    · subst hstar
      cases node with
      | obj fields =>
        rw [operateWith_obj, mapM_ok fun e _ => hg e.2]
        exact ⟨_, rfl⟩
      | arr items =>
        rw [operateWith_arr, mapM_ok fun c _ => hg c]
        exact ⟨_, rfl⟩
      | _ => exact ⟨_, rfl⟩
    · rw [operateWith_plain hstar]
      split
      · rw [hg]
        exact ⟨_, rfl⟩
      · split <;> exact ⟨_, rfl⟩
      · exact ⟨_, rfl⟩

/-- Indexes after the first leave the head of a list. -/
theorem foldl_eraseIdx_ne_nil (indexed : List (Json × Nat)) (hpos : ∀ e ∈ indexed, 0 < e.2)
    (item : Json) (items : List Json) :
    indexed.foldl (fun left e => left.eraseIdx e.2) (item :: items) ≠ [] := by
  induction indexed generalizing items with
  | nil => exact List.cons_ne_nil item items
  | cons e indexed ih =>
    obtain ⟨i, hi⟩ := Nat.exists_eq_succ_of_ne_zero (hpos e List.mem_cons_self).ne'
    rw [List.foldl_cons, hi, List.eraseIdx_cons_succ]
    exact ih (fun e' he' => hpos e' (List.mem_cons_of_mem e he')) _

/-- Deleting in turn leaves nothing of one item at most. -/
theorem eraseInTurn_eq_nil_iff (items : List Json) :
    eraseInTurn items = [] ↔ items.length ≤ 1 := by
  unfold eraseInTurn
  match items with
  | [] => simp
  | [item] => simp
  | item :: item' :: items =>
    rw [List.zipIdx_cons, List.foldl_cons]
    refine iff_of_false (foldl_eraseIdx_ne_nil _ (fun e he => ?_) item' items) (by simp)
    exact (List.mem_zipIdx he).1

theorem leftInTurn_none (items : List Json) :
    leftInTurn items (items.map fun _ => none) = eraseInTurn items :=
  (leftByRun_inTurn { mode := "delete" }).deleted rfl items

theorem leftInTurn_some (g : Json → Json) (items : List Json) :
    leftInTurn items (items.map fun c => some (g c)) = items.map g := by
  have hkept := (leftByRun_inTurn { mode := "delete" }).kept items (items.map g) (by simp)
  rwa [List.map_map] at hkept

theorem reduceOption_some (g : Json → Json) (items : List Json) :
    (items.map fun c => some (g c)).reduceOption = items.map g := by
  rw [← reduceOption_map_some (items.map g), List.map_map]
  rfl

/-- Deleting in turn is deleting at once exactly if no array loses several items. -/
theorem deletion_inTurn_iff (segments : List String) (node : Json) :
    operateInTurn deletion segments node = operateAtOnce deletion segments node ↔
      SingleItems segments node := by
  unfold operateInTurn operateAtOnce SingleItems
  induction segments generalizing node with
  | nil => exact iff_of_true rfl trivial
  | cons segment rest ih =>
    by_cases hrest : rest = []
    · -- the last segment
      subst hrest
      by_cases hstar : segment = "*"
      · subst hstar
        rw [everyMatched_star]
        cases node with
        | obj fields =>
          refine iff_of_true ?_ ⟨fun _ _ h => (nomatch h), fun c _ => trivial⟩
          rw [operateWith_obj, operateWith_obj]
          rfl
        | arr items =>
          have hnone : ∀ left, operateWith left deletion ["*"] (.arr items) =
              .ok (some (.arr (left items (items.map fun _ => none)))) := by
            intro left
            rw [operateWith_arr,
              mapM_ok (f := operateWith left deletion []) (g := fun _ => none) fun c _ => rfl]
            rfl
          rw [hnone, hnone, leftInTurn_none, List.map_const', List.reduceOption_replicate_none]
          simp only [Except.ok.injEq, Option.some.injEq, Json.arr.injEq]
          rw [eraseInTurn_eq_nil_iff]
          constructor
          · rintro hlength
            refine ⟨fun _ items' h => ?_, fun c _ => trivial⟩
            cases h
            exact hlength
          · exact fun h => h.1 trivial items rfl
        | _ => exact iff_of_true rfl ⟨fun _ _ h => (nomatch h), fun c hc => (nomatch hc)⟩
      · rw [operateWith_plain hstar, operateWith_plain hstar, everyMatched_plain hstar]
        exact iff_of_true rfl fun next _ => trivial
    · -- below, every node is left
      choose g hg using fun c => deletion_ok leftInTurn hrest c
      choose g' hg' using fun c => deletion_ok (fun _ values => values.reduceOption) hrest c
      have hsame : ∀ c, g c = g' c ↔ EveryMatched (fun rest node =>
          rest = [] → ∀ items, node = .arr items → items.length ≤ 1) rest c := by
        intro c
        rw [← ih c, hg, hg', Except.ok.injEq, Option.some.injEq]
      by_cases hstar : segment = "*"
      · subst hstar
        rw [everyMatched_star]
        cases node with
        | obj fields =>
          rw [operateWith_obj, operateWith_obj, mapM_ok fun e _ => hg e.2,
            mapM_ok fun e _ => hg' e.2]
          simp only [Except.map, Except.ok.injEq, Option.some.injEq, Json.obj.injEq,
            fieldsWith_map, List.map_inj_left, Prod.mk.injEq, true_and, hsame]
          constructor
          · intro h
            refine ⟨fun hnil => absurd hnil hrest, fun c hc => ?_⟩
            obtain ⟨e, he, rfl⟩ := List.mem_map.mp hc
            exact h e he
          · exact fun h e he => h.2 e.2 (List.mem_map_of_mem he)
        | arr items =>
          rw [operateWith_arr, operateWith_arr, mapM_ok fun c _ => hg c, mapM_ok fun c _ => hg' c]
          simp only [Except.map, Except.ok.injEq, Option.some.injEq, Json.arr.injEq,
            leftInTurn_some, reduceOption_some, List.map_inj_left, hsame]
          exact ⟨fun h => ⟨fun hnil => absurd hnil hrest, h⟩, fun h => h.2⟩
        | _ =>
          exact iff_of_true rfl ⟨fun hnil => absurd hnil hrest, fun c hc => (nomatch hc)⟩
      · rw [operateWith_plain hstar, operateWith_plain hstar, everyMatched_plain hstar]
        cases hchild : node.child segment with
        | none =>
          refine iff_of_true ?_ fun next h => nomatch h
          cases node <;> rfl
        | some next =>
          dsimp only
          rw [hg, hg']
          simp only [Except.map, Except.ok.injEq, Option.some.injEq, forall_eq', ← hsame]
          constructor
          · intro h
            -- the child that is put is read back
            have hread : ∀ v, (putChild segment (some v) node).child segment = some v := by
              intro v
              obtain ⟨node', hset, hget, -⟩ := Json.setChild_of_child hchild v
              unfold putChild
              dsimp only
              rw [hset, Option.getD_some, hget]
            have heq := congrArg (Json.child segment) h
            rwa [hread, hread, Option.some.injEq] at heq
          · exact fun h => by rw [h]

end Deleting

/-! ## Wildcard paths -/

/-- The run over the paths of a pattern is one operation on the document. -/
theorem runOperation_wildcard {lib : JsonPaths} (hlib : DottedPaths lib)
    {contextOperation :
      ParamOperation → Json → Option Json → Except String (Json × Option Json)}
    {op : ParamOperation} {left : List Json → List (Option Json) → List Json}
    (hleft : LeftByRun op left) (hmode : isPathBasedOperation op.mode = true) {data : Json}
    {segments : List String}
    (hpattern : splitPath (lib.processNegativeIndex data op.path) = segments)
    (hstar : '*' ∈ (lib.processNegativeIndex data op.path).toList)
    (hsegments : ∀ s ∈ segments, plainSegment s) (hmaps : GoMaps data)
    (hkeys : ReadableKeys segments data) (contextJSON : Option Json) :
    lib.runOperation contextOperation op data contextJSON =
      (JsonPaths.wrapError op.mode ((operateWith left (nodeOperation lib op contextJSON)
        segments data).map (·.getD data))).map (·, contextJSON) := by
  have hnodup : (collectWildcardPaths segments data []).Nodup :=
    collect_nodup (List.forall_mem_nil _) hsegments hmaps hkeys
  have hpaths : resolveOperationPaths data (lib.processNegativeIndex data op.path) =
      collectWildcardPaths segments data [] := by
    unfold resolveOperationPaths expandWildcardPaths
    rw [if_pos hstar, hpattern]
    exact dedupOn_of_nodup hnodup (by simp)
  unfold JsonPaths.runOperation
  rw [if_pos hmode, hpaths]
  cases segments with
  | nil => simp [splitPath, List.splitOn_ne_nil] at hpattern
  | cons segment rest =>
    have hchildren : RunsOnChild lib op contextJSON left rest :=
      foldlM_collect hlib hleft rest fun s hs => hsegments s (List.mem_cons_of_mem segment hs)
    have hrun := foldlM_node hlib hleft hchildren (hsegments segment List.mem_cons_self)
      (List.forall_mem_nil _) (Json.valueAt_nil data) hmaps hkeys
    simp only [Json.replaceAt_nil] at hrun
    dsimp only
    rw [hrun]

/-- A path-based operation on a pattern is the operation at once on the nodes that match exactly
    if it does not delete several items of an array. -/
theorem wildcard_iff {lib : JsonPaths} (hlib : DottedPaths lib)
    {contextOperation :
      ParamOperation → Json → Option Json → Except String (Json × Option Json)}
    {op : ParamOperation} (hmode : isPathBasedOperation op.mode = true) {data : Json}
    {segments : List String}
    (hpattern : splitPath (lib.processNegativeIndex data op.path) = segments)
    (hstar : '*' ∈ (lib.processNegativeIndex data op.path).toList)
    (hsegments : ∀ s ∈ segments, plainSegment s) (hmaps : GoMaps data)
    (hkeys : ReadableKeys segments data) (contextJSON : Option Json) :
    lib.runOperation contextOperation op data contextJSON =
        (JsonPaths.wrapError op.mode ((operateAtOnce (nodeOperation lib op contextJSON)
          segments data).map (·.getD data))).map (·, contextJSON) ↔
      (op.mode = "delete" → SingleItems segments data) := by
  by_cases hdelete : op.mode = "delete"
  · have hoperation : nodeOperation lib op contextJSON = deletion := by
      funext current
      exact if_pos hdelete
    have hne : segments ≠ [] := by
      rw [← hpattern]
      simp [splitPath, List.splitOn_ne_nil]
    rw [runOperation_wildcard hlib (leftByRun_inTurn op) hmode hpattern hstar hsegments hmaps hkeys,
      hoperation, imp_iff_right hdelete, ← deletion_inTurn_iff]
    unfold operateInTurn operateAtOnce
    obtain ⟨v, hv⟩ := deletion_ok leftInTurn hne data
    obtain ⟨v', hv'⟩ := deletion_ok (fun _ values => values.reduceOption) hne data
    rw [hv, hv']
    simp [JsonPaths.wrapError, Except.map, Except.mapError]
  · refine iff_of_true ?_ fun h => absurd h hdelete
    have hleft : LeftByRun op fun _ values => values.reduceOption := leftByRun_atOnce hdelete
    exact runOperation_wildcard hlib hleft hmode hpattern hstar hsegments hmaps hkeys contextJSON

/-! ## The items of an array -/

/-- `{"a": [1, 2]}` -/
def numbersDoc : Json := .obj [("a", .arr [.num "1", .num "2"])]

/-- Delete `a.*`. -/
def deleteItems : ParamOperation := { mode := "delete", path := "a.*" }

theorem numbersDoc_goMaps : GoMaps numbersDoc := by
  simp [numbersDoc, GoMaps, EveryObject, Json.EveryItem, Json.EveryField, GoMap.Sorted]

theorem numbersDoc_keys : ReadableKeys ["a", "*"] numbersDoc := by
  rw [ReadableKeys, everyMatched_plain (by decide)]
  intro next hnext
  cases hnext
  exact everyMatched_star.mpr ⟨fun fields h => (nomatch h), fun c _ => trivial⟩

theorem deleteItems_path (data : Json) :
    dotted.processNegativeIndex data deleteItems.path = "a.*" :=
  processNegativeIndex_of_none (by decide)

theorem deleteItems_pattern (data : Json) :
    splitPath (dotted.processNegativeIndex data deleteItems.path) = ["a", "*"] := by
  rw [deleteItems_path]
  decide

theorem deleteItems_star (data : Json) :
    '*' ∈ (dotted.processNegativeIndex data deleteItems.path).toList := by
  rw [deleteItems_path]
  decide

theorem deleteItems_plain : ∀ s ∈ ["a", "*"], plainSegment s := by
  rw [List.forall_mem_cons, List.forall_mem_singleton]
  exact ⟨Or.inr ⟨⟨by simp, by decide, by decide⟩, by decide, by decide⟩, Or.inl rfl⟩

/-- The items of an array are deleted. -/
theorem wildcard_items :
    dotted.runOperation (fun _ doc context => .ok (doc, context)) deleteItems numbersDoc none =
      (JsonPaths.wrapError deleteItems.mode ((operateAtOnce (nodeOperation dotted deleteItems none)
        ["a", "*"] numbersDoc).map (·.getD numbersDoc))).map (·, none) ↔
      (deleteItems.mode = "delete" → SingleItems ["a", "*"] numbersDoc) :=
  wildcard_iff dotted_dottedPaths (by decide) (deleteItems_pattern numbersDoc)
    (deleteItems_star numbersDoc) deleteItems_plain numbersDoc_goMaps numbersDoc_keys none

/-- The second item is left. -/
theorem second_item_left :
    ¬ ∀ (lib : JsonPaths), DottedPaths lib →
      ∀ (op : ParamOperation) (data : Json) (segments : List String),
      isPathBasedOperation op.mode = true →
      splitPath (lib.processNegativeIndex data op.path) = segments →
      '*' ∈ (lib.processNegativeIndex data op.path).toList →
      (∀ s ∈ segments, plainSegment s) → GoMaps data → ReadableKeys segments data →
      lib.runOperation (fun _ doc context => .ok (doc, context)) op data none =
        (JsonPaths.wrapError op.mode ((operateAtOnce (nodeOperation lib op none)
          segments data).map (·.getD data))).map (·, none) := by
  intro h
  have heq := h dotted dotted_dottedPaths deleteItems numbersDoc ["a", "*"] (by decide)
    (deleteItems_pattern numbersDoc) (deleteItems_star numbersDoc) deleteItems_plain
    numbersDoc_goMaps numbersDoc_keys
  rw [runOperation_wildcard dotted_dottedPaths (leftByRun_inTurn _) (by decide)
    (deleteItems_pattern numbersDoc) (deleteItems_star numbersDoc) deleteItems_plain
    numbersDoc_goMaps numbersDoc_keys] at heq
  have hleft : operateWith leftInTurn (nodeOperation dotted deleteItems none) ["a", "*"]
      numbersDoc = .ok (some (.obj [("a", .arr [.num "2"])])) := rfl
  have hasked : operateAtOnce (nodeOperation dotted deleteItems none) ["a", "*"] numbersDoc =
      .ok (some (.obj [("a", .arr [])])) := rfl
  rw [hleft, hasked] at heq
  cases heq

end TokenRouter.ParamOverride
