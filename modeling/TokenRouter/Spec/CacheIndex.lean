import TokenRouter.Model.RouteCache
import TokenRouter.Spec.AbilityProjection

/-!
# The lists of the routing cache

`InitChannelCache` writes the lists from the rows of `channels`, into maps that it makes for the
groups of `abilities`. A channel whose group has no row there is written to a nil map: between
the statements of `Insert` and of `FixAbility` such a channel is visible to a sync.

## Key results

- `foldlM_append_isSome_iff`, `foldlM_append_ids`: when the loop completes, and what it lists
- `initChannelCache_lists_iff`: a sync completes, with the right lists, unless there is such a
  channel
-/

namespace TokenRouter

/-- The list of a group and a model. -/
def GroupIndex.ids (index : GroupIndex) (group model : String) : List Nat :=
  match index group with
  | none => []
  | some model2channels => model2channels model

/-! ## The loop -/

theorem GroupIndex.append_isSome {index index' : GroupIndex} {group model : String} {id : Nat}
    (h : index.append group model id = some index') (g : String) :
    (index' g).isSome = (index g).isSome := by
  obtain ⟨model2channels, hgroup, rfl⟩ := Option.map_eq_some_iff.mp h
  by_cases hg : g = group
  · subst hg
    rw [Function.update_self, hgroup]
    rfl
  · rw [Function.update_of_ne hg]

theorem GroupIndex.append_ids {index index' : GroupIndex} {group model : String} {id : Nat}
    (h : index.append group model id = some index') (g m : String) :
    index'.ids g m = index.ids g m ++ if group = g ∧ model = m then [id] else [] := by
  obtain ⟨model2channels, hgroup, rfl⟩ := Option.map_eq_some_iff.mp h
  unfold GroupIndex.ids
  by_cases hg : g = group
  · subst hg
    rw [Function.update_self, hgroup]
    by_cases hm : m = model
    · subst hm
      simp
    · simp [Function.update_of_ne hm, Ne.symm hm]
  · rw [Function.update_of_ne hg, if_neg (fun h => hg h.1.symm), List.append_nil]

/-- The loop completes if and only if every group that it writes to has a map. -/
theorem foldlM_append_isSome_iff (entries : List (String × String × Nat)) (index : GroupIndex) :
    (entries.foldlM (fun (index : GroupIndex) (group, model, id) =>
      index.append group model id) index).isSome = true ↔ ∀ e ∈ entries, (index e.1).isSome = true := by
  induction entries generalizing index with
  | nil => simp
  | cons e entries ih =>
    obtain ⟨group, model, id⟩ := e
    rw [List.foldlM_cons, List.forall_mem_cons]
    show ((index.append group model id).bind fun next => entries.foldlM _ next).isSome = true ↔ _
    cases happend : index.append group model id with
    | none =>
      have hgroup : index group = none := Option.map_eq_none_iff.mp happend
      simp [hgroup]
    | some index' =>
      have hgroup : (index group).isSome = true := by
        obtain ⟨model2channels, hgroup, -⟩ := Option.map_eq_some_iff.mp happend
        rw [hgroup]
        rfl
      rw [Option.bind_some, ih]
      simp only [GroupIndex.append_isSome happend, hgroup, true_and]

/-- What the loop has listed at its end. -/
theorem foldlM_append_ids {entries : List (String × String × Nat)} {index index' : GroupIndex}
    (h : entries.foldlM (fun (index : GroupIndex) (group, model, id) =>
      index.append group model id) index = some index') (g m : String) :
    index'.ids g m =
      index.ids g m ++ (entries.filter fun e => e.1 = g ∧ e.2.1 = m).map (·.2.2) := by
  induction entries generalizing index with
  | nil =>
    cases h
    simp
  | cons e entries ih =>
    obtain ⟨group, model, id⟩ := e
    rw [List.foldlM_cons] at h
    obtain ⟨next, happend, hrest⟩ := Option.bind_eq_some_iff.mp h
    rw [ih hrest, index.append_ids happend, List.append_assoc]
    congr 1
    by_cases heq : group = g ∧ model = m
    · rw [if_pos heq, List.filter_cons_of_pos (by simpa using heq)]
      rfl
    · rw [if_neg heq, List.filter_cons_of_neg (by simpa using heq)]
      rfl

/-! ## The cache -/

theorem splitComma_ne_nil (s : String) : splitComma s ≠ [] := by
  simp [splitComma, List.splitOn_ne_nil]

theorem mem_listings {channel : ChannelRow} {e : String × String × Nat} :
    e ∈ channel.listings ↔
      e.1 ∈ splitComma channel.group ∧ e.2.1 ∈ splitComma channel.models ∧ e.2.2 = channel.id := by
  obtain ⟨group, model, id⟩ := e
  simp only [ChannelRow.listings, List.mem_flatMap, List.mem_map, Prod.mk.injEq]
  constructor
  · rintro ⟨g, hg, m, hm, rfl, rfl, rfl⟩
    exact ⟨hg, hm, rfl⟩
  · rintro ⟨hg, hm, rfl⟩
    exact ⟨group, hg, model, hm, rfl, rfl, rfl⟩

theorem emptyIndex_isSome (abilities : Abilities) (group : String) :
    (emptyIndex abilities group).isSome = true ↔ group ∈ abilities.rows.map (·.group) := by
  unfold emptyIndex
  split
  · next h => simpa using h
  · next h => simpa using h

theorem emptyIndex_ids (abilities : Abilities) (group model : String) :
    (emptyIndex abilities).ids group model = [] := by
  unfold emptyIndex GroupIndex.ids
  split
  · rfl
  · next model2channels h =>
    dsimp only at h
    split at h
    · cases h
      rfl
    · cases h

theorem GroupIndex.sortByPriority_ids (index : GroupIndex) (channels : Channels)
    (group model : String) :
    (index.sortByPriority channels).ids group model =
      (index.ids group model).insertionSort fun i j =>
        channelPriority channels j ≤ channelPriority channels i := by
  unfold GroupIndex.sortByPriority GroupIndex.ids
  dsimp only
  cases index group with
  | none => rfl
  | some model2channels => rfl

theorem mem_listedChannels {channels : Channels} {suppliers : Suppliers} {c : ChannelRow} :
    c ∈ listedChannels channels suppliers ↔ c ∈ channels.rows ∧ c.status = .enabled ∧
      isSupplierStatusEnabled c.supplierId (supplierStatuses suppliers) = true := by
  simp [listedChannels]

/-- Every group that an enabled channel of an enabled supplier names has a row in `abilities`. -/
def GroupsKnown (channels : Channels) (suppliers : Suppliers) (abilities : Abilities) : Prop :=
  ∀ c ∈ listedChannels channels suppliers, ∀ group ∈ splitComma c.group,
    group ∈ abilities.rows.map (·.group)

/-- The loop completes for the channels whose groups are known. -/
theorem buildIndex_isSome_iff (channels : Channels) (suppliers : Suppliers)
    (abilities : Abilities) :
    (buildIndex channels suppliers abilities).isSome = true ↔
      GroupsKnown channels suppliers abilities := by
  unfold buildIndex GroupsKnown
  rw [foldlM_append_isSome_iff]
  simp only [emptyIndex_isSome, List.mem_flatMap]
  constructor
  · intro h c hc group hgroup
    -- a channel names at least one model
    obtain ⟨model, hmodel⟩ := List.exists_mem_of_ne_nil _ (splitComma_ne_nil c.models)
    exact h (group, model, c.id) ⟨c, hc, mem_listings.mpr ⟨hgroup, hmodel, rfl⟩⟩
  · rintro h e ⟨c, hc, he⟩
    exact h c hc e.1 (mem_listings.mp he).1

/-- The ids that the loop lists for a group and a model. -/
theorem mem_buildIndex {channels : Channels} {suppliers : Suppliers} {abilities : Abilities}
    {index : GroupIndex} (h : buildIndex channels suppliers abilities = some index)
    (group model : String) (id : Nat) :
    id ∈ index.ids group model ↔ ∃ c ∈ listedChannels channels suppliers,
      group ∈ splitComma c.group ∧ model ∈ splitComma c.models ∧ c.id = id := by
  rw [foldlM_append_ids h, emptyIndex_ids, List.nil_append]
  simp only [List.mem_map, List.mem_filter, List.mem_flatMap, mem_listings, decide_eq_true_eq]
  constructor
  · rintro ⟨e, ⟨⟨c, hc, hgroup, hmodel, hid⟩, rfl, rfl⟩, rfl⟩
    exact ⟨c, hc, hgroup, hmodel, hid.symm⟩
  · rintro ⟨c, hc, hgroup, hmodel, rfl⟩
    exact ⟨(group, model, c.id), ⟨⟨c, hc, hgroup, hmodel, rfl⟩, rfl, rfl⟩, rfl⟩

/-- The lists of a synced cache: for every group and model exactly the enabled channels of an
    enabled supplier that name them, the highest priority first. -/
structure RouteCache.Lists (cache : RouteCache) (channels : Channels) (suppliers : Suppliers) :
    Prop where
  mem_iff : ∀ group model id, id ∈ cache.channels group model ↔
    ∃ c ∈ channels.rows, c.status = .enabled ∧
      isSupplierStatusEnabled c.supplierId (supplierStatuses suppliers) = true ∧
      group ∈ splitComma c.group ∧ model ∈ splitComma c.models ∧ c.id = id
  sorted : ∀ group model, (cache.channels group model).Pairwise fun i j =>
    channelPriority channels j ≤ channelPriority channels i

variable (old : Nat → Option ChannelRow) (channels : Channels) (suppliers : Suppliers)
  (preferences : SupplierRoutePreferences) (abilities : Abilities)
  (advancedCustom : Nat → Option (String → Bool)) (now : Int)

/-- For all contents of the tables: a sync completes with the right lists if and only if every
    group that a listed channel names has a row in `abilities`. -/
theorem initChannelCache_lists_iff :
    (∃ cache, initChannelCache old channels suppliers preferences abilities advancedCustom now =
        some cache ∧ cache.Lists channels suppliers) ↔
      GroupsKnown channels suppliers abilities := by
  rw [← buildIndex_isSome_iff]
  constructor
  · rintro ⟨cache, h, -⟩
    obtain ⟨index, hindex, -⟩ := Option.map_eq_some_iff.mp h
    rw [hindex]
    rfl
  · intro h
    obtain ⟨index, hindex⟩ := Option.isSome_iff_exists.mp h
    refine ⟨_, Option.map_eq_some_iff.mpr ⟨index, hindex, rfl⟩, ?_, ?_⟩
    · intro group model id
      have hsorted := index.sortByPriority_ids channels group model
      have hmem := mem_buildIndex hindex group model id
      show id ∈ (index.sortByPriority channels).ids group model ↔ _
      rw [hsorted, (List.perm_insertionSort _ _).mem_iff, hmem]
      simp only [mem_listedChannels, and_assoc]
    · intro group model
      have hsorted := index.sortByPriority_ids channels group model
      show ((index.sortByPriority channels).ids group model).Pairwise _
      rw [hsorted]
      apply List.pairwise_insertionSort

/-- A channel of a new group. -/
def channelOfNewGroup : ChannelRow := { id := 2, models := "gpt-4", group := "vip" }

/-- A sync that reads between the two statements of `Insert` panics, and so does one that reads
    after `FixAbility` has emptied the table. -/
theorem initChannelCache_panics :
    let db : ChannelDB := (ChannelDB.insert {} { id := 1, models := "gpt-4" }).1
    (initChannelCache (fun _ => none) (db.channels.insert channelOfNewGroup) .empty .empty
        db.abilities (fun _ => none) 0).isNone = true ∧
      (initChannelCache (fun _ => none) db.channels .empty .empty .empty
        (fun _ => none) 0).isNone = true := by
  decide

end TokenRouter
