import TokenRouter.Web.Flow

/-!
# Facets of the usage flow

The options of a stage are counted over the rows that pass the filters of the other stages, which
are the rows that the data is built from when the filter of the stage is replaced by the option.

## Key results

- `filterRowsByNodes_eq`: the rows that pass are those that pass the filter of every stage
- `filterRowsByNodes_replace`: what replacing the filters of one stage leaves
- `facets_predict`: an option counts what selecting it gives
-/

namespace TokenRouter.Flow

open GroupFold

variable {ctx : Option (Int → String)} {stages : List FlowNodeKind}

@[simp] theorem kind_buildNode (stage : FlowNodeKind) (row : FlowQuotaDataItem) :
    (buildNode ctx stage row).kind = stage := by
  cases stage <;> rfl

theorem nodup_resolveVisibleStages (role : FlowRole) (visible : Option (List FlowNodeKind)) :
    (resolveVisibleStages role visible).Nodup := by
  have hstages : (getFlowStages role).Nodup := by cases role <;> decide
  unfold resolveVisibleStages
  cases visible with
  | none => exact hstages
  | some visible =>
    dsimp only
    split
    · exact hstages.filter _
    · exact hstages

/-! ## Filters by stage -/

/-- An id passes the filters of its stage: none is selected, or this one is. -/
def Picks (selectedNodes : List FlowNodeFilter) (stage : FlowNodeKind) (id : String) : Prop :=
  (∀ filter ∈ selectedNodes, filter.kind ≠ stage) ∨ ⟨stage, id⟩ ∈ selectedNodes

instance (selectedNodes : List FlowNodeFilter) (stage : FlowNodeKind) (id : String) :
    Decidable (Picks selectedNodes stage id) :=
  inferInstanceAs (Decidable (_ ∨ _))

/-- A row passes the filters of every stage. -/
def Passes (selectedNodes : List FlowNodeFilter) (stages : List FlowNodeKind)
    (ctx : Option (Int → String)) (row : FlowQuotaDataItem) : Prop :=
  ∀ stage ∈ stages, Picks selectedNodes stage (buildNode ctx stage row).id

instance (selectedNodes : List FlowNodeFilter) (row : FlowQuotaDataItem) :
    Decidable (Passes selectedNodes stages ctx row) :=
  inferInstanceAs (Decidable (∀ stage ∈ stages, _))

theorem mem_foldl_setAdd {filters : List FlowNodeFilter} {ids : List String} {id : String} :
    id ∈ filters.foldl (fun ids filter => setAdd ids filter.id) ids ↔
      id ∈ ids ∨ ∃ filter ∈ filters, filter.id = id := by
  induction filters generalizing ids with
  | nil => simp
  | cons filter filters ih =>
    rw [List.foldl_cons, ih, mem_setAdd, or_assoc, List.exists_mem_cons_iff]
    rw [eq_comm (a := id)]

/-- The filters of a kind, with what the path has to have among its ids. -/
theorem mem_normalize_iff {selectedNodes : List FlowNodeFilter} {kind : FlowNodeKind}
    {ids : List String} (h : (kind, ids) ∈ normalizeSelectedNodeFilters selectedNodes stages) :
    kind ∈ stages ∧ (∃ filter ∈ selectedNodes, filter.kind = kind) ∧
      ∀ id, id ∈ ids ↔ ⟨kind, id⟩ ∈ selectedNodes := by
  obtain ⟨first, rest, hgroup, hids⟩ := mem_groupFold.mp h
  have hmem : ∀ filter, filter ∈ first :: rest ↔
      filter ∈ selectedNodes ∧ filter.kind ∈ stages ∧ filter.kind = kind := by
    intro filter
    rw [← hgroup, group, List.mem_filter, List.mem_filter]
    simp only [decide_eq_true_eq, and_assoc]
  obtain ⟨hfirst, hstage, hkind⟩ := (hmem first).mp List.mem_cons_self
  refine ⟨hkind ▸ hstage, ⟨first, hfirst, hkind⟩, fun id => ?_⟩
  have hids' : ids = (first :: rest).foldl (fun ids filter => setAdd ids filter.id) [] := hids
  rw [hids', mem_foldl_setAdd]
  constructor
  · rintro (hnil | ⟨filter, hfilter, rfl⟩)
    · cases hnil
    · obtain ⟨hselected, _, rfl⟩ := (hmem filter).mp hfilter
      exact hselected
  · intro hselected
    exact Or.inr ⟨⟨kind, id⟩, (hmem _).mpr ⟨hselected, hkind ▸ hstage, rfl⟩, rfl⟩

theorem exists_normalize {selectedNodes : List FlowNodeFilter} {filter : FlowNodeFilter}
    (h : filter ∈ selectedNodes) (hstage : filter.kind ∈ stages) :
    ∃ ids, (filter.kind, ids) ∈ normalizeSelectedNodeFilters selectedNodes stages := by
  have hkeys := (groupFold_spec FlowNodeFilter.kind (fun _ => ([] : List String))
    (fun ids filter => setAdd ids filter.id)
    (selectedNodes.filter fun filter => filter.kind ∈ stages)).mem_keys filter.kind
  have hmem : filter ∈ selectedNodes.filter fun filter => filter.kind ∈ stages :=
    List.mem_filter.mpr ⟨h, decide_eq_true hstage⟩
  obtain ⟨⟨kind, ids⟩, he, rfl⟩ := List.mem_map.mp (hkeys.mpr (List.mem_map_of_mem hmem))
  exact ⟨ids, he⟩

/-- A path matches the normalized filters exactly when its row passes those of every stage. -/
theorem pathMatches_iff (selectedNodes : List FlowNodeFilter) (row : FlowQuotaDataItem) :
    pathMatchesNodeFilters (flowPathForStages stages ctx row)
        (normalizeSelectedNodeFilters selectedNodes stages) = true ↔
      Passes selectedNodes stages ctx row := by
  unfold pathMatchesNodeFilters flowPathForStages
  simp only [List.all_eq_true, List.any_map, List.any_eq_true, Function.comp_apply,
    decide_eq_true_eq, Prod.forall, kind_buildNode]
  constructor
  · intro h stage hstage
    by_cases hfilter : ∃ filter ∈ selectedNodes, filter.kind = stage
    · obtain ⟨filter, hselected, rfl⟩ := hfilter
      obtain ⟨ids, hids⟩ := exists_normalize hselected hstage
      obtain ⟨stage', _, rfl, hid⟩ := h _ ids hids
      exact Or.inr (((mem_normalize_iff hids).2.2 _).mp hid)
    · exact Or.inl fun filter hselected hkind => hfilter ⟨filter, hselected, hkind⟩
  · intro h kind ids hids
    obtain ⟨hstage, ⟨filter, hselected, hkind⟩, hmem⟩ := mem_normalize_iff hids
    rcases h kind hstage with hnone | hpicked
    · exact absurd hkind (hnone filter hselected)
    · exact ⟨kind, hstage, rfl, (hmem _).mpr hpicked⟩

/-- The rows that pass are those that pass the filters of every stage. -/
theorem filterRowsByNodes_eq (rows : List FlowQuotaDataItem) (selectedNodes : List FlowNodeFilter) :
    filterRowsByNodes rows selectedNodes stages ctx =
      rows.filter fun row => decide (Passes selectedNodes stages ctx row) := by
  have hpass : ∀ row, pathMatchesNodeFilters (flowPathForStages stages ctx row)
      (normalizeSelectedNodeFilters selectedNodes stages) =
        decide (Passes selectedNodes stages ctx row) := by
    intro row
    rw [Bool.eq_iff_iff, pathMatches_iff, decide_eq_true_eq]
  unfold filterRowsByNodes
  dsimp only
  split
  · rename_i hnone
    refine (List.filter_eq_self.mpr fun row _ => ?_).symm
    rw [← hpass, hnone]
    rfl
  · exact List.filter_congr fun row _ => hpass row

/-! ## Replacing the filters of a stage -/

/-- The filters of a stage replaced by some of its ids. -/
def replaceFilters (selectedNodes : List FlowNodeFilter) (kind : FlowNodeKind) (ids : List String) :
    List FlowNodeFilter :=
  selectedNodeFiltersExceptKind selectedNodes kind ++ ids.map fun id => ⟨kind, id⟩

theorem mem_except_iff {selectedNodes : List FlowNodeFilter} {kind : FlowNodeKind}
    {filter : FlowNodeFilter} :
    filter ∈ selectedNodeFiltersExceptKind selectedNodes kind ↔
      filter ∈ selectedNodes ∧ filter.kind ≠ kind := by
  simp [selectedNodeFiltersExceptKind]

/-- Without its filters a stage picks everything, and the other stages pick what they did. -/
theorem picks_except_iff {selectedNodes : List FlowNodeFilter} {kind stage : FlowNodeKind}
    {id : String} :
    Picks (selectedNodeFiltersExceptKind selectedNodes kind) stage id ↔
      stage = kind ∨ Picks selectedNodes stage id := by
  unfold Picks
  simp only [mem_except_iff]
  by_cases hstage : stage = kind
  · subst hstage
    simp
  · constructor
    · rintro (hnone | ⟨hmem, _⟩)
      · exact Or.inr (Or.inl fun filter hfilter hkind =>
          hnone filter ⟨hfilter, hkind ▸ hstage⟩ hkind)
      · exact Or.inr (Or.inr hmem)
    · rintro (heq | hnone | hmem)
      · exact absurd heq hstage
      · exact Or.inl fun filter hfilter => hnone filter hfilter.1
      · exact Or.inr ⟨hmem, hstage⟩

/-- A stage whose filters are replaced picks the ids, and the other stages pick what they did. -/
theorem picks_replace_iff {selectedNodes : List FlowNodeFilter} {kind stage : FlowNodeKind}
    {ids : List String} (hids : ids ≠ []) {id : String} :
    Picks (replaceFilters selectedNodes kind ids) stage id ↔
      if stage = kind then id ∈ ids else Picks selectedNodes stage id := by
  have hadded : ∀ filter : FlowNodeFilter,
      (filter ∈ ids.map fun id => (⟨kind, id⟩ : FlowNodeFilter)) ↔
      filter.kind = kind ∧ filter.id ∈ ids := by
    rintro ⟨kind', id'⟩
    simp only [List.mem_map, FlowNodeFilter.mk.injEq]
    constructor
    · rintro ⟨id'', hid, rfl, rfl⟩
      exact ⟨rfl, hid⟩
    · rintro ⟨rfl, hid⟩
      exact ⟨id', hid, rfl, rfl⟩
  unfold Picks replaceFilters
  simp only [List.mem_append, mem_except_iff, hadded]
  split
  · rename_i hstage
    subst hstage
    obtain ⟨first, hfirst⟩ := List.exists_mem_of_ne_nil ids hids
    constructor
    · rintro (hnone | ⟨_, hne⟩ | ⟨_, hid⟩)
      · exact absurd rfl (hnone ⟨stage, first⟩ (Or.inr ⟨rfl, hfirst⟩))
      · exact absurd rfl hne
      · exact hid
    · exact fun hid => Or.inr (Or.inr ⟨rfl, hid⟩)
  · rename_i hstage
    constructor
    · rintro (hnone | ⟨hmem, _⟩ | ⟨heq, _⟩)
      · exact Or.inl fun filter hfilter hkind =>
          hnone filter (Or.inl ⟨hfilter, hkind ▸ hstage⟩) hkind
      · exact Or.inr hmem
      · exact absurd heq hstage
    · rintro (hnone | hmem)
      · refine Or.inl fun filter hfilter hkind => ?_
        rcases hfilter with ⟨hfilter, _⟩ | ⟨hkind', _⟩
        · exact hnone filter hfilter hkind
        · exact hstage (hkind.symm.trans hkind')
      · exact Or.inr (Or.inl ⟨hmem, hstage⟩)

/-- What is left when the filters of a stage are replaced: of the rows that pass the others, those
    of the ids. -/
theorem filterRowsByNodes_replace (rows : List FlowQuotaDataItem)
    (selectedNodes : List FlowNodeFilter) {kind : FlowNodeKind} (hkind : kind ∈ stages)
    {ids : List String} (hids : ids ≠ []) :
    filterRowsByNodes rows (replaceFilters selectedNodes kind ids) stages ctx =
      (filterRowsByNodes rows (selectedNodeFiltersExceptKind selectedNodes kind) stages ctx).filter
        fun row => decide ((buildNode ctx kind row).id ∈ ids) := by
  rw [filterRowsByNodes_eq, filterRowsByNodes_eq, List.filter_filter]
  refine List.filter_congr fun row _ => ?_
  rw [Bool.eq_iff_iff, Bool.and_eq_true, decide_eq_true_eq, decide_eq_true_eq, decide_eq_true_eq]
  unfold Passes
  simp only [picks_replace_iff hids, picks_except_iff]
  constructor
  · intro h
    refine ⟨?_, fun stage hstage => ?_⟩
    · have := h kind hkind
      rwa [if_pos rfl] at this
    · have := h stage hstage
      split at this
      · exact Or.inl ‹_›
      · exact Or.inr this
  · rintro ⟨hid, hothers⟩ stage hstage
    split
    · rename_i heq
      subst heq
      exact hid
    · exact (hothers stage hstage).resolve_left ‹_›

/-! ## Totals -/

/-- The chosen metric of the summary is the sum over the rows. -/
theorem metricValue_buildSummary (rows : List FlowQuotaDataItem) (metric : FlowMetric) :
    metricValue (buildSummary rows) metric =
      (rows.map fun row => metricValue (rowMetrics row) metric).sum := by
  have hfold : ∀ start : FlowSummary,
      metricValue (rows.foldl (fun summary row =>
        { quota := summary.quota + row.quota
          tokens := summary.tokens + row.tokenUsed
          requests := summary.requests + row.count }) start) metric =
      metricValue start metric +
        (rows.map fun row => metricValue (rowMetrics row) metric).sum := by
    induction rows with
    | nil =>
      intro start
      simp
    | cons row rows ih =>
      intro start
      rw [List.foldl_cons, ih, List.map_cons, List.sum_cons, ← add_assoc]
      cases metric <;> rfl
  refine (hfold {}).trans ?_
  cases metric <;> exact zero_add _

theorem nodeFilterKey_inj {a b : FlowPathNode} (hkind : a.kind = b.kind) :
    nodeFilterKey a = nodeFilterKey b ↔ a.id = b.id := by
  unfold nodeFilterKey
  rw [hkind, String.append_right_inj]

/-- The total of a node adds up its rows. -/
theorem foldl_rank (metric : FlowMetric) (rows : List FlowQuotaDataItem) (rank : FlowNodeRank) :
    rows.foldl (fun rank row =>
        { rank with value := rank.value + metricValue (rowMetrics row) metric }) rank =
      { rank with
        value := rank.value + (rows.map fun row => metricValue (rowMetrics row) metric).sum } := by
  induction rows generalizing rank with
  | nil => simp
  | cons row rows ih =>
    rw [List.foldl_cons, ih, List.map_cons, List.sum_cons, ← add_assoc]

/-- The rows of a node of a stage. -/
def rowsOf (ctx : Option (Int → String)) (rows : List FlowQuotaDataItem) (stage : FlowNodeKind)
    (id : String) : List FlowQuotaDataItem :=
  rows.filter fun row => (buildNode ctx stage row).id = id

/-- The totals of a stage: one for each node, over its rows. -/
theorem optionTotals_spec (rows : List FlowQuotaDataItem) (metric : FlowMetric)
    (stage : FlowNodeKind) :
    ((optionTotals rows metric ctx stage).map (·.node.id)).Nodup ∧
      (∀ id, id ∈ (optionTotals rows metric ctx stage).map (·.node.id) ↔
        ∃ row ∈ rows, (buildNode ctx stage row).id = id) ∧
      ∀ rank ∈ optionTotals rows metric ctx stage, rank.node.kind = stage ∧
        rank.value = ((rowsOf ctx rows stage rank.node.id).map fun row =>
          metricValue (rowMetrics row) metric).sum := by
  have hspec := groupFold_spec (fun row => nodeFilterKey (buildNode ctx stage row))
    (fun row => ({ node := buildNode ctx stage row, value := 0 } : FlowNodeRank))
    (fun rank row => { rank with value := rank.value + metricValue (rowMetrics row) metric }) rows
  -- every total is of the node of its first row
  have hrank : ∀ e ∈ groupFold (fun row => nodeFilterKey (buildNode ctx stage row))
      (fun row => ({ node := buildNode ctx stage row, value := 0 } : FlowNodeRank))
      (fun rank row => { rank with value := rank.value + metricValue (rowMetrics row) metric })
      rows, ∃ row ∈ rows, e.2.node = buildNode ctx stage row ∧
        e.1 = nodeFilterKey (buildNode ctx stage row) ∧
        e.2.value = ((rowsOf ctx rows stage e.2.node.id).map fun row =>
          metricValue (rowMetrics row) metric).sum := by
    intro e he
    obtain ⟨first, rest, hgroup, hfold⟩ := hspec.fold e he
    have hfirst : first ∈ group (fun row => nodeFilterKey (buildNode ctx stage row)) rows e.1 := by
      rw [hgroup]
      exact List.mem_cons_self
    obtain ⟨hmem, hkey⟩ := List.mem_filter.mp hfirst
    have hkey' : nodeFilterKey (buildNode ctx stage first) = e.1 := of_decide_eq_true hkey
    rw [foldl_rank] at hfold
    have hrows : rowsOf ctx rows stage (buildNode ctx stage first).id = first :: rest := by
      rw [← hgroup, ← hkey']
      refine List.filter_congr fun row _ => ?_
      rw [decide_eq_decide, nodeFilterKey_inj (by simp)]
    refine ⟨first, hmem, ?_, hkey'.symm, ?_⟩
    · rw [hfold]
    · rw [hfold, hrows]
      exact zero_add _
  refine ⟨?_, fun id => ?_, ?_⟩
  · unfold optionTotals
    rw [List.map_map]
    refine List.Nodup.map_on (fun e he e' he' heq => ?_) hspec.nodup.of_map
    obtain ⟨row, _, hnode, hkey, _⟩ := hrank e he
    obtain ⟨row', _, hnode', hkey', _⟩ := hrank e' he'
    have hid : (buildNode ctx stage row).id = (buildNode ctx stage row').id := by
      rw [← hnode, ← hnode']
      exact heq
    refine List.inj_on_of_nodup_map hspec.nodup he he' ?_
    rw [hkey, hkey']
    exact (nodeFilterKey_inj (by simp)).mpr hid
  · constructor
    · intro hid
      obtain ⟨rank, hrank', rfl⟩ := List.mem_map.mp hid
      obtain ⟨e, he, rfl⟩ := List.mem_map.mp hrank'
      obtain ⟨row, hmem, hnode, _⟩ := hrank e he
      exact ⟨row, hmem, by rw [hnode]⟩
    · rintro ⟨row, hmem, rfl⟩
      have hkey := (hspec.mem_keys (nodeFilterKey (buildNode ctx stage row))).mpr
        (List.mem_map_of_mem hmem)
      obtain ⟨e, he, heq⟩ := List.mem_map.mp hkey
      obtain ⟨row', _, hnode, hkey', _⟩ := hrank e he
      refine List.mem_map.mpr ⟨e.2, List.mem_map_of_mem he, ?_⟩
      rw [hnode]
      exact (nodeFilterKey_inj (by simp)).mp (hkey'.symm.trans heq)
  · intro rank hmem
    obtain ⟨e, he, rfl⟩ := List.mem_map.mp hmem
    obtain ⟨row, _, hnode, _, hvalue⟩ := hrank e he
    exact ⟨by rw [hnode, kind_buildNode], hvalue⟩

theorem sum_ite_mem {β : Type} [DecidableEq β] {bs : List β} (hbs : bs.Nodup) (c : β) (x : ℚ) :
    (bs.map fun b => if c = b then x else 0).sum = if c ∈ bs then x else 0 := by
  induction bs with
  | nil => rfl
  | cons b bs ih =>
    obtain ⟨hnot, hbs⟩ := List.nodup_cons.mp hbs
    rw [List.map_cons, List.sum_cons, ih hbs]
    by_cases h : c = b
    · subst h
      simp [hnot]
    · simp [h]

/-- The rows of several nodes are the rows of each. -/
theorem sum_filter_mem {α β : Type} [DecidableEq β] (f : α → β) (g : α → ℚ) (as : List α)
    {bs : List β} (hbs : bs.Nodup) :
    ((as.filter fun a => decide (f a ∈ bs)).map g).sum =
      (bs.map fun b => ((as.filter fun a => decide (f a = b)).map g).sum).sum := by
  induction as with
  | nil => simp
  | cons a as ih =>
    have hsum : (bs.map fun b => (((a :: as).filter fun a => decide (f a = b)).map g).sum).sum =
        (bs.map fun b => if f a = b then g a else 0).sum +
          (bs.map fun b => ((as.filter fun a => decide (f a = b)).map g).sum).sum := by
      rw [← List.sum_map_add]
      refine congrArg List.sum (List.map_congr_left fun b _ => ?_)
      by_cases h : f a = b
      · rw [List.filter_cons_of_pos (by simpa using h), if_pos h, List.map_cons, List.sum_cons]
      · rw [List.filter_cons_of_neg (by simpa using h), if_neg h, zero_add]
    have hone : (bs.map fun b => if f a = b then g a else 0).sum =
        if f a ∈ bs then g a else 0 := sum_ite_mem hbs (f a) (g a)
    rw [hsum, hone, ← ih]
    by_cases h : f a ∈ bs
    · rw [List.filter_cons_of_pos (by simpa using h), if_pos h, List.map_cons, List.sum_cons]
    · rw [List.filter_cons_of_neg (by simpa using h), if_neg h, zero_add]

/-! ## The options -/

section Options

variable {lib : FlowLib} {rows : List FlowQuotaDataItem} {metric : FlowMetric}
  {options : FlowBuildOptions}

/-- The rows that pass the filters of the other stages. -/
def candidateRows (rows : List FlowQuotaDataItem) (options : FlowBuildOptions)
    (kind : FlowNodeKind) : List FlowQuotaDataItem :=
  filterRowsByNodes (filterRows rows options.selectedUsers)
    (selectedNodeFiltersExceptKind options.selectedNodes kind) options.stages
    options.deletedTokenLabel

/-- The options by kind and id: the totals of every stage. -/
theorem options_perm :
    List.Perm ((buildDashboardFlowData lib rows metric options).nodes.map fun o =>
        (o.kind, o.value, o.valueRaw))
      (options.stages.flatMap fun stage =>
        (optionTotals (candidateRows rows options stage) metric options.deletedTokenLabel
          stage).map fun rank => (rank.node.kind, rank.node.id, rank.value)) := by
  refine ((List.perm_insertionSort _ _).map _).trans ?_
  rw [List.map_flatMap]
  refine List.Perm.of_eq (List.flatMap_congr fun stage _ => ?_)
  rw [List.map_map]
  rfl

theorem mem_options {o : FlowNodeFilterOption}
    (h : o ∈ (buildDashboardFlowData lib rows metric options).nodes) :
    o.kind ∈ options.stages ∧
      o.valueRaw = ((rowsOf options.deletedTokenLabel (candidateRows rows options o.kind) o.kind
        o.value).map fun row => metricValue (rowMetrics row) metric).sum := by
  have hmem := options_perm.mem_iff.mp (List.mem_map_of_mem h)
  obtain ⟨stage, hstage, hrank⟩ := List.mem_flatMap.mp hmem
  obtain ⟨rank, hrank, heq⟩ := List.mem_map.mp hrank
  obtain ⟨hkind, hvalue⟩ := (optionTotals_spec (candidateRows rows options stage) metric
    stage).2.2 rank hrank
  simp only [Prod.mk.injEq] at heq
  obtain ⟨hk, hid, hraw⟩ := heq
  obtain rfl : stage = o.kind := hkind.symm.trans hk
  exact ⟨hstage, by rw [← hraw, ← hid, hvalue]⟩

/-- Every option has its own kind and id. -/
theorem nodup_options :
    ((buildDashboardFlowData lib rows metric options).nodes.map fun o =>
      (o.kind, o.value)).Nodup := by
  have hperm := @options_perm lib rows metric options
  have hkeys := hperm.map fun e => (e.1, e.2.1)
  rw [List.map_map] at hkeys
  refine (List.Perm.nodup_iff hkeys).mpr ?_
  rw [List.map_flatMap, List.nodup_flatMap]
  constructor
  · intro stage _
    rw [List.map_map]
    refine List.Nodup.of_map Prod.snd ?_
    rw [List.map_map]
    exact (optionTotals_spec (candidateRows rows options stage) metric stage).1
  · refine (nodup_resolveVisibleStages _ _).imp fun {stage stage'} hne => ?_
    intro e he he'
    have hkind : ∀ stage : FlowNodeKind, e ∈ ((optionTotals (candidateRows rows options stage)
        metric options.deletedTokenLabel stage).map fun rank => (rank.node.kind, rank.node.id,
        rank.value)).map (fun e => (e.1, e.2.1)) → e.1 = stage := by
      intro stage he
      rw [List.map_map] at he
      obtain ⟨rank, hrank, rfl⟩ := List.mem_map.mp he
      exact ((optionTotals_spec (candidateRows rows options stage) metric stage).2.2 rank hrank).1
    exact hne ((hkind stage he).symm.trans (hkind stage' he'))

/-- A row that passes the filters of the other stages has an option in each stage. -/
theorem mem_options_of_row {kind : FlowNodeKind} (hkind : kind ∈ options.stages)
    {row : FlowQuotaDataItem} (hrow : row ∈ candidateRows rows options kind) :
    (kind, (buildNode options.deletedTokenLabel kind row).id) ∈
      (buildDashboardFlowData lib rows metric options).nodes.map fun o => (o.kind, o.value) := by
  have hspec := @optionTotals_spec options.deletedTokenLabel
    (candidateRows rows options kind) metric kind
  obtain ⟨rank, hrank, hid⟩ := List.mem_map.mp ((hspec.2.1 _).mpr ⟨row, hrow, rfl⟩)
  have hperm := (@options_perm lib rows metric options).map fun e => (e.1, e.2.1)
  rw [List.map_map] at hperm
  refine hperm.mem_iff.mpr ?_
  rw [List.map_flatMap]
  refine List.mem_flatMap.mpr ⟨kind, hkind, ?_⟩
  rw [List.map_map]
  refine List.mem_map.mpr ⟨rank, hrank, ?_⟩
  show (rank.node.kind, rank.node.id) = _
  rw [(hspec.2.2 rank hrank).1, hid]

/-- The data built again with the filters of a kind replaced. -/
def reselect (lib : FlowLib) (rows : List FlowQuotaDataItem) (metric : FlowMetric)
    (options : FlowBuildOptions) (kind : FlowNodeKind) (ids : List String) : ProcessedFlowData :=
  buildDashboardFlowData lib rows metric
    { options with selectedNodes := replaceFilters options.selectedNodes kind ids }

/-- What the summary counts when the filters of a stage are replaced. -/
theorem metricValue_reselect {kind : FlowNodeKind} (hkind : kind ∈ options.stages)
    {ids : List String} (hids : ids ≠ []) (hnodup : ids.Nodup) :
    metricValue (reselect lib rows metric options kind ids).summary metric =
      (ids.map fun id => ((rowsOf options.deletedTokenLabel (candidateRows rows options kind) kind
        id).map fun row => metricValue (rowMetrics row) metric).sum).sum := by
  refine (metricValue_buildSummary _ metric).trans ?_
  have hrows := @filterRowsByNodes_replace options.deletedTokenLabel _
    (filterRows rows options.selectedUsers) options.selectedNodes _ hkind _ hids
  refine (congrArg (fun rows : List FlowQuotaDataItem =>
    (rows.map fun row => metricValue (rowMetrics row) metric).sum) hrows).trans ?_
  exact sum_filter_mem _ _ _ hnodup

/-- The options of the data predict what selecting them gives. -/
structure FacetsPredict (lib : FlowLib) (rows : List FlowQuotaDataItem) (metric : FlowMetric)
    (options : FlowBuildOptions) : Prop where
  /-- one option -/
  single : ∀ o ∈ (buildDashboardFlowData lib rows metric options).nodes,
    metricValue (reselect lib rows metric options o.kind [o.value]).summary metric = o.valueRaw
  /-- several options of one kind -/
  several : ∀ kind (os : List FlowNodeFilterOption), os ≠ [] → (os.map (·.value)).Nodup →
    (∀ o ∈ os, o ∈ (buildDashboardFlowData lib rows metric options).nodes ∧ o.kind = kind) →
    metricValue (reselect lib rows metric options kind (os.map (·.value))).summary metric =
      (os.map (·.valueRaw)).sum
  /-- every row that passes the filters of the other kinds is counted once -/
  counted : ∀ kind ∈ options.stages, ∀ row ∈ candidateRows rows options kind,
    ((buildDashboardFlowData lib rows metric options).nodes.map fun o => (o.kind, o.value)).count
      (kind, (buildNode options.deletedTokenLabel kind row).id) = 1

theorem facets_predict (lib : FlowLib) (rows : List FlowQuotaDataItem) (metric : FlowMetric)
    (options : FlowBuildOptions) : FacetsPredict lib rows metric options := by
  have hseveral : ∀ kind (os : List FlowNodeFilterOption), os ≠ [] → (os.map (·.value)).Nodup →
      (∀ o ∈ os, o ∈ (buildDashboardFlowData lib rows metric options).nodes ∧ o.kind = kind) →
      metricValue (reselect lib rows metric options kind (os.map (·.value))).summary metric =
        (os.map (·.valueRaw)).sum := by
    intro kind os hne hnodup hos
    obtain ⟨first, hfirst⟩ := List.exists_mem_of_ne_nil os hne
    have hkind : kind ∈ options.stages :=
      (hos first hfirst).2 ▸ (mem_options (hos first hfirst).1).1
    rw [metricValue_reselect hkind (by simpa using hne) hnodup, List.map_map]
    refine congrArg List.sum (List.map_congr_left fun o ho => ?_)
    obtain ⟨hmem, rfl⟩ := hos o ho
    exact (mem_options hmem).2.symm
  constructor
  · intro o ho
    have h := hseveral o.kind [o] (List.cons_ne_nil _ _) (List.nodup_singleton _)
      (fun o' ho' => by
        obtain rfl := List.mem_singleton.mp ho'
        exact ⟨ho, rfl⟩)
    simpa using h
  · exact hseveral
  · intro kind hkind row hrow
    exact List.count_eq_one_of_mem nodup_options (mem_options_of_row hkind hrow)

end Options

end TokenRouter.Flow
