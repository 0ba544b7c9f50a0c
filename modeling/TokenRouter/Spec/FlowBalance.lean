import TokenRouter.Spec.FlowFacets

/-!
# Balance of the usage flow graph

Every row runs through one node of each stage, whatever a limit replaces, so that the nodes of a
stage sum to the summary, and a node to its links. Two ids are not what they seem: the reserved id
of the nodes that a limit leaves out may be the id of a node of the rows, and two pairs of nodes may
have one link key.

## Key results

- `sum_graphNodes`: a sum over nodes of a stage is one over rows
- `sum_graphLinks`: a sum over links is one over the pairs that are booked on them
- `balances_iff`: when the graph balances
-/

namespace TokenRouter.Flow

open GroupFold

/-! ## Sums over a part of a list -/

/-- The sum over the elements with a property. -/
def sumOver {α : Type} (as : List α) (p : α → Prop) [DecidablePred p] (f : α → ℚ) : ℚ :=
  ((as.filter fun a => decide (p a)).map f).sum

section SumOver

variable {α β : Type}

theorem sumOver_congr {as : List α} {p q : α → Prop} [DecidablePred p] [DecidablePred q]
    {f g : α → ℚ} (hpq : ∀ a ∈ as, (p a ↔ q a)) (hfg : ∀ a ∈ as, f a = g a) :
    sumOver as p f = sumOver as q g := by
  unfold sumOver
  rw [List.filter_congr fun a ha => decide_eq_decide.mpr (hpq a ha)]
  exact congrArg List.sum (List.map_congr_left fun a ha => hfg a (List.mem_of_mem_filter ha))

theorem sumOver_map (h : β → α) (bs : List β) (p : α → Prop) [DecidablePred p] (f : α → ℚ) :
    sumOver (bs.map h) p f = sumOver bs (fun b => p (h b)) fun b => f (h b) := by
  unfold sumOver
  rw [List.filter_map, List.map_map]
  rfl

theorem sumOver_perm {as bs : List α} (h : as.Perm bs) (p : α → Prop) [DecidablePred p]
    (f : α → ℚ) : sumOver as p f = sumOver bs p f :=
  ((h.filter _).map f).sum_eq

theorem sumOver_eq_sum_ite (as : List α) (p : α → Prop) [DecidablePred p] (f : α → ℚ) :
    sumOver as p f = (as.map fun a => if p a then f a else 0).sum := by
  unfold sumOver
  induction as with
  | nil => rfl
  | cons a as ih =>
    rw [List.map_cons, List.sum_cons, ← ih]
    by_cases h : p a
    · rw [List.filter_cons_of_pos (by simpa using h), if_pos h, List.map_cons, List.sum_cons]
    · rw [List.filter_cons_of_neg (by simpa using h), if_neg h, zero_add]

theorem sumOver_flatMap (as : List α) (g : α → List β) (p : β → Prop) [DecidablePred p]
    (f : β → ℚ) : sumOver (as.flatMap g) p f = (as.map fun a => sumOver (g a) p f).sum := by
  unfold sumOver
  induction as with
  | nil => rfl
  | cons a as ih =>
    rw [List.flatMap_cons, List.filter_append, List.map_append, List.sum_append, ih, List.map_cons,
      List.sum_cons]

/-- The elements with one property are those that have another as well, and those that do not. -/
theorem sumOver_split (as : List α) (p q : α → Prop) [DecidablePred p] [DecidablePred q]
    (f : α → ℚ) :
    sumOver as p f = sumOver as (fun a => p a ∧ q a) f + sumOver as (fun a => p a ∧ ¬ q a) f := by
  rw [sumOver_eq_sum_ite, sumOver_eq_sum_ite, sumOver_eq_sum_ite, ← List.sum_map_add]
  refine congrArg List.sum (List.map_congr_left fun a _ => ?_)
  by_cases hp : p a
  · by_cases hq : q a
    · simp [hp, hq]
    · simp [hp, hq]
  · simp [hp]

/-- Only one element of a list without duplicates has the property. -/
theorem sumOver_eq_one [DecidableEq α] {as : List α} (has : as.Nodup) {a : α} (ha : a ∈ as)
    {p : α → Prop} [DecidablePred p] (hp : ∀ b ∈ as, p b → b = a) (f : α → ℚ) :
    sumOver as p f = if p a then f a else 0 := by
  rw [sumOver_eq_sum_ite]
  have hterm : ∀ b ∈ as, (if p b then f b else 0) =
      if a = b then (if p a then f a else 0) else 0 := by
    intro b hb
    by_cases hab : a = b
    · subst hab
      rw [if_pos rfl]
    · rw [if_neg hab, if_neg fun hpb => hab (hp b hb hpb).symm]
  rw [List.map_congr_left hterm, sum_ite_mem has, if_pos ha]

end SumOver

/-! ## Totals -/

/-- The totals that a node and a link carry. -/
inductive Total where
  | value
  | requests
  | quota
  | tokens

def FlowMetrics.total (metric : FlowMetric) (metrics : FlowMetrics) : Total → ℚ
  | .value => metricValue metrics metric
  | .requests => metrics.requests
  | .quota => metrics.quota
  | .tokens => metrics.tokens

def DashboardFlowNode.total (node : DashboardFlowNode) : Total → ℚ
  | .value => node.value
  | .requests => node.requests
  | .quota => node.quota
  | .tokens => node.tokens

def DashboardFlowLink.total (link : DashboardFlowLink) : Total → ℚ
  | .value => link.value
  | .requests => link.requests
  | .quota => link.quota
  | .tokens => link.tokens

/-- What a row adds to a total. -/
def rowTotal (metric : FlowMetric) (t : Total) (row : FlowQuotaDataItem) : ℚ :=
  (rowMetrics row).total metric t

/-- The summary is the sum over the rows, in every total. -/
theorem total_buildSummary (rows : List FlowQuotaDataItem) (metric : FlowMetric) (t : Total) :
    (buildSummary rows).total metric t = (rows.map (rowTotal metric t)).sum := by
  cases t with
  | value => exact metricValue_buildSummary rows metric
  | requests => exact metricValue_buildSummary rows .requests
  | quota => exact metricValue_buildSummary rows .quota
  | tokens => exact metricValue_buildSummary rows .tokens

/-! ## The maps -/

theorem foldl_addNode (metric : FlowMetric) (entries : List NodeEntry) (n : DashboardFlowNode) :
    (entries.foldl (addNode metric) n).id = n.id ∧
      (entries.foldl (addNode metric) n).kind = n.kind ∧
      (entries.foldl (addNode metric) n).label = n.label := by
  induction entries generalizing n with
  | nil => exact ⟨rfl, rfl, rfl⟩
  | cons e entries ih => exact ih (addNode metric n e)

theorem foldl_addLink (metric : FlowMetric) (entries : List LinkEntry) (l : DashboardFlowLink) :
    (entries.foldl (addLink metric) l).source = l.source ∧
      (entries.foldl (addLink metric) l).target = l.target := by
  induction entries generalizing l with
  | nil => exact ⟨rfl, rfl⟩
  | cons e entries ih => exact ih (addLink metric l e)

/-- A node of the map has the id, the kind and the label of its first entry. -/
theorem mem_nodeMap {metric : FlowMetric} {entries : List NodeEntry} {n : DashboardFlowNode}
    (h : n ∈ nodeMap metric entries) :
    ∃ e ∈ entries, e.node.id = n.id ∧ e.node.kind = n.kind ∧ e.node.label = n.label := by
  obtain ⟨acc, hacc, rfl⟩ := List.mem_map.mp h
  obtain ⟨first, rest, hgroup, hfold⟩ := mem_groupFold.mp hacc
  have hfirst : first ∈ group (fun e : NodeEntry => e.node.id) entries acc.1 := by
    rw [hgroup]
    exact List.mem_cons_self
  obtain ⟨hid, hkind, hlabel⟩ := foldl_addNode metric (first :: rest) (newNode first)
  refine ⟨first, List.mem_of_mem_filter hfirst, ?_, ?_, ?_⟩
  · rw [hfold, hid]
    rfl
  · rw [hfold, hkind]
    rfl
  · rw [hfold, hlabel]
    rfl

/-- The accumulator of an id is a node with this id. -/
theorem id_of_mem_groupFold {metric : FlowMetric} {entries : List NodeEntry}
    {acc : String × DashboardFlowNode}
    (h : acc ∈ groupFold (fun e : NodeEntry => e.node.id) newNode (addNode metric) entries) :
    acc.2.id = acc.1 := by
  obtain ⟨first, rest, hgroup, hfold⟩ := mem_groupFold.mp h
  have hfirst : first ∈ group (fun e : NodeEntry => e.node.id) entries acc.1 := by
    rw [hgroup]
    exact List.mem_cons_self
  rw [hfold, (foldl_addNode metric (first :: rest) (newNode first)).1]
  exact of_decide_eq_true (List.mem_filter.mp hfirst).2

theorem ids_nodeMap (metric : FlowMetric) (entries : List NodeEntry) :
    (nodeMap metric entries).map (·.id) =
      (groupFold (fun e : NodeEntry => e.node.id) newNode (addNode metric) entries).map
        Prod.fst := by
  unfold nodeMap
  rw [List.map_map]
  exact List.map_congr_left fun acc hacc => id_of_mem_groupFold hacc

theorem nodup_nodeMap (metric : FlowMetric) (entries : List NodeEntry) :
    ((nodeMap metric entries).map (·.id)).Nodup := by
  rw [ids_nodeMap]
  exact (groupFold_spec _ _ _ entries).nodup

theorem mem_ids_nodeMap {metric : FlowMetric} {entries : List NodeEntry} {id : String} :
    id ∈ (nodeMap metric entries).map (·.id) ↔ ∃ e ∈ entries, e.node.id = id := by
  rw [ids_nodeMap, (groupFold_spec _ _ _ entries).mem_keys, List.mem_map]

/-- A sum over the nodes of some ids is one over their entries. -/
theorem sumOver_nodeMap (metric : FlowMetric) (entries : List NodeEntry) (p : String → Prop)
    [DecidablePred p] (t : Total) :
    sumOver (nodeMap metric entries) (fun n => p n.id) (fun n => n.total t) =
      sumOver entries (fun e => p e.node.id) fun e => e.metrics.total metric t := by
  unfold nodeMap
  rw [sumOver_map, sumOver_congr (q := fun acc => p acc.1)
    (fun acc hacc => by rw [id_of_mem_groupFold hacc]) fun _ _ => rfl]
  unfold sumOver
  rw [filter_groupFold fun id => decide (p id)]
  apply sum_groupFold (f := fun n : DashboardFlowNode => n.total t)
    (g := fun e : NodeEntry => e.metrics.total metric t)
  · intro e
    cases t <;> rfl
  · intro n e
    cases t <;> rfl

/-! ## Steps -/

/-- The end of a link. -/
inductive Side where
  | source
  | target

/-- A step from one node to the next, with what its row adds to the link. -/
structure FlowStep where
  source : String
  target : String
  metrics : FlowMetrics

def FlowStep.at (s : FlowStep) : Side → String
  | .source => s.source
  | .target => s.target

def FlowStep.key (s : FlowStep) : String := linkKey s.source s.target

def DashboardFlowLink.at (link : DashboardFlowLink) : Side → String
  | .source => link.source
  | .target => link.target

def LinkEntry.step (e : LinkEntry) : FlowStep where
  source := e.source.id
  target := e.target.id
  metrics := e.metrics

/-- The step that opened the link on which a step is booked: the first one with its key. -/
def bookedOn (steps : List FlowStep) (s : FlowStep) : FlowStep :=
  (steps.find? fun s' => s'.key = s.key).getD s

theorem bookedOn_eq {steps : List FlowStep} {s first : FlowStep}
    (h : steps.find? (fun s' => s'.key = s.key) = some first) : bookedOn steps s = first := by
  unfold bookedOn
  rw [h]
  rfl

/-- What the steps of other nodes add to the links at a node is what its own steps add to links
elsewhere. -/
def CancelAt (steps : List FlowStep) (metric : FlowMetric) (side : Side) (id : String) : Prop :=
  sumOver steps (fun s => (bookedOn steps s).at side = id ∧ ¬ s.at side = id)
      (fun s => s.metrics.total metric .value) =
    sumOver steps (fun s => s.at side = id ∧ ¬ (bookedOn steps s).at side = id)
      fun s => s.metrics.total metric .value

/-- The link of a key stands at the nodes of the step that opened it. -/
theorem at_of_mem_groupFold {metric : FlowMetric} {entries : List LinkEntry} (side : Side)
    {acc : String × DashboardFlowLink}
    (h : acc ∈ groupFold (fun e : LinkEntry => e.step.key) newLink (addLink metric) entries) :
    ∃ first, (entries.map LinkEntry.step).find? (fun s => s.key = acc.1) = some first ∧
      acc.2.at side = first.at side := by
  obtain ⟨first, rest, hgroup, hfold⟩ := mem_groupFold.mp h
  obtain ⟨hsource, htarget⟩ := foldl_addLink metric (first :: rest) (newLink first)
  refine ⟨first.step, ?_, ?_⟩
  · rw [List.find?_map, ← List.head?_filter]
    exact congrArg (Option.map LinkEntry.step) (congrArg List.head? hgroup)
  · rw [hfold]
    cases side with
    | source => exact hsource
    | target => exact htarget

/-- A sum over the links at some nodes is one over the steps that are booked on them. -/
theorem sumOver_linkMap (metric : FlowMetric) (entries : List LinkEntry) (side : Side)
    (p : String → Prop) [DecidablePred p] (t : Total) :
    sumOver (linkMap metric entries) (fun l => p (l.at side)) (fun l => l.total t) =
      sumOver (entries.map LinkEntry.step)
        (fun s => p ((bookedOn (entries.map LinkEntry.step) s).at side))
        fun s => s.metrics.total metric t := by
  have hmap : linkMap metric entries =
      (groupFold (fun e : LinkEntry => e.step.key) newLink (addLink metric) entries).map
        Prod.snd := rfl
  -- whether the link of a key is at such a node
  let opensAt : String → Bool := fun key =>
    ((entries.map LinkEntry.step).find? fun s => s.key = key).elim false fun first =>
      decide (p (first.at side))
  have hlinks : ∀ acc ∈ groupFold (fun e : LinkEntry => e.step.key) newLink (addLink metric)
      entries, (p (acc.2.at side) ↔ opensAt acc.1 = true) := by
    intro acc hacc
    obtain ⟨first, hfind, hside⟩ := at_of_mem_groupFold side hacc
    rw [hside]
    show _ ↔ Option.elim _ _ _ = true
    rw [hfind]
    exact (decide_eq_true_iff).symm
  rw [hmap, sumOver_map, sumOver_congr hlinks fun _ _ => rfl, sumOver_map]
  unfold sumOver
  have hdecide : ∀ b : Bool, decide (b = true) = b := fun b => by cases b <;> rfl
  simp only [hdecide]
  rw [filter_groupFold opensAt]
  have hsum : ((groupFold (fun e : LinkEntry => e.step.key) newLink (addLink metric)
      (entries.filter fun e => opensAt e.step.key)).map fun acc => acc.2.total t).sum =
      ((entries.filter fun e => opensAt e.step.key).map fun e => e.metrics.total metric t).sum := by
    apply sum_groupFold (f := fun l : DashboardFlowLink => l.total t)
      (g := fun e : LinkEntry => e.metrics.total metric t)
    · intro e
      cases t <;> rfl
    · intro l e
      cases t <;> rfl
  refine hsum.trans (congrArg List.sum (congrArg (List.map _) (List.filter_congr ?_)))
  intro e he
  have hfind : ((entries.map LinkEntry.step).find? fun s => s.key = e.step.key).isSome := by
    rw [List.find?_isSome]
    exact ⟨e.step, List.mem_map_of_mem he, decide_eq_true rfl⟩
  obtain ⟨first, hfirst⟩ := Option.isSome_iff_exists.mp hfind
  simp only [bookedOn_eq hfirst]
  show Option.elim _ _ _ = _
  rw [hfirst]
  rfl

/-! ## The rows under a limit -/

section

variable {lib : FlowLib} {rows : List FlowQuotaDataItem} {metric : FlowMetric}
  {stages : List FlowNodeKind} {options : FlowBuildOptions}

/-- The top nodes of the options. -/
def topSets (lib : FlowLib) (rows : List FlowQuotaDataItem) (metric : FlowMetric)
    (options : FlowBuildOptions) : Option (FlowNodeKind → List String) :=
  buildTopNodeSets lib rows metric (normalizeTopNodeLimit options.topNodeLimit)
    options.deletedTokenLabel

/-- The node through which a row runs: its own, or the one for what the limit leaves out. -/
def shownNode (options : FlowBuildOptions) (top : Option (FlowNodeKind → List String))
    (row : FlowQuotaDataItem) (stage : FlowNodeKind) : FlowPathNode :=
  let node := buildNode options.deletedTokenLabel stage row
  match top with
  | none => node
  | some top => if isTopFlowNode top node then node else otherFlowNode options.otherNodeLabel stage

theorem kind_shownNode (top : Option (FlowNodeKind → List String)) (row : FlowQuotaDataItem)
    (stage : FlowNodeKind) : (shownNode options top row stage).kind = stage := by
  unfold shownNode
  cases top with
  | none => exact kind_buildNode stage row
  | some top =>
    dsimp only
    split
    · exact kind_buildNode stage row
    · rfl

/-- Overflow of a limit is put together, so that every row has a path. -/
theorem preparePaths_eq (hmode : options.overflowMode.getD .aggregate = .aggregate) :
    preparePaths lib rows metric stages options = rows.map fun row =>
      { path := stages.map (shownNode options (topSets lib rows metric options) row)
        metrics := rowMetrics row } := by
  unfold preparePaths
  dsimp only
  rw [← List.filterMap_eq_map]
  refine List.filterMap_congr fun row _ => ?_
  rw [hmode]
  show Option.map _ (applyTopNodeLimit (topSets lib rows metric options) _ _ _) = some _
  unfold applyTopNodeLimit flowPathForStages
  cases topSets lib rows metric options with
  | none => rfl
  | some top =>
    dsimp only
    split
    · next hall =>
      have hshown : stages.map (shownNode options (some top) row) =
          stages.map fun stage => buildNode options.deletedTokenLabel stage row := by
        refine List.map_congr_left fun stage hstage => ?_
        exact if_pos (List.all_eq_true.mp hall _ (List.mem_map_of_mem hstage))
      rw [hshown]
      rfl
    · rw [List.map_map, Option.map_some]
      have hshown : (fun node => if isTopFlowNode top node = true then node
          else otherFlowNode options.otherNodeLabel node.kind) ∘
            (fun stage => buildNode options.deletedTokenLabel stage row) =
          shownNode options (some top) row := by
        funext stage
        show ite _ _ (otherFlowNode _ (buildNode _ stage row).kind) = ite _ _ _
        rw [kind_buildNode]
      rw [hshown]

/-- The entries of the nodes: one for each row and stage. -/
def rowEntries (rows : List FlowQuotaDataItem) (stages : List FlowNodeKind)
    (options : FlowBuildOptions) (top : Option (FlowNodeKind → List String))
    (color colorKey : FlowQuotaDataItem → String) : List NodeEntry :=
  rows.flatMap fun row => stages.map fun stage =>
    { node := shownNode options top row stage, metrics := rowMetrics row
      color := color row, colorKey := colorKey row }

theorem nodeEntries_eq (palette : List String) (colors : List (String × String))
    (hstages : stages ≠ []) (top : Option (FlowNodeKind → List String)) :
    ∃ color colorKey : FlowQuotaDataItem → String,
      nodeEntries lib palette colors (rows.map fun row =>
          { path := stages.map (shownNode options top row), metrics := rowMetrics row }) =
        rowEntries rows stages options top color colorKey := by
  obtain ⟨first, rest, rfl⟩ := List.exists_cons_of_ne_nil hstages
  refine ⟨fun row => (colors.lookup (shownNode options top row first).id).getD
    (colorAt lib 0 palette), fun row => (shownNode options top row first).id, ?_⟩
  unfold nodeEntries rowEntries
  rw [List.flatMap_map]
  refine List.flatMap_congr fun row _ => ?_
  show List.map _ (List.map _ _) = _
  rw [List.map_map]
  rfl

/-- The steps of the rows from stage to stage. -/
def flowSteps (rows : List FlowQuotaDataItem) (stages : List FlowNodeKind)
    (options : FlowBuildOptions) (top : Option (FlowNodeKind → List String)) : List FlowStep :=
  rows.flatMap fun row => (stages.zip stages.tail).map fun (source, target) =>
    { source := (shownNode options top row source).id
      target := (shownNode options top row target).id, metrics := rowMetrics row }

theorem steps_linkEntries (palette : List String) (colors : List (String × String))
    (hstages : stages ≠ []) (top : Option (FlowNodeKind → List String)) :
    (linkEntries lib palette colors (rows.map fun row =>
        { path := stages.map (shownNode options top row), metrics := rowMetrics row })).map
        LinkEntry.step = flowSteps rows stages options top := by
  obtain ⟨first, rest, rfl⟩ := List.exists_cons_of_ne_nil hstages
  unfold linkEntries flowSteps
  rw [List.flatMap_map, List.map_flatMap]
  refine List.flatMap_congr fun row _ => ?_
  show List.map _ (List.map _ (List.zip (List.map _ _) (List.map _ _).tail)) = _
  rw [← List.map_tail, List.zip_map, List.map_map, List.map_map]
  rfl

/-! ## Kinds of ids -/

/-- An id that starts like those of a kind. -/
def OfKind (stage : FlowNodeKind) (id : String) : Prop := (idPrefix stage).toList <+: id.toList

instance (stage : FlowNodeKind) (id : String) : Decidable (OfKind stage id) :=
  inferInstanceAs (Decidable (_ <+: _))

theorem ofKind_append (stage : FlowNodeKind) (text : String) :
    OfKind stage (idPrefix stage ++ text) :=
  ⟨text.toList, (String.toList_append ..).symm⟩

theorem ofKind_buildNode (ctx : Option (Int → String)) (stage : FlowNodeKind)
    (row : FlowQuotaDataItem) : OfKind stage (buildNode ctx stage row).id := by
  cases stage <;> exact ofKind_append _ _

theorem ofKind_shownNode (top : Option (FlowNodeKind → List String)) (row : FlowQuotaDataItem)
    (stage : FlowNodeKind) : OfKind stage (shownNode options top row stage).id := by
  unfold shownNode
  cases top with
  | none => exact ofKind_buildNode _ stage row
  | some top =>
    dsimp only
    split
    · exact ofKind_buildNode _ stage row
    · exact ofKind_append stage "__other__"

/-- No id starts like those of two kinds. -/
theorem OfKind.unique {stage stage' : FlowNodeKind} {id : String} (h : OfKind stage id)
    (h' : OfKind stage' id) : stage = stage' := by
  have hprefixes : ∀ a b : FlowNodeKind, (idPrefix a).toList <+: (idPrefix b).toList → a = b := by
    intro a b
    cases a <;> cases b <;> decide
  rcases List.prefix_or_prefix_of_prefix h h' with hle | hle
  · exact hprefixes _ _ hle
  · exact (hprefixes _ _ hle).symm

/-- Of the nodes of a row, one is of a given kind. -/
theorem sumOver_stages {ss : List FlowNodeKind} (hss : ss.Nodup) {stage : FlowNodeKind}
    (hstage : stage ∈ ss) (top : Option (FlowNodeKind → List String)) (row : FlowQuotaDataItem)
    (q : String → Prop) [DecidablePred q] (c : ℚ) :
    sumOver ss (fun s => OfKind stage (shownNode options top row s).id ∧
        q (shownNode options top row s).id) (fun _ => c) =
      if q (shownNode options top row stage).id then c else 0 := by
  rw [sumOver_eq_one hss hstage fun s _ hs => (ofKind_shownNode top row s).unique hs.1]
  exact if_congr (and_iff_right (ofKind_shownNode top row stage)) rfl rfl

/-- The stages at one end of the links. -/
def sideStages (stages : List FlowNodeKind) : Side → List FlowNodeKind
  | .source => stages.dropLast
  | .target => stages.tail

theorem map_fst_zip_tail {α : Type} (as : List α) :
    (as.zip as.tail).map Prod.fst = as.dropLast := by
  induction as with
  | nil => rfl
  | cons a as ih =>
    cases as with
    | nil => rfl
    | cons b as => exact congrArg (a :: ·) ih

theorem map_snd_zip_tail {α : Type} (as : List α) : (as.zip as.tail).map Prod.snd = as.tail := by
  apply List.map_snd_zip
  rw [List.length_tail]
  omega

/-- Every row takes one step from, or to, its node of a stage. -/
theorem sumOver_flowSteps (hstages : stages.Nodup) {side : Side} {stage : FlowNodeKind}
    (hstage : stage ∈ sideStages stages side) (top : Option (FlowNodeKind → List String))
    {id : String} (hid : OfKind stage id) (t : Total) :
    sumOver (flowSteps rows stages options top) (fun s => s.at side = id)
        (fun s => s.metrics.total metric t) =
      sumOver rows (fun row => (shownNode options top row stage).id = id)
        (rowTotal metric t) := by
  unfold flowSteps
  rw [sumOver_flatMap, sumOver_eq_sum_ite]
  refine congrArg List.sum (List.map_congr_left fun row _ => ?_)
  rw [sumOver_map]
  have hkind : ∀ s : FlowNodeKind, (shownNode options top row s).id = id ↔
      OfKind stage (shownNode options top row s).id ∧ (shownNode options top row s).id = id :=
    fun s => ⟨fun h => ⟨h.symm ▸ hid, h⟩, And.right⟩
  cases side with
  | source =>
    have hzip : sideStages stages .source = (stages.zip stages.tail).map Prod.fst :=
      (map_fst_zip_tail stages).symm
    have hnodup : (sideStages stages .source).Nodup := hstages.sublist (List.dropLast_sublist _)
    rw [← sumOver_stages hnodup hstage top row (· = id), hzip, sumOver_map]
    exact sumOver_congr (fun ab _ => hkind ab.1) fun _ _ => rfl
  | target =>
    have hzip : sideStages stages .target = (stages.zip stages.tail).map Prod.snd :=
      (map_snd_zip_tail stages).symm
    have hnodup : (sideStages stages .target).Nodup := hstages.sublist (List.tail_sublist _)
    rw [← sumOver_stages hnodup hstage top row (· = id), hzip, sumOver_map]
    exact sumOver_congr (fun ab _ => hkind ab.2) fun _ _ => rfl

/-! ## The graph -/

theorem sumOver_of_perm {α γ : Type} {h : α → γ} {as bs : List α}
    (hperm : (as.map h).Perm (bs.map h)) (p : γ → Prop) [DecidablePred p] (f : γ → ℚ) :
    sumOver as (fun a => p (h a)) (fun a => f (h a)) =
      sumOver bs (fun a => p (h a)) fun a => f (h a) := by
  rw [← sumOver_map h as p f, ← sumOver_map h bs p f]
  exact sumOver_perm hperm p f

/-- What the finishing of the graph leaves as it is in a node. -/
def DashboardFlowNode.facts (node : DashboardFlowNode) : String × FlowNodeKind × (Total → ℚ) :=
  (node.id, node.kind, node.total)

/-- What the finishing of the graph leaves as it is in a link. -/
def DashboardFlowLink.facts (link : DashboardFlowLink) : (Side → String) × (Total → ℚ) :=
  (link.at, link.total)

theorem facts_maskNode (node : DashboardFlowNode) : (maskNode node).facts = node.facts := by
  unfold maskNode
  split
  · rfl
  · rfl

theorem facts_highlightNode (sets : Option FlowHighlightSets) (node : DashboardFlowNode) :
    (highlightNode sets node).facts = node.facts := by
  cases sets <;> rfl

theorem facts_highlightLink (sets : Option FlowHighlightSets) (link : DashboardFlowLink) :
    (highlightLink sets link).facts = link.facts := by
  cases sets <;> rfl

/-- Finishing keeps ids, kinds and totals of the nodes. -/
theorem facts_nodes_finishGraph (mask : Bool) (sets : Option FlowHighlightSets)
    (sources : List String) (nodes : List DashboardFlowNode) (links : List DashboardFlowLink) :
    ((finishGraph lib mask sets sources nodes links).nodes.map (·.facts)).Perm
      (nodes.map (·.facts)) := by
  refine ((List.perm_insertionSort _ _).map _).trans ?_
  rw [List.map_map]
  cases mask with
  | true =>
    rw [if_pos rfl, List.map_map]
    apply List.Perm.of_eq
    refine List.map_congr_left fun n _ => ?_
    exact (facts_highlightNode sets (maskNode n)).trans (facts_maskNode n)
  | false =>
    apply List.Perm.of_eq
    exact List.map_congr_left fun n _ => facts_highlightNode sets n

/-- Finishing keeps ends and totals of the links. -/
theorem facts_links_finishGraph (mask : Bool) (sets : Option FlowHighlightSets)
    (sources : List String) (nodes : List DashboardFlowNode) (links : List DashboardFlowLink) :
    ((finishGraph lib mask sets sources nodes links).links.map (·.facts)).Perm
      (links.map (·.facts)) := by
  unfold finishGraph
  dsimp only
  rw [List.map_map, List.map_map]
  refine ((List.perm_insertionSort _ _).map _).trans ?_
  rw [List.map_map]
  cases mask with
  | true =>
    rw [if_pos rfl, List.map_map]
    apply List.Perm.of_eq
    exact List.map_congr_left fun l _ => facts_highlightLink sets (maskLink nodes l)
  | false =>
    apply List.Perm.of_eq
    exact List.map_congr_left fun l _ => facts_highlightLink sets l

/-- The nodes of the map are of the kinds of the stages. -/
theorem kind_of_mem_nodeMap {top : Option (FlowNodeKind → List String)}
    {color colorKey : FlowQuotaDataItem → String} {n : DashboardFlowNode}
    (h : n ∈ nodeMap metric (rowEntries rows stages options top color colorKey)) :
    n.kind ∈ stages ∧ ∃ row ∈ rows, (shownNode options top row n.kind).id = n.id := by
  obtain ⟨e, he, heid, hekind, -⟩ := mem_nodeMap h
  obtain ⟨row, hrow, he⟩ := List.mem_flatMap.mp he
  obtain ⟨stage, hstage, rfl⟩ := List.mem_map.mp he
  have hsame : n.kind = stage := hekind.symm.trans (kind_shownNode _ row stage)
  rw [hsame]
  exact ⟨hstage, row, hrow, heid⟩

section

variable (lib rows metric options) (hmode : options.overflowMode.getD .aggregate = .aggregate)
  (hnil : stages ≠ [])

include hmode hnil

/-- The nodes of the graph are those of the map. -/
theorem facts_nodes : ∃ color colorKey : FlowQuotaDataItem → String,
    ((buildFlowGraph lib rows metric stages options).nodes.map (·.facts)).Perm
      ((nodeMap metric (rowEntries rows stages options (topSets lib rows metric options) color
        colorKey)).map (·.facts)) := by
  unfold buildFlowGraph
  dsimp only
  rw [preparePaths_eq hmode]
  obtain ⟨color, colorKey, hentries⟩ := @nodeEntries_eq lib rows _ options options.colorPalette
    (rootColors lib _ options.colorPalette) hnil (topSets lib rows metric options)
  rw [hentries]
  exact ⟨color, colorKey, facts_nodes_finishGraph ..⟩

/-- The links of the graph are those of a map of entries that take the steps of the rows. -/
theorem facts_links : ∃ entries : List LinkEntry,
    entries.map LinkEntry.step = flowSteps rows stages options (topSets lib rows metric options) ∧
      ((buildFlowGraph lib rows metric stages options).links.map (·.facts)).Perm
        ((linkMap metric entries).map (·.facts)) := by
  unfold buildFlowGraph
  dsimp only
  rw [preparePaths_eq hmode]
  exact ⟨_, steps_linkEntries _ _ hnil _, facts_links_finishGraph ..⟩

/-- A node of the graph is a node that a row shows. -/
theorem mem_nodes {node : DashboardFlowNode}
    (h : node ∈ (buildFlowGraph lib rows metric stages options).nodes) :
    node.kind ∈ stages ∧ ∃ row ∈ rows,
      (shownNode options (topSets lib rows metric options) row node.kind).id = node.id := by
  obtain ⟨color, colorKey, hperm⟩ := facts_nodes lib rows metric options
    hmode hnil
  obtain ⟨n, hn, heq⟩ := List.mem_map.mp (hperm.subset (List.mem_map_of_mem h))
  obtain ⟨hid, hkind, -⟩ : n.id = node.id ∧ n.kind = node.kind ∧ n.total = node.total := by
    simpa only [DashboardFlowNode.facts, Prod.mk.injEq] using heq
  rw [← hid, ← hkind]
  exact kind_of_mem_nodeMap hn

/-- Every node that a row shows is in the graph. -/
theorem exists_node {row : FlowQuotaDataItem} (hrow : row ∈ rows) {stage : FlowNodeKind}
    (hstage : stage ∈ stages) :
    ∃ node ∈ (buildFlowGraph lib rows metric stages options).nodes, node.kind = stage ∧
      node.id = (shownNode options (topSets lib rows metric options) row stage).id := by
  obtain ⟨color, colorKey, hperm⟩ := facts_nodes lib rows metric options
    hmode hnil
  have hentry : ∃ e ∈ rowEntries rows stages options (topSets lib rows metric options) color
      colorKey, e.node.id = (shownNode options (topSets lib rows metric options) row stage).id :=
    ⟨_, List.mem_flatMap.mpr ⟨row, hrow, List.mem_map_of_mem hstage⟩, rfl⟩
  obtain ⟨n, hn, hnid⟩ := List.mem_map.mp ((@mem_ids_nodeMap metric _ _).mpr hentry)
  obtain ⟨node, hnode, heq⟩ := List.mem_map.mp (hperm.symm.subset (List.mem_map_of_mem hn))
  obtain ⟨hid, -, -⟩ : node.id = n.id ∧ node.kind = n.kind ∧ node.total = n.total := by
    simpa only [DashboardFlowNode.facts, Prod.mk.injEq] using heq
  refine ⟨node, hnode, ?_, hid.trans hnid⟩
  obtain ⟨-, row', -, hrow'⟩ := mem_nodes lib rows metric options hmode hnil hnode
  have hof := @ofKind_shownNode options (topSets lib rows metric options) row' node.kind
  rw [hrow', hid, hnid] at hof
  exact hof.unique (ofKind_shownNode _ row stage)

theorem nodup_nodes :
    ((buildFlowGraph lib rows metric stages options).nodes.map (·.id)).Nodup := by
  obtain ⟨color, colorKey, hperm⟩ := facts_nodes lib rows metric options
    hmode hnil
  have hids := hperm.map Prod.fst
  rw [List.map_map, List.map_map] at hids
  exact hids.nodup_iff.mpr (nodup_nodeMap _ _)

/-- A sum over nodes of a stage is one over rows. -/
theorem sumOver_nodes (hnodup : stages.Nodup) {stage : FlowNodeKind} (hstage : stage ∈ stages)
    (q : String → Prop) [DecidablePred q] (t : Total) :
    sumOver (buildFlowGraph lib rows metric stages options).nodes
        (fun n => n.kind = stage ∧ q n.id) (fun n => n.total t) =
      sumOver rows
        (fun row => q (shownNode options (topSets lib rows metric options) row stage).id)
        (rowTotal metric t) := by
  obtain ⟨color, colorKey, hperm⟩ := facts_nodes lib rows metric options
    hmode hnil
  have hgraph := sumOver_of_perm hperm (fun x => x.2.1 = stage ∧ q x.1) fun x => x.2.2 t
  refine hgraph.trans ?_
  have hkind : ∀ n ∈ nodeMap metric (rowEntries rows stages options
      (topSets lib rows metric options) color colorKey),
      (n.kind = stage ∧ q n.id ↔ OfKind stage n.id ∧ q n.id) := by
    intro n hn
    obtain ⟨-, row, -, hrow⟩ := kind_of_mem_nodeMap hn
    have hof : OfKind n.kind n.id := hrow ▸ ofKind_shownNode _ row n.kind
    constructor
    · rintro ⟨rfl, hq⟩
      exact ⟨hof, hq⟩
    · rintro ⟨hstage', hq⟩
      exact ⟨hof.unique hstage', hq⟩
  refine (sumOver_congr hkind fun _ _ => rfl).trans ?_
  refine (sumOver_nodeMap metric _ (fun id => OfKind stage id ∧ q id) t).trans ?_
  unfold rowEntries
  rw [sumOver_flatMap, sumOver_eq_sum_ite]
  refine congrArg List.sum (List.map_congr_left fun row _ => ?_)
  rw [sumOver_map]
  exact sumOver_stages hnodup hstage _ row q (rowTotal metric t row)

/-- The totals of a node are those of the rows that show it. -/
theorem total_of_mem (hnodup : stages.Nodup) {node : DashboardFlowNode}
    (h : node ∈ (buildFlowGraph lib rows metric stages options).nodes) (t : Total) :
    node.total t = sumOver rows (fun row =>
      (shownNode options (topSets lib rows metric options) row node.kind).id = node.id)
      (rowTotal metric t) := by
  have hstage := (mem_nodes lib rows metric options hmode hnil h).1
  rw [← sumOver_nodes lib rows metric options hmode hnil hnodup hstage (· = node.id)]
  have hids := nodup_nodes lib rows metric options hmode hnil
  classical
  rw [sumOver_eq_one hids.of_map h, if_pos ⟨rfl, rfl⟩]
  intro other hother hid
  exact List.inj_on_of_nodup_map hids hother h hid.2

/-- A sum over the links at a node is one over the steps that are booked on them. -/
theorem sumOver_links (side : Side) (id : String) (t : Total) :
    sumOver (buildFlowGraph lib rows metric stages options).links (fun l => l.at side = id)
        (fun l => l.total t) =
      sumOver (flowSteps rows stages options (topSets lib rows metric options))
        (fun s => (bookedOn (flowSteps rows stages options (topSets lib rows metric options)) s).at
          side = id)
        fun s => s.metrics.total metric t := by
  obtain ⟨entries, hsteps, hperm⟩ := facts_links lib rows metric options
    hmode hnil
  rw [← hsteps, ← sumOver_linkMap metric entries side (· = id) t]
  exact sumOver_of_perm hperm (fun x => x.1 side = id) fun x => x.2 t

/-- A node is in balance with its links exactly when what other nodes have on its links makes up
for what it has on theirs. -/
theorem balanced_iff (hnodup : stages.Nodup) {side : Side} {node : DashboardFlowNode}
    (h : node ∈ (buildFlowGraph lib rows metric stages options).nodes)
    (hside : node.kind ∈ sideStages stages side) :
    sumOver (buildFlowGraph lib rows metric stages options).links (fun l => l.at side = node.id)
          (fun l => l.total .value) = node.total .value ↔
      CancelAt (flowSteps rows stages options (topSets lib rows metric options)) metric side
        node.id := by
  obtain ⟨-, row, -, hrow⟩ := mem_nodes lib rows metric options hmode hnil h
  have hof : OfKind node.kind node.id := hrow ▸ ofKind_shownNode _ row node.kind
  rw [sumOver_links lib rows metric options hmode hnil,
    total_of_mem lib rows metric options hmode hnil hnodup h,
    ← sumOver_flowSteps hnodup hside _ hof]
  generalize flowSteps rows stages options (topSets lib rows metric options) = steps
  unfold CancelAt
  have hbooked := sumOver_split steps (fun s => (bookedOn steps s).at side = node.id)
    (fun s => s.at side = node.id) fun s => s.metrics.total metric .value
  have hown := sumOver_split steps (fun s => s.at side = node.id)
    (fun s => (bookedOn steps s).at side = node.id) fun s => s.metrics.total metric .value
  have hboth : sumOver steps (fun s => (bookedOn steps s).at side = node.id ∧ s.at side = node.id)
        (fun s => s.metrics.total metric .value) =
      sumOver steps (fun s => s.at side = node.id ∧ (bookedOn steps s).at side = node.id)
        fun s => s.metrics.total metric .value :=
    sumOver_congr (fun s _ => and_comm) fun s _ => rfl
  rw [hbooked, hown, hboth]
  exact add_right_inj _

end

/-! ## Balance -/

/-- What the claim of a balanced graph comes to. -/
structure Balances (lib : FlowLib) (rows : List FlowQuotaDataItem) (metric : FlowMetric)
    (options : FlowBuildOptions) : Prop where
  /-- the nodes of a stage sum to the summary -/
  stage : ∀ stage ∈ options.stages, ∀ t,
    sumOver (buildDashboardFlowData lib rows metric options).flow.nodes (fun n => n.kind = stage)
        (fun n => n.total t) =
      (buildDashboardFlowData lib rows metric options).summary.total metric t
  incoming : ∀ node ∈ (buildDashboardFlowData lib rows metric options).flow.nodes,
    options.stages.head? ≠ some node.kind →
      sumOver (buildDashboardFlowData lib rows metric options).flow.links
        (fun l => l.target = node.id) (·.value) = node.value
  outgoing : ∀ node ∈ (buildDashboardFlowData lib rows metric options).flow.nodes,
    options.stages.getLast? ≠ some node.kind →
      sumOver (buildDashboardFlowData lib rows metric options).flow.links
        (fun l => l.source = node.id) (·.value) = node.value
  /-- a node that is kept has its totals of the graph without a limit -/
  kept : ∀ node ∈ (buildDashboardFlowData lib rows metric options).flow.nodes,
    node.id ≠ otherFlowNodeId node.kind →
      ∃ node' ∈ (buildDashboardFlowData lib rows metric
          { options with topNodeLimit := none }).flow.nodes,
        node'.id = node.id ∧ node'.kind = node.kind ∧ node'.total = node.total
  /-- a limit keeps at most so many nodes in a stage -/
  few : ∀ n, normalizeTopNodeLimit options.topNodeLimit = some n → ∀ stage ∈ options.stages,
    ((buildDashboardFlowData lib rows metric options).flow.nodes.filter fun node =>
      node.kind = stage ∧ node.id ≠ otherFlowNodeId stage).length ≤ n
  /-- where nodes are left out, the other node totals them -/
  other : ∀ top, topSets lib (filteredRows rows options) metric options = some top →
    ∀ stage ∈ options.stages,
      (∃ node ∈ (buildDashboardFlowData lib rows metric
          { options with topNodeLimit := none }).flow.nodes,
        node.kind = stage ∧ node.id ∉ top stage) →
      ∀ t, sumOver (buildDashboardFlowData lib rows metric options).flow.nodes
            (fun n => n.kind = stage ∧ n.id = otherFlowNodeId stage) (fun n => n.total t) =
          sumOver (buildDashboardFlowData lib rows metric
              { options with topNodeLimit := none }).flow.nodes
            (fun n => n.kind = stage ∧ n.id ∉ top stage) fun n => n.total t

/-- At every node, the steps of one link key make up for each other. -/
def StepsCancel (lib : FlowLib) (rows : List FlowQuotaDataItem) (metric : FlowMetric)
    (options : FlowBuildOptions) : Prop :=
  ∀ side, ∀ s ∈ flowSteps rows options.stages options (topSets lib rows metric options),
    CancelAt (flowSteps rows options.stages options (topSets lib rows metric options)) metric side
      (s.at side)

/-- In a stage from which the limit leaves a node out, it keeps no node with the reserved id that
has totals. -/
def ReservedEmpty (lib : FlowLib) (rows : List FlowQuotaDataItem) (metric : FlowMetric)
    (options : FlowBuildOptions) : Prop :=
  ∀ top, topSets lib rows metric options = some top → ∀ stage ∈ options.stages,
    (∃ row ∈ rows, (buildNode options.deletedTokenLabel stage row).id ∉ top stage) →
      otherFlowNodeId stage ∈ top stage → ∀ t,
        sumOver rows (fun row => (buildNode options.deletedTokenLabel stage row).id =
          otherFlowNodeId stage) (rowTotal metric t) = 0

theorem stages_ne_nil (options : FlowBuildOptions) : options.stages ≠ [] := by
  unfold FlowBuildOptions.stages resolveVisibleStages
  have hrole : ∀ role, getFlowStages role ≠ [] := fun role => by cases role <;> decide
  cases options.visibleStages with
  | none => exact hrole _
  | some visible =>
    dsimp only
    split
    · next hlen =>
      intro hnil
      rw [hnil] at hlen
      simp at hlen
    · exact hrole _

theorem mem_tail_iff_of_nodup {α : Type} {as : List α} (has : as.Nodup) {a : α} (ha : a ∈ as) :
    a ∈ as.tail ↔ as.head? ≠ some a := by
  cases as with
  | nil => cases ha
  | cons b as =>
    rw [List.tail_cons, List.head?_cons]
    have hb := (List.nodup_cons.mp has).1
    constructor
    · rintro hmem heq
      exact hb (Option.some.inj heq ▸ hmem)
    · intro hne
      exact (List.mem_cons.mp ha).resolve_left fun heq => hne (congrArg some heq.symm)

theorem mem_dropLast_iff_of_nodup {α : Type} {as : List α} (has : as.Nodup) {a : α}
    (ha : a ∈ as) : a ∈ as.dropLast ↔ as.getLast? ≠ some a := by
  have h := mem_tail_iff_of_nodup (List.nodup_reverse.mpr has) (List.mem_reverse.mpr ha)
  rwa [List.head?_reverse, List.tail_reverse, List.mem_reverse] at h

theorem topSets_free (options : FlowBuildOptions) :
    topSets lib rows metric { options with topNodeLimit := none } = none := rfl

/-- Without a limit every row shows its own nodes. -/
theorem id_shownNode_free (options : FlowBuildOptions) (row : FlowQuotaDataItem)
    (stage : FlowNodeKind) :
    (shownNode { options with topNodeLimit := none } none row stage).id =
      (buildNode options.deletedTokenLabel stage row).id := rfl

/-- The id of a node under a limit: its own if it is a top node, else the reserved one. -/
theorem id_shownNode_some (top : FlowNodeKind → List String) (row : FlowQuotaDataItem)
    (stage : FlowNodeKind) :
    (shownNode options (some top) row stage).id =
      if (buildNode options.deletedTokenLabel stage row).id ∈ top stage
      then (buildNode options.deletedTokenLabel stage row).id else otherFlowNodeId stage := by
  unfold shownNode isTopFlowNode
  dsimp only
  rw [kind_buildNode]
  by_cases h : (buildNode options.deletedTokenLabel stage row).id ∈ top stage
  · rw [if_pos h, if_pos (decide_eq_true h)]
  · rw [if_neg h, if_neg (by simpa using h)]
    rfl

/-- Off the reserved id, the rows that show a node are its own. -/
theorem shown_iff_own {top : Option (FlowNodeKind → List String)} {row₀ row : FlowQuotaDataItem}
    {stage : FlowNodeKind}
    (h : (shownNode options top row₀ stage).id ≠ otherFlowNodeId stage) :
    (shownNode options top row stage).id = (shownNode options top row₀ stage).id ↔
      (buildNode options.deletedTokenLabel stage row).id =
        (shownNode options top row₀ stage).id := by
  cases top with
  | none => exact Iff.rfl
  | some top =>
    rw [id_shownNode_some] at h ⊢
    rw [id_shownNode_some]
    by_cases h₀ : (buildNode options.deletedTokenLabel stage row₀).id ∈ top stage
    · rw [if_pos h₀] at h ⊢
      by_cases hrow : (buildNode options.deletedTokenLabel stage row).id ∈ top stage
      · rw [if_pos hrow]
      · rw [if_neg hrow]
        constructor
        · intro heq
          exact absurd heq.symm h
        · intro heq
          exact absurd (heq ▸ h₀) hrow
    · rw [if_neg h₀] at h
      exact absurd rfl h

theorem length_topSets {n : Nat} (hn : normalizeTopNodeLimit options.topNodeLimit = some n)
    {top : FlowNodeKind → List String} (htop : topSets lib rows metric options = some top)
    (stage : FlowNodeKind) : (top stage).length ≤ n := by
  unfold topSets buildTopNodeSets at htop
  rw [hn] at htop
  obtain rfl := Option.some.inj htop
  rw [List.length_map]
  exact List.length_take_le _ _

/-- The rows that show the reserved id under a limit: those left out, and those whose node has it
and is kept. -/
theorem sumOver_other (top : FlowNodeKind → List String) (stage : FlowNodeKind) (t : Total) :
    sumOver rows (fun row => (shownNode options (some top) row stage).id = otherFlowNodeId stage)
        (rowTotal metric t) =
      sumOver rows (fun row => (buildNode options.deletedTokenLabel stage row).id ∉ top stage)
          (rowTotal metric t) +
        if otherFlowNodeId stage ∈ top stage
        then sumOver rows (fun row => (buildNode options.deletedTokenLabel stage row).id =
          otherFlowNodeId stage) (rowTotal metric t) else 0 := by
  rw [sumOver_split rows _ fun row =>
    (buildNode options.deletedTokenLabel stage row).id ∉ top stage]
  congr 1
  · refine sumOver_congr (fun row _ => ?_) fun _ _ => rfl
    rw [id_shownNode_some]
    constructor
    · exact And.right
    · intro hleft
      exact ⟨if_neg hleft, hleft⟩
  · split
    · next hother =>
      refine sumOver_congr (fun row _ => ?_) fun _ _ => rfl
      rw [id_shownNode_some, not_not]
      constructor
      · rintro ⟨hid, hkept⟩
        rwa [if_pos hkept] at hid
      · intro hid
        have hkept := hid ▸ hother
        exact ⟨(if_pos hkept).trans hid, hkept⟩
    · next hother =>
      rw [sumOver_congr (q := fun _ => False) (fun row _ => ?_) fun _ _ => rfl]
      · rw [sumOver_eq_sum_ite]
        simp
      · rw [id_shownNode_some, not_not, iff_false]
        rintro ⟨hid, hkept⟩
        rw [if_pos hkept] at hid
        exact hother (hid ▸ hkept)

/-- The stages and nodes at one end of the steps. -/
theorem exists_step_iff {top : Option (FlowNodeKind → List String)} {side : Side} {id : String} :
    (∃ s ∈ flowSteps rows stages options top, s.at side = id) ↔
      ∃ row ∈ rows, ∃ stage ∈ sideStages stages side,
        (shownNode options top row stage).id = id := by
  unfold flowSteps
  simp only [List.mem_flatMap, List.mem_map]
  cases side with
  | source =>
    have hzip : sideStages stages .source = (stages.zip stages.tail).map Prod.fst :=
      (map_fst_zip_tail stages).symm
    rw [hzip]
    constructor
    · rintro ⟨s, ⟨row, hrow, ab, hab, rfl⟩, hs⟩
      exact ⟨row, hrow, ab.1, List.mem_map_of_mem hab, hs⟩
    · rintro ⟨row, hrow, stage, hstage, hs⟩
      obtain ⟨ab, hab, rfl⟩ := List.mem_map.mp hstage
      exact ⟨_, ⟨row, hrow, ab, hab, rfl⟩, hs⟩
  | target =>
    have hzip : sideStages stages .target = (stages.zip stages.tail).map Prod.snd :=
      (map_snd_zip_tail stages).symm
    rw [hzip]
    constructor
    · rintro ⟨s, ⟨row, hrow, ab, hab, rfl⟩, hs⟩
      exact ⟨row, hrow, ab.2, List.mem_map_of_mem hab, hs⟩
    · rintro ⟨row, hrow, stage, hstage, hs⟩
      obtain ⟨ab, hab, rfl⟩ := List.mem_map.mp hstage
      exact ⟨_, ⟨row, hrow, ab, hab, rfl⟩, hs⟩

theorem mem_of_mem_sideStages {side : Side} {stage : FlowNodeKind}
    (h : stage ∈ sideStages stages side) : stage ∈ stages := by
  cases side with
  | source => exact List.mem_of_mem_dropLast h
  | target => exact List.mem_of_mem_tail h

section

variable (lib rows metric options) (hmode : options.overflowMode.getD .aggregate = .aggregate)
  (hnil : stages ≠ []) (hnodup : stages.Nodup)

include hmode hnil hnodup

/-- The nodes at one end of the links are in balance with them exactly when the steps of one link
key make up for each other at every node. -/
theorem sides_iff (side : Side) :
    (∀ node ∈ (buildFlowGraph lib rows metric stages options).nodes,
        node.kind ∈ sideStages stages side →
          sumOver (buildFlowGraph lib rows metric stages options).links
            (fun l => l.at side = node.id) (fun l => l.total .value) = node.total .value) ↔
      ∀ s ∈ flowSteps rows stages options (topSets lib rows metric options),
        CancelAt (flowSteps rows stages options (topSets lib rows metric options)) metric side
          (s.at side) := by
  constructor
  · intro h s hs
    obtain ⟨row, hrow, stage, hstage, hid⟩ := exists_step_iff.mp ⟨s, hs, rfl⟩
    obtain ⟨node, hnode, rfl, hnodeId⟩ := exists_node lib rows metric options hmode hnil
      hrow (mem_of_mem_sideStages hstage)
    rw [← hid, ← hnodeId]
    exact (balanced_iff lib rows metric options hmode hnil hnodup hnode hstage).mp
      (h node hnode hstage)
  · intro h node hnode hside
    rw [balanced_iff lib rows metric options hmode hnil hnodup hnode hside]
    obtain ⟨-, row, hrow, hid⟩ := mem_nodes lib rows metric options hmode hnil hnode
    obtain ⟨s, hs, heq⟩ := exists_step_iff.mpr ⟨row, hrow, node.kind, hside, hid⟩
    rw [← heq]
    exact h s hs

/-- A node off the reserved id has its totals of the graph without a limit. -/
theorem kept_of_ne {node : DashboardFlowNode}
    (h : node ∈ (buildFlowGraph lib rows metric stages options).nodes)
    (hne : node.id ≠ otherFlowNodeId node.kind) :
    ∃ node' ∈ (buildFlowGraph lib rows metric stages { options with topNodeLimit := none }).nodes,
      node'.id = node.id ∧ node'.kind = node.kind ∧ node'.total = node.total := by
  obtain ⟨hstage, row, hrow, hid⟩ := mem_nodes lib rows metric options hmode hnil h
  rw [← hid] at hne
  obtain ⟨node', hnode', hkind, hid'⟩ := exists_node lib rows metric
    { options with topNodeLimit := none } hmode hnil hrow hstage
  rw [topSets_free, id_shownNode_free] at hid'
  have hown : node'.id = node.id := by
    rw [hid', (shown_iff_own hne).mp rfl, hid]
  refine ⟨node', hnode', hown, hkind, funext fun t => ?_⟩
  rw [total_of_mem lib rows metric { options with topNodeLimit := none } hmode hnil hnodup hnode',
    total_of_mem lib rows metric options hmode hnil hnodup h, hkind, hown, ← hid]
  refine sumOver_congr (fun row' _ => ?_) fun _ _ => rfl
  rw [topSets_free, id_shownNode_free]
  exact (shown_iff_own hne).symm

omit hnodup in
/-- A limit keeps at most so many nodes of a stage. -/
theorem length_kept_le {n : Nat} (hn : normalizeTopNodeLimit options.topNodeLimit = some n)
    (stage : FlowNodeKind) :
    ((buildFlowGraph lib rows metric stages options).nodes.filter fun node =>
      node.kind = stage ∧ node.id ≠ otherFlowNodeId stage).length ≤ n := by
  obtain ⟨top, htop⟩ : ∃ top, topSets lib rows metric options = some top := by
    unfold topSets
    rw [hn]
    exact ⟨_, rfl⟩
  refine le_trans ?_ (length_topSets hn htop stage)
  rw [← List.length_map (f := (·.id))]
  have hids : ((((buildFlowGraph lib rows metric stages options).nodes.filter fun node =>
      node.kind = stage ∧ node.id ≠ otherFlowNodeId stage)).map (·.id)).Nodup :=
    (nodup_nodes lib rows metric options hmode hnil).sublist (List.filter_sublist.map _)
  refine (hids.subperm fun id hid => ?_).length_le
  obtain ⟨node, hnode, rfl⟩ := List.mem_map.mp hid
  obtain ⟨hnode, hkept⟩ := List.mem_filter.mp hnode
  obtain ⟨hkind, hne⟩ := of_decide_eq_true hkept
  obtain ⟨-, row, -, hrow⟩ := mem_nodes lib rows metric options hmode hnil hnode
  rw [hkind] at hrow
  rw [htop, id_shownNode_some] at hrow
  by_cases hin : (buildNode options.deletedTokenLabel stage row).id ∈ top stage
  · rw [if_pos hin] at hrow
    exact hrow ▸ hin
  · rw [if_neg hin] at hrow
    exact absurd hrow.symm hne

/-- The other node totals what is left out exactly when no kept node with totals has its id. -/
theorem other_iff {top : FlowNodeKind → List String}
    (htop : topSets lib rows metric options = some top) {stage : FlowNodeKind}
    (hstage : stage ∈ stages) (t : Total) :
    sumOver (buildFlowGraph lib rows metric stages options).nodes
          (fun n => n.kind = stage ∧ n.id = otherFlowNodeId stage) (fun n => n.total t) =
        sumOver (buildFlowGraph lib rows metric stages
            { options with topNodeLimit := none }).nodes
          (fun n => n.kind = stage ∧ n.id ∉ top stage) (fun n => n.total t) ↔
      (otherFlowNodeId stage ∈ top stage →
        sumOver rows (fun row => (buildNode options.deletedTokenLabel stage row).id =
          otherFlowNodeId stage) (rowTotal metric t) = 0) := by
  rw [sumOver_nodes lib rows metric options hmode hnil hnodup hstage (· = otherFlowNodeId stage),
    sumOver_nodes lib rows metric { options with topNodeLimit := none } hmode hnil hnodup hstage
      (· ∉ top stage), htop, sumOver_other]
  show _ = sumOver rows (fun row => (buildNode options.deletedTokenLabel stage row).id ∉ top stage)
    (rowTotal metric t) ↔ _
  rw [add_eq_left]
  split
  · next hother => exact ⟨fun h _ => h, fun h => h hother⟩
  · next hother => exact ⟨fun _ h => absurd h hother, fun _ => rfl⟩

omit hnodup in
/-- The graph without a limit has a node that is left out exactly when a row's node is. -/
theorem exists_left_iff (top : FlowNodeKind → List String) {stage : FlowNodeKind}
    (hstage : stage ∈ stages) :
    (∃ node ∈ (buildFlowGraph lib rows metric stages
        { options with topNodeLimit := none }).nodes, node.kind = stage ∧ node.id ∉ top stage) ↔
      ∃ row ∈ rows, (buildNode options.deletedTokenLabel stage row).id ∉ top stage := by
  constructor
  · rintro ⟨node, hnode, rfl, hleft⟩
    obtain ⟨-, row, hrow, hid⟩ := mem_nodes lib rows metric { options with topNodeLimit := none }
      hmode hnil hnode
    exact ⟨row, hrow, fun hin => hleft (hid ▸ hin)⟩
  · rintro ⟨row, hrow, hleft⟩
    obtain ⟨node, hnode, hkind, hid⟩ := exists_node lib rows metric
      { options with topNodeLimit := none } hmode hnil hrow hstage
    exact ⟨node, hnode, hkind, fun hin => hleft (hid ▸ hin)⟩

end

/-- A graph that puts overflow together balances exactly when the steps of one link key make up for
each other, and where a limit leaves nodes out, no kept node with totals has the reserved id. -/
theorem balances_iff (lib : FlowLib) (rows : List FlowQuotaDataItem) (metric : FlowMetric)
    (options : FlowBuildOptions) (hmode : options.overflowMode.getD .aggregate = .aggregate) :
    Balances lib rows metric options ↔
      StepsCancel lib (filteredRows rows options) metric options ∧
        ReservedEmpty lib (filteredRows rows options) metric options := by
  have hnil := stages_ne_nil options
  have hnodup : options.stages.Nodup := nodup_resolveVisibleStages _ _
  constructor
  · intro h
    constructor
    · intro side
      refine (sides_iff lib _ metric options hmode hnil hnodup side).mp fun node hnode hside => ?_
      have hstage := mem_of_mem_sideStages hside
      cases side with
      | source => exact h.outgoing node hnode ((mem_dropLast_iff_of_nodup hnodup hstage).mp hside)
      | target => exact h.incoming node hnode ((mem_tail_iff_of_nodup hnodup hstage).mp hside)
    · intro top htop stage hstage hleft hother t
      have hexists := (exists_left_iff lib _ metric options hmode hnil top hstage).mpr
        hleft
      exact (other_iff lib _ metric options hmode hnil hnodup htop hstage t).mp
        (h.other top htop stage hstage hexists t)
        hother
  · rintro ⟨hcancel, hempty⟩
    constructor
    · intro stage hstage t
      have hall := sumOver_nodes lib (filteredRows rows options) metric options
        hmode hnil hnodup hstage (fun _ => True) t
      refine (sumOver_congr (fun n _ => ?_) fun _ _ => rfl).trans (hall.trans ?_)
      · exact (and_iff_left trivial).symm
      · refine Eq.trans ?_ (total_buildSummary _ metric t).symm
        rw [sumOver_eq_sum_ite]
        simp only [if_true]
    · intro node hnode hhead
      refine (sides_iff lib _ metric options hmode hnil hnodup .target).mpr (hcancel .target)
        node hnode ?_
      have hstage := (mem_nodes lib _ metric options hmode hnil hnode).1
      exact (mem_tail_iff_of_nodup hnodup hstage).mpr hhead
    · intro node hnode hlast
      refine (sides_iff lib _ metric options hmode hnil hnodup .source).mpr (hcancel .source)
        node hnode ?_
      have hstage := (mem_nodes lib _ metric options hmode hnil hnode).1
      exact (mem_dropLast_iff_of_nodup hnodup hstage).mpr hlast
    · intro node hnode hne
      exact kept_of_ne lib _ metric options hmode hnil hnodup hnode hne
    · intro n hn stage _
      exact length_kept_le lib _ metric options hmode hnil hn stage
    · intro top htop stage hstage hleft t
      have hrow := (exists_left_iff lib _ metric options hmode hnil top hstage).mp hleft
      exact (other_iff lib _ metric options hmode hnil hnodup htop hstage t).mpr fun hother =>
        hempty top htop stage hstage hrow hother t

end

/-! ## A model called `__other__` -/

def plainLib : FlowLib where
  localeCompare a b := compare a.toList b.toList
  getDashboardChartColors _ := []
  formatNumber _ := ""

/-- Two models, one under the reserved name. -/
def twoModels : List FlowQuotaDataItem :=
  [{ modelName := "__other__", quota := 5 }, { modelName := "a", quota := 1 }]

instance (steps : List FlowStep) (metric : FlowMetric) (side : Side) (id : String) :
    Decidable (CancelAt steps metric side id) :=
  inferInstanceAs (Decidable (_ = _))

/-- Without a limit the two models balance. -/
theorem balances_twoModels : Balances plainLib twoModels .quota {} := by
  refine (balances_iff plainLib twoModels .quota {} rfl).mpr ⟨?_, ?_⟩
  · intro side
    cases side with
    | source => decide
    | target => decide
  · intro top htop
    cases htop

/-- With a limit of one, the first model is kept, and the node of the other one is added to it. -/
theorem not_balances_limit : ¬ Balances plainLib twoModels .quota { topNodeLimit := some 1 } := by
  intro h
  have htop : (topSets plainLib twoModels .quota { topNodeLimit := some 1 }).map (· .model) =
      some ["model:__other__"] := by decide +kernel
  obtain ⟨top, hsome, hmodel⟩ := Option.map_eq_some_iff.mp htop
  have hleft : ∃ row ∈ twoModels, (buildNode none .model row).id ∉ top .model := by
    rw [hmodel]
    decide
  have hnil : FlowBuildOptions.stages { topNodeLimit := some 1 } ≠ [] := stages_ne_nil _
  have hstage : .model ∈ FlowBuildOptions.stages { topNodeLimit := some 1 } := by decide
  have hsum := h.other top hsome .model hstage
    ((exists_left_iff _ _ _ _ rfl hnil top hstage).mpr hleft) .quota
  have hnodup := nodup_resolveVisibleStages (FlowRole.user) none
  have hzero := (other_iff _ _ _ _ rfl hnil hnodup hsome hstage .quota).mp hsum
  have hother : otherFlowNodeId .model ∈ top .model := by
    rw [hmodel]
    decide
  have hfive : ¬ sumOver twoModels (fun row => (buildNode none .model row).id =
      otherFlowNodeId .model) (rowTotal .quota .quota) = 0 := by decide +kernel
  exact hfive (hzero hother)

end TokenRouter.Flow
