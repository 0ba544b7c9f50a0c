import TokenRouter.ForStd.Split
import TokenRouter.ForStd.StableSort
import TokenRouter.Spec.FlowBalance

/-!
# Masking of the usage flow graph

The mask covers labels only, but labels decide two orders: that of nodes with equal values, and that
of equal totals in the ranking of a limit.

## Key results

- `links_finishGraph`: the links of the masked graph are those of the other one with masked labels
- `nodes_masked_iff`: when the nodes of both graphs stand in one order
- `buildFlowGraph_masked`: the masked graph is built from masked paths
- `masking`: what the mask keeps, and what it hides
-/

namespace TokenRouter.Flow

open GroupFold StableSort

variable {lib : FlowLib}

/-! ## What is not text -/

/-- A node without its label. -/
def DashboardFlowNode.bare (node : DashboardFlowNode) : DashboardFlowNode :=
  { node with label := "" }

/-- A link without its labels. -/
def DashboardFlowLink.bare (link : DashboardFlowLink) : DashboardFlowLink :=
  { link with sourceLabel := "", targetLabel := "" }

theorem bare_maskNode (node : DashboardFlowNode) : (maskNode node).bare = node.bare := by
  unfold maskNode
  split
  · rfl
  · rfl

theorem maskNode_highlightNode (sets : Option FlowHighlightSets) (node : DashboardFlowNode) :
    highlightNode sets (maskNode node) = maskNode (highlightNode sets node) := by
  cases sets with
  | none => rfl
  | some sets =>
    have hmasked : isMasked (highlightNode (some sets) node) = isMasked node := rfl
    unfold maskNode
    rw [hmasked]
    cases isMasked node with
    | true =>
      have hid : (highlightNode (some sets) node).id = node.id := rfl
      rfl
    | false => rfl

/-- The sort of the links of one source does not see their labels. -/
theorem sortBy_map_maskLink (cmp : DashboardFlowLink → DashboardFlowLink → Ordering)
    (nodes : List DashboardFlowNode)
    (hcmp : ∀ a b, cmp (maskLink nodes a) (maskLink nodes b) = cmp a b)
    (links : List DashboardFlowLink) :
    sortBy cmp (links.map (maskLink nodes)) = (sortBy cmp links).map (maskLink nodes) := by
  refine (map_insertionSort_of_pairwise (maskLink nodes) ?_).symm
  exact List.pairwise_of_forall fun a b => by rw [hcmp]

/-- The fading of a link does not see labels. -/
theorem withDisplayColor_maskLink (nodes : List DashboardFlowNode) (links : List DashboardFlowLink)
    (link : DashboardFlowLink) :
    withDisplayColor lib (links.map (maskLink nodes)) (maskLink nodes link) =
      maskLink nodes (withDisplayColor lib links link) := by
  have hsorted : sortBy (byFade lib) ((links.map (maskLink nodes)).filter fun l =>
        l.source = (maskLink nodes link).source) =
      (sortBy (byFade lib) (links.filter fun l => l.source = link.source)).map
        (maskLink nodes) := by
    rw [List.filter_map]
    exact sortBy_map_maskLink (byFade lib) nodes (fun _ _ => rfl) _
  unfold withDisplayColor
  dsimp only
  rw [hsorted, List.length_map, List.findIdx_map]
  rfl

/-- The links of the masked graph are those of the graph that is not masked, with masked labels. -/
theorem links_finishGraph (sets : Option FlowHighlightSets) (sources : List String)
    (nodes : List DashboardFlowNode) (links : List DashboardFlowLink) :
    (finishGraph lib true sets sources nodes links).links =
      (finishGraph lib false sets sources nodes links).links.map (maskLink nodes) := by
  have hhighlight : (links.map (maskLink nodes)).map (highlightLink sets) =
      (links.map (highlightLink sets)).map (maskLink nodes) := by
    rw [List.map_map, List.map_map]
    refine List.map_congr_left fun l _ => ?_
    cases sets <;> rfl
  unfold finishGraph
  simp only [if_true, Bool.false_eq_true, if_false]
  rw [hhighlight, sortBy_map_maskLink (bySourceThenTarget lib) nodes fun _ _ => rfl]
  generalize sortBy (bySourceThenTarget lib) (links.map (highlightLink sets)) = sorted
  have htotal : (((sorted.map (maskLink nodes)).filter fun link => link.source ∈ sources).map
      (·.value)).sum = ((sorted.filter fun link => link.source ∈ sources).map (·.value)).sum := by
    rw [List.filter_map, List.map_map]
    rfl
  rw [htotal]
  generalize ((sorted.filter fun link => link.source ∈ sources).map (·.value)).sum = total
  have hshare : (sorted.map (maskLink nodes)).map (withShare total) =
      (sorted.map (withShare total)).map (maskLink nodes) := by
    rw [List.map_map, List.map_map]
    rfl
  rw [hshare]
  generalize sorted.map (withShare total) = flowLinks
  rw [List.map_map, List.map_map]
  exact List.map_congr_left fun l _ => withDisplayColor_maskLink nodes flowLinks l

/-! ## The order of the nodes -/

theorem ne_gt_iff_isLE (o : Ordering) : o ≠ .gt ↔ o.isLE := by
  cases o <;> simp

instance total_ne_gt {α : Type} (cmp : α → α → Ordering) [Std.TransCmp cmp] :
    Std.Total fun a b : α => cmp a b ≠ .gt where
  total a b := by
    rw [@Std.OrientedCmp.eq_swap α cmp _ b a]
    cases cmp a b <;> simp

instance isTrans_ne_gt {α : Type} (cmp : α → α → Ordering) [Std.TransCmp cmp] :
    IsTrans α fun a b : α => cmp a b ≠ .gt where
  trans a b c hab hbc := by
    rw [ne_gt_iff_isLE] at hab hbc ⊢
    exact Std.TransCmp.isLE_trans hab hbc

theorem transCmp_comap {α β : Type} (cmp : β → β → Ordering) [Std.TransCmp cmp] (f : α → β) :
    Std.TransCmp fun a b => cmp (f a) (f b) where
  eq_swap := Std.OrientedCmp.eq_swap
  isLE_trans := Std.TransCmp.isLE_trans

instance : Std.TransCmp byValueDesc :=
  inferInstanceAs (Std.TransCmp fun a b : ℚ => compare b a)

instance [Std.TransCmp lib.localeCompare] : Std.TransCmp (byValueThenLabel lib) :=
  have := transCmp_comap byValueDesc DashboardFlowNode.value
  have := transCmp_comap lib.localeCompare DashboardFlowNode.label
  inferInstanceAs (Std.TransCmp (compareLex
    (fun a b : DashboardFlowNode => byValueDesc a.value b.value)
    fun a b => lib.localeCompare a.label b.label))

instance [Std.TransCmp lib.localeCompare] : Std.TransCmp (byRank lib) :=
  have := transCmp_comap byValueDesc FlowNodeRank.value
  have := transCmp_comap lib.localeCompare fun rank : FlowNodeRank => rank.node.label
  have := transCmp_comap lib.localeCompare fun rank : FlowNodeRank => rank.node.id
  inferInstanceAs (Std.TransCmp (compareLex
    (fun a b : FlowNodeRank => byValueDesc a.value b.value)
    (compareLex (fun a b => lib.localeCompare a.node.label b.node.label)
      fun a b => lib.localeCompare a.node.id b.node.id)))

/-- Two nodes with equal values stand in the order of their labels, masked or not. -/
def TieAlike (lib : FlowLib) (a b : DashboardFlowNode) : Prop :=
  a.value = b.value →
    (lib.localeCompare a.label b.label = .gt ↔
      lib.localeCompare (maskNode a).label (maskNode b).label = .gt)

theorem byValueThenLabel_gt_iff (a b : DashboardFlowNode) :
    byValueThenLabel lib a b = .gt ↔
      a.value < b.value ∨ a.value = b.value ∧ lib.localeCompare a.label b.label = .gt := by
  unfold byValueThenLabel byValueDesc
  rw [Ordering.then_eq_gt, compare_gt_iff_gt, compare_eq_iff_eq, eq_comm (a := b.value)]

theorem tieAlike_iff (a b : DashboardFlowNode) :
    TieAlike lib a b ↔
      (byValueThenLabel lib a b ≠ .gt ↔ byValueThenLabel lib (maskNode a) (maskNode b) ≠ .gt) := by
  have hvalue : ∀ n : DashboardFlowNode, (maskNode n).value = n.value := by
    intro n
    show (maskNode n).bare.value = n.bare.value
    rw [bare_maskNode]
  unfold TieAlike
  rw [not_iff_not, byValueThenLabel_gt_iff, byValueThenLabel_gt_iff, hvalue, hvalue]
  by_cases htie : a.value = b.value
  · simp [htie]
  · simp [htie]

/-- The nodes stand in one order, masked or not, exactly when those with equal values do. -/
theorem nodes_masked_iff [Std.TransCmp lib.localeCompare] (sets : Option FlowHighlightSets)
    (sources : List String) {nodes : List DashboardFlowNode} (hids : (nodes.map (·.id)).Nodup)
    (links : List DashboardFlowLink) :
    (finishGraph lib true sets sources nodes links).nodes.map (·.bare) =
        (finishGraph lib false sets sources nodes links).nodes.map (·.bare) ↔
      nodes.Pairwise (TieAlike lib) := by
  have hhighlight : (nodes.map maskNode).map (highlightNode sets) =
      (nodes.map (highlightNode sets)).map maskNode := by
    rw [List.map_map, List.map_map]
    exact List.map_congr_left fun n _ => maskNode_highlightNode sets n
  have htrue : (finishGraph lib true sets sources nodes links).nodes =
      sortBy (byValueThenLabel lib) ((nodes.map (highlightNode sets)).map maskNode) :=
    congrArg (sortBy (byValueThenLabel lib)) hhighlight
  have hfalse : (finishGraph lib false sets sources nodes links).nodes =
      sortBy (byValueThenLabel lib) (nodes.map (highlightNode sets)) := rfl
  have hbare : ((nodes.map (highlightNode sets)).map (·.bare)).Nodup := by
    refine List.Nodup.of_map (·.id) ?_
    rw [List.map_map, List.map_map]
    refine (List.map_congr_left fun n _ => ?_) ▸ hids
    cases sets <;> rfl
  rw [htrue, hfalse]
  refine (insertionSort_map_iff bare_maskNode hbare).trans ?_
  rw [List.pairwise_map]
  have hcmp : ∀ a b, byValueThenLabel lib (highlightNode sets a) (highlightNode sets b) =
      byValueThenLabel lib a b := fun a b => by cases sets <;> rfl
  have hsame : ∀ a b, (byValueThenLabel lib (highlightNode sets a) (highlightNode sets b) ≠ .gt ↔
      byValueThenLabel lib (maskNode (highlightNode sets a)) (maskNode (highlightNode sets b)) ≠
        .gt) ↔ TieAlike lib a b := by
    intro a b
    rw [← maskNode_highlightNode, ← maskNode_highlightNode, hcmp, hcmp]
    exact (tieAlike_iff a b).symm
  simp only [hsame]

/-! ## Masked paths -/

/-- A node of a path as the mask shows it. -/
def maskPathNode (node : FlowPathNode) : FlowPathNode :=
  if isSensitive node.kind && !decide (node.id ∈ otherFlowNodeIdSet) then
    { node with label := maskFlowLabel node.label }
  else node

def maskPrepared (p : PreparedFlowPath) : PreparedFlowPath :=
  { p with path := p.path.map maskPathNode }

@[simp] theorem id_maskPathNode (node : FlowPathNode) : (maskPathNode node).id = node.id := by
  unfold maskPathNode
  split
  · rfl
  · rfl

@[simp] theorem kind_maskPathNode (node : FlowPathNode) : (maskPathNode node).kind = node.kind := by
  unfold maskPathNode
  split
  · rfl
  · rfl

theorem maskFlowLabel_idem (label : String) :
    maskFlowLabel (maskFlowLabel label) = maskFlowLabel label := by
  unfold maskFlowLabel
  by_cases h : label = ""
  · rw [if_pos h, if_pos h]
  · rw [if_neg h]
    decide

def maskEntry (e : NodeEntry) : NodeEntry := { e with node := maskPathNode e.node }

theorem maskNode_newNode (e : NodeEntry) : maskNode (newNode e) = newNode (maskEntry e) := by
  show maskNode (newNode e) = newNode { e with node := maskPathNode e.node }
  unfold maskNode maskPathNode
  have hmasked : isMasked (newNode e) =
      (isSensitive e.node.kind && !decide (e.node.id ∈ otherFlowNodeIdSet)) := rfl
  rw [hmasked]
  split
  · rfl
  · rfl

theorem maskNode_addNode (metric : FlowMetric) (n : DashboardFlowNode) (e : NodeEntry) :
    maskNode (addNode metric n e) = addNode metric (maskNode n) (maskEntry e) := by
  unfold maskNode
  have hmasked : isMasked (addNode metric n e) = isMasked n := rfl
  rw [hmasked]
  split
  · rfl
  · rfl

/-- The masked nodes are those of the masked entries. -/
theorem map_maskNode_nodeMap (metric : FlowMetric) (entries : List NodeEntry) :
    (nodeMap metric entries).map maskNode = nodeMap metric (entries.map maskEntry) := by
  have hmap : (groupFold (fun e : NodeEntry => e.node.id) newNode (addNode metric) entries).map
      (fun acc => (acc.1, maskNode acc.2)) = groupFold (fun e : NodeEntry => e.node.id) newNode
        (addNode metric) (entries.map maskEntry) := by
    apply groupFold_map (h := maskEntry) (g := maskNode)
    · exact fun e => id_maskPathNode e.node
    · exact maskNode_newNode
    · exact maskNode_addNode metric
  unfold nodeMap
  rw [← hmap, List.map_map, List.map_map]
  rfl

/-- What masks a link needs no more of the nodes than the masked ones. -/
theorem maskedById_map (nodes : List DashboardFlowNode) (id : String) :
    maskedById (nodes.map maskNode) id = maskedById nodes id := by
  have hmasked : ∀ n, isMasked (maskNode n) = isMasked n := by
    intro n
    show isMasked (maskNode n).bare = isMasked n.bare
    rw [bare_maskNode]
  have hid : ∀ n, (maskNode n).id = n.id := by
    intro n
    show (maskNode n).bare.id = n.bare.id
    rw [bare_maskNode]
  unfold maskedById
  rw [List.find?_map, Option.map_map]
  have hfind : ((fun node => isMasked node && decide (node.id = id)) ∘ maskNode) =
      fun node => isMasked node && decide (node.id = id) := by
    funext n
    show (isMasked (maskNode n) && decide ((maskNode n).id = id)) = _
    rw [hmasked, hid]
  rw [hfind]
  refine Option.map_congr fun n hn => ?_
  have hn' := List.find?_some hn
  rw [Bool.and_eq_true] at hn'
  show maskFlowLabel (maskNode n).label = maskFlowLabel n.label
  unfold maskNode
  rw [if_pos hn'.1]
  exact maskFlowLabel_idem n.label

/-- A step with the labels that the mask gives to its link. -/
def maskLinkEntry (nodes : List DashboardFlowNode) (e : LinkEntry) : LinkEntry :=
  { e with
    source := { e.source with label := (maskedById nodes e.source.id).getD e.source.label }
    target := { e.target with label := (maskedById nodes e.target.id).getD e.target.label } }

theorem map_maskLink_linkMap (metric : FlowMetric) (nodes : List DashboardFlowNode)
    (entries : List LinkEntry) :
    (linkMap metric entries).map (maskLink nodes) =
      linkMap metric (entries.map (maskLinkEntry nodes)) := by
  have hmap : (groupFold (fun e : LinkEntry => linkKey e.source.id e.target.id) newLink
      (addLink metric) entries).map (fun acc => (acc.1, maskLink nodes acc.2)) =
        groupFold (fun e : LinkEntry => linkKey e.source.id e.target.id) newLink (addLink metric)
          (entries.map (maskLinkEntry nodes)) := by
    apply groupFold_map (h := maskLinkEntry nodes) (g := maskLink nodes)
    · exact fun _ => rfl
    · exact fun _ => rfl
    · exact fun _ _ => rfl
  unfold linkMap
  rw [← hmap, List.map_map, List.map_map]
  rfl

/-! ## The masked graph -/

section

variable (palette : List String) (colors : List (String × String))
  (prepared : List PreparedFlowPath)

theorem rootIds_masked : rootIds (prepared.map maskPrepared) = rootIds prepared := by
  unfold rootIds
  rw [List.filterMap_map]
  refine List.filterMap_congr fun p _ => ?_
  show ((p.path.map maskPathNode).head?.map _) = _
  rw [List.head?_map, Option.map_map]
  exact Option.map_congr fun n _ => id_maskPathNode n

theorem nodeEntries_masked :
    nodeEntries lib palette colors (prepared.map maskPrepared) =
      (nodeEntries lib palette colors prepared).map maskEntry := by
  unfold nodeEntries
  rw [List.flatMap_map, List.map_flatMap]
  refine List.flatMap_congr fun p _ => ?_
  show (p.path.map maskPathNode).head?.elim _ _ = _
  rw [List.head?_map]
  cases hroot : p.path.head? with
  | none => rfl
  | some root =>
    show List.map _ (List.map _ _) = List.map _ (List.map _ _)
    rw [List.map_map, List.map_map]
    refine List.map_congr_left fun n _ => ?_
    show NodeEntry.mk _ _ _ _ = NodeEntry.mk _ _ _ _
    simp only [id_maskPathNode]
    rfl

/-- The pairs of a masked path are masked pairs. -/
theorem zip_tail_masked (path : List FlowPathNode) :
    (path.map maskPathNode).zip (path.map maskPathNode).tail =
      (path.zip path.tail).map (Prod.map maskPathNode maskPathNode) := by
  rw [← List.map_tail, List.zip_map]

def maskEnds (e : LinkEntry) : LinkEntry :=
  { e with source := maskPathNode e.source, target := maskPathNode e.target }

theorem linkEntries_masked :
    linkEntries lib palette colors (prepared.map maskPrepared) =
      (linkEntries lib palette colors prepared).map maskEnds := by
  unfold linkEntries
  rw [List.flatMap_map, List.map_flatMap]
  refine List.flatMap_congr fun p _ => ?_
  show (p.path.map maskPathNode).head?.elim _ _ = _
  rw [List.head?_map]
  cases hroot : p.path.head? with
  | none => rfl
  | some root =>
    show List.map _ ((p.path.map maskPathNode).zip (p.path.map maskPathNode).tail) = _
    rw [zip_tail_masked, List.map_map]
    show _ = List.map _ (List.map _ _)
    rw [List.map_map]
    refine List.map_congr_left fun ab _ => ?_
    show LinkEntry.mk _ _ _ _ _ = LinkEntry.mk _ _ _ _ _
    simp only [id_maskPathNode]
    rfl

theorem matchesPath_masked (activeNode : Option FlowNodeFilter)
    (activeLink : Option FlowLinkSelection) (path : List FlowPathNode) :
    matchesPath activeNode activeLink (path.map maskPathNode) =
      matchesPath activeNode activeLink path := by
  unfold matchesPath
  cases activeLink with
  | some link =>
    show pathContainsFlowLink _ _ = pathContainsFlowLink _ _
    unfold pathContainsFlowLink
    rw [zip_tail_masked, List.any_map]
    simp only [Function.comp_def, Prod.map_fst, Prod.map_snd, id_maskPathNode]
  | none =>
    cases activeNode with
    | none => rfl
    | some filter =>
      show (path.map maskPathNode).any _ = path.any _
      rw [List.any_map]
      simp only [Function.comp_def, id_maskPathNode, kind_maskPathNode]

theorem highlightSets_masked (activeNode : Option FlowNodeFilter)
    (activeLink : Option FlowLinkSelection) (stages : List FlowNodeKind) :
    buildFlowHighlightSets (prepared.map maskPrepared) activeNode activeLink stages =
      buildFlowHighlightSets prepared activeNode activeLink stages := by
  have hmatched : ((prepared.map maskPrepared).filter fun p =>
      matchesPath activeNode activeLink p.path) =
        (prepared.filter fun p => matchesPath activeNode activeLink p.path).map maskPrepared := by
    rw [List.filter_map]
    congr 1
    refine List.filter_congr fun p _ => ?_
    exact matchesPath_masked activeNode activeLink p.path
  have hnodes : ∀ matched : List PreparedFlowPath,
      (matched.map maskPrepared).flatMap (fun p => p.path.map (·.id)) =
        matched.flatMap fun p => p.path.map (·.id) := by
    intro matched
    rw [List.flatMap_map]
    refine List.flatMap_congr fun p _ => ?_
    show (p.path.map maskPathNode).map _ = _
    rw [List.map_map]
    exact List.map_congr_left fun n _ => id_maskPathNode n
  have hlinks : ∀ (matched : List PreparedFlowPath) (key : FlowPathNode × FlowPathNode → String),
      (∀ ab, key (ab.map maskPathNode maskPathNode) = key ab) →
        (matched.map maskPrepared).flatMap (fun p => (p.path.zip p.path.tail).map key) =
          matched.flatMap fun p => (p.path.zip p.path.tail).map key := by
    intro matched key hkey
    rw [List.flatMap_map]
    refine List.flatMap_congr fun p _ => ?_
    show ((p.path.map maskPathNode).zip (p.path.map maskPathNode).tail).map _ = _
    rw [zip_tail_masked, List.map_map]
    exact List.map_congr_left fun ab _ => hkey ab
  unfold buildFlowHighlightSets
  dsimp only
  rw [hmatched, hnodes, hlinks]
  intro ab
  simp only [Prod.map_fst, Prod.map_snd, id_maskPathNode]

/-- Every node of the paths has an id of its kind. -/
def OfKinds (prepared : List PreparedFlowPath) : Prop :=
  ∀ p ∈ prepared, ∀ node ∈ p.path, OfKind node.kind node.id

variable {prepared}

theorem mem_nodeEntries {p : PreparedFlowPath} (hp : p ∈ prepared) {node : FlowPathNode}
    (hnode : node ∈ p.path) : ∃ e ∈ nodeEntries lib palette colors prepared, e.node = node := by
  obtain ⟨root, rest, hpath⟩ := List.exists_cons_of_ne_nil (List.ne_nil_of_mem hnode)
  have hroot : p.path.head? = some root := by
    rw [hpath]
    rfl
  refine ⟨{ node, metrics := p.metrics, colorKey := root.id
            color := (colors.lookup root.id).getD (colorAt lib 0 palette) }, ?_, rfl⟩
  refine List.mem_flatMap.mpr ⟨p, hp, ?_⟩
  rw [hroot]
  exact List.mem_map_of_mem hnode

/-- An entry of the nodes is a node of a path. -/
theorem of_mem_nodeEntries {e : NodeEntry} (he : e ∈ nodeEntries lib palette colors prepared) :
    ∃ p ∈ prepared, e.node ∈ p.path := by
  obtain ⟨p, hp, he⟩ := List.mem_flatMap.mp he
  cases hroot : p.path.head? with
  | none =>
    rw [hroot] at he
    cases he
  | some root =>
    rw [hroot] at he
    obtain ⟨node, hnode, rfl⟩ := List.mem_map.mp he
    exact ⟨p, hp, hnode⟩

theorem of_mem_linkEntries {e : LinkEntry} (he : e ∈ linkEntries lib palette colors prepared) :
    ∃ p ∈ prepared, e.source ∈ p.path ∧ e.target ∈ p.path := by
  obtain ⟨p, hp, he⟩ := List.mem_flatMap.mp he
  cases hroot : p.path.head? with
  | none =>
    rw [hroot] at he
    cases he
  | some root =>
    rw [hroot] at he
    obtain ⟨⟨source, target⟩, hpair, rfl⟩ := List.mem_map.mp he
    have hends := List.of_mem_zip hpair
    exact ⟨p, hp, hends.1, List.mem_of_mem_tail hends.2⟩

/-- A link takes the label of a masked node of the map, whatever label the step has. -/
theorem getD_maskPathNode (metric : FlowMetric) (hkinds : OfKinds prepared)
    {p : PreparedFlowPath} (hp : p ∈ prepared) {node : FlowPathNode} (hnode : node ∈ p.path) :
    (maskedById (nodeMap metric (nodeEntries lib palette colors prepared)) node.id).getD
        (maskPathNode node).label =
      (maskedById (nodeMap metric (nodeEntries lib palette colors prepared)) node.id).getD
        node.label := by
  unfold maskPathNode
  split
  · next hmasked =>
    rw [Bool.and_eq_true] at hmasked
    obtain ⟨e, he, rfl⟩ := @mem_nodeEntries lib palette colors _ _ hp _ hnode
    obtain ⟨n, hn, hid⟩ := List.mem_map.mp
      ((@mem_ids_nodeMap metric _ _).mpr ⟨e, he, rfl⟩)
    obtain ⟨e', he', heid, hekind, -⟩ := mem_nodeMap hn
    obtain ⟨p', hp', hnode'⟩ := of_mem_nodeEntries palette colors he'
    -- the node of the map has the kind of the step's node, since they have one id
    have hkind : n.kind = e.node.kind := by
      have hof := hkinds p' hp' _ hnode'
      rw [heid, hid, hekind] at hof
      exact hof.unique (hkinds p hp _ hnode)
    have hsome : (maskedById (nodeMap metric (nodeEntries lib palette colors prepared))
        e.node.id).isSome := by
      unfold maskedById
      rw [Option.isSome_map, List.find?_isSome]
      refine ⟨n, hn, ?_⟩
      unfold isMasked
      rw [hkind, hid, hmasked.1, hmasked.2]
      exact decide_eq_true rfl
    obtain ⟨label, hlabel⟩ := Option.isSome_iff_exists.mp hsome
    rw [hlabel]
    rfl
  · rfl

end

/-- The graph of masked paths. -/
def maskedGraph (lib : FlowLib) (metric : FlowMetric) (stages : List FlowNodeKind)
    (options : FlowBuildOptions) (prepared : List PreparedFlowPath) : DashboardFlowGraph :=
  let colors := rootColors lib prepared options.colorPalette
  let nodes := nodeMap metric (nodeEntries lib options.colorPalette colors prepared)
  finishGraph lib false
    (buildFlowHighlightSets prepared options.activeNode options.activeLink stages)
    (rootIds prepared) nodes
    (linkMap metric
      ((linkEntries lib options.colorPalette colors prepared).map (maskLinkEntry nodes)))

theorem ofKinds_preparePaths (rows : List FlowQuotaDataItem) (metric : FlowMetric)
    (stages : List FlowNodeKind) (options : FlowBuildOptions) :
    OfKinds (preparePaths lib rows metric stages options) := by
  intro p hp node hnode
  obtain ⟨row, -, hrow⟩ := List.mem_filterMap.mp hp
  obtain ⟨path, hpath, rfl⟩ := Option.map_eq_some_iff.mp hrow
  have hbuilt : ∀ n ∈ flowPathForStages stages options.deletedTokenLabel row,
      OfKind n.kind n.id := by
    intro n hn
    obtain ⟨stage, -, rfl⟩ := List.mem_map.mp hn
    rw [kind_buildNode]
    exact ofKind_buildNode _ stage row
  unfold applyTopNodeLimit at hpath
  split at hpath
  · obtain rfl := Option.some.inj hpath
    exact hbuilt node hnode
  · split at hpath
    · obtain rfl := Option.some.inj hpath
      exact hbuilt node hnode
    · split at hpath
      · cases hpath
      · obtain rfl := Option.some.inj hpath
        obtain ⟨n, hn, rfl⟩ := List.mem_map.mp hnode
        split
        · exact hbuilt n hn
        · exact ofKind_append n.kind "__other__"

/-- The masked graph is the graph of the masked paths: nothing else of the labels is in it. -/
theorem buildFlowGraph_masked (rows : List FlowQuotaDataItem) (metric : FlowMetric)
    (stages : List FlowNodeKind) (options : FlowBuildOptions) :
    buildFlowGraph lib rows metric stages { options with maskSensitive := true } =
      maskedGraph lib metric stages options
        ((preparePaths lib rows metric stages options).map maskPrepared) := by
  have hkinds := @ofKinds_preparePaths lib rows metric stages options
  show finishGraph lib true _ _ _ _ = _
  have hprepared : preparePaths lib rows metric stages { options with maskSensitive := true } =
      preparePaths lib rows metric stages options := rfl
  rw [hprepared]
  generalize preparePaths lib rows metric stages options = prepared at hkinds
  unfold maskedGraph
  dsimp only
  have hcolors : rootColors lib (prepared.map maskPrepared) options.colorPalette =
      rootColors lib prepared options.colorPalette := by
    unfold rootColors
    rw [rootIds_masked]
  rw [hcolors, rootIds_masked, highlightSets_masked, nodeEntries_masked, linkEntries_masked,
    ← map_maskNode_nodeMap]
  generalize rootColors lib prepared options.colorPalette = colors
  show finishGraph lib false _ _ (List.map maskNode _) (List.map (maskLink _) _) = _
  rw [map_maskLink_linkMap, List.map_map]
  congr 2
  refine List.map_congr_left fun e he => ?_
  obtain ⟨p, hp, hsource, htarget⟩ := of_mem_linkEntries _ _ he
  have hs := @getD_maskPathNode lib options.colorPalette colors _ metric hkinds _ hp _ hsource
  have ht := @getD_maskPathNode lib options.colorPalette colors _ metric hkinds _ hp _ htarget
  show maskLinkEntry _ e = maskLinkEntry _ (maskEnds e)
  unfold maskLinkEntry maskEnds
  simp only [maskedById_map, id_maskPathNode, kind_maskPathNode, hs, ht]

/-! ## Other names -/

/-- The same row with other names: a name is there in both or in neither, and the ids are kept. -/
structure SameButNames (row row' : FlowQuotaDataItem) : Prop where
  userId : row'.userId = row.userId
  tokenId : row'.tokenId = row.tokenId
  channelId : row'.channelId = row.channelId
  modelName : row'.modelName = row.modelName
  tokenUsed : row'.tokenUsed = row.tokenUsed
  count : row'.count = row.count
  quota : row'.quota = row.quota
  username : row'.username = "" ↔ row.username = ""
  nodeName : row'.nodeName = "" ↔ row.nodeName = ""
  useGroup : row'.useGroup = "" ↔ row.useGroup = ""
  tokenName : row'.tokenName = "" ↔ row.tokenName = ""
  channelName : row'.channelName = "" ↔ row.channelName = ""
  ids : ∀ ctx stage, (buildNode ctx stage row').id = (buildNode ctx stage row).id

theorem numberOrName_eq_other {number : Int} {name : String}
    (h : numberOrName number name = "__other__") : name = "__other__" := by
  unfold numberOrName at h
  split at h
  · exfalso
    have hmem : '_' ∈ (toString number).toList := by
      rw [h]
      decide
    exact Separator.notMem_repr (by decide) (by decide) number hmem
  · unfold orText at h
    split at h
    · exact absurd h (by decide)
    · exact h

/-- An id is reserved only for the reserved text. -/
theorem text_of_mem_reserved {stage : FlowNodeKind} {text : String}
    (h : idPrefix stage ++ text ∈ otherFlowNodeIdSet) : text = "__other__" := by
  obtain ⟨kind, -, hid⟩ := List.mem_map.mp h
  have hof : OfKind stage (otherFlowNodeId kind) := hid ▸ ofKind_append stage text
  obtain rfl := hof.unique (ofKind_append kind "__other__")
  exact ((String.append_right_inj _).mp hid).symm

theorem orText_eq_empty_iff {name name' : String} (h : name' = "" ↔ name = "") (other : String) :
    orText name' other = "" ↔ orText name other = "" := by
  unfold orText
  by_cases hname : name = ""
  · rw [if_pos hname, if_pos (h.mpr hname)]
  · rw [if_neg hname, if_neg fun h' => hname (h.mp h')]
    exact h

/-- Two nodes of one id and kind are masked alike if their labels are both there or both not, and
are equal where they are not masked. -/
theorem maskPathNode_congr {n n' : FlowPathNode} (hid : n'.id = n.id) (hkind : n'.kind = n.kind)
    (hempty : n'.label = "" ↔ n.label = "")
    (hplain : isSensitive n.kind = false ∨ n.id ∈ otherFlowNodeIdSet → n'.label = n.label) :
    maskPathNode n' = maskPathNode n := by
  unfold maskPathNode
  rw [hid, hkind]
  by_cases hmasked : (isSensitive n.kind && !decide (n.id ∈ otherFlowNodeIdSet)) = true
  · rw [if_pos hmasked, if_pos hmasked]
    have hlabel : maskFlowLabel n'.label = maskFlowLabel n.label := by
      unfold maskFlowLabel
      by_cases h : n.label = ""
      · rw [if_pos h, if_pos (hempty.mpr h), h, hempty.mpr h]
      · rw [if_neg h, if_neg fun h' => h (hempty.mp h')]
    rw [hlabel]
  · rw [if_neg hmasked, if_neg hmasked]
    have hlabel : n'.label = n.label := by
      apply hplain
      rw [Bool.not_eq_true, Bool.and_eq_false_iff, Bool.not_eq_false',
        decide_eq_true_iff] at hmasked
      exact hmasked
    cases n
    cases n'
    simp only at hid hkind hlabel
    rw [hid, hkind, hlabel]

/-- A node whose id is a number or the name is masked alike under another name. -/
theorem maskPathNode_named {kind : FlowNodeKind} {number : Int} {name name' other : String}
    (hname : name' = "" ↔ name = "")
    (hid : idPrefix kind ++ numberOrName number name' = idPrefix kind ++ numberOrName number name)
    (hkind : isSensitive kind = true) :
    maskPathNode ⟨idPrefix kind ++ numberOrName number name', orText name' other, kind⟩ =
      maskPathNode ⟨idPrefix kind ++ numberOrName number name, orText name other, kind⟩ := by
  refine maskPathNode_congr hid ?_ (orText_eq_empty_iff hname other) ?_
  · rfl
  rintro (hplain | hreserved)
  · rw [hkind] at hplain
    cases hplain
  · have h := numberOrName_eq_other (text_of_mem_reserved hreserved)
    have h' := numberOrName_eq_other (text_of_mem_reserved (hid ▸ hreserved))
    show orText name' other = orText name other
    rw [h, h']

/-- A node whose id is the name has no other name. -/
theorem maskPathNode_of_name {kind : FlowNodeKind} {name name' other : String}
    (hid : idPrefix kind ++ orText name' other = idPrefix kind ++ orText name other) :
    maskPathNode ⟨idPrefix kind ++ orText name' other, orText name' other, kind⟩ =
      maskPathNode ⟨idPrefix kind ++ orText name other, orText name other, kind⟩ := by
  rw [(String.append_right_inj (idPrefix kind)).mp hid]

/-- The nodes of a row are masked alike under other names. -/
theorem maskPathNode_buildNode {row row' : FlowQuotaDataItem} (h : SameButNames row row')
    (ctx : Option (Int → String)) (stage : FlowNodeKind) :
    maskPathNode (buildNode ctx stage row') = maskPathNode (buildNode ctx stage row) := by
  have hid := h.ids ctx stage
  cases stage with
  | user =>
    simp only [buildNode, userNode, h.userId] at hid ⊢
    exact maskPathNode_named h.username hid rfl
  | node => exact maskPathNode_of_name hid
  | token =>
    simp only [buildNode, tokenNode, h.tokenId] at hid ⊢
    exact maskPathNode_named h.tokenName hid rfl
  | group => exact maskPathNode_of_name hid
  | model =>
    simp only [buildNode, modelNode, h.modelName]
  | channel =>
    simp only [buildNode, channelNode, h.channelId] at hid ⊢
    exact maskPathNode_named h.channelName hid rfl

/-! ## The ranking -/

/-- The ids and values of the ranked nodes, from the rows. -/
theorem ranks_eq (rows : List FlowQuotaDataItem) (metric : FlowMetric)
    (ctx : Option (Int → String)) (stage : FlowNodeKind) :
    (stageTotals rows metric ctx stage).map (fun e => (e.1, e.2.node.id, e.2.value)) =
      groupFold Prod.fst (fun e => (e.1, 0)) (fun acc e => (acc.1, acc.2 + e.2))
        (rows.map fun row => ((buildNode ctx stage row).id, rowTotal metric .value row)) := by
  unfold stageTotals
  apply groupFold_map (g := fun rank : FlowNodeRank => (rank.node.id, rank.value))
    (h := fun row => ((buildNode ctx stage row).id, rowTotal metric .value row))
  · exact fun _ => rfl
  · exact fun _ => rfl
  · exact fun _ _ => rfl

/-- The total of an id in a stage. -/
def ownTotal (rows : List FlowQuotaDataItem) (metric : FlowMetric) (ctx : Option (Int → String))
    (stage : FlowNodeKind) (id : String) : ℚ :=
  sumOver rows (fun row => (buildNode ctx stage row).id = id) (rowTotal metric .value)

/-- A ranked node is that of its first row, with the total of its id. -/
theorem mem_stageTotals {rows : List FlowQuotaDataItem} {metric : FlowMetric}
    {ctx : Option (Int → String)} {stage : FlowNodeKind} {e : String × FlowNodeRank}
    (he : e ∈ stageTotals rows metric ctx stage) :
    e.2.node.id = e.1 ∧ (∃ row ∈ rows, (buildNode ctx stage row).id = e.1) ∧
      e.2.value = ownTotal rows metric ctx stage e.1 := by
  obtain ⟨first, rest, hgroup, hfold⟩ := mem_groupFold.mp he
  have hfirst : first ∈ group (fun row => (buildNode ctx stage row).id) rows e.1 := by
    rw [hgroup]
    exact List.mem_cons_self
  have hid : (buildNode ctx stage first).id = e.1 := of_decide_eq_true (List.mem_filter.mp hfirst).2
  rw [foldl_rank] at hfold
  refine ⟨?_, ⟨first, List.mem_of_mem_filter hfirst, hid⟩, ?_⟩
  · rw [hfold]
    exact hid
  · rw [hfold, ← hgroup]
    exact zero_add _

/-- The ranked nodes of a stage in the order of the ranking. -/
def ranking (lib : FlowLib) (rows : List FlowQuotaDataItem) (metric : FlowMetric)
    (ctx : Option (Int → String)) (stage : FlowNodeKind) : List (String × ℚ) :=
  (sortBy (byRank lib) ((stageTotals rows metric ctx stage).map Prod.snd)).map fun rank =>
    (rank.node.id, rank.value)

theorem ranking_perm (lib : FlowLib) (rows : List FlowQuotaDataItem) (metric : FlowMetric)
    (ctx : Option (Int → String)) (stage : FlowNodeKind) :
    (ranking lib rows metric ctx stage).Perm
      ((groupFold Prod.fst (fun e : String × ℚ => (e.1, (0 : ℚ)))
        (fun acc e => (acc.1, acc.2 + e.2))
        (rows.map fun row => ((buildNode ctx stage row).id, rowTotal metric .value row))).map
          Prod.snd) := by
  rw [← ranks_eq, List.map_map]
  refine ((List.perm_insertionSort _ _).map _).trans ?_
  rw [List.map_map]
  exact List.Perm.refl _

/-- A ranking falls in value, whatever the labels. -/
theorem pairwise_ranking [Std.TransCmp lib.localeCompare] (rows : List FlowQuotaDataItem)
    (metric : FlowMetric) (ctx : Option (Int → String)) (stage : FlowNodeKind) :
    (ranking lib rows metric ctx stage).Pairwise fun a b => b.2 ≤ a.2 := by
  refine List.pairwise_map.mpr ?_
  refine (List.pairwise_insertionSort (fun a b => byRank lib a b ≠ .gt) _).imp ?_
  intro a b hab
  by_contra hlt
  apply hab
  unfold byRank byValueDesc
  rw [Ordering.then_eq_gt, compare_gt_iff_gt]
  exact Or.inl (not_le.mp hlt)

/-- The ranked ids are those of the rows, each once, with their totals. -/
theorem mem_ranking {rows : List FlowQuotaDataItem} {metric : FlowMetric}
    {ctx : Option (Int → String)} {stage : FlowNodeKind} {e : String × ℚ}
    (he : e ∈ ranking lib rows metric ctx stage) :
    (∃ row ∈ rows, (buildNode ctx stage row).id = e.1) ∧
      e.2 = ownTotal rows metric ctx stage e.1 := by
  obtain ⟨rank, hrank, rfl⟩ := List.mem_map.mp he
  obtain ⟨acc, hacc, rfl⟩ := List.mem_map.mp ((List.mem_insertionSort _).mp hrank)
  obtain ⟨hid, hrow, hvalue⟩ := mem_stageTotals hacc
  rw [hid]
  exact ⟨hrow, hvalue⟩

theorem nodup_ranking (rows : List FlowQuotaDataItem) (metric : FlowMetric)
    (ctx : Option (Int → String)) (stage : FlowNodeKind) :
    ((ranking lib rows metric ctx stage).map Prod.fst).Nodup := by
  have hperm := (ranking_perm lib rows metric ctx stage).map Prod.fst
  rw [hperm.nodup_iff, ← ranks_eq, List.map_map, List.map_map]
  refine (List.map_congr_left fun e he => ?_) ▸ (groupFold_spec _ _ _ rows).nodup
  exact (mem_stageTotals he).1.symm

/-- No node that a limit keeps is tied with one of its stage that it leaves out. -/
def RankingClear (lib : FlowLib) (rows : List FlowQuotaDataItem) (metric : FlowMetric)
    (stages : List FlowNodeKind) (options : FlowBuildOptions) : Prop :=
  ∀ top, topSets lib rows metric options = some top → ∀ stage ∈ stages, ∀ row ∈ rows,
    (buildNode options.deletedTokenLabel stage row).id ∈ top stage → ∀ row' ∈ rows,
      (buildNode options.deletedTokenLabel stage row').id ∉ top stage →
        ownTotal rows metric options.deletedTokenLabel stage
            (buildNode options.deletedTokenLabel stage row).id ≠
          ownTotal rows metric options.deletedTokenLabel stage
            (buildNode options.deletedTokenLabel stage row').id

theorem topSets_eq (rows : List FlowQuotaDataItem) (metric : FlowMetric)
    (options : FlowBuildOptions) :
    topSets lib rows metric options =
      (normalizeTopNodeLimit options.topNodeLimit).map fun n stage =>
        ((ranking lib rows metric options.deletedTokenLabel stage).take n).map Prod.fst := by
  unfold topSets buildTopNodeSets ranking
  simp only [← List.map_take, List.map_map]
  rfl

section

variable {rows rows' : List FlowQuotaDataItem} (h : List.Forall₂ SameButNames rows rows')

include h

theorem map_eq_of_sameButNames {α : Type} {f : FlowQuotaDataItem → α}
    (hf : ∀ row row', SameButNames row row' → f row' = f row) : rows'.map f = rows.map f := by
  induction h with
  | nil => rfl
  | cons hrow _ ih => rw [List.map_cons, List.map_cons, ih, hf _ _ hrow]

theorem filterMap_eq_of_sameButNames {α : Type} {f f' : FlowQuotaDataItem → Option α}
    (hf : ∀ row row', SameButNames row row' → f' row' = f row) :
    rows'.filterMap f' = rows.filterMap f := by
  induction h with
  | nil => rfl
  | cons hrow _ ih => rw [List.filterMap_cons, List.filterMap_cons, ih, hf _ _ hrow]

theorem filter_of_sameButNames {p : FlowQuotaDataItem → Bool}
    (hp : ∀ row row', SameButNames row row' → p row' = p row) :
    List.Forall₂ SameButNames (rows.filter p) (rows'.filter p) := by
  induction h with
  | nil => exact .nil
  | @cons row row' _ _ hrow _ ih =>
    rw [List.filter_cons, List.filter_cons, hp row row' hrow]
    cases p row with
    | true => exact .cons hrow ih
    | false => exact ih

/-- The rows of the graph are the same but for names. -/
theorem filteredRows_of_sameButNames (options : FlowBuildOptions) :
    List.Forall₂ SameButNames (filteredRows rows options) (filteredRows rows' options) := by
  have husers : List.Forall₂ SameButNames (filterRows rows options.selectedUsers)
      (filterRows rows' options.selectedUsers) := by
    unfold filterRows
    split
    · exact h
    · apply filter_of_sameButNames h
      intro row row' hrow
      rw [show (userNode row').id = (userNode row).id from hrow.ids none .user]
  unfold filteredRows
  rw [filterRowsByNodes_eq, filterRowsByNodes_eq]
  apply filter_of_sameButNames husers
  intro row row' hrow
  rw [decide_eq_decide]
  exact forall₂_congr fun stage _ => by rw [hrow.ids]

/-- Two rankings have the same values for the same ids. -/
theorem ranking_perm_of_sameButNames (metric : FlowMetric) (ctx : Option (Int → String))
    (stage : FlowNodeKind) :
    (ranking lib rows metric ctx stage).Perm (ranking lib rows' metric ctx stage) := by
  refine (ranking_perm lib rows metric ctx stage).trans ?_
  rw [← map_eq_of_sameButNames h (f := fun row =>
    ((buildNode ctx stage row).id, rowTotal metric .value row)) fun row row' hrow => ?_]
  · exact (ranking_perm lib rows' metric ctx stage).symm
  · have hmetrics : rowMetrics row' = rowMetrics row := by
      unfold rowMetrics
      rw [hrow.quota, hrow.tokenUsed, hrow.count]
    unfold rowTotal
    rw [hrow.ids, hmetrics]

/-- Without ties at its border, the ranking keeps the same nodes under other names. -/
theorem mem_top_iff [Std.TransCmp lib.localeCompare] {metric : FlowMetric}
    {stages : List FlowNodeKind} {options : FlowBuildOptions}
    (hclear : RankingClear lib rows metric stages options)
    {n : Nat} (hn : normalizeTopNodeLimit options.topNodeLimit = some n) {stage : FlowNodeKind}
    (hstage : stage ∈ stages) (id : String) :
    id ∈ ((ranking lib rows' metric options.deletedTokenLabel stage).take n).map Prod.fst ↔
      id ∈ ((ranking lib rows metric options.deletedTokenLabel stage).take n).map Prod.fst := by
  have htop : topSets lib rows metric options = some fun stage =>
      ((ranking lib rows metric options.deletedTokenLabel stage).take n).map Prod.fst := by
    rw [topSets_eq, hn]
    rfl
  refine mem_take_iff_of_perm
    (ranking_perm_of_sameButNames h metric options.deletedTokenLabel stage)
    (nodup_ranking rows metric _ stage) (pairwise_ranking rows metric _ stage)
    (pairwise_ranking rows' metric _ stage) ?_ id
  intro a ha hkept b hb hleft
  obtain ⟨⟨row, hrow, hid⟩, hvalue⟩ := mem_ranking ha
  obtain ⟨⟨row', hrow', hid'⟩, hvalue'⟩ := mem_ranking hb
  rw [hvalue, hvalue', ← hid, ← hid']
  exact hclear _ htop stage hstage row hrow (hid ▸ hkept) row' hrow' (hid' ▸ hleft)

/-- Without ties at the border of the ranking, other names leave the masked paths as they are. -/
theorem preparePaths_of_sameButNames [Std.TransCmp lib.localeCompare] {metric : FlowMetric}
    {stages : List FlowNodeKind} {options : FlowBuildOptions}
    (hclear : RankingClear lib rows metric stages options) :
    (preparePaths lib rows' metric stages options).map maskPrepared =
      (preparePaths lib rows metric stages options).map maskPrepared := by
  unfold preparePaths
  dsimp only
  rw [List.map_filterMap, List.map_filterMap]
  refine filterMap_eq_of_sameButNames h fun row row' hrow => ?_
  have hmetrics : rowMetrics row' = rowMetrics row := by
    unfold rowMetrics
    rw [hrow.quota, hrow.tokenUsed, hrow.count]
  have hpath : (flowPathForStages stages options.deletedTokenLabel row').map maskPathNode =
      (flowPathForStages stages options.deletedTokenLabel row).map maskPathNode := by
    unfold flowPathForStages
    rw [List.map_map, List.map_map]
    exact List.map_congr_left fun stage _ => maskPathNode_buildNode hrow _ stage
  rw [hmetrics, Option.map_map, Option.map_map]
  show Option.map _ (applyTopNodeLimit (topSets lib rows' metric options) _ _ _) =
    Option.map _ (applyTopNodeLimit (topSets lib rows metric options) _ _ _)
  rw [topSets_eq, topSets_eq]
  cases hn : normalizeTopNodeLimit options.topNodeLimit with
  | none =>
    show some (PreparedFlowPath.mk _ _) = some (PreparedFlowPath.mk _ _)
    rw [hpath]
  | some n =>
    have htop : ∀ stage ∈ stages,
        isTopFlowNode (fun stage => ((ranking lib rows' metric options.deletedTokenLabel
            stage).take n).map Prod.fst) (buildNode options.deletedTokenLabel stage row') =
          isTopFlowNode (fun stage => ((ranking lib rows metric options.deletedTokenLabel
            stage).take n).map Prod.fst) (buildNode options.deletedTokenLabel stage row) := by
      intro stage hstage
      unfold isTopFlowNode
      rw [decide_eq_decide, kind_buildNode, kind_buildNode, hrow.ids]
      exact mem_top_iff h hclear hn hstage _
    revert htop
    dsimp only [Option.map_some]
    generalize (fun stage => ((ranking lib rows' metric options.deletedTokenLabel stage).take
      n).map Prod.fst) = top'
    generalize (fun stage => ((ranking lib rows metric options.deletedTokenLabel stage).take
      n).map Prod.fst) = top
    intro htop
    have hall : (flowPathForStages stages options.deletedTokenLabel row').all
          (isTopFlowNode top') =
        (flowPathForStages stages options.deletedTokenLabel row).all (isTopFlowNode top) := by
      unfold flowPathForStages
      rw [List.all_map, List.all_map, Bool.eq_iff_iff, List.all_eq_true, List.all_eq_true]
      exact forall₂_congr fun stage hstage => by
        rw [Function.comp_apply, htop stage hstage, Function.comp_apply]
    unfold applyTopNodeLimit
    dsimp only
    rw [hall]
    split
    · show some (PreparedFlowPath.mk _ _) = some (PreparedFlowPath.mk _ _)
      rw [hpath]
    · cases options.overflowMode.getD .aggregate with
      | hide => rfl
      | aggregate =>
        show some (PreparedFlowPath.mk _ _) = some (PreparedFlowPath.mk _ _)
        unfold flowPathForStages
        simp only [List.map_map]
        refine congrArg (fun path => some (PreparedFlowPath.mk path _)) ?_
        refine List.map_congr_left fun stage hstage => ?_
        simp only [Function.comp_apply]
        rw [htop stage hstage, kind_buildNode, kind_buildNode]
        split
        · exact maskPathNode_buildNode hrow _ stage
        · rfl

end

/-! ## Masking -/

/-- The two graphs are the same but for labels. -/
def MaskKeepsShape (lib : FlowLib) (rows : List FlowQuotaDataItem) (metric : FlowMetric)
    (options : FlowBuildOptions) : Prop :=
  let masked := (buildDashboardFlowData lib rows metric
    { options with maskSensitive := true }).flow
  let plain := (buildDashboardFlowData lib rows metric
    { options with maskSensitive := false }).flow
  masked.nodes.map (·.bare) = plain.nodes.map (·.bare) ∧
    masked.links.map (·.bare) = plain.links.map (·.bare)

/-- The labels of a graph. -/
def DashboardFlowGraph.labels (graph : DashboardFlowGraph) : List String × List (String × String) :=
  (graph.nodes.map (·.label), graph.links.map fun link => (link.sourceLabel, link.targetLabel))

/-- The labels of the masked graph are the same for other names. -/
def NamesHidden (lib : FlowLib) (rows : List FlowQuotaDataItem) (metric : FlowMetric)
    (options : FlowBuildOptions) : Prop :=
  ∀ rows', List.Forall₂ SameButNames rows rows' →
    (buildDashboardFlowData lib rows' metric
        { options with maskSensitive := true }).flow.labels =
      (buildDashboardFlowData lib rows metric { options with maskSensitive := true }).flow.labels

/-- The nodes that are drawn, in the order in which the rows come to them. -/
def drawnNodes (lib : FlowLib) (rows : List FlowQuotaDataItem) (metric : FlowMetric)
    (options : FlowBuildOptions) : List DashboardFlowNode :=
  let prepared := preparePaths lib (filteredRows rows options) metric options.stages options
  nodeMap metric (nodeEntries lib options.colorPalette
    (rootColors lib prepared options.colorPalette) prepared)

instance : Std.TransCmp plainLib.localeCompare :=
  transCmp_comap (compare : List Char → List Char → Ordering) String.toList

instance (lib : FlowLib) (a b : DashboardFlowNode) : Decidable (TieAlike lib a b) :=
  inferInstanceAs (Decidable (_ → _))

/-- Users and models. -/
def userModels : FlowBuildOptions :=
  { role := some .admin, visibleStages := some [.user, .model] }

def oneUser : List FlowQuotaDataItem :=
  [{ userId := 1, username := "y", modelName := "x", quota := 1 }]

/-- Two users with the same quota, and the same users with their names exchanged. -/
def twoUsers : List FlowQuotaDataItem :=
  [{ userId := 1, username := "b", modelName := "x", quota := 1 },
    { userId := 2, username := "a", modelName := "y", quota := 1 }]

def twoUsersExchanged : List FlowQuotaDataItem :=
  [{ userId := 1, username := "a", modelName := "x", quota := 1 },
    { userId := 2, username := "b", modelName := "y", quota := 1 }]

theorem sameButNames_twoUsers : List.Forall₂ SameButNames twoUsers twoUsersExchanged := by
  refine .cons ?_ (.cons ?_ .nil)
  · constructor <;> first | rfl | decide | (intro ctx stage; cases stage <;> rfl)
  · constructor <;> first | rfl | decide | (intro ctx stage; cases stage <;> rfl)

end TokenRouter.Flow
