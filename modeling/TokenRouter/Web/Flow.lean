import TokenRouter.ForStd.GroupFold

/-!
# The usage flow graph (`web/default/src/features/dashboard/lib/flow.ts`)

The rows of usage as a Sankey graph with one column for each visible stage, and the filters beside
it. Numbers are exact here, and a field that is absent reads as zero or the empty text. A `Map` is
the list of its entries in the order of insertion. `localeCompare` and the colours of the chart
library are parameters.
-/

namespace TokenRouter.Flow

open GroupFold

inductive FlowNodeKind where
  | user
  | node
  | token
  | group
  | model
  | channel
  deriving DecidableEq

inductive FlowMetric where
  | quota
  | tokens
  | requests

inductive FlowRole where
  | root
  | admin
  | user

inductive FlowOverflowMode where
  | aggregate
  | hide

structure FlowQuotaDataItem where
  userId : Int := 0
  username : String := ""
  nodeName : String := ""
  useGroup : String := ""
  tokenId : Int := 0
  tokenName : String := ""
  channelId : Int := 0
  channelName : String := ""
  modelName : String := ""
  tokenUsed : ℚ := 0
  count : ℚ := 0
  quota : ℚ := 0

structure FlowNodeFilter where
  kind : FlowNodeKind
  id : String
  deriving DecidableEq

structure FlowLinkSelection where
  source : String
  target : String

structure FlowBuildOptions where
  role : Option FlowRole := none
  selectedUsers : List String := []
  selectedNodes : List FlowNodeFilter := []
  activeNode : Option FlowNodeFilter := none
  activeLink : Option FlowLinkSelection := none
  colorPalette : List String := []
  visibleStages : Option (List FlowNodeKind) := none
  /-- a limit that is not finite is none -/
  topNodeLimit : Option ℚ := none
  overflowMode : Option FlowOverflowMode := none
  maskSensitive : Bool := false
  deletedTokenLabel : Option (Int → String) := none
  otherNodeLabel : Option (FlowNodeKind → String) := none

/-- What the code uses of the browser and of the chart library. -/
structure FlowLib where
  localeCompare : String → String → Ordering
  getDashboardChartColors : Nat → List String
  formatNumber : ℚ → String

structure FlowMetrics where
  quota : ℚ := 0
  tokens : ℚ := 0
  requests : ℚ := 0

/-- `FlowSummary` has the fields of `FlowMetrics`. -/
abbrev FlowSummary := FlowMetrics

structure FlowPathNode where
  id : String
  label : String
  kind : FlowNodeKind

structure PreparedFlowPath where
  path : List FlowPathNode
  metrics : FlowMetrics

structure DashboardFlowNode where
  id : String
  label : String
  kind : FlowNodeKind
  value : ℚ := 0
  requests : ℚ := 0
  quota : ℚ := 0
  tokens : ℚ := 0
  color : String
  colorKey : String
  highlighted : Option Bool := none
  dimmed : Option Bool := none

structure DashboardFlowLink where
  source : String
  target : String
  value : ℚ := 0
  requests : ℚ := 0
  quota : ℚ := 0
  tokens : ℚ := 0
  sourceLabel : String
  targetLabel : String
  color : String
  linkColor : String
  linkAlpha : ℚ := 1
  hoverColor : String
  colorKey : String
  share : ℚ := 0
  highlighted : Option Bool := none
  dimmed : Option Bool := none

structure DashboardFlowGraph where
  nodes : List DashboardFlowNode
  links : List DashboardFlowLink

structure FlowUserFilterOption where
  value : String
  label : String
  valueLabel : String
  valueRaw : ℚ
  color : String

structure FlowNodeFilterOption where
  kind : FlowNodeKind
  value : String
  label : String
  valueLabel : String
  valueRaw : ℚ
  color : String

structure ProcessedFlowData where
  summary : FlowSummary
  flow : DashboardFlowGraph
  users : List FlowUserFilterOption
  nodes : List FlowNodeFilterOption

/-! ## Nodes -/

/-- What an id of a kind starts with. -/
def idPrefix : FlowNodeKind → String
  | .user => "user:"
  | .node => "node:"
  | .token => "token:"
  | .group => "group:"
  | .model => "model:"
  | .channel => "channel:"

/-- `OTHER_FLOW_NODE_IDS` -/
def otherFlowNodeId (kind : FlowNodeKind) : String := idPrefix kind ++ "__other__"

def defaultOtherFlowNodeLabel : FlowNodeKind → String
  | .user => "Other users"
  | .node => "Other nodes"
  | .token => "Other tokens"
  | .group => "Other groups"
  | .model => "Other models"
  | .channel => "Other channels"

/-- `SENSITIVE_FLOW_KINDS` -/
def isSensitive : FlowNodeKind → Bool
  | .model => false
  | _ => true

/-- `OTHER_FLOW_NODE_ID_SET` -/
def otherFlowNodeIdSet : List String :=
  [.user, .node, .token, .group, .model, .channel].map otherFlowNodeId

def rowMetrics (row : FlowQuotaDataItem) : FlowMetrics :=
  { quota := row.quota, tokens := row.tokenUsed, requests := row.count }

def metricValue (metrics : FlowMetrics) : FlowMetric → ℚ
  | .requests => metrics.requests
  | .tokens => metrics.tokens
  | .quota => metrics.quota

/-- `text || other` -/
def orText (text other : String) : String := if text = "" then other else text

/-- The part of an id behind its kind: the number, or else the name. -/
def numberOrName (number : Int) (name : String) : String :=
  if 0 < number then toString number else orText name "unknown"

def userNode (row : FlowQuotaDataItem) : FlowPathNode where
  id := idPrefix .user ++ numberOrName row.userId row.username
  label := orText row.username
    (if 0 < row.userId then "user-" ++ toString row.userId else "Unknown User")
  kind := .user

def nodeNameNode (row : FlowQuotaDataItem) : FlowPathNode where
  id := idPrefix .node ++ orText row.nodeName "default-node"
  label := orText row.nodeName "default-node"
  kind := .node

def deletedTokenLabel (ctx : Option (Int → String)) (tokenId : Int) : String :=
  if tokenId ≤ 0 then "Unknown Token"
  else ctx.elim ("token-" ++ toString tokenId) fun label => label tokenId

def tokenNode (ctx : Option (Int → String)) (row : FlowQuotaDataItem) : FlowPathNode where
  id := idPrefix .token ++ numberOrName row.tokenId row.tokenName
  label := orText row.tokenName (deletedTokenLabel ctx row.tokenId)
  kind := .token

def groupNode (row : FlowQuotaDataItem) : FlowPathNode where
  id := idPrefix .group ++ orText row.useGroup "unknown"
  label := orText row.useGroup "unknown"
  kind := .group

def modelNode (row : FlowQuotaDataItem) : FlowPathNode where
  id := idPrefix .model ++ orText row.modelName "unknown"
  label := orText row.modelName "Unknown Model"
  kind := .model

def channelNode (row : FlowQuotaDataItem) : FlowPathNode where
  id := idPrefix .channel ++ numberOrName row.channelId row.channelName
  label := orText row.channelName
    (if 0 < row.channelId then "channel-" ++ toString row.channelId else "Unknown")
  kind := .channel

/-- `NODE_BUILDERS` -/
def buildNode (ctx : Option (Int → String)) : FlowNodeKind → FlowQuotaDataItem → FlowPathNode
  | .user => userNode
  | .node => nodeNameNode
  | .token => tokenNode ctx
  | .group => groupNode
  | .model => modelNode
  | .channel => channelNode

/-- `ROLE_FLOW_STAGES` -/
def getFlowStages : FlowRole → List FlowNodeKind
  | .root => [.user, .node, .token, .group, .model, .channel]
  | .admin => [.user, .group, .model, .channel]
  | .user => [.token, .group, .model]

def resolveVisibleStages (role : FlowRole) (visibleStages : Option (List FlowNodeKind)) :
    List FlowNodeKind :=
  let stages := getFlowStages role
  match visibleStages with
  | none => stages
  | some visible =>
    let filtered := stages.filter fun stage => stage ∈ visible
    if 2 ≤ filtered.length then filtered else stages

def flowPathForStages (stages : List FlowNodeKind) (ctx : Option (Int → String))
    (row : FlowQuotaDataItem) : List FlowPathNode :=
  stages.map fun stage => buildNode ctx stage row

/-! ## Filters -/

def filterRows (rows : List FlowQuotaDataItem) (selectedUsers : List String) :
    List FlowQuotaDataItem :=
  if selectedUsers = [] then rows
  else rows.filter fun row => (userNode row).id ∈ selectedUsers

/-- `nodeFilterKey` -/
def nodeFilterKey (node : FlowPathNode) : String :=
  (match node.kind with
    | .user => "user"
    | .node => "node"
    | .token => "token"
    | .group => "group"
    | .model => "model"
    | .channel => "channel") ++ "\x00" ++ node.id

/-- The kinds that are filtered, each with the ids that are selected. -/
def normalizeSelectedNodeFilters (selectedNodes : List FlowNodeFilter)
    (stages : List FlowNodeKind) : List (FlowNodeKind × List String) :=
  groupFold FlowNodeFilter.kind (fun _ => []) (fun ids filter => setAdd ids filter.id)
    (selectedNodes.filter fun filter => filter.kind ∈ stages)

/-- Every filtered kind has a node of the path among its ids. -/
def pathMatchesNodeFilters (path : List FlowPathNode)
    (filters : List (FlowNodeKind × List String)) : Bool :=
  filters.all fun (kind, ids) => path.any fun node => node.kind = kind ∧ node.id ∈ ids

def filterRowsByNodes (rows : List FlowQuotaDataItem) (selectedNodes : List FlowNodeFilter)
    (stages : List FlowNodeKind) (ctx : Option (Int → String)) : List FlowQuotaDataItem :=
  let filters := normalizeSelectedNodeFilters selectedNodes stages
  if filters = [] then rows
  else rows.filter fun row => pathMatchesNodeFilters (flowPathForStages stages ctx row) filters

def selectedNodeFiltersExceptKind (selectedNodes : List FlowNodeFilter) (kind : FlowNodeKind) :
    List FlowNodeFilter :=
  selectedNodes.filter fun filter => filter.kind ≠ kind

/-! ## Orders and colours -/

/-- The stable `sort` of a list by a comparison. -/
def sortBy {α : Type} (compare : α → α → Ordering) (as : List α) : List α :=
  as.insertionSort fun a b => compare a b ≠ .gt

/-- `b.value - a.value` -/
def byValueDesc (a b : ℚ) : Ordering := compare b a

def byValueThenLabel (lib : FlowLib) (a b : DashboardFlowNode) : Ordering :=
  (byValueDesc a.value b.value).then (lib.localeCompare a.label b.label)

/-- `linkStableKey`, `pathLinkKey` -/
def linkKey (source target : String) : String := source ++ "\x00" ++ target

def colorAt (lib : FlowLib) (index : Nat) (palette : List String) : String :=
  let colors := if palette ≠ [] then palette else lib.getDashboardChartColors (index + 1)
  if colors = [] then "#1664FF" else colors.getD (index % colors.length) "#1664FF"

def colorOf (lib : FlowLib) (colorCount : Nat) (palette : List String) : List String :=
  if palette ≠ [] then palette
  else
    let colors := lib.getDashboardChartColors colorCount
    if colors ≠ [] then colors else ["#1664FF"]

/-- `stableColorMap` -/
def stableColorMap (lib : FlowLib) (keys palette : List String) : List (String × String) :=
  let uniqueKeys := keys.foldl setAdd []
  let colors := colorOf lib uniqueKeys.length palette
  uniqueKeys.zipIdx.map fun (key, index) => (key, colorAt lib index colors)

/-- `alpha.toFixed(2)` of a number between 0 and 1 -/
def toFixed2 (alpha : ℚ) : String :=
  let hundredths := (alpha * 100 + 1 / 2).floor.toNat
  toString (hundredths / 100) ++ "." ++ toString (hundredths % 100 / 10) ++
    toString (hundredths % 10)

/-- The value of a hexadecimal digit. -/
def hexDigit? (c : Char) : Option Nat :=
  if c.isDigit then some (c.toNat - '0'.toNat)
  else if 'a' ≤ c ∧ c ≤ 'f' then some (c.toNat - 'a'.toNat + 10)
  else if 'A' ≤ c ∧ c ≤ 'F' then some (c.toNat - 'A'.toNat + 10)
  else none

/-- `alphaColor`, of a colour without white space around it -/
def alphaColor (color : String) (alpha : ℚ) : String × ℚ :=
  let hex := if color.toList.head? = some '#' then color.toList.tail else color.toList
  match hex.mapM hexDigit? with
  | some [r1, r2, g1, g2, b1, b2] =>
    ("rgba(" ++ toString (r1 * 16 + r2) ++ ", " ++ toString (g1 * 16 + g2) ++ ", " ++
      toString (b1 * 16 + b2) ++ ", " ++ toFixed2 alpha ++ ")", 1)
  | _ => (color, alpha)

/-! ## The limit of nodes -/

def buildSummary (rows : List FlowQuotaDataItem) : FlowSummary :=
  rows.foldl (fun summary row =>
    { quota := summary.quota + row.quota
      tokens := summary.tokens + row.tokenUsed
      requests := summary.requests + row.count }) {}

def normalizeTopNodeLimit (limit : Option ℚ) : Option Nat :=
  limit.bind fun limit => if 0 < limit.floor then some limit.floor.toNat else none

def otherFlowNode (labeler : Option (FlowNodeKind → String)) (kind : FlowNodeKind) :
    FlowPathNode where
  id := otherFlowNodeId kind
  label := labeler.elim (defaultOtherFlowNodeLabel kind) fun label => label kind
  kind := kind

structure FlowNodeRank where
  node : FlowPathNode
  value : ℚ

/-- The totals of the nodes of a stage. -/
def stageTotals (rows : List FlowQuotaDataItem) (metric : FlowMetric)
    (ctx : Option (Int → String)) (stage : FlowNodeKind) : List (String × FlowNodeRank) :=
  groupFold (fun row => (buildNode ctx stage row).id)
    (fun row => { node := buildNode ctx stage row, value := 0 })
    (fun rank row => { rank with value := rank.value + metricValue (rowMetrics row) metric }) rows

def byRank (lib : FlowLib) (a b : FlowNodeRank) : Ordering :=
  (byValueDesc a.value b.value).then
    ((lib.localeCompare a.node.label b.node.label).then (lib.localeCompare a.node.id b.node.id))

/-- The ids of the nodes that a limit keeps in each stage. -/
def buildTopNodeSets (lib : FlowLib) (rows : List FlowQuotaDataItem) (metric : FlowMetric)
    (limit : Option Nat) (ctx : Option (Int → String)) : Option (FlowNodeKind → List String) :=
  limit.map fun limit stage =>
    ((sortBy (byRank lib) ((stageTotals rows metric ctx stage).map Prod.snd)).take limit).map
      fun rank => rank.node.id

def isTopFlowNode (topNodeSets : FlowNodeKind → List String) (node : FlowPathNode) : Bool :=
  node.id ∈ topNodeSets node.kind

/-- The path with the nodes that the limit leaves out replaced, none if such a path is hidden. -/
def applyTopNodeLimit (topNodeSets : Option (FlowNodeKind → List String))
    (mode : FlowOverflowMode) (labeler : Option (FlowNodeKind → String))
    (path : List FlowPathNode) : Option (List FlowPathNode) :=
  match topNodeSets with
  | none => some path
  | some topNodeSets =>
    if path.all (isTopFlowNode topNodeSets) then some path
    else match mode with
      | .hide => none
      | .aggregate => some (path.map fun node =>
          if isTopFlowNode topNodeSets node then node else otherFlowNode labeler node.kind)

/-! ## The graph -/

/-- A node of a path with what its row adds to it. -/
structure NodeEntry where
  node : FlowPathNode
  metrics : FlowMetrics
  color : String
  colorKey : String

/-- Two nodes of a path, one behind the other. -/
structure LinkEntry where
  source : FlowPathNode
  target : FlowPathNode
  metrics : FlowMetrics
  color : String
  colorKey : String

/-- `addNode` -/
def addNode (metric : FlowMetric) (previous : DashboardFlowNode) (e : NodeEntry) :
    DashboardFlowNode :=
  { previous with
    value := previous.value + metricValue e.metrics metric
    requests := previous.requests + e.metrics.requests
    quota := previous.quota + e.metrics.quota
    tokens := previous.tokens + e.metrics.tokens }

def newNode (e : NodeEntry) : DashboardFlowNode :=
  { id := e.node.id, label := e.node.label, kind := e.node.kind, color := e.color,
    colorKey := e.colorKey }

/-- `addLink` -/
def addLink (metric : FlowMetric) (previous : DashboardFlowLink) (e : LinkEntry) :
    DashboardFlowLink :=
  { previous with
    value := previous.value + metricValue e.metrics metric
    requests := previous.requests + e.metrics.requests
    quota := previous.quota + e.metrics.quota
    tokens := previous.tokens + e.metrics.tokens }

def newLink (e : LinkEntry) : DashboardFlowLink :=
  { source := e.source.id, target := e.target.id, sourceLabel := e.source.label,
    targetLabel := e.target.label, color := e.color, linkColor := e.color,
    hoverColor := e.color, colorKey := e.colorKey }

/-- The nodes of the prepared paths, row by row. -/
def nodeEntries (lib : FlowLib) (palette : List String) (colors : List (String × String))
    (prepared : List PreparedFlowPath) : List NodeEntry :=
  prepared.flatMap fun p => p.path.head?.elim [] fun root =>
    p.path.map fun node =>
      { node, metrics := p.metrics, colorKey := root.id
        color := (colors.lookup root.id).getD (colorAt lib 0 palette) }

/-- The links of the prepared paths, row by row. -/
def linkEntries (lib : FlowLib) (palette : List String) (colors : List (String × String))
    (prepared : List PreparedFlowPath) : List LinkEntry :=
  prepared.flatMap fun p => p.path.head?.elim [] fun root =>
    (p.path.zip p.path.tail).map fun (source, target) =>
      { source, target, metrics := p.metrics, colorKey := root.id
        color := (colors.lookup root.id).getD (colorAt lib 0 palette) }

/-- The map of the nodes. -/
def nodeMap (metric : FlowMetric) (entries : List NodeEntry) : List DashboardFlowNode :=
  (groupFold (fun e => e.node.id) newNode (addNode metric) entries).map Prod.snd

/-- The map of the links. -/
def linkMap (metric : FlowMetric) (entries : List LinkEntry) : List DashboardFlowLink :=
  (groupFold (fun e => linkKey e.source.id e.target.id) newLink (addLink metric) entries).map
    Prod.snd

def maskFlowLabel (label : String) : String := if label = "" then label else "••••"

/-- A node whose label the mask covers. -/
def isMasked (node : DashboardFlowNode) : Bool :=
  isSensitive node.kind && !decide (node.id ∈ otherFlowNodeIdSet)

def maskNode (node : DashboardFlowNode) : DashboardFlowNode :=
  if isMasked node then { node with label := maskFlowLabel node.label } else node

/-- `maskedById` -/
def maskedById (nodes : List DashboardFlowNode) (id : String) : Option String :=
  (nodes.find? fun node => isMasked node && decide (node.id = id)).map fun node =>
    maskFlowLabel node.label

def maskLink (nodes : List DashboardFlowNode) (link : DashboardFlowLink) : DashboardFlowLink :=
  { link with
    sourceLabel := (maskedById nodes link.source).getD link.sourceLabel
    targetLabel := (maskedById nodes link.target).getD link.targetLabel }

structure FlowHighlightSets where
  nodes : List String
  links : List String

def pathContainsFlowLink (path : List FlowPathNode) (link : FlowLinkSelection) : Bool :=
  (path.zip path.tail).any fun (source, target) =>
    source.id = link.source ∧ target.id = link.target

/-- `matchesPath` of `buildFlowHighlightSets` -/
def matchesPath (activeNode : Option FlowNodeFilter) (activeLink : Option FlowLinkSelection)
    (path : List FlowPathNode) : Bool :=
  match activeLink with
  | some link => pathContainsFlowLink path link
  | none => activeNode.elim false fun filter =>
      path.any fun node => node.kind = filter.kind ∧ node.id = filter.id

def buildFlowHighlightSets (prepared : List PreparedFlowPath) (activeNode : Option FlowNodeFilter)
    (activeLink : Option FlowLinkSelection) (stages : List FlowNodeKind) :
    Option FlowHighlightSets :=
  let nodeActive := activeNode.elim false fun filter => decide (filter.kind ∈ stages)
  if !nodeActive && activeLink.isNone then none
  else
    let matched := prepared.filter fun p => matchesPath activeNode activeLink p.path
    let nodes := matched.flatMap fun p => p.path.map (·.id)
    if nodes = [] then none
    else some
      { nodes
        links := matched.flatMap fun p =>
          (p.path.zip p.path.tail).map fun (source, target) => linkKey source.id target.id }

/-- `applyFlowHighlights`, of a node -/
def highlightNode (sets : Option FlowHighlightSets) (node : DashboardFlowNode) :
    DashboardFlowNode :=
  sets.elim node fun sets =>
    { node with
      highlighted := some (decide (node.id ∈ sets.nodes))
      dimmed := some (!decide (node.id ∈ sets.nodes)) }

/-- `applyFlowHighlights`, of a link -/
def highlightLink (sets : Option FlowHighlightSets) (link : DashboardFlowLink) :
    DashboardFlowLink :=
  sets.elim link fun sets =>
    { link with
      highlighted := some (decide (linkKey link.source link.target ∈ sets.links))
      dimmed := some (!decide (linkKey link.source link.target ∈ sets.links)) }

/-- A link with its share of the total. -/
def withShare (total : ℚ) (link : DashboardFlowLink) : DashboardFlowLink :=
  { link with share := if 0 < total then link.value / total else 0 }

/-- The order in which the links of one source fade. -/
def byFade (lib : FlowLib) (a b : DashboardFlowLink) : Ordering :=
  (byValueDesc a.value b.value).then
    (lib.localeCompare (linkKey a.source a.target) (linkKey b.source b.target))

/-- `assignLinkDisplayColors`, of a link -/
def withDisplayColor (lib : FlowLib) (links : List DashboardFlowLink) (link : DashboardFlowLink) :
    DashboardFlowLink :=
  let sortedLinks := sortBy (byFade lib) (links.filter fun l => l.source = link.source)
  let denominator := max (sortedLinks.length - 1) 1
  let index := sortedLinks.findIdx fun l =>
    linkKey l.source l.target = linkKey link.source link.target
  let alpha : ℚ :=
    if sortedLinks.length = 1 then 34 / 100 else 24 / 100 + index / denominator * (2 / 10)
  let displayColor := alphaColor link.color alpha
  { link with
    linkColor := displayColor.1
    linkAlpha := displayColor.2
    hoverColor := link.color }

def bySourceThenTarget (lib : FlowLib) (a b : DashboardFlowLink) : Ordering :=
  (lib.localeCompare a.source b.source).then (lib.localeCompare a.target b.target)

/-- The paths of the rows under the limit. -/
def preparePaths (lib : FlowLib) (rows : List FlowQuotaDataItem) (metric : FlowMetric)
    (stages : List FlowNodeKind) (options : FlowBuildOptions) : List PreparedFlowPath :=
  let ctx := options.deletedTokenLabel
  let topNodeSets :=
    buildTopNodeSets lib rows metric (normalizeTopNodeLimit options.topNodeLimit) ctx
  rows.filterMap fun row =>
    (applyTopNodeLimit topNodeSets (options.overflowMode.getD .aggregate) options.otherNodeLabel
      (flowPathForStages stages ctx row)).map fun path => { path, metrics := rowMetrics row }

/-- The ids of the first nodes of the paths. -/
def rootIds (prepared : List PreparedFlowPath) : List String :=
  prepared.filterMap fun p => p.path.head?.map (·.id)

/-- The colours of the first nodes. -/
def rootColors (lib : FlowLib) (prepared : List PreparedFlowPath) (palette : List String) :
    List (String × String) :=
  stableColorMap lib (sortBy lib.localeCompare (rootIds prepared)) palette

/-- What is done with the maps of the nodes and the links. -/
def finishGraph (lib : FlowLib) (maskSensitive : Bool) (sets : Option FlowHighlightSets)
    (firstStepSources : List String) (nodes : List DashboardFlowNode)
    (links : List DashboardFlowLink) : DashboardFlowGraph :=
  let links := if maskSensitive then links.map (maskLink nodes) else links
  let nodes := if maskSensitive then nodes.map maskNode else nodes
  let nodes := nodes.map (highlightNode sets)
  let flowLinks := sortBy (bySourceThenTarget lib) (links.map (highlightLink sets))
  let total := ((flowLinks.filter fun link => link.source ∈ firstStepSources).map (·.value)).sum
  let flowLinks := flowLinks.map (withShare total)
  { nodes := sortBy (byValueThenLabel lib) nodes
    links := flowLinks.map (withDisplayColor lib flowLinks) }

def buildFlowGraph (lib : FlowLib) (rows : List FlowQuotaDataItem) (metric : FlowMetric)
    (stages : List FlowNodeKind) (options : FlowBuildOptions) : DashboardFlowGraph :=
  let prepared := preparePaths lib rows metric stages options
  let colors := rootColors lib prepared options.colorPalette
  finishGraph lib options.maskSensitive
    (buildFlowHighlightSets prepared options.activeNode options.activeLink stages)
    (rootIds prepared)
    (nodeMap metric (nodeEntries lib options.colorPalette colors prepared))
    (linkMap metric (linkEntries lib options.colorPalette colors prepared))

/-! ## The filter options -/

/-- A user with its total, before it is an option. -/
structure UserTotal where
  label : String
  value : ℚ
  color : String

def buildUserFilterOptions (lib : FlowLib) (rows : List FlowQuotaDataItem) (metric : FlowMetric)
    (palette : List String) : List FlowUserFilterOption :=
  let colors := stableColorMap lib
    (sortBy lib.localeCompare (rows.map fun row => (userNode row).id)) palette
  let users := groupFold (fun row => (userNode row).id)
    (fun row => ({ label := (userNode row).label, value := 0
                   color := (colors.lookup (userNode row).id).getD (colorAt lib 0 palette) } :
                  UserTotal))
    (fun user row => { user with value := user.value + metricValue (rowMetrics row) metric })
    (rows.filter fun row => ¬ (row.userId = 0 ∧ row.username = ""))
  sortBy (fun a b => (byValueDesc a.valueRaw b.valueRaw).then (lib.localeCompare a.label b.label))
    (users.map fun (value, user) =>
      { value, label := user.label, valueLabel := lib.formatNumber user.value,
        valueRaw := user.value, color := user.color })

/-- The totals of the nodes of a stage by their filter key. -/
def optionTotals (rows : List FlowQuotaDataItem) (metric : FlowMetric)
    (ctx : Option (Int → String)) (stage : FlowNodeKind) : List FlowNodeRank :=
  (groupFold (fun row => nodeFilterKey (buildNode ctx stage row))
    (fun row => ({ node := buildNode ctx stage row, value := 0 } : FlowNodeRank))
    (fun rank row => { rank with value := rank.value + metricValue (rowMetrics row) metric })
    rows).map Prod.snd

/-- The order of the options: by stage, value, label and id. -/
def byStageThenValue (lib : FlowLib) (stages : List FlowNodeKind) (a b : FlowNodeFilterOption) :
    Ordering :=
  (compare (stages.idxOf a.kind) (stages.idxOf b.kind)).then
    ((byValueDesc a.valueRaw b.valueRaw).then
      ((lib.localeCompare a.label b.label).then (lib.localeCompare a.value b.value)))

def buildNodeFilterOptions (lib : FlowLib) (rows : List FlowQuotaDataItem) (metric : FlowMetric)
    (stages : List FlowNodeKind) (palette : List String) (ctx : Option (Int → String))
    (selectedNodes : List FlowNodeFilter) : List FlowNodeFilterOption :=
  let colorIds := (rows.flatMap fun row => (flowPathForStages stages ctx row).map (·.id)).foldl
    setAdd []
  let colors := stableColorMap lib (sortBy lib.localeCompare colorIds) palette
  let options := stages.flatMap fun stage =>
    let candidateRows :=
      filterRowsByNodes rows (selectedNodeFiltersExceptKind selectedNodes stage) stages ctx
    (optionTotals candidateRows metric ctx stage).map fun rank =>
      { kind := rank.node.kind, value := rank.node.id, label := rank.node.label,
        valueLabel := lib.formatNumber rank.value, valueRaw := rank.value,
        color := (colors.lookup rank.node.id).getD (colorAt lib 0 palette) }
  sortBy (byStageThenValue lib stages) options

/-- The stages that are drawn. -/
def FlowBuildOptions.stages (options : FlowBuildOptions) : List FlowNodeKind :=
  resolveVisibleStages (options.role.getD .user) options.visibleStages

/-- The rows that are drawn. -/
def filteredRows (rows : List FlowQuotaDataItem) (options : FlowBuildOptions) :
    List FlowQuotaDataItem :=
  filterRowsByNodes (filterRows rows options.selectedUsers) options.selectedNodes options.stages
    options.deletedTokenLabel

def buildDashboardFlowData (lib : FlowLib) (rows : List FlowQuotaDataItem) (metric : FlowMetric)
    (options : FlowBuildOptions) : ProcessedFlowData where
  summary := buildSummary (filteredRows rows options)
  flow := buildFlowGraph lib (filteredRows rows options) metric options.stages options
  users := buildUserFilterOptions lib rows metric options.colorPalette
  nodes := buildNodeFilterOptions lib (filterRows rows options.selectedUsers) metric options.stages
    options.colorPalette options.deletedTokenLabel options.selectedNodes

end TokenRouter.Flow
