import TokenRouter.ForStd.Table
import TokenRouter.Model.Channel

/-!
# Abilities (`model/ability.go`, and the writers of `model/channel.go`)

Routing reads `abilities`, which holds a row for each group and model of a channel with the
channel's status, priority, weight and tag. Ten operations on channels maintain it: some delete
the rows of a channel and insert them again, others update the rows of a channel or of a tag in
place. Each operation is a function of the two tables that also says whether it reports success;
the database errors that an operation does not report are its arguments.
-/

namespace TokenRouter

/-- A row of `abilities`. -/
structure Ability where
  group : String
  model : String
  channelId : Nat
  enabled : Bool
  priority : Int
  weight : Nat
  tag : Option String
  deriving DecidableEq

/-- The primary key. -/
def Ability.key (a : Ability) : String × String × Nat := (a.group, a.model, a.channelId)

abbrev Abilities := Table Ability Ability.key

abbrev Channels := Table ChannelRow (·.id)

/-- The two tables. -/
structure ChannelDB where
  channels : Channels := .empty
  abilities : Abilities := .empty

/-! ## Abilities of one channel -/

/-- The row of a channel for one group and model. -/
def ChannelRow.ability (channel : ChannelRow) (group model : String) : Ability :=
  { group := group
    model := model
    channelId := channel.id
    enabled := channel.status = .enabled
    priority := channel.priority
    weight := channel.weight
    tag := channel.tag }

/-- The first element of each value of `f`, skipping the values already seen. -/
def dedupOn {α : Type} (f : α → String) : List String → List α → List α
  | _, [] => []
  | seen, x :: xs => if f x ∈ seen then dedupOn f seen xs else x :: dedupOn f (f x :: seen) xs

/-- The rows that `AddAbilities` and `UpdateAbilities` build: groups and models are taken from
    the comma lists, and pairs are told apart by the text `group|model`. -/
def ChannelRow.abilities (channel : ChannelRow) : List Ability :=
  dedupOn (fun a => a.group ++ "|" ++ a.model) []
    ((splitComma channel.models).flatMap fun model =>
      (splitComma channel.group).map fun group => channel.ability group model)

/-- `AddAbilities`: `ON CONFLICT DO NOTHING` -/
def Abilities.addAbilities (abilities : Abilities) (channel : ChannelRow) : Abilities :=
  channel.abilities.foldl Table.insert abilities

/-- `DeleteAbilities` -/
def Abilities.deleteAbilities (abilities : Abilities) (channelId : Nat) : Abilities :=
  abilities.filterRows fun a => a.channelId ≠ channelId

/-- `UpdateAbilities` -/
def Abilities.updateAbilities (abilities : Abilities) (channel : ChannelRow) : Abilities :=
  (abilities.deleteAbilities channel.id).addAbilities channel

/-- `UpdateAbilityStatus` -/
def Abilities.updateAbilityStatus (abilities : Abilities) (channelId : Nat) (status : Bool) :
    Abilities :=
  abilities.mapRows (fun a => if a.channelId = channelId then { a with enabled := status } else a)
    fun a => by split <;> rfl

/-- `UpdateAbilityStatusByTag` -/
def Abilities.updateAbilityStatusByTag (abilities : Abilities) (tag : String) (status : Bool) :
    Abilities :=
  abilities.mapRows (fun a => if a.tag = some tag then { a with enabled := status } else a)
    fun a => by split <;> rfl

/-- What `UpdateAbilityByTag` makes of a row: the weight is a field of a struct, and an update
    from a struct skips the fields that are zero. -/
def Ability.edit (a : Ability) (newTag : Option String) (priority : Option Int)
    (weight : Option Nat) : Ability :=
  { a with
    tag := if newTag.isSome then newTag else a.tag
    priority := priority.getD a.priority
    weight := if weight.getD 0 = 0 then a.weight else weight.getD 0 }

/-- `UpdateAbilityByTag` -/
def Abilities.updateAbilityByTag (abilities : Abilities) (tag : String) (newTag : Option String)
    (priority : Option Int) (weight : Option Nat) : Abilities :=
  abilities.mapRows
    (fun a => if a.tag = some tag then a.edit newTag priority weight else a)
    fun a => by split <;> rfl

/-! ## Operations on channels -/

/-- What a new row holds: a status, a group, a weight or a priority that is not given is the
    default of its column. -/
def ChannelRow.withDefaults (channel : ChannelRow) : ChannelRow :=
  { channel with
    status := if channel.status = .unknown then .enabled else channel.status
    group := if channel.group = "" then "default" else channel.group }

/-- `Insert`; a new id, chosen by the database, is the one the argument carries. -/
def ChannelDB.insert (db : ChannelDB) (channel : ChannelRow) : ChannelDB × Bool :=
  match db.channels.find? channel.id with
  | some _ => (db, false)
  | none =>
    let row := channel.withDefaults
    ({ channels := db.channels.insert row, abilities := db.abilities.addAbilities row }, true)

/-- `BatchInsertChannels`: one transaction. -/
def ChannelDB.batchInsertChannels (db : ChannelDB) (channels : List ChannelRow) :
    ChannelDB × Bool :=
  let result := channels.foldl
    (fun (acc : ChannelDB × Bool) channel =>
      if acc.2 then acc.1.insert channel else acc) (db, true)
  if result.2 then result else (db, false)

/-- A `Channel` value given to `Update`: its zero values are not written. -/
structure ChannelPatch where
  channelType : Int := 0
  keys : List String := []
  status : ChannelStatus := .unknown
  supplierId : Int := 0
  weight : Option Nat := none
  models : String := ""
  group : String := ""
  priority : Option Int := none
  tag : Option String := none
  channelInfo : Option ChannelInfo := none

/-- The first part of `Update`: the size of a channel with several keys is counted again, and
    entries beyond it are dropped. -/
def ChannelPatch.resize (patch : ChannelPatch) (existing : Option ChannelRow) : ChannelPatch :=
  match patch.channelInfo with
  | none => patch
  | some info =>
    if info.isMultiKey then
      let keys := if patch.keys ≠ [] then patch.keys else (existing.map (·.keys)).getD []
      { patch with
        channelInfo := some
          { info with
            multiKeySize := keys.length
            multiKeyStatusList := fun i =>
              if i < keys.length then info.multiKeyStatusList i else none } }
    else patch

/-- `Updates(channel)` -/
def ChannelPatch.apply (patch : ChannelPatch) (row : ChannelRow) : ChannelRow :=
  { row with
    channelType := if patch.channelType = 0 then row.channelType else patch.channelType
    keys := if patch.keys = [] then row.keys else patch.keys
    status := if patch.status = .unknown then row.status else patch.status
    supplierId := if patch.supplierId = 0 then row.supplierId else patch.supplierId
    weight := patch.weight.getD row.weight
    models := if patch.models = "" then row.models else patch.models
    group := if patch.group = "" then row.group else patch.group
    priority := patch.priority.getD row.priority
    tag := if patch.tag.isSome then patch.tag else row.tag
    channelInfo := patch.channelInfo.getD row.channelInfo }

/-- The value itself, which stands for the channel if it cannot be read again. -/
def ChannelPatch.toRow (patch : ChannelPatch) (id : Nat) : ChannelRow :=
  { id := id
    channelType := patch.channelType
    keys := patch.keys
    status := patch.status
    supplierId := patch.supplierId
    weight := patch.weight.getD 0
    models := patch.models
    group := patch.group
    priority := patch.priority.getD 0
    tag := patch.tag
    channelInfo := patch.channelInfo.getD {} }

/-- `Update`. The error of reading the channel again, `rereadFails` or a missing row, is not
    reported. -/
def ChannelDB.update (db : ChannelDB) (id : Nat) (patch : ChannelPatch) (rereadFails : Bool) :
    ChannelDB × Bool :=
  let patch := patch.resize (db.channels.find? id)
  match db.channels.find? id with
  | none =>
    ({ db with abilities := db.abilities.updateAbilities (patch.toRow id) }, true)
  | some row =>
    let updated := patch.apply row
    let channel := if rereadFails then patch.toRow id else updated
    ({ channels := db.channels.set updated
       abilities := db.abilities.updateAbilities channel }, true)

/-- `UpdateChannelStatus` on the database. The deferred update of the abilities runs after a
    failed save too, and its own error is not reported. -/
def ChannelDB.updateChannelStatus (db : ChannelDB) (id : Nat) (usingKey : String)
    (status : ChannelStatus) (reason : String) (now : Int) (saveFails abilitiesFail : Bool) :
    ChannelDB × Bool :=
  match db.channels.find? id with
  | none => (db, false)
  | some row =>
    match updateChannelRow row usingKey status reason now with
    | none => (db, false)
    | some (updated, shouldUpdateAbilities) =>
      let abilities :=
        if shouldUpdateAbilities && !abilitiesFail then
          db.abilities.updateAbilityStatus id (status = .enabled)
        else db.abilities
      if saveFails then ({ db with abilities := abilities }, false)
      else ({ channels := db.channels.set updated, abilities := abilities }, true)

/-- The channels of a tag with another status. -/
def Channels.setStatusByTag (channels : Channels) (tag : String) (status : ChannelStatus) :
    Channels :=
  channels.mapRows (fun c => if c.tag = some tag then { c with status := status } else c)
    fun c => by split <;> rfl

/-- `EnableChannelByTag` -/
def ChannelDB.enableChannelByTag (db : ChannelDB) (tag : String) : ChannelDB × Bool :=
  ({ channels := db.channels.setStatusByTag tag .enabled
     abilities := db.abilities.updateAbilityStatusByTag tag true }, true)

/-- `DisableChannelByTag` -/
def ChannelDB.disableChannelByTag (db : ChannelDB) (tag : String) : ChannelDB × Bool :=
  ({ channels := db.channels.setStatusByTag tag .manuallyDisabled
     abilities := db.abilities.updateAbilityStatusByTag tag false }, true)

/-- The arguments of `EditChannelByTag` that the tables of the model have columns for. -/
structure TagEdit where
  newTag : Option String := none
  models : Option String := none
  group : Option String := none
  priority : Option Int := none
  weight : Option Nat := none
  deriving DecidableEq

/-- A text that is given and not empty. -/
def givenText (s : Option String) : Bool := s.isSome && s ≠ some ""

/-- The models or the groups change. -/
def TagEdit.recreates (e : TagEdit) : Bool := givenText e.models || givenText e.group

/-- The tag of the channels afterwards. -/
def TagEdit.updatedTag (e : TagEdit) (tag : String) : String := e.newTag.getD tag

/-- What the edit makes of a channel: pointers are written when they are not nil. -/
def TagEdit.apply (e : TagEdit) (row : ChannelRow) : ChannelRow :=
  { row with
    tag := if e.newTag.isSome then e.newTag else row.tag
    models := if givenText e.models then e.models.getD "" else row.models
    group := if givenText e.group then e.group.getD "" else row.group
    priority := e.priority.getD row.priority
    weight := e.weight.getD row.weight }

/-- The update of the channels in `EditChannelByTag`. -/
def Channels.editByTag (channels : Channels) (tag : String) (e : TagEdit) : Channels :=
  channels.mapRows (fun c => if c.tag = some tag then e.apply c else c)
    fun c => by split <;> rfl

/-- `EditChannelByTag`. The errors of finding the channels again, and of updating the abilities
    of the channels in `failing`, are not reported. -/
def ChannelDB.editChannelByTag (db : ChannelDB) (tag : String) (e : TagEdit) (findFails : Bool)
    (failing : List Nat) : ChannelDB × Bool :=
  let channels := db.channels.editByTag tag e
  if e.recreates then
    let found := if findFails then [] else
      channels.rows.filter fun c => c.tag = some (e.updatedTag tag) && c.id ∉ failing
    ({ channels := channels
       abilities := found.foldl Abilities.updateAbilities db.abilities }, true)
  else
    ({ channels := channels
       abilities := db.abilities.updateAbilityByTag tag e.newTag e.priority e.weight }, true)

/-- `Delete` -/
def ChannelDB.delete (db : ChannelDB) (id : Nat) : ChannelDB × Bool :=
  ({ channels := db.channels.erase id, abilities := db.abilities.deleteAbilities id }, true)

/-- `BatchDeleteChannels` -/
def ChannelDB.batchDeleteChannels (db : ChannelDB) (ids : List Nat) : ChannelDB × Bool :=
  ({ channels := db.channels.filterRows fun c => c.id ∉ ids
     abilities := db.abilities.filterRows fun a => a.channelId ∉ ids }, true)

/-- `FixAbility`, with no failure counted. -/
def ChannelDB.fixAbility (db : ChannelDB) : ChannelDB × Bool :=
  ({ db with abilities := db.channels.rows.foldl Abilities.addAbilities .empty }, true)

end TokenRouter
