import TokenRouter.ForStd.Run
import TokenRouter.Model.Ability

/-!
# Abilities are the projection of channels

The rows of `abilities` should be exactly one for each group and model of each channel, with the
channel's fields. Every operation on the channels keeps this, apart from five ways to lose it:
an unreported error of an update of the abilities, an update of a missing channel, a weight of
zero given to a tag, a failed save after which the abilities are updated all the same, and two
pairs of group and model with one text `group|model`.

## Key results

- `Abilities.mem_updateAbilities`: what rebuilding the abilities of one channel does
- `inv_step`: one operation
- `abilities_follow_channels`: over every sequence of operations that meet the condition
- `zero_weight_lost_and_failed_save_seen`: a weight of zero that routing never sees, and a
  channel enabled for routing by an update that was not saved
-/

namespace TokenRouter

/-! ## The projection -/

/-- The row belongs to the channel. -/
def ChannelRow.HasAbility (channel : ChannelRow) (a : Ability) : Prop :=
  a.group ∈ splitComma channel.group ∧ a.model ∈ splitComma channel.models ∧
    a = channel.ability a.group a.model

/-- The abilities are the rows that belong to the channels. -/
def ChannelDB.Projected (db : ChannelDB) : Prop :=
  ∀ a, a ∈ db.abilities.rows ↔ ∃ c ∈ db.channels.rows, c.HasAbility a

/-- No two pairs of a group and a model of the channel have the same text `group|model`. -/
def ChannelRow.DistinctPairs (channel : ChannelRow) : Prop :=
  ∀ g ∈ splitComma channel.group, ∀ m ∈ splitComma channel.models,
    ∀ g' ∈ splitComma channel.group, ∀ m' ∈ splitComma channel.models,
      g ++ "|" ++ m = g' ++ "|" ++ m' → g = g' ∧ m = m'

instance (channel : ChannelRow) : Decidable channel.DistinctPairs :=
  inferInstanceAs (Decidable (∀ g ∈ _, ∀ m ∈ _, ∀ g' ∈ _, ∀ m' ∈ _, _ → _))

/-- Two rows of one channel that routing cannot tell apart. -/
structure SameRouting (c c' : ChannelRow) : Prop where
  id : c.id = c'.id
  group : c.group = c'.group
  models : c.models = c'.models
  enabled : c.status = .enabled ↔ c'.status = .enabled
  priority : c.priority = c'.priority
  weight : c.weight = c'.weight
  tag : c.tag = c'.tag

theorem ChannelRow.HasAbility.channelId {c : ChannelRow} {a : Ability} (h : c.HasAbility a) :
    a.channelId = c.id := by
  rw [h.2.2]
  rfl

/-- A row of a channel is determined by its key. -/
theorem ChannelRow.HasAbility.eq {c : ChannelRow} {a b : Ability} (ha : c.HasAbility a)
    (hb : c.HasAbility b) (h : a.key = b.key) : a = b := by
  simp only [Ability.key, Prod.mk.injEq] at h
  rw [ha.2.2, hb.2.2, h.1, h.2.1]

theorem SameRouting.hasAbility_iff {c c' : ChannelRow} (h : SameRouting c c') (a : Ability) :
    c.HasAbility a ↔ c'.HasAbility a := by
  have hability : ∀ g m, c.ability g m = c'.ability g m := by
    intro g m
    unfold ChannelRow.ability
    rw [h.id, h.priority, h.weight, h.tag, decide_eq_decide.mpr h.enabled]
  unfold ChannelRow.HasAbility
  rw [h.group, h.models, hability]

/-! ## Building the rows of a channel -/

theorem mem_of_mem_dedupOn {α : Type} {f : α → String} {seen : List String} {l : List α} {x : α}
    (h : x ∈ dedupOn f seen l) : x ∈ l := by
  induction l generalizing seen with
  | nil => cases h
  | cons y ys ih =>
    unfold dedupOn at h
    split at h
    · exact List.mem_cons_of_mem y (ih h)
    · rcases List.mem_cons.mp h with rfl | h
      · exact List.mem_cons_self
      · exact List.mem_cons_of_mem y (ih h)

/-- Every value that has not been seen is kept once. -/
theorem exists_mem_dedupOn {α : Type} {f : α → String} {seen : List String} {l : List α} {x : α}
    (hx : x ∈ l) (hseen : f x ∉ seen) : ∃ y ∈ dedupOn f seen l, f y = f x := by
  induction l generalizing seen with
  | nil => cases hx
  | cons y ys ih =>
    unfold dedupOn
    split
    · next hy =>
      rcases List.mem_cons.mp hx with rfl | hx
      · exact absurd hy hseen
      · exact ih hx hseen
    · by_cases heq : f x = f y
      · exact ⟨y, List.mem_cons_self, heq.symm⟩
      · rcases List.mem_cons.mp hx with rfl | hx
        · exact absurd rfl heq
        · obtain ⟨z, hz, hfz⟩ := ih hx (fun h => (List.mem_cons.mp h).elim heq hseen)
          exact ⟨z, List.mem_cons_of_mem y hz, hfz⟩

theorem mem_abilities {c : ChannelRow} (hc : c.DistinctPairs) (a : Ability) :
    a ∈ c.abilities ↔ c.HasAbility a := by
  have hall : ∀ b, (b ∈ (splitComma c.models).flatMap fun model =>
      (splitComma c.group).map fun group => c.ability group model) ↔ c.HasAbility b := by
    intro b
    simp only [List.mem_flatMap, List.mem_map, ChannelRow.HasAbility]
    constructor
    · rintro ⟨m, hm, g, hg, rfl⟩
      exact ⟨hg, hm, rfl⟩
    · rintro ⟨hg, hm, heq⟩
      exact ⟨b.model, hm, b.group, hg, heq.symm⟩
  unfold ChannelRow.abilities
  constructor
  · intro h
    exact (hall a).mp (mem_of_mem_dedupOn h)
  · intro h
    -- the row kept for the text of this pair is the one of this pair
    obtain ⟨b, hb, htext⟩ := exists_mem_dedupOn (f := fun a => a.group ++ "|" ++ a.model)
      ((hall a).mpr h) (List.not_mem_nil)
    have hbc := (hall b).mp (mem_of_mem_dedupOn hb)
    obtain ⟨hg, hm⟩ := hc b.group hbc.1 b.model hbc.2.1 a.group h.1 a.model h.2.1 htext
    have hab : b = a := by rw [hbc.2.2, h.2.2, hg, hm]
    exact hab ▸ hb

theorem Abilities.mem_addAbilities {t : Abilities} {c : ChannelRow} (hc : c.DistinctPairs)
    (ht : ∀ a ∈ t.rows, a.channelId ≠ c.id) (a : Ability) :
    a ∈ (t.addAbilities c).rows ↔ a ∈ t.rows ∨ c.HasAbility a := by
  unfold Abilities.addAbilities
  rw [Table.mem_foldl_insert, mem_abilities hc]
  intro x hx y hy hkey
  have hx := (mem_abilities hc x).mp hx
  rcases hy with hy | hy
  · exact ((mem_abilities hc y).mp hy).eq hx hkey
  · have hid : y.channelId = x.channelId := by
      simp only [Ability.key, Prod.mk.injEq] at hkey
      exact hkey.2.2
    exact absurd (hid.trans hx.channelId) (ht y hy)

/-- Rebuilding the rows of a channel replaces its rows and no other. -/
theorem Abilities.mem_updateAbilities {t : Abilities} {c : ChannelRow} (hc : c.DistinctPairs)
    (a : Ability) :
    a ∈ (t.updateAbilities c).rows ↔ (a ∈ t.rows ∧ a.channelId ≠ c.id) ∨ c.HasAbility a := by
  unfold Abilities.updateAbilities Abilities.deleteAbilities
  rw [Abilities.mem_addAbilities hc]
  · rw [Table.mem_filterRows]
    simp
  · intro b hb
    rw [Table.mem_filterRows] at hb
    simpa using hb.2

/-- Rebuilding the rows of several channels. -/
theorem Abilities.mem_foldl_updateAbilities {t : Abilities} {l : List ChannelRow}
    (hl : ∀ c ∈ l, c.DistinctPairs) (hnodup : (l.map (·.id)).Nodup) (a : Ability) :
    a ∈ (l.foldl Abilities.updateAbilities t).rows ↔
      (a ∈ t.rows ∧ ∀ c ∈ l, a.channelId ≠ c.id) ∨ ∃ c ∈ l, c.HasAbility a := by
  induction l generalizing t with
  | nil => simp
  | cons c cs ih =>
    rw [List.map_cons, List.nodup_cons] at hnodup
    have hfresh : ∀ c' ∈ cs, c.id ≠ c'.id := by
      intro c' hc' heq
      exact hnodup.1 (List.mem_map.mpr ⟨c', hc', heq.symm⟩)
    rw [List.foldl_cons, ih (fun c' hc' => hl c' (List.mem_cons_of_mem c hc')) hnodup.2,
      Abilities.mem_updateAbilities (hl c List.mem_cons_self)]
    constructor
    · rintro (⟨⟨hat, hac⟩ | hc, hcs⟩ | ⟨c', hc', ha⟩)
      · refine .inl ⟨hat, ?_⟩
        intro c' hc'
        rcases List.mem_cons.mp hc' with rfl | hc'
        · exact hac
        · exact hcs c' hc'
      · exact .inr ⟨c, List.mem_cons_self, hc⟩
      · exact .inr ⟨c', List.mem_cons_of_mem c hc', ha⟩
    · rintro (⟨hat, hall⟩ | ⟨c', hc', ha⟩)
      · exact .inl ⟨.inl ⟨hat, hall c List.mem_cons_self⟩,
          fun c' hc' => hall c' (List.mem_cons_of_mem c hc')⟩
      · rcases List.mem_cons.mp hc' with rfl | hc'
        · refine .inl ⟨.inr ha, ?_⟩
          intro c'' hc''
          rw [ha.channelId]
          exact hfresh c'' hc''
        · exact .inr ⟨c', hc', ha⟩

/-- Inserting the rows of several new channels. -/
theorem Abilities.mem_foldl_addAbilities {t : Abilities} {l : List ChannelRow}
    (hl : ∀ c ∈ l, c.DistinctPairs) (hnodup : (l.map (·.id)).Nodup)
    (ht : ∀ a ∈ t.rows, ∀ c ∈ l, a.channelId ≠ c.id) (a : Ability) :
    a ∈ (l.foldl Abilities.addAbilities t).rows ↔ a ∈ t.rows ∨ ∃ c ∈ l, c.HasAbility a := by
  induction l generalizing t with
  | nil => simp
  | cons c cs ih =>
    rw [List.map_cons, List.nodup_cons] at hnodup
    have hadd := Abilities.mem_addAbilities (t := t) (hl c List.mem_cons_self)
      fun b hb => ht b hb c List.mem_cons_self
    rw [List.foldl_cons, ih (fun c' hc' => hl c' (List.mem_cons_of_mem c hc')) hnodup.2, hadd]
    · simp [or_assoc]
    · intro b hb c' hc'
      rcases (hadd b).mp hb with hb | hb
      · exact ht b hb c' (List.mem_cons_of_mem c hc')
      · rw [hb.channelId]
        intro heq
        exact hnodup.1 (List.mem_map.mpr ⟨c', hc', heq.symm⟩)

/-! ## Operations -/

/-- An operation on the channels, with the database errors that it does not report. -/
inductive ChannelOp where
  | insert (channel : ChannelRow)
  | batchInsertChannels (channels : List ChannelRow)
  | update (id : Nat) (patch : ChannelPatch) (rereadFails : Bool)
  | updateChannelStatus (id : Nat) (usingKey : String) (status : ChannelStatus) (reason : String)
      (now : Int) (saveFails abilitiesFail : Bool)
  | enableChannelByTag (tag : String)
  | disableChannelByTag (tag : String)
  | editChannelByTag (tag : String) (e : TagEdit) (findFails : Bool) (failing : List Nat)
  | delete (id : Nat)
  | batchDeleteChannels (ids : List Nat)
  | fixAbility

namespace ChannelDB

/-- The tables after an operation, and whether it reports success. -/
def perform (db : ChannelDB) : ChannelOp → ChannelDB × Bool
  | .insert channel => db.insert channel
  | .batchInsertChannels channels => db.batchInsertChannels channels
  | .update id patch rereadFails => db.update id patch rereadFails
  | .updateChannelStatus id usingKey status reason now saveFails abilitiesFail =>
    db.updateChannelStatus id usingKey status reason now saveFails abilitiesFail
  | .enableChannelByTag tag => db.enableChannelByTag tag
  | .disableChannelByTag tag => db.disableChannelByTag tag
  | .editChannelByTag tag e findFails failing => db.editChannelByTag tag e findFails failing
  | .delete id => db.delete id
  | .batchDeleteChannels ids => db.batchDeleteChannels ids
  | .fixAbility => db.fixAbility

def step (db : ChannelDB) (op : ChannelOp) : ChannelDB := (db.perform op).1

/-- The status update of a row leaves its abilities as they are: it is not made, the channel keeps
    its status, or it is disabled before and after. -/
def KeepsAbilities (row : ChannelRow) (usingKey : String) (status : ChannelStatus)
    (reason : String) (now : Int) : Prop :=
  row.status = status ∨ (row.channelInfo.isMultiKey = true ∧
      (handlerMultiKeyUpdate row usingKey status reason now).status = row.status) ∨
    (status = .enabled ↔ row.status = .enabled)

/-- The operation keeps the abilities in step with the channels. -/
def Maintains (db : ChannelDB) : ChannelOp → Prop
  | .insert channel => db.channels.find? channel.id = none → channel.withDefaults.DistinctPairs
  | .batchInsertChannels channels => ∀ c ∈ channels, c.withDefaults.DistinctPairs
  | .update id patch rereadFails => ∃ row, db.channels.find? id = some row ∧
      ((patch.resize (some row)).apply row).DistinctPairs ∧
      (rereadFails = true →
        SameRouting ((patch.resize (some row)).toRow id) ((patch.resize (some row)).apply row))
  | .updateChannelStatus id usingKey status reason now saveFails abilitiesFail =>
      saveFails = true ∨ abilitiesFail = true → ∀ row, db.channels.find? id = some row →
        KeepsAbilities row usingKey status reason now
  | .editChannelByTag tag e findFails failing => ∀ c ∈ db.channels.rows, c.tag = some tag →
      (e.recreates = true → (e.apply c).DistinctPairs ∧
        (findFails = true ∨ c.id ∈ failing → SameRouting c (e.apply c))) ∧
      (e.recreates = false → e.weight = some 0 → c.weight = 0)
  | _ => True

/-- A status update whose save fails changes no ability. -/
def FailedSaveQuiet (db : ChannelDB) : ChannelOp → Prop
  | .updateChannelStatus id usingKey status reason now true abilitiesFail =>
      (db.step (.updateChannelStatus id usingKey status reason now true abilitiesFail)).abilities =
        db.abilities
  | _ => True

/-- The projection, and channels whose pairs of group and model have texts of their own. -/
structure Inv (db : ChannelDB) : Prop where
  projected : db.Projected
  distinct : ∀ c ∈ db.channels.rows, c.DistinctPairs

theorem inv_empty : Inv {} where
  projected := by
    intro a
    constructor
    · intro h
      cases h
    · rintro ⟨c, hc, -⟩
      cases hc
  distinct := fun c hc => by cases hc

/-! ### Rows of one channel -/

theorem inv_insert {db : ChannelDB} (h : Inv db) {channel : ChannelRow}
    (hc : db.channels.find? channel.id = none → channel.withDefaults.DistinctPairs) :
    Inv (db.insert channel).1 := by
  unfold ChannelDB.insert
  cases hf : db.channels.find? channel.id with
  | some row => exact h
  | none =>
    have hdistinct := hc hf
    have hfresh : db.channels.find? channel.withDefaults.id = none := hf
    have hnone : ∀ a ∈ db.abilities.rows, a.channelId ≠ channel.withDefaults.id := by
      intro a ha heq
      obtain ⟨c, hmem, hability⟩ := (h.projected a).mp ha
      rw [hability.channelId] at heq
      exact Table.find?_eq_none_iff.mp hfresh c hmem heq
    refine ⟨?_, ?_⟩
    · intro a
      dsimp only
      rw [Abilities.mem_addAbilities hdistinct hnone, h.projected]
      simp only [Table.mem_insert hfresh]
      constructor
      · rintro (⟨c, hmem, ha⟩ | ha)
        · exact ⟨c, .inl hmem, ha⟩
        · exact ⟨_, .inr rfl, ha⟩
      · rintro ⟨c, hmem | rfl, ha⟩
        · exact .inl ⟨c, hmem, ha⟩
        · exact .inr ha
    · intro c hmem
      dsimp only at hmem
      rcases (Table.mem_insert hfresh).mp hmem with hmem | rfl
      · exact h.distinct c hmem
      · exact hdistinct

theorem inv_batchInsertChannels {db : ChannelDB} (h : Inv db) {channels : List ChannelRow}
    (hc : ∀ c ∈ channels, c.withDefaults.DistinctPairs) :
    Inv (db.batchInsertChannels channels).1 := by
  have hfold : ∀ (l : List ChannelRow) (acc : ChannelDB × Bool), Inv acc.1 →
      (∀ c ∈ l, c.withDefaults.DistinctPairs) →
      Inv (l.foldl (fun (acc : ChannelDB × Bool) channel =>
        if acc.2 then acc.1.insert channel else acc) acc).1 := by
    intro l
    induction l with
    | nil => exact fun acc hacc _ => hacc
    | cons c cs ih =>
      intro acc hacc hl
      apply ih
      · dsimp only
        split
        · exact inv_insert hacc fun _ => hl c List.mem_cons_self
        · exact hacc
      · exact fun c' hc' => hl c' (List.mem_cons_of_mem c hc')
  unfold ChannelDB.batchInsertChannels
  dsimp only
  split
  · exact hfold channels (db, true) h hc
  · exact h

/-- The rows of a channel after it has been overwritten and its abilities rebuilt. -/
theorem inv_overwrite {db : ChannelDB} (h : Inv db) {row updated channel : ChannelRow}
    (hrow : db.channels.find? updated.id = some row) (hdistinct : updated.DistinctPairs)
    (hsame : SameRouting channel updated) (hchannel : channel.DistinctPairs) :
    Inv { channels := db.channels.set updated
          abilities := db.abilities.updateAbilities channel } := by
  refine ⟨?_, ?_⟩
  · intro a
    dsimp only
    rw [Abilities.mem_updateAbilities hchannel, hsame.id, hsame.hasAbility_iff, h.projected]
    constructor
    · rintro (⟨⟨c, hmem, ha⟩, hne⟩ | ha)
      · refine ⟨c, Table.mem_set_of_ne hmem ?_, ha⟩
        rw [← ha.channelId]
        exact hne
      · exact ⟨updated, Table.mem_set_self hrow, ha⟩
    · rintro ⟨c, hmem, ha⟩
      rcases Table.mem_set hmem with rfl | ⟨hmem, hne⟩
      · exact .inr ha
      · exact .inl ⟨⟨c, hmem, ha⟩, by rw [ha.channelId]; exact hne⟩
  · intro c hmem
    rcases Table.mem_set hmem with rfl | ⟨hmem, -⟩
    · exact hdistinct
    · exact h.distinct c hmem

theorem SameRouting.distinctPairs {c c' : ChannelRow} (h : SameRouting c c')
    (hc : c'.DistinctPairs) : c.DistinctPairs := by
  unfold ChannelRow.DistinctPairs
  rw [h.group, h.models]
  exact hc

theorem inv_update {db : ChannelDB} (h : Inv db) {id : Nat} {patch : ChannelPatch}
    {rereadFails : Bool} (hc : Maintains db (.update id patch rereadFails)) :
    Inv (db.update id patch rereadFails).1 := by
  obtain ⟨row, hrow, hdistinct, hreread⟩ := hc
  unfold ChannelDB.update
  rw [hrow]
  dsimp only
  have hid : row.id = id := Table.find?_key hrow
  have hself : db.channels.find? ((patch.resize (some row)).apply row).id = some row := by
    show db.channels.find? row.id = some row
    rw [hid]
    exact hrow
  cases rereadFails with
  | true =>
    have hsame := hreread rfl
    exact inv_overwrite h hself hdistinct hsame (SameRouting.distinctPairs hsame hdistinct)
  | false =>
    exact inv_overwrite h hself hdistinct ⟨rfl, rfl, rfl, Iff.rfl, rfl, rfl, rfl⟩ hdistinct

/-! ### Rows of many channels -/

/-- Channels and abilities changed in place by functions that agree on every ability of every
    channel. -/
theorem inv_mapRows {db : ChannelDB} (h : Inv db) {f : ChannelRow → ChannelRow}
    {g : Ability → Ability} {hf : ∀ c, (f c).id = c.id} {hg : ∀ a, (g a).key = a.key}
    (hgroup : ∀ c ∈ db.channels.rows, (f c).group = c.group)
    (hmodels : ∀ c ∈ db.channels.rows, (f c).models = c.models)
    (hfg : ∀ c ∈ db.channels.rows, ∀ group model,
      g (c.ability group model) = (f c).ability group model) :
    Inv { channels := db.channels.mapRows f hf, abilities := db.abilities.mapRows g hg } := by
  have hability : ∀ c ∈ db.channels.rows, ∀ a, (f c).HasAbility a ↔ ∃ b, c.HasAbility b ∧ g b = a := by
    intro c hc a
    unfold ChannelRow.HasAbility
    rw [hgroup c hc, hmodels c hc]
    constructor
    · rintro ⟨hg', hm', heq⟩
      exact ⟨c.ability a.group a.model, ⟨hg', hm', rfl⟩, (hfg c hc _ _).trans heq.symm⟩
    · rintro ⟨b, ⟨hg', hm', heq⟩, rfl⟩
      have hb : g b = (f c).ability b.group b.model := by
        rw [heq]
        exact hfg c hc _ _
      rw [hb]
      exact ⟨hg', hm', rfl⟩
  refine ⟨?_, ?_⟩
  · intro a
    simp only [Table.mem_mapRows]
    constructor
    · rintro ⟨b, hb, rfl⟩
      obtain ⟨c, hc, hbc⟩ := (h.projected b).mp hb
      exact ⟨f c, ⟨c, hc, rfl⟩, (hability c hc _).mpr ⟨b, hbc, rfl⟩⟩
    · rintro ⟨c', ⟨c, hc, rfl⟩, ha⟩
      obtain ⟨b, hbc, rfl⟩ := (hability c hc a).mp ha
      exact ⟨b, (h.projected b).mpr ⟨c, hc, hbc⟩, rfl⟩
  · intro c' hc'
    have hc' : c' ∈ (db.channels.mapRows f hf).rows := hc'
    obtain ⟨c, hc, rfl⟩ := Table.mem_mapRows.mp hc'
    unfold ChannelRow.DistinctPairs
    rw [hgroup c hc, hmodels c hc]
    exact h.distinct c hc

theorem inv_setStatusByTag {db : ChannelDB} (h : Inv db) (tag : String) (status : ChannelStatus) :
    Inv { channels := db.channels.setStatusByTag tag status
          abilities := db.abilities.updateAbilityStatusByTag tag (status = .enabled) } := by
  apply inv_mapRows h
  · intro c _
    split
    · rfl
    · rfl
  · intro c _
    split
    · rfl
    · rfl
  · intro c _ group model
    by_cases hc : c.tag = some tag
    · simp [ChannelRow.ability, hc]
    · simp [ChannelRow.ability, hc]

/-- The edit of a tag that changes neither models nor groups. -/
theorem inv_editFields {db : ChannelDB} (h : Inv db) {tag : String} {e : TagEdit}
    (hrecreates : e.recreates = false)
    (hweight : ∀ c ∈ db.channels.rows, c.tag = some tag → e.weight = some 0 → c.weight = 0) :
    Inv { channels := db.channels.editByTag tag e
          abilities := db.abilities.updateAbilityByTag tag e.newTag e.priority e.weight } := by
  have hgiven : givenText e.models = false ∧ givenText e.group = false := by
    simpa [TagEdit.recreates] using hrecreates
  apply inv_mapRows h
  · intro c _
    split
    · simp [TagEdit.apply, hgiven.2]
    · rfl
  · intro c _
    split
    · simp [TagEdit.apply, hgiven.1]
    · rfl
  · intro c hc group model
    by_cases htag : c.tag = some tag
    · -- a weight of zero is skipped, which changes nothing if the channel has it already
      have hw : (if e.weight.getD 0 = 0 then c.weight else e.weight.getD 0) =
          e.weight.getD c.weight := by
        cases he : e.weight with
        | none => simp
        | some w =>
          by_cases hz : w = 0
          · subst hz
            simpa using hweight c hc htag he
          · simp [hz]
      simp [ChannelRow.ability, Ability.edit, TagEdit.apply, htag, hw]
    · simp [ChannelRow.ability, htag]

/-- The edit of a tag that rebuilds the abilities. -/
theorem inv_editRecreates {db : ChannelDB} (h : Inv db) {tag : String} {e : TagEdit}
    {findFails : Bool} {failing : List Nat} (hrecreates : e.recreates = true)
    (hc : Maintains db (.editChannelByTag tag e findFails failing)) :
    Inv (db.editChannelByTag tag e findFails failing).1 := by
  have hrows : ∀ c', c' ∈ (db.channels.editByTag tag e).rows ↔ ∃ c ∈ db.channels.rows,
      (if c.tag = some tag then e.apply c else c) = c' := fun c' => Table.mem_mapRows
  have hdistinct : ∀ c' ∈ (db.channels.editByTag tag e).rows, c'.DistinctPairs := by
    intro c' hc'
    obtain ⟨c, hmem, rfl⟩ := (hrows c').mp hc'
    split
    · next htag => exact ((hc c hmem htag).1 hrecreates).1
    · exact h.distinct c hmem
  unfold ChannelDB.editChannelByTag
  rw [if_pos hrecreates]
  refine ⟨?_, hdistinct⟩
  intro a
  dsimp only
  -- the channels whose abilities are rebuilt
  let found := if findFails then [] else (db.channels.editByTag tag e).rows.filter fun c =>
    c.tag = some (e.updatedTag tag) && c.id ∉ failing
  have hsub : found.Sublist (db.channels.editByTag tag e).rows := by
    show (if findFails then [] else _ : List ChannelRow).Sublist _
    split
    · exact List.nil_sublist _
    · exact List.filter_sublist
  have hfound : ∀ c, c ∈ found ↔ findFails = false ∧ c ∈ (db.channels.editByTag tag e).rows ∧
      c.tag = some (e.updatedTag tag) ∧ c.id ∉ failing := by
    intro c
    show c ∈ (if findFails then [] else _ : List ChannelRow) ↔ _
    cases findFails with
    | true => simp
    | false => simp
  show a ∈ (found.foldl Abilities.updateAbilities db.abilities).rows ↔ _
  rw [Abilities.mem_foldl_updateAbilities (fun c hcf => hdistinct c (hsub.subset hcf))
    ((db.channels.editByTag tag e).nodup.sublist (hsub.map _)), h.projected]
  -- a channel that is not rebuilt has the abilities it had
  have hkept : ∀ c ∈ db.channels.rows,
      (if c.tag = some tag then e.apply c else c) ∉ found →
      ∀ b, c.HasAbility b ↔ (if c.tag = some tag then e.apply c else c).HasAbility b := by
    intro c hmem hnot b
    by_cases htag : c.tag = some tag
    · rw [if_pos htag] at hnot ⊢
      apply SameRouting.hasAbility_iff
      apply ((hc c hmem htag).1 hrecreates).2
      by_contra hfail
      simp only [not_or, Bool.not_eq_true] at hfail
      apply hnot
      rw [hfound]
      refine ⟨hfail.1, (hrows _).mpr ⟨c, hmem, if_pos htag⟩, ?_, hfail.2⟩
      show (if e.newTag.isSome then e.newTag else c.tag) = _
      unfold TagEdit.updatedTag
      cases e.newTag with
      | none => simpa using htag
      | some t => rfl
    · rw [if_neg htag]
  have hid : ∀ c : ChannelRow, (if c.tag = some tag then e.apply c else c).id = c.id := by
    intro c
    split
    · rfl
    · rfl
  constructor
  · rintro (⟨⟨c, hmem, ha⟩, hnot⟩ | ⟨c, hcf, ha⟩)
    · refine ⟨_, (hrows _).mpr ⟨c, hmem, rfl⟩, (hkept c hmem ?_ a).mp ha⟩
      intro hcf
      exact hnot _ hcf (ha.channelId.trans (hid c).symm)
    · exact ⟨c, hsub.subset hcf, ha⟩
  · rintro ⟨c', hc', ha⟩
    by_cases hcf : c' ∈ found
    · exact .inr ⟨c', hcf, ha⟩
    · obtain ⟨c, hmem, rfl⟩ := (hrows c').mp hc'
      refine .inl ⟨⟨c, hmem, (hkept c hmem hcf a).mpr ha⟩, ?_⟩
      intro c'' hcf'' heq
      -- channels with one id are one channel
      have hsame := (db.channels.editByTag tag e).eq_of_key_eq (hsub.subset hcf'') hc'
        (heq.symm.trans ha.channelId)
      exact hcf (hsame ▸ hcf'')

theorem inv_editChannelByTag {db : ChannelDB} (h : Inv db) {tag : String} {e : TagEdit}
    {findFails : Bool} {failing : List Nat}
    (hc : Maintains db (.editChannelByTag tag e findFails failing)) :
    Inv (db.editChannelByTag tag e findFails failing).1 := by
  cases hrecreates : e.recreates with
  | true => exact inv_editRecreates h hrecreates hc
  | false =>
    unfold ChannelDB.editChannelByTag
    rw [if_neg (by simp [hrecreates])]
    exact inv_editFields h hrecreates fun c hmem htag => (hc c hmem htag).2 hrecreates

/-- Deleting channels with their abilities. -/
theorem inv_filterRows {db : ChannelDB} (h : Inv db) (keep : Nat → Bool) :
    Inv { channels := db.channels.filterRows fun c => keep c.id
          abilities := db.abilities.filterRows fun a => keep a.channelId } := by
  refine ⟨?_, ?_⟩
  · intro a
    simp only [Table.mem_filterRows]
    rw [h.projected]
    constructor
    · rintro ⟨⟨c, hmem, ha⟩, hkeep⟩
      exact ⟨c, ⟨hmem, ha.channelId ▸ hkeep⟩, ha⟩
    · rintro ⟨c, ⟨hmem, hkeep⟩, ha⟩
      exact ⟨⟨c, hmem, ha⟩, ha.channelId ▸ hkeep⟩
  · intro c hc
    exact h.distinct c (Table.mem_filterRows.mp hc).1

theorem inv_fixAbility {db : ChannelDB} (h : Inv db) : Inv db.fixAbility.1 := by
  refine ⟨?_, h.distinct⟩
  intro a
  unfold ChannelDB.fixAbility
  dsimp only
  rw [Abilities.mem_foldl_addAbilities h.distinct db.channels.nodup]
  · constructor
    · rintro (ha | ha)
      · cases ha
      · exact ha
    · exact .inr
  · intro b hb
    cases hb

/-! ### Status updates -/

/-- What a status update makes of a row: the routing fields stay apart from the status, and the
    abilities are updated when the status changes, to what it has become. -/
theorem updateChannelRow_effect {row updated : ChannelRow} {usingKey reason : String}
    {status : ChannelStatus} {now : Int} {should : Bool}
    (h : updateChannelRow row usingKey status reason now = some (updated, should)) :
    (updated.id = row.id ∧ updated.group = row.group ∧ updated.models = row.models ∧
      updated.priority = row.priority ∧ updated.weight = row.weight ∧ updated.tag = row.tag) ∧
    (should = false → updated.status = row.status) ∧
    (should = true → (updated.status = .enabled ↔ status = .enabled)) := by
  unfold updateChannelRow at h
  split at h
  · cases h
  · split at h
    · cases h
      obtain ⟨_, _, _, _, hframe, -⟩ :=
        handlerMultiKeyUpdate_frame row usingKey status reason now
      refine ⟨by rw [hframe]; exact ⟨rfl, rfl, rfl, rfl, rfl, rfl⟩, ?_, ?_⟩
      · intro hsame
        by_contra hne
        exact absurd hsame (by simpa using fun heq => hne heq.symm)
      · intro hchanged
        have hne : row.status ≠ (handlerMultiKeyUpdate row usingKey status reason now).status := by
          simpa using hchanged
        cases hi : row.keyIndex usingKey with
        | none =>
          rw [handlerMultiKeyUpdate_of_none _ _ _ hi] at hne ⊢
          by_cases hnil : row.keys = []
          · simp [hnil]
          · by_cases hk : usingKey = ""
            · simp [hnil, hk, ChannelRow.setStatus]
            · simp [hnil, hk] at hne
        | some i =>
          rw [handlerMultiKeyUpdate_status _ _ _ hi] at hne ⊢
          by_cases hen : status = .enabled
          · -- an enabled key is left, the one just enabled
            have henabled : hasEnabledMultiKey row.keys
                (row.channelInfo.setKeyStatus i status reason now) = true := by
              rw [hasEnabledMultiKey_iff]
              refine ⟨i, ?_, by rw [ChannelInfo.keyStatus_setKeyStatus, if_pos rfl, hen]⟩
              obtain ⟨hlt, -⟩ := List.findIdx?_eq_some_iff_getElem.mp hi
              exact hlt
            rw [henabled, if_neg (by decide), if_pos hen]
            exact iff_of_true rfl hen
          · split
            · simp [hen]
            · next hkept =>
              rw [if_neg hkept, if_neg hen] at hne
              exact absurd rfl hne
    · cases h
      refine ⟨⟨rfl, rfl, rfl, rfl, rfl, rfl⟩, ?_, fun _ => Iff.rfl⟩
      intro hf
      cases hf

/-- The abilities of a channel already say what the update would make them say. -/
theorem updateAbilityStatus_eq_self {db : ChannelDB} (h : Inv db) {id : Nat} {row : ChannelRow}
    (hrow : db.channels.find? id = some row) {status : Bool}
    (hstatus : (decide (row.status = .enabled)) = status) :
    db.abilities.updateAbilityStatus id status = db.abilities := by
  apply Table.mapRows_eq_self
  intro a ha
  split
  · next hid =>
    obtain ⟨c, hc, hca⟩ := (h.projected a).mp ha
    have hkey : c.id = id := hca.channelId.symm.trans hid
    have hcrow : c = row := by
      have hfind := Table.find?_of_mem hc
      rw [hkey, hrow] at hfind
      exact (Option.some.inj hfind).symm
    have henabled : a.enabled = status := by
      rw [hca.2.2, hcrow, ← hstatus]
      rfl
    rw [← henabled]
  · rfl

/-- Overwriting a row in place, with its abilities updated to what it has become. -/
theorem inv_setRow {db : ChannelDB} (h : Inv db) {row updated : ChannelRow}
    (hrow : db.channels.find? updated.id = some row) (hgroup : updated.group = row.group)
    (hmodels : updated.models = row.models) {g : Ability → Ability} {hg : ∀ a, (g a).key = a.key}
    (hself : ∀ group model, g (row.ability group model) = updated.ability group model)
    (hother : ∀ c : ChannelRow, c.id ≠ updated.id → ∀ group model,
      g (c.ability group model) = c.ability group model) :
    Inv { channels := db.channels.set updated, abilities := db.abilities.mapRows g hg } := by
  let f : ChannelRow → ChannelRow := fun c => if c.id = updated.id then updated else c
  have hf : ∀ c, (f c).id = c.id := by
    intro c
    show (if c.id = updated.id then updated else c).id = c.id
    split
    · next hid => exact hid.symm
    · rfl
  have hset : db.channels.set updated = db.channels.mapRows f hf := rfl
  have hmem : ∀ c ∈ db.channels.rows, c.id = updated.id → c = row := by
    intro c hc hid
    have hfind := Table.find?_of_mem hc
    rw [hid, hrow] at hfind
    exact (Option.some.inj hfind).symm
  rw [hset]
  apply inv_mapRows h
  · intro c hc
    show (if c.id = updated.id then updated else c).group = c.group
    split
    · next hid => rw [hmem c hc hid, hgroup]
    · rfl
  · intro c hc
    show (if c.id = updated.id then updated else c).models = c.models
    split
    · next hid => rw [hmem c hc hid, hmodels]
    · rfl
  · intro c hc group model
    show g (c.ability group model) = (if c.id = updated.id then updated else c).ability group model
    split
    · next hid => rw [hmem c hc hid, hself]
    · next hid => exact hother c hid group model

/-- A failed save, or a failed update of the abilities, meets an update that leaves the
    abilities as they are. -/
theorem status_kept {row updated : ChannelRow} {usingKey reason : String}
    {status : ChannelStatus} {now : Int} {should : Bool}
    (h : updateChannelRow row usingKey status reason now = some (updated, should))
    (hkeeps : KeepsAbilities row usingKey status reason now) (hshould : should = true) :
    status = .enabled ↔ row.status = .enabled := by
  have hne : row.status ≠ status := by
    intro heq
    simp [updateChannelRow, heq] at h
  rcases hkeeps with heq | ⟨hmulti, hkept⟩ | hiff
  · exact absurd heq hne
  · simp only [updateChannelRow, if_neg hne, hmulti, if_true, Option.some.injEq,
      Prod.mk.injEq] at h
    rw [← h.2] at hshould
    simp [hkept] at hshould
  · exact hiff

theorem failedSave_quiet {db : ChannelDB} (h : Inv db) (op : ChannelOp) (hc : Maintains db op) :
    FailedSaveQuiet db op := by
  cases op with
  | updateChannelStatus id usingKey status reason now saveFails abilitiesFail =>
    cases saveFails with
    | false => trivial
    | true =>
      show (db.updateChannelStatus id usingKey status reason now true abilitiesFail).1.abilities =
        db.abilities
      unfold ChannelDB.updateChannelStatus
      cases hrow : db.channels.find? id with
      | none => rfl
      | some row =>
        dsimp only
        cases hu : updateChannelRow row usingKey status reason now with
        | none => rfl
        | some p =>
          obtain ⟨updated, should⟩ := p
          simp only [if_true]
          split
          · next hshould =>
            simp only [Bool.and_eq_true] at hshould
            have hiff := status_kept hu (hc (.inl rfl) row hrow) hshould.1
            exact updateAbilityStatus_eq_self h hrow (decide_eq_decide.mpr hiff.symm)
          · rfl
  | _ => trivial

theorem inv_updateChannelStatus {db : ChannelDB} (h : Inv db) {id : Nat} {usingKey : String}
    {status : ChannelStatus} {reason : String} {now : Int} {saveFails abilitiesFail : Bool}
    (hc : Maintains db
      (.updateChannelStatus id usingKey status reason now saveFails abilitiesFail)) :
    Inv (db.updateChannelStatus id usingKey status reason now saveFails abilitiesFail).1 := by
  cases saveFails with
  | true =>
    have hquiet := failedSave_quiet h _ hc
    have hchannels : (db.updateChannelStatus id usingKey status reason now true
        abilitiesFail).1.channels = db.channels := by
      unfold ChannelDB.updateChannelStatus
      cases db.channels.find? id with
      | none => rfl
      | some row =>
        dsimp only
        cases updateChannelRow row usingKey status reason now with
        | none => rfl
        | some p => rfl
    have hquiet : (db.updateChannelStatus id usingKey status reason now true
        abilitiesFail).1.abilities = db.abilities := hquiet
    have heq : (db.updateChannelStatus id usingKey status reason now true abilitiesFail).1 = db := by
      cases hdb : (db.updateChannelStatus id usingKey status reason now true abilitiesFail).1
      rw [hdb] at hquiet hchannels
      simp only at hquiet hchannels
      rw [hquiet, hchannels]
    rw [heq]
    exact h
  | false =>
    unfold ChannelDB.updateChannelStatus
    cases hrow : db.channels.find? id with
    | none => exact h
    | some row =>
      dsimp only
      cases hu : updateChannelRow row usingKey status reason now with
      | none => exact h
      | some p =>
        obtain ⟨updated, should⟩ := p
        obtain ⟨⟨hid, hgroup, hmodels, hpriority, hweight, htag⟩, hkept, hchanged⟩ :=
          updateChannelRow_effect hu
        have hrowId : row.id = id := Table.find?_key hrow
        have hself : db.channels.find? updated.id = some row := by
          rw [hid, hrowId]
          exact hrow
        have hability : ∀ group model, updated.ability group model =
            { row.ability group model with enabled := updated.status = .enabled } := by
          intro group model
          unfold ChannelRow.ability
          rw [hid, hpriority, hweight, htag]
        simp only [Bool.false_eq_true, if_false]
        cases hdo : should && !abilitiesFail with
        | true =>
          simp only [Bool.and_eq_true] at hdo
          rw [if_pos rfl]
          have hiff := hchanged hdo.1
          apply inv_setRow h hself hgroup hmodels
          · intro group model
            rw [hability, if_pos (show (row.ability group model).channelId = id from hrowId),
              decide_eq_decide.mpr hiff]
          · intro c hne group model
            rw [hid, hrowId] at hne
            exact if_neg hne
        | false =>
          rw [if_neg (by decide)]
          -- the abilities stay, and so does what they say about the channel
          have hsame : decide (updated.status = .enabled) = decide (row.status = .enabled) := by
            cases should with
            | false => rw [hkept rfl]
            | true =>
              have hfail : abilitiesFail = true := by simpa using hdo
              have hiff := status_kept hu (hc (.inr hfail) row hrow) rfl
              exact decide_eq_decide.mpr ((hchanged rfl).trans hiff)
          have hmap : db.abilities = db.abilities.mapRows (fun a => a) fun _ => rfl :=
            (Table.mapRows_eq_self fun _ _ => rfl).symm
          rw [hmap]
          apply inv_setRow h hself hgroup hmodels
          · intro group model
            rw [hability, hsame]
            rfl
          · exact fun _ _ _ _ => rfl

/-! ## Every operation -/

theorem inv_step (db : ChannelDB) (op : ChannelOp) (h : Inv db) (hc : Maintains db op) :
    Inv (db.step op) := by
  cases op with
  | insert channel => exact inv_insert h hc
  | batchInsertChannels channels => exact inv_batchInsertChannels h hc
  | update id patch rereadFails => exact inv_update h hc
  | updateChannelStatus id usingKey status reason now saveFails abilitiesFail =>
    exact inv_updateChannelStatus h hc
  | enableChannelByTag tag => exact inv_setStatusByTag h tag .enabled
  | disableChannelByTag tag => exact inv_setStatusByTag h tag .manuallyDisabled
  | editChannelByTag tag e findFails failing => exact inv_editChannelByTag h hc
  | delete id => exact inv_filterRows h fun n => n ≠ id
  | batchDeleteChannels ids => exact inv_filterRows h fun n => n ∉ ids
  | fixAbility => exact inv_fixAbility h

/-- From empty tables, whatever the operations: the abilities are the projection of the channels
    throughout, and no failed save changes an ability. -/
theorem abilities_follow_channels (ops : List ChannelOp) (h : Run.Steps step Maintains {} ops) :
    Run.Always step Projected {} ops ∧ Run.Steps step FailedSaveQuiet {} ops := by
  have hinv : Run.Always step Inv {} ops :=
    Run.always_of_steps (fun db op hdb hc => inv_step db op hdb hc) inv_empty h
  refine ⟨hinv.mono fun _ hdb => hdb.projected, ?_⟩
  exact Run.Steps.mono_of_always (fun db op hdb hc => failedSave_quiet hdb op hc) hinv h

/-- Two groups, two models and a tag, disabled and edited to a weight other than zero. -/
theorem tagged_channel_follows :
    let ops : List ChannelOp :=
      [.insert { id := 1, models := "gpt-4o,claude-3", group := "default,vip", tag := some "t" },
        .disableChannelByTag "t", .editChannelByTag "t" { weight := some 5 } false []]
    Run.Always step Projected {} ops ∧ Run.Steps step FailedSaveQuiet {} ops := by
  refine abilities_follow_channels _ ⟨fun _ => by decide, trivial, ?_, trivial⟩
  intro c _ _
  exact ⟨fun h => absurd h (by decide), fun _ h => absurd h (by decide)⟩

/-- Editing a tag to weight zero leaves the weight in the abilities; and enabling a channel fails
    to save the channel, but its abilities are enabled. -/
theorem zero_weight_lost_and_failed_save_seen :
    let channel : ChannelRow := { id := 1, models := "gpt-4o", weight := 5, tag := some "t" }
    let enable : ChannelOp := .updateChannelStatus 1 "" .enabled "" 10 true false
    ¬ Run.Always step Projected {}
        [.insert channel, .editChannelByTag "t" { weight := some 0 } false []] ∧
      ¬ Run.Steps step FailedSaveQuiet {}
        [.insert { channel with status := .manuallyDisabled }, enable] := by
  refine ⟨?_, ?_⟩
  · intro h
    -- the row with the old weight belongs to no channel
    have hrow := (h.last ⟨"default", "gpt-4o", 1, true, 0, 5, some "t"⟩).mp (by decide)
    obtain ⟨c, hc, ha⟩ := hrow
    have hweight : c.weight = 5 := (congrArg Ability.weight ha.2.2).symm
    have hzero : ∀ c ∈ (Run.run step {} [.insert { id := 1, models := "gpt-4o", weight := 5, tag := some "t" },
        .editChannelByTag "t" { weight := some 0 } false []]).channels.rows, c.weight = 0 := by
      decide
    rw [hzero c hc] at hweight
    cases hweight
  · intro h
    have hquiet := congrArg (fun t : Abilities => t.rows.map (·.enabled)) h.2.1
    revert hquiet
    decide

end ChannelDB

end TokenRouter
