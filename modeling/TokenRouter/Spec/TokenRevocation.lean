import TokenRouter.ForStd.Run
import TokenRouter.Model.TokenCache

/-!
# Revoked keys in the token cache

A key is revoked when no enabled row has it any more. Whoever revokes a key starts a task that
takes its hash away or marks it; a stale task may still put the old hash back afterwards. The
invariant says that a revoked key has a harmless hash or a task pending that will make it so.

## Key results

- `inv_step`: what the safe steps keep
- `revoked_key_stays_revoked`: the run theorem
- `stale_reader_restores_key`: a reader's task after the delete
-/

namespace TokenRouter

/-! ## Rows -/

namespace KeyedTokens

/-- A row that is not deleted. -/
def Live (t : KeyedTokens) (row : TokenRow) : Prop := row ∈ t.table.rows ∧ row.deleted = false

/-- No enabled row has the key: it was deleted, disabled or given another key. -/
def Revoked (t : KeyedTokens) (key : String) : Prop :=
  ∀ row, t.Live row → row.key = key → row.status ≠ .enabled

/-- One key, one row. -/
theorem eq_of_key (t : KeyedTokens) {a b : TokenRow} (ha : a ∈ t.table.rows)
    (hb : b ∈ t.table.rows) (h : a.key = b.key) : a = b :=
  List.inj_on_of_nodup_map t.uniqueKeys ha hb h

theorem findKey_eq_some_iff (t : KeyedTokens) {key : String} {row : TokenRow} :
    t.findKey key = some row ↔ t.Live row ∧ row.key = key := by
  constructor
  · intro h
    have hprop := List.find?_some h
    simp only [Bool.and_eq_true, decide_eq_true_eq, Bool.not_eq_true'] at hprop
    exact ⟨⟨List.mem_of_find?_eq_some h, hprop.2⟩, hprop.1⟩
  · rintro ⟨⟨hmem, hlive⟩, hkey⟩
    cases hfind : t.findKey key with
    | none =>
      have hnone := List.find?_eq_none.mp hfind row hmem
      simp [hkey, hlive] at hnone
    | some row' =>
      have hprop := List.find?_some hfind
      simp only [Bool.and_eq_true, decide_eq_true_eq] at hprop
      rw [t.eq_of_key (List.mem_of_find?_eq_some hfind) hmem (hprop.1.trans hkey.symm)]

/-- The live row of an id is the one that an `UPDATE` finds. -/
theorem live?_eq_some (t : KeyedTokens) {row : TokenRow} (h : t.Live row) :
    t.table.live? row.id = some row := by
  rw [TokenTable.live?, Table.find?_of_mem h.1]
  simp [Option.filter, h.2]

/-- The rows after an `UPDATE`. -/
theorem live_write {t : KeyedTokens} {id : Nat} {f : TokenRow → TokenRow}
    (hid : ∀ row, (f row).id = row.id) (hkey : ∀ row, (f row).key = row.key) {row' : TokenRow}
    (h : (t.write id f hid hkey).Live row') :
    ∃ row, t.Live row ∧ row' = if row.id = id then f row else row := by
  obtain ⟨hmem, hlive⟩ := h
  simp only [write, TokenTable.rows_updateLive _ _ hid, List.mem_map] at hmem
  obtain ⟨row, hrow, rfl⟩ := hmem
  by_cases hd : row.deleted = false
  · exact ⟨row, ⟨hrow, hd⟩, by simp only [hd, and_true]⟩
  · -- a deleted row is left alone and stays deleted
    simp [hd] at hlive

/-- What an `UPDATE` makes of a row. -/
theorem live_of_write {t : KeyedTokens} {id : Nat} {f : TokenRow → TokenRow}
    (hid : ∀ row, (f row).id = row.id) (hkey : ∀ row, (f row).key = row.key) {row : TokenRow}
    (h : t.Live row) (hdel : row.id = id → (f row).deleted = false) :
    (t.write id f hid hkey).Live (if row.id = id then f row else row) := by
  constructor
  · simp only [write, TokenTable.rows_updateLive _ _ hid, List.mem_map]
    exact ⟨row, h.1, by simp only [h.2, and_true]⟩
  · split
    · next heq => exact hdel heq
    · exact h.2

/-- The rows after a change of key. -/
theorem live_writeKey {t t' : KeyedTokens} {id : Nat} {key : String}
    (hok : t.writeKey id key = some t') {row' : TokenRow} (h : t'.Live row') :
    ∃ row, t.Live row ∧ row' = if row.id = id then { row with key } else row := by
  unfold writeKey at hok
  dsimp only at hok
  split at hok
  · obtain rfl := Option.some.inj hok
    obtain ⟨hmem, hlive⟩ := h
    have hid : ∀ row : TokenRow, ({ row with key } : TokenRow).id = row.id := fun _ => rfl
    simp only [TokenTable.rows_updateLive _ _ hid, List.mem_map] at hmem
    obtain ⟨row, hrow, rfl⟩ := hmem
    by_cases hd : row.deleted = false
    · exact ⟨row, ⟨hrow, hd⟩, by simp only [hd, and_true]⟩
    · simp [hd] at hlive
  · exact nomatch hok

/-- Rows of other ids keep their key. -/
theorem live_of_writeKey {t t' : KeyedTokens} {id : Nat} {key : String}
    (hok : t.writeKey id key = some t') {row : TokenRow} (h : t.Live row) (hne : row.id ≠ id) :
    t'.Live row := by
  unfold writeKey at hok
  dsimp only at hok
  split at hok
  · obtain rfl := Option.some.inj hok
    have hid : ∀ row : TokenRow, ({ row with key } : TokenRow).id = row.id := fun _ => rfl
    refine ⟨?_, h.2⟩
    simp only [TokenTable.rows_updateLive _ _ hid, List.mem_map]
    exact ⟨row, h.1, by simp [hne]⟩
  · exact nomatch hok

end KeyedTokens

/-! ## Hashes and tasks -/

/-- The hash of an enabled token. -/
def CachedToken.Enabled : CachedToken → Prop
  | .complete token => token.status = .enabled
  | .quotaOnly _ => False

/-- All fields of the token of an id. -/
def CachedToken.ImageOf (id : Nat) : CachedToken → Prop
  | .complete token => token.id = id
  | .quotaOnly _ => False

/-- A task that takes the hash of a key away or marks it as not enabled. -/
def CacheTask.Clears (key : String) : CacheTask → Prop
  | .set token => token.key = key ∧ token.status ≠ .enabled
  | .delete key' => key' = key
  | .rotate oldKey token => oldKey = key ∨ (token.key = key ∧ token.status ≠ .enabled)
  | .incr _ _ => False
  | .incrChecked _ _ => False

namespace TokenCache

/-- A revoked key has no enabled hash, or a task is pending that clears it; the hash of a live
    row's key is an image of the row. -/
structure Inv (s : TokenCache) : Prop where
  covered : ∀ key, key ≠ "" → s.tokens.Revoked key →
    (∀ hash ∈ s.hashes key, ¬ hash.Enabled) ∨ ∃ task ∈ s.tasks, task.Clears key
  complete : ∀ row, s.tokens.Live row → ∀ hash ∈ s.hashes row.key, hash.ImageOf row.id

/-- A set lands under the key of its own token, and with an enabled token only while the row is
    enabled too or another task will clear the key; an increment finds its hash. -/
def SafeTask (s : TokenCache) (rest : List CacheTask) : CacheTask → Prop
  | .set token => (∀ row ∈ s.tokens.findKey token.key, row.id = token.id) ∧
      (token.status = .enabled →
        (∃ row ∈ s.tokens.findKey token.key, row.status = .enabled) ∨
          ∃ task ∈ rest, task.Clears token.key)
  | .incrChecked key _ => s.hashes key ≠ none
  | _ => True

/-- The steps that the tasks can make good again: editors find the key that they loaded, and
    tasks land in time. -/
def SafeStep (s : TokenCache) : TokenCacheEvent → Prop
  | .update copy => ∀ row ∈ s.tokens.table.live? copy.id, row.key = copy.key
  | .selectUpdate copy => ∀ row ∈ s.tokens.table.live? copy.id, row.key = copy.key
  | .delete copy => ∀ row ∈ s.tokens.table.live? copy.id, row.key = copy.key
  | .rotate copy key => (∀ row ∈ s.tokens.table.live? copy.id, row.key = copy.key) ∧
      ∀ hash ∈ s.hashes key, hash.ImageOf copy.id
  | .runTask i => ∀ task ∈ s.tasks[i]?, SafeTask s (s.tasks.eraseIdx i) task
  | _ => True

instance (id : Nat) : ∀ hash : CachedToken, Decidable (hash.ImageOf id)
  | .complete token => inferInstanceAs (Decidable (token.id = id))
  | .quotaOnly _ => inferInstanceAs (Decidable False)

instance (key : String) : ∀ task : CacheTask, Decidable (task.Clears key)
  | .set token => inferInstanceAs (Decidable (token.key = key ∧ token.status ≠ .enabled))
  | .delete key' => inferInstanceAs (Decidable (key' = key))
  | .rotate oldKey token =>
    inferInstanceAs (Decidable (oldKey = key ∨ (token.key = key ∧ token.status ≠ .enabled)))
  | .incr _ _ | .incrChecked _ _ => inferInstanceAs (Decidable False)

instance (s : TokenCache) (rest : List CacheTask) : ∀ task, Decidable (SafeTask s rest task)
  | .set token => inferInstanceAs (Decidable (
      (∀ row ∈ s.tokens.findKey token.key, row.id = token.id) ∧
        (token.status = .enabled →
          (∃ row ∈ s.tokens.findKey token.key, row.status = .enabled) ∨
            ∃ task ∈ rest, task.Clears token.key)))
  | .incrChecked key _ => inferInstanceAs (Decidable (s.hashes key ≠ none))
  | .delete _ | .rotate _ _ | .incr _ _ => inferInstanceAs (Decidable True)

instance (s : TokenCache) : ∀ e, Decidable (SafeStep s e)
  | .update copy | .selectUpdate copy | .delete copy =>
    inferInstanceAs (Decidable (∀ row ∈ s.tokens.table.live? copy.id, row.key = copy.key))
  | .rotate copy key =>
    inferInstanceAs (Decidable ((∀ row ∈ s.tokens.table.live? copy.id, row.key = copy.key) ∧
      ∀ hash ∈ s.hashes key, hash.ImageOf copy.id))
  | .runTask i =>
    inferInstanceAs (Decidable (∀ task ∈ s.tasks[i]?, SafeTask s (s.tasks.eraseIdx i) task))
  | .lookup _ | .read _ | .changeQuota _ _ _ | .expire _ => inferInstanceAs (Decidable True)

/-- Revoked keys are not accepted once the tasks are done, and no live key has a hash that is
    not a complete image of its row. -/
def KeysRevoked (s : TokenCache) : Prop :=
  (s.tasks = [] → ∀ key, s.tokens.Revoked key → ∀ now token,
    s.validateUserToken key now ≠ .ok token) ∧
  ∀ row, s.tokens.Live row → ∀ hash ∈ s.hashes row.key, hash.ImageOf row.id

/-! ## What the invariant gives -/

/-- Only an enabled token is accepted. -/
theorem enabled_of_validate {s : TokenCache} {key : String} {now : Int} {token : TokenRow}
    (h : s.validateUserToken key now = .ok token) :
    key ≠ "" ∧ s.getTokenByKey key = some token ∧ token.status = .enabled := by
  unfold validateUserToken at h
  split at h
  · exact nomatch h
  next hkey =>
  split at h
  · exact nomatch h
  next found hget =>
  split_ifs at h with h₁ h₂ h₃ h₄ h₅
  obtain rfl := Except.ok.inj h
  exact ⟨hkey, hget, by simpa using h₃⟩

theorem Inv.keysRevoked {s : TokenCache} (h : Inv s) : s.KeysRevoked := by
  refine ⟨?_, h.complete⟩
  intro hdone key hrevoked now token hok
  obtain ⟨hkey, hget, henabled⟩ := enabled_of_validate hok
  unfold getTokenByKey at hget
  cases hhash : s.hashes key with
  | some hash =>
    rw [hhash] at hget
    obtain rfl := Option.some.inj hget
    rcases h.covered key hkey hrevoked with hharmless | ⟨task, htask, -⟩
    · have hnot := hharmless hash hhash
      cases hash with
      | complete token => exact hnot henabled
      | quotaOnly remainQuota => exact nomatch henabled
    · rw [hdone] at htask
      exact nomatch htask
  | none =>
    rw [hhash] at hget
    obtain ⟨hlive, hrow⟩ := (s.tokens.findKey_eq_some_iff).mp hget
    exact hrevoked token hlive hrow henabled

/-! ## Writes -/

/-- A further task does no harm. -/
theorem Inv.start {s : TokenCache} (h : Inv s) (task : CacheTask) : Inv (s.start task) := by
  refine ⟨?_, h.complete⟩
  intro key hkey hrevoked
  rcases h.covered key hkey hrevoked with hharmless | ⟨task', htask', hclears⟩
  · exact .inl hharmless
  · exact .inr ⟨task', List.mem_append_left _ htask', hclears⟩

/-- A write to the rows of an id, with a task that clears the key if the write revokes it. -/
theorem Inv.write {s : TokenCache} (h : Inv s) {id : Nat} {f : TokenRow → TokenRow}
    (hid : ∀ row, (f row).id = row.id) (hkey : ∀ row, (f row).key = row.key) {task : CacheTask}
    (hclears : ∀ row, s.tokens.Live row → row.id = id → row.status = .enabled →
      (f row).deleted = true ∨ (f row).status ≠ .enabled → task.Clears row.key) :
    Inv ({ s with tokens := s.tokens.write id f hid hkey }.start task) := by
  constructor
  · intro key hne hrevoked
    by_cases hbefore : s.tokens.Revoked key
    · exact ((h.start task).covered key hne hbefore)
    · -- the write has revoked the key
      simp only [KeyedTokens.Revoked, not_forall, not_not] at hbefore
      obtain ⟨row, hlive, rfl, henabled⟩ := hbefore
      have hchanged : row.id = id ∧ ((f row).deleted = true ∨ (f row).status ≠ .enabled) := by
        by_contra hsame
        rw [not_and, not_or, Bool.not_eq_true, not_not] at hsame
        have hlive' := KeyedTokens.live_of_write hid hkey hlive
          fun heq => (hsame heq).1
        refine hrevoked _ hlive' ?_ ?_
        · split
          · exact hkey row
          · rfl
        · split
          · next heq => exact (hsame heq).2
          · exact henabled
      refine .inr ⟨task, ?_, hclears row hlive hchanged.1 henabled hchanged.2⟩
      exact List.mem_append_right _ (List.mem_singleton_self task)
  · intro row' hlive' hash hhash
    obtain ⟨row, hlive, rfl⟩ := KeyedTokens.live_write hid hkey hlive'
    have hsame : (if row.id = id then f row else row).key = row.key ∧
        (if row.id = id then f row else row).id = row.id := by
      split
      · exact ⟨hkey row, hid row⟩
      · exact ⟨rfl, rfl⟩
    rw [hsame.1] at hhash
    rw [hsame.2]
    exact h.complete row hlive hash hhash

/-- A change of a key, with its task. -/
theorem Inv.rotate {s : TokenCache} (h : Inv s) {copy : TokenRow} {key : String}
    (hc : SafeStep s (.rotate copy key)) : Inv (s.rotate copy key) := by
  obtain ⟨hcurrent, himage⟩ := hc
  unfold TokenCache.rotate
  split
  · exact h
  next tokens hok =>
  constructor
  · intro k hne hrevoked
    by_cases hbefore : s.tokens.Revoked k
    · exact ((h.start _).covered k hne hbefore)
    · simp only [KeyedTokens.Revoked, not_forall, not_not] at hbefore
      obtain ⟨row, hlive, rfl, henabled⟩ := hbefore
      have hid : row.id = copy.id := by
        by_contra hother
        exact hrevoked row (KeyedTokens.live_of_writeKey hok hlive hother) rfl henabled
      have hold : row.key = copy.key := hcurrent row (hid ▸ s.tokens.live?_eq_some hlive)
      exact .inr ⟨_, List.mem_append_right _ (List.mem_singleton_self _), .inl hold.symm⟩
  · intro row' hlive' hash hhash
    obtain ⟨row, hlive, rfl⟩ := KeyedTokens.live_writeKey hok hlive'
    by_cases hid : row.id = copy.id
    · simp only [if_pos hid] at hhash ⊢
      rw [hid]
      exact himage hash hhash
    · simp only [if_neg hid] at hhash ⊢
      exact h.complete row hlive hash hhash

/-! ## Tasks -/

/-- Another task survives the one that is taken from the list. -/
theorem mem_eraseIdx_of_ne {tasks : List CacheTask} {i : Nat} {a b : CacheTask}
    (ha : tasks[i]? = some a) (hb : b ∈ tasks) (hne : b ≠ a) : b ∈ tasks.eraseIdx i := by
  obtain ⟨j, hj⟩ := List.mem_iff_getElem?.mp hb
  refine List.mem_eraseIdx_iff_getElem?.mpr ⟨j, ?_, hj⟩
  rintro rfl
  exact hne (Option.some.inj (hj.symm.trans ha))

/-- Another task survives the one that goes on to its next part. -/
theorem mem_set_of_ne {tasks : List CacheTask} {i : Nat} {a b : CacheTask} (c : CacheTask)
    (ha : tasks[i]? = some a) (hb : b ∈ tasks) (hne : b ≠ a) : b ∈ tasks.set i c := by
  obtain ⟨j, hj⟩ := List.mem_iff_getElem?.mp hb
  refine List.mem_iff_getElem?.mpr ⟨j, ?_⟩
  rw [List.getElem?_set_ne, hj]
  rintro rfl
  exact hne (Option.some.inj (hj.symm.trans ha))

/-- One hash changes, to one that does no harm, and tasks that do not clear other keys end. -/
theorem Inv.setHash {s s' : TokenCache} (h : Inv s) {key : String} {hash : Option CachedToken}
    (htokens : s'.tokens = s.tokens)
    (hhashes : ∀ k, s'.hashes k = if k = key then hash else s.hashes k)
    (hkey : key ≠ "" → s.tokens.Revoked key →
      (∀ x ∈ hash, ¬ x.Enabled) ∨ ∃ task ∈ s'.tasks, task.Clears key)
    (himage : ∀ row, s.tokens.Live row → row.key = key → ∀ x ∈ hash, x.ImageOf row.id)
    (htasks : ∀ k, k ≠ key → ∀ task ∈ s.tasks, task.Clears k → ∃ task ∈ s'.tasks, task.Clears k) :
    Inv s' := by
  constructor
  · intro k hne hrevoked
    rw [htokens] at hrevoked
    rw [hhashes]
    by_cases hk : k = key
    · rw [if_pos hk, hk]
      exact hkey (hk ▸ hne) (hk ▸ hrevoked)
    · rw [if_neg hk]
      rcases h.covered k hne hrevoked with hharmless | ⟨task, htask, hclears⟩
      · exact .inl hharmless
      · exact .inr (htasks k hk task htask hclears)
  · intro row hlive x hx
    rw [htokens] at hlive
    rw [hhashes] at hx
    split at hx
    · next hk => exact himage row hlive hk x hx
    · exact h.complete row hlive x hx

/-- Only tasks change, and those that clear a key stay. -/
theorem Inv.setTasks {s s' : TokenCache} (h : Inv s) (htokens : s'.tokens = s.tokens)
    (hhashes : s'.hashes = s.hashes)
    (htasks : ∀ k, ∀ task ∈ s.tasks, task.Clears k → ∃ task ∈ s'.tasks, task.Clears k) :
    Inv s' := by
  constructor
  · intro k hne hrevoked
    rw [htokens] at hrevoked
    rw [hhashes]
    rcases h.covered k hne hrevoked with hharmless | ⟨task, htask, hclears⟩
    · exact .inl hharmless
    · exact .inr (htasks k task htask hclears)
  · rw [htokens, hhashes]
    exact h.complete

/-- An increment keeps what the hash is. -/
theorem hIncrBy_iff (hash : CachedToken) (delta : Int) (id : Nat) :
    ((CachedToken.hIncrBy delta (some hash)).Enabled ↔ hash.Enabled) ∧
      ((CachedToken.hIncrBy delta (some hash)).ImageOf id ↔ hash.ImageOf id) := by
  cases hash <;> exact ⟨Iff.rfl, Iff.rfl⟩

/-- `cacheSetToken` -/
theorem inv_runSet {s : TokenCache} (h : Inv s) {i : Nat} {token : TokenRow}
    (htask : s.tasks[i]? = some (.set token))
    (hid : ∀ row ∈ s.tokens.findKey token.key, row.id = token.id)
    (hcurrent : token.status = .enabled →
      (∃ row ∈ s.tokens.findKey token.key, row.status = .enabled) ∨
        ∃ task ∈ s.tasks.eraseIdx i, task.Clears token.key) : Inv (s.runTask i) := by
  have hrun : s.runTask i = { s with tasks := s.tasks.eraseIdx i }.setHash token.key
      (some (.complete token)) := by
    simp only [runTask, htask]
  rw [hrun]
  refine h.setHash rfl (fun _ => rfl) ?_ ?_ ?_
  · intro hne hrevoked
    by_cases henabled : token.status = .enabled
    · rcases hcurrent henabled with ⟨row, hrow, hstatus⟩ | hcleared
      · obtain ⟨hlive, hkey⟩ := s.tokens.findKey_eq_some_iff.mp hrow
        exact absurd hstatus (hrevoked row hlive hkey)
      · exact .inr hcleared
    · left
      rintro x hx
      obtain rfl := Option.some.inj hx
      exact henabled
  · intro row hlive hkey x hx
    obtain rfl := Option.some.inj hx
    exact (hid row (s.tokens.findKey_eq_some_iff.mpr ⟨hlive, hkey⟩)).symm
  · intro k hk task hmem hclears
    refine ⟨task, mem_eraseIdx_of_ne htask hmem ?_, hclears⟩
    rintro rfl
    exact hk hclears.1.symm

/-- `cacheDeleteToken` -/
theorem inv_runDelete {s : TokenCache} (h : Inv s) {i : Nat} {key : String}
    (htask : s.tasks[i]? = some (.delete key)) : Inv (s.runTask i) := by
  have hrun : s.runTask i = { s with tasks := s.tasks.eraseIdx i }.setHash key none := by
    simp only [runTask, htask]
  rw [hrun]
  refine h.setHash rfl (fun _ => rfl)
      (fun _ _ => .inl fun x hx => absurd hx (Option.not_mem_none x))
      (fun _ _ _ x hx => absurd hx (Option.not_mem_none x)) ?_
  intro k hk task hmem hclears
  refine ⟨task, mem_eraseIdx_of_ne htask hmem ?_, hclears⟩
  rintro rfl
  exact hk hclears.symm

/-- The delete of a rotation; its set is still to come. -/
theorem inv_runRotate {s : TokenCache} (h : Inv s) {i : Nat} {oldKey : String} {token : TokenRow}
    (htask : s.tasks[i]? = some (.rotate oldKey token)) : Inv (s.runTask i) := by
  have hset : CacheTask.set token ∈ s.tasks.set i (.set token) := by
    obtain ⟨hi, -⟩ := List.getElem?_eq_some_iff.mp htask
    exact List.mem_set hi _
  -- what else the rotation clears, the set clears
  have hrest : ∀ k, k ≠ oldKey → ∀ task ∈ s.tasks, task.Clears k →
      ∃ task ∈ s.tasks.set i (.set token), task.Clears k := by
    intro k hk task hmem hclears
    by_cases heq : task = .rotate oldKey token
    · subst heq
      exact ⟨_, hset, hclears.resolve_left hk.symm⟩
    · exact ⟨task, mem_set_of_ne _ htask hmem heq, hclears⟩
  by_cases hold : oldKey = ""
  · have hrun : s.runTask i = { s with tasks := s.tasks.set i (.set token) } := by
      simp [runTask, htask, hold]
    rw [hrun]
    constructor
    · intro k hne hrevoked
      rcases h.covered k hne hrevoked with hharmless | ⟨task, hmem, hclears⟩
      · exact .inl hharmless
      · exact .inr (hrest k (hold ▸ hne) task hmem hclears)
    · exact h.complete
  · have hrun : s.runTask i =
        { s with tasks := s.tasks.set i (.set token) }.setHash oldKey none := by
      simp only [runTask, htask]
      exact if_pos hold
    rw [hrun]
    exact h.setHash rfl (fun _ => rfl)
      (fun _ _ => .inl fun x hx => absurd hx (Option.not_mem_none x))
      (fun _ _ _ x hx => absurd hx (Option.not_mem_none x)) hrest

/-- `RedisHIncrBy` -/
theorem inv_runIncr {s : TokenCache} (h : Inv s) {i : Nat} {key : String} {delta : Int}
    (htask : s.tasks[i]? = some (.incr key delta)) : Inv (s.runTask i) := by
  have hother : ∀ k, ∀ task ∈ s.tasks, task.Clears k → task ≠ .incr key delta := by
    rintro k task - hclears rfl
    exact hclears
  cases hhash : s.hashes key with
  | none =>
    have hrun : s.runTask i = { s with tasks := s.tasks.eraseIdx i } := by
      simp only [runTask, htask, hhash]
    rw [hrun]
    refine h.setTasks rfl rfl ?_
    intro k task hmem hclears
    exact ⟨task, mem_eraseIdx_of_ne htask hmem (hother k task hmem hclears), hclears⟩
  | some hash =>
    have hrun : s.runTask i = { s with tasks := s.tasks.set i (.incrChecked key delta) } := by
      simp only [runTask, htask, hhash]
    rw [hrun]
    refine h.setTasks rfl rfl ?_
    intro k task hmem hclears
    exact ⟨task, mem_set_of_ne _ htask hmem (hother k task hmem hclears), hclears⟩

/-- The increment itself, of a hash that is still there. -/
theorem inv_runIncrChecked {s : TokenCache} (h : Inv s) {i : Nat} {key : String} {delta : Int}
    (htask : s.tasks[i]? = some (.incrChecked key delta)) (hhash : s.hashes key ≠ none) :
    Inv (s.runTask i) := by
  obtain ⟨hash, hhash⟩ := Option.ne_none_iff_exists'.mp hhash
  have hother : ∀ k, ∀ task ∈ s.tasks, task.Clears k → task ∈ s.tasks.eraseIdx i := by
    intro k task hmem hclears
    refine mem_eraseIdx_of_ne htask hmem ?_
    rintro rfl
    exact hclears
  have hrun : s.runTask i = { s with tasks := s.tasks.eraseIdx i }.setHash key
      (some (CachedToken.hIncrBy delta (some hash))) := by
    simp only [runTask, htask, hhash]
  rw [hrun]
  refine h.setHash rfl (fun _ => rfl) ?_ ?_ ?_
  · intro hkey hrevoked
    rcases h.covered key hkey hrevoked with hharmless | ⟨task, hmem, hclears⟩
    · left
      intro x hx henabled
      obtain rfl := Option.some.inj hx
      exact hharmless hash hhash ((hIncrBy_iff hash delta 0).1.mp henabled)
    · exact .inr ⟨task, hother key task hmem hclears, hclears⟩
  · intro row hlive hrow x hx
    obtain rfl := Option.some.inj hx
    exact (hIncrBy_iff hash delta row.id).2.mpr (h.complete row hlive hash (hrow ▸ hhash))
  · intro k hk task hmem hclears
    exact ⟨task, hother k task hmem hclears, hclears⟩

/-- What every safe step keeps. -/
theorem inv_step (s : TokenCache) (e : TokenCacheEvent) (h : Inv s) (hc : SafeStep s e) :
    Inv (s.step e) := by
  -- an editor whose copy has the key of the row clears that key
  have hclears : ∀ {copy row : TokenRow},
      (∀ row ∈ s.tokens.table.live? copy.id, row.key = copy.key) →
      s.tokens.Live row → row.id = copy.id → copy.key = row.key := by
    intro copy row hcurrent hlive hid
    exact (hcurrent row (hid ▸ s.tokens.live?_eq_some hlive)).symm
  cases e with
  | lookup key =>
    simp only [step, lookup]
    split
    · exact h
    · exact ⟨h.covered, h.complete⟩
  | read i =>
    simp only [step, read]
    split
    · exact h
    · split
      · exact ⟨h.covered, h.complete⟩
      · have hread : Inv { s with missed := s.missed.eraseIdx i } := ⟨h.covered, h.complete⟩
        exact hread.start _
  | update copy =>
    apply @Inv.write s h copy.id copy.updateColumns
    intro row hlive hid _ hchange
    refine ⟨hclears hc hlive hid, hchange.resolve_left ?_⟩
    exact Bool.eq_false_iff.mp hlive.2
  | selectUpdate copy =>
    apply @Inv.write s h copy.id copy.selectColumns
    intro row hlive hid _ hchange
    refine ⟨hclears hc hlive hid, hchange.resolve_left ?_⟩
    exact Bool.eq_false_iff.mp hlive.2
  | delete copy =>
    apply @Inv.write s h copy.id fun row => { row with deleted := true }
    intro row hlive hid _ _
    exact hclears hc hlive hid
  | rotate copy key => exact h.rotate hc
  | changeQuota id key quota =>
    apply @Inv.write s h id (TokenRow.addQuota quota)
    intro row hlive _ henabled hchange
    -- a quota change revokes nothing
    rcases hchange with hdeleted | hstatus
    · exact absurd hdeleted (Bool.eq_false_iff.mp hlive.2)
    · exact absurd henabled hstatus
  | expire key =>
    exact h.setHash rfl (fun _ => rfl)
      (fun _ _ => .inl fun x hx => absurd hx (Option.not_mem_none x))
      (fun _ _ _ x hx => absurd hx (Option.not_mem_none x))
      fun k _ task hmem hclears => ⟨task, hmem, hclears⟩
  | runTask i =>
    show Inv (s.runTask i)
    cases htask : s.tasks[i]? with
    | none =>
      simp only [runTask, htask]
      exact h
    | some task =>
      have hsafe : SafeTask s (s.tasks.eraseIdx i) task := hc task htask
      cases task with
      | set token => exact inv_runSet h htask hsafe.1 hsafe.2
      | delete key => exact inv_runDelete h htask
      | rotate oldKey token => exact inv_runRotate h htask
      | incr key delta => exact inv_runIncr h htask
      | incrChecked key delta => exact inv_runIncrChecked h htask hsafe

end TokenCache

open TokenCache in
/-- For every table of tokens and every interleaving of readers, editors, quota changes, expiry
    and their tasks whose steps are all safe: when no task is pending, no revoked key is
    accepted, and in every state the hash of a live key is a complete image of its row. -/
theorem revoked_key_stays_revoked (tokens : KeyedTokens) (es : List TokenCacheEvent)
    (hes : Run.Steps step SafeStep { tokens } es) :
    Run.Always step KeysRevoked { tokens } es := by
  have hstart : Inv { tokens } :=
    ⟨fun _ _ _ => .inl fun x hx => absurd hx (Option.not_mem_none x),
      fun _ _ x hx => absurd hx (Option.not_mem_none x)⟩
  exact (Run.always_of_steps inv_step hstart hes).mono fun s h => h.keysRevoked

/-- One token with the key `k`. -/
def keyedToken : TokenRow := { id := 1, userId := 7, key := "k", remainQuota := 100 }

def oneKey : KeyedTokens := ⟨⟨[keyedToken], by decide⟩, by decide⟩

open TokenCache in
/-- The token is cached, charged and deleted, and each task runs before the next step. -/
theorem deleted_key_stays_revoked :
    Run.Always step KeysRevoked { tokens := oneKey }
      [.lookup "k", .read 0, .runTask 0, .changeQuota 1 "k" (-30), .runTask 0, .runTask 0,
        .delete keyedToken, .runTask 0] :=
  revoked_key_stays_revoked oneKey _ (by decide)

/-- A reader misses and reads the row, the token is deleted, and the reader's set runs after the
    task of the delete. -/
def staleReader : List TokenCacheEvent :=
  [.lookup "k", .read 0, .delete keyedToken, .runTask 1, .runTask 0]

open TokenCache in
/-- The stale set restores the deleted key. -/
theorem stale_reader_restores_key :
    ¬ ∀ (tokens : KeyedTokens) (es : List TokenCacheEvent),
        Run.Always step KeysRevoked { tokens } es := by
  intro h
  have hrows : ∀ row ∈ (Run.run step { tokens := oneKey } staleReader).tokens.table.rows,
      row.deleted = true := by decide
  apply (h oneKey staleReader).last.1 (by decide) "k" _ 0 keyedToken (by decide)
  intro row hlive _
  exact absurd (hrows row hlive.1) (Bool.eq_false_iff.mp hlive.2)

end TokenRouter
