import TokenRouter.ForStd.Split
import TokenRouter.Model.TrafficProfile

/-!
# Traffic profiles partition the ledgers

A slice key joins model, tier and user with separators that model and tier may contain. As long
as no two slices share a key, every ledger is counted in the profile of its own slice.

## Key results

- `TrafficSlice.key_eq_iff`: when two slices share a key
- `mem_trafficProfilesOf`: what the profile of a slice key holds
- `written_perm`: the profiles that are returned for the ledgers
- `trafficPartition_iff`: when the profiles partition the ledgers
-/

namespace TokenRouter

open GroupFold

/-! ## Slices -/

/-- What a profile is about, besides its period. -/
structure TrafficSlice where
  modelName : String
  slaTier : String
  userId : Int
  deriving DecidableEq

/-- A ledger without a tier belongs to the default one. -/
def UsageLedger.trafficSlice (l : UsageLedger) : TrafficSlice :=
  { modelName := trimSpace l.modelName
    slaTier := normalizeTrafficProfileSlaTier l.slaTier
    userId := l.userId }

def TrafficProfileRow.trafficSlice (p : TrafficProfileRow) : TrafficSlice :=
  { modelName := p.modelName, slaTier := p.slaTier, userId := p.userId }

namespace TrafficSlice

def key (s : TrafficSlice) : String := trafficProfileSliceKey s.modelName s.slaTier s.userId

/-- Trimmed, and with a tier. -/
structure Normal (s : TrafficSlice) : Prop where
  modelName : trimSpace s.modelName = s.modelName
  slaTier : normalizeTrafficProfileSlaTier s.slaTier = s.slaTier

/-- The model of `b` goes on where that of `a` ends, with a separator and the beginning of the
    tier of `a`. -/
def RunsInto (a b : TrafficSlice) : Prop :=
  a.userId = b.userId ∧ ∃ w, b.modelName = a.modelName ++ "|sla:" ++ w ∧
    a.slaTier = w ++ "|sla:" ++ b.slaTier

variable {a b : TrafficSlice}

theorem Normal.key_toList (h : a.Normal) : a.key.toList = "model:".toList ++
    ((a.modelName.toList ++ ('|' :: "sla:".toList ++ a.slaTier.toList)) ++
      '|' :: ("user:".toList ++ a.userId.repr.toList)) := by
  unfold key trafficProfileSliceKey
  rw [h.modelName, h.slaTier]
  simp only [String.toList_append, List.append_assoc]
  rfl

/-- Two slices share a key only if they are one, or one runs into the other. -/
theorem key_eq_iff (ha : a.Normal) (hb : b.Normal) :
    a.key = b.key ↔ a = b ∨ a.RunsInto b ∨ b.RunsInto a := by
  have hbar : ∀ n : Int, '|' ∉ "user:".toList ++ n.repr.toList := by
    intro n
    rw [List.mem_append, not_or]
    exact ⟨by decide, Separator.notMem_repr (by decide) (by decide) n⟩
  have hsep : '|' ∉ "sla:".toList := by decide
  have htext : ∀ x y : String, x.toList ++ ('|' :: "sla:".toList ++ y.toList) =
      (x ++ "|sla:" ++ y).toList := by
    intro x y
    simp only [String.toList_append, List.append_assoc]
    rfl
  have hofList : ∀ ws : List Char, ws = (String.ofList ws).toList := fun ws => by simp
  rw [← String.toList_inj, ha.key_toList, hb.key_toList, List.append_right_inj]
  constructor
  · intro h
    obtain ⟨hparts, huser⟩ := Separator.append_cons_inj_of_notMem (hbar _) (hbar _) h
    have huserId : a.userId = b.userId := by
      rwa [List.append_right_inj, String.toList_inj, Int.repr_inj] at huser
    rcases (Separator.append_separator_eq_iff hsep).mp hparts with ⟨hm, ht⟩ | ⟨ws, hm, ht⟩ |
      ⟨ws, hm, ht⟩
    · left
      cases a
      cases b
      cases String.toList_inj.mp hm
      cases String.toList_inj.mp ht
      cases huserId
      rfl
    · rw [hofList ws, htext, String.toList_inj] at hm ht
      exact .inr (.inl ⟨huserId, _, hm, ht⟩)
    · rw [hofList ws, htext, String.toList_inj] at hm ht
      exact .inr (.inr ⟨huserId.symm, _, hm, ht⟩)
  · rintro (rfl | ⟨huser, w, hm, ht⟩ | ⟨huser, w, hm, ht⟩)
    · rfl
    · rw [huser]
      congr 1
      refine (Separator.append_separator_eq_iff hsep).mpr (.inr (.inl ⟨w.toList, ?_, ?_⟩))
      · rw [htext, hm]
      · rw [htext, ht]
    · rw [huser]
      congr 1
      refine (Separator.append_separator_eq_iff hsep).mpr (.inr (.inr ⟨w.toList, ?_, ?_⟩))
      · rw [htext, hm]
      · rw [htext, ht]

end TrafficSlice

theorem normalizeTrafficProfileSlaTier_idem (value : String) :
    normalizeTrafficProfileSlaTier (normalizeTrafficProfileSlaTier value) =
      normalizeTrafficProfileSlaTier value := by
  unfold normalizeTrafficProfileSlaTier
  by_cases h : trimSpace value = ""
  · rw [if_pos h]
    decide
  · rw [if_neg h, trimSpace_trimSpace, if_neg h]

theorem UsageLedger.trafficSlice_slaTier (l : UsageLedger) :
    l.trafficSlice.slaTier = normalizeTrafficProfileSlaTier l.slaTier := by
  dsimp only [UsageLedger.trafficSlice]

theorem UsageLedger.trafficSlice_normal (l : UsageLedger) : l.trafficSlice.Normal := by
  constructor
  · exact trimSpace_trimSpace l.modelName
  · rw [l.trafficSlice_slaTier]
    exact normalizeTrafficProfileSlaTier_idem l.slaTier

theorem UsageLedger.sliceKey_eq (l : UsageLedger) : l.sliceKey = l.trafficSlice.key := by
  dsimp only [UsageLedger.sliceKey, TrafficSlice.key, UsageLedger.trafficSlice]

theorem mem_selectTrafficLedgers {input : TrafficProfileGenerateInput} {ledgers : List UsageLedger}
    {l : UsageLedger} : l ∈ selectTrafficLedgers input ledgers ↔ l ∈ ledgers ∧ input.selects l := by
  unfold selectTrafficLedgers
  rw [(List.mergeSort_perm _ _).mem_iff, List.mem_filter]

/-! ## The accumulator of a slice -/

/-- The tokens of a list of ledgers. -/
def totalTokens (ls : List UsageLedger) : Int := (ls.map UsageLedger.requestTokens).sum

/-- The entries of the hours. -/
def hourTokensOf (ls : List UsageLedger) : List (Int × Int) :=
  groupFold UsageLedger.hourBucket (fun _ => 0) (fun tokens l => tokens + l.requestTokens) ls

theorem foldl_tokens (ls : List UsageLedger) (n : Int) :
    ls.foldl (fun tokens l => tokens + l.requestTokens) n = n + totalTokens ls := by
  induction ls generalizing n with
  | nil => simp [totalTokens]
  | cons l ls ih =>
    rw [List.foldl_cons, ih]
    simp [totalTokens, add_assoc]

theorem newTrafficProfileAccumulator_slice (input : TrafficProfileGenerateInput) (l : UsageLedger) :
    (newTrafficProfileAccumulator input l).profile.trafficSlice = l.trafficSlice := by
  dsimp only [newTrafficProfileAccumulator, TrafficProfileRow.trafficSlice,
    UsageLedger.trafficSlice]

/-- What the loop adds up over the ledgers of one accumulator. -/
theorem foldl_add (ls : List UsageLedger) (acc : TrafficProfileAccumulator) :
    (ls.foldl TrafficProfileAccumulator.add acc).profile.requestCount =
        acc.profile.requestCount + ls.length ∧
      (ls.foldl TrafficProfileAccumulator.add acc).profile.demandTokens =
        acc.profile.demandTokens + totalTokens ls ∧
      (ls.foldl TrafficProfileAccumulator.add acc).hourTokens =
        ls.foldl addHourTokens acc.hourTokens ∧
      (ls.foldl TrafficProfileAccumulator.add acc).profile.trafficSlice =
        acc.profile.trafficSlice ∧
      (ls.foldl TrafficProfileAccumulator.add acc).profile.conflictKey =
        acc.profile.conflictKey := by
  induction ls generalizing acc with
  | nil => simp [totalTokens]
  | cons l ls ih =>
    obtain ⟨hcount, hdemand, hhours, hslice, hkey⟩ := ih (acc.add l)
    rw [List.foldl_cons, hcount, hdemand, hhours, hslice, hkey]
    refine ⟨?_, ?_, rfl, rfl, rfl⟩
    · show acc.profile.requestCount + 1 + ls.length = acc.profile.requestCount + (ls.length + 1 : Nat)
      omega
    · show acc.profile.demandTokens + l.requestTokens + totalTokens ls = _
      simp [totalTokens, add_assoc]

/-- A profile of the ledgers `g`. -/
structure ProfileOf (input : TrafficProfileGenerateInput) (g : List UsageLedger)
    (p : TrafficProfileRow) : Prop where
  period : p.periodStart = input.periodStart ∧ p.periodEnd = input.periodEnd
  slice : ∃ l ∈ g, p.trafficSlice = l.trafficSlice
  requestCount : p.requestCount = g.length
  demandTokens : p.demandTokens = totalTokens g
  peakTokens : p.peakTokens = peakOf (hourTokensOf g)

variable {input : TrafficProfileGenerateInput} {capacities : List SupplyCapacity}
  {ls : List UsageLedger}

/-- There is one profile for each slice key, of the ledgers with this key. -/
theorem mem_trafficProfilesOf {p : TrafficProfileRow}
    (hp : p ∈ trafficProfilesOf input capacities ls) :
    p.sliceKey ∈ ls.map UsageLedger.sliceKey ∧
      ProfileOf input (group UsageLedger.sliceKey ls p.sliceKey) p := by
  obtain ⟨e, he, rfl⟩ := List.mem_map.mp hp
  obtain ⟨l, rest, hgroup, hacc⟩ := mem_groupFold.mp he
  obtain ⟨hcount, hdemand, hhours, hslice, hkey⟩ :=
    foldl_add (l :: rest) (newTrafficProfileAccumulator input l)
  rw [← hacc] at hcount hdemand hhours hslice hkey
  rw [newTrafficProfileAccumulator_slice] at hslice
  have hl : l ∈ group UsageLedger.sliceKey ls e.1 := by
    rw [hgroup]
    exact List.mem_cons_self
  obtain ⟨hmem, hkeyl⟩ := List.mem_filter.mp hl
  have hsliceKey : e.2.profile.sliceKey = e.1 :=
    (congrArg Prod.fst hkey).trans (of_decide_eq_true hkeyl)
  show e.2.profile.sliceKey ∈ _ ∧
    ProfileOf input (group UsageLedger.sliceKey ls e.2.profile.sliceKey) _
  rw [hsliceKey]
  refine ⟨?_, ?_, ⟨l, hl, hslice⟩, ?_, ?_, ?_⟩
  · rw [← of_decide_eq_true hkeyl]
    exact List.mem_map_of_mem hmem
  · have hperiod := congrArg Prod.snd hkey
    exact ⟨congrArg Prod.fst hperiod, congrArg Prod.snd hperiod⟩
  · show e.2.profile.requestCount = _
    rw [hcount, hgroup]
    exact zero_add _
  · show e.2.profile.demandTokens = _
    rw [hdemand, hgroup]
    exact zero_add _
  · show peakOf e.2.hourTokens = _
    rw [hhours, hgroup]
    rfl

theorem trafficProfilesOf_keys (input : TrafficProfileGenerateInput)
    (capacities : List SupplyCapacity) (ls : List UsageLedger) :
    ((trafficProfilesOf input capacities ls).map fun p => p.sliceKey).Nodup ∧
      ∀ k ∈ ls.map UsageLedger.sliceKey,
        k ∈ (trafficProfilesOf input capacities ls).map fun p => p.sliceKey := by
  have hfold := groupFold_spec UsageLedger.sliceKey (newTrafficProfileAccumulator input)
    TrafficProfileAccumulator.add ls
  -- the key of an accumulator is the slice key of its profile
  have hkeys : ((trafficProfilesOf input capacities ls).map fun p => p.sliceKey) =
      (trafficProfileAccumulators input ls).map Prod.fst := by
    unfold trafficProfilesOf
    rw [List.map_map]
    refine List.map_congr_left fun e he => ?_
    obtain ⟨l, rest, hgroup, hacc⟩ := mem_groupFold.mp he
    obtain ⟨-, -, -, -, hkey⟩ := foldl_add (l :: rest) (newTrafficProfileAccumulator input l)
    rw [← hacc] at hkey
    have hl : l ∈ group UsageLedger.sliceKey ls e.1 := by
      rw [hgroup]
      exact List.mem_cons_self
    exact (congrArg Prod.fst hkey).trans (of_decide_eq_true (List.mem_filter.mp hl).2)
  rw [hkeys]
  exact ⟨hfold.nodup, fun k hk => (hfold.mem_keys k).mpr hk⟩

/-- The demands add up to the tokens of all ledgers. -/
theorem sum_demandTokens (input : TrafficProfileGenerateInput) (capacities : List SupplyCapacity)
    (ls : List UsageLedger) :
    ((trafficProfilesOf input capacities ls).map fun p => p.demandTokens).sum = totalTokens ls := by
  unfold trafficProfilesOf totalTokens
  rw [List.map_map]
  exact sum_groupFold (f := fun acc : TrafficProfileAccumulator => acc.profile.demandTokens)
    (fun _ => rfl) (fun _ _ => rfl) ls

/-! ## Peaks -/

theorem foldl_peak_le {hours : List (Int × Int)} {n m : Int} :
    hours.foldl (fun peak e => if e.2 > peak then e.2 else peak) n ≤ m ↔
      n ≤ m ∧ ∀ e ∈ hours, e.2 ≤ m := by
  induction hours generalizing n with
  | nil => simp
  | cons e hours ih =>
    rw [List.foldl_cons, ih, List.forall_mem_cons]
    split
    · constructor
      · intro h
        exact ⟨by omega, h.1, h.2⟩
      · intro h
        exact ⟨h.2.1, h.2.2⟩
    · constructor
      · intro h
        exact ⟨h.1, by omega, h.2⟩
      · intro h
        exact ⟨h.1, h.2.2⟩

theorem peakOf_le_iff {hours : List (Int × Int)} {m : Int} :
    peakOf hours ≤ m ↔ 0 ≤ m ∧ ∀ e ∈ hours, e.2 ≤ m :=
  foldl_peak_le

/-- The tokens of one hour. -/
theorem mem_hourTokensOf {ls : List UsageLedger} {e : Int × Int} (he : e ∈ hourTokensOf ls) :
    e.1 ∈ ls.map UsageLedger.hourBucket ∧
      e.2 = totalTokens (group UsageLedger.hourBucket ls e.1) := by
  obtain ⟨l, rest, hgroup, hfold⟩ := mem_groupFold.mp he
  rw [foldl_tokens, zero_add, ← hgroup] at hfold
  refine ⟨?_, hfold⟩
  exact ((groupFold_spec _ _ _ ls).mem_keys e.1).mp (List.mem_map_of_mem he)

theorem exists_mem_hourTokensOf {ls : List UsageLedger} {hour : Int}
    (h : hour ∈ ls.map UsageLedger.hourBucket) :
    (hour, totalTokens (group UsageLedger.hourBucket ls hour)) ∈ hourTokensOf ls := by
  obtain ⟨e, he, rfl⟩ := List.mem_map.mp (((groupFold_spec UsageLedger.hourBucket (fun _ => 0)
    (fun tokens l => tokens + l.requestTokens) ls).mem_keys hour).mpr h)
  rw [← (mem_hourTokensOf he).2]
  exact he

/-- No hour takes more than the whole: the tokens outside an hour are not negative, nor is
    the sum of all. -/
def TokensSpread (ls : List UsageLedger) : Prop :=
  0 ≤ totalTokens ls ∧ ∀ l ∈ ls,
    0 ≤ totalTokens (ls.filter fun l' => l'.hourBucket ≠ l.hourBucket)

theorem totalTokens_filter_add (ls : List UsageLedger) (hour : Int) :
    totalTokens (group UsageLedger.hourBucket ls hour) +
      totalTokens (ls.filter fun l' => l'.hourBucket ≠ hour) = totalTokens ls := by
  unfold totalTokens group
  induction ls with
  | nil => rfl
  | cons l ls ih =>
    by_cases h : l.hourBucket = hour
    · rw [List.filter_cons_of_pos (by simpa using h), List.filter_cons_of_neg (by simpa using h),
        List.map_cons, List.map_cons, List.sum_cons, List.sum_cons]
      omega
    · rw [List.filter_cons_of_neg (by simpa using h), List.filter_cons_of_pos (by simpa using h),
        List.map_cons, List.map_cons, List.sum_cons, List.sum_cons]
      omega

theorem peak_le_demand_iff (ls : List UsageLedger) :
    peakOf (hourTokensOf ls) ≤ totalTokens ls ↔ TokensSpread ls := by
  rw [peakOf_le_iff]
  refine and_congr_right fun _ => ?_
  constructor
  · intro h l hl
    have hle := h _ (exists_mem_hourTokensOf (List.mem_map_of_mem hl))
    have hsum := totalTokens_filter_add ls l.hourBucket
    dsimp only at hle
    omega
  · intro h e he
    obtain ⟨hmem, hfold⟩ := mem_hourTokensOf he
    obtain ⟨l, hl, hhour⟩ := List.mem_map.mp hmem
    have hle := h l hl
    have hsum := totalTokens_filter_add ls e.1
    rw [hhour] at hle
    rw [hfold]
    omega

/-- The hours with a ledger. -/
def activeHours (ls : List UsageLedger) : Nat := (ls.map UsageLedger.hourBucket).dedup.length

/-- The peak is at least the average over the active hours. -/
theorem average_le_peak (ls : List UsageLedger) :
    (totalTokens ls : ℚ) / activeHours ls ≤ peakOf (hourTokensOf ls) := by
  have hpeak := peakOf_le_iff.mp (le_refl (peakOf (hourTokensOf ls)))
  have hsum : ((hourTokensOf ls).map fun e => e.2).sum = totalTokens ls :=
    sum_groupFold (f := fun tokens => tokens) (fun _ => rfl) (fun _ _ => rfl) ls
  have hlength : (hourTokensOf ls).length = activeHours ls := length_groupFold ls
  have hle : totalTokens ls ≤ activeHours ls * peakOf (hourTokensOf ls) := by
    rw [← hsum, ← hlength]
    have hbound : ∀ x ∈ (hourTokensOf ls).map (fun e => e.2), x ≤ peakOf (hourTokensOf ls) := by
      intro x hx
      obtain ⟨e, he, rfl⟩ := List.mem_map.mp hx
      exact hpeak.2 e he
    have := List.sum_le_card_nsmul _ _ hbound
    simpa using this
  rcases Nat.eq_zero_or_pos (activeHours ls) with hzero | hpos
  · rw [hzero, Nat.cast_zero, div_zero]
    exact_mod_cast hpeak.1
  · rw [div_le_iff₀ (by exact_mod_cast hpos)]
    have : (totalTokens ls : ℚ) ≤ activeHours ls * peakOf (hourTokensOf ls) := by
      exact_mod_cast hle
    linarith

/-! ## The table -/

/-- What `GenerateTrafficProfiles` keeps of the table. -/
structure TrafficProfilesWF (table : TrafficProfiles) : Prop where
  unique : table.UniqueOn TrafficProfileRow.conflictKey
  keyed : ∀ p ∈ table.rows, p.sliceKey = p.trafficSlice.key
  normal : ∀ p ∈ table.rows, p.trafficSlice.Normal

theorem trafficProfiles_keyColumn :
    Table.KeyColumn (fun p : TrafficProfileRow => p.id) TrafficProfileRow.conflictKey
      TrafficProfileRow.withId :=
  ⟨fun _ _ => rfl, fun _ _ => rfl, fun _ _ _ => rfl⟩

/-- The ledgers of one slice key are never without a profile of their own period. -/
theorem trafficProfilesOf_conflictKey {p : TrafficProfileRow}
    (hp : p ∈ trafficProfilesOf input capacities ls) :
    p.conflictKey = (p.sliceKey, input.periodStart, input.periodEnd) := by
  obtain ⟨hstart, hend⟩ := (mem_trafficProfilesOf hp).2.period
  unfold TrafficProfileRow.conflictKey
  rw [hstart, hend]

theorem trafficProfilesOf_nodup (input : TrafficProfileGenerateInput)
    (capacities : List SupplyCapacity) (ls : List UsageLedger) :
    ((trafficProfilesOf input capacities ls).map TrafficProfileRow.conflictKey).Nodup := by
  have hkeys := (trafficProfilesOf_keys input capacities ls).1
  refine List.Nodup.of_map Prod.fst ?_
  rw [List.map_map]
  exact hkeys

/-- The profile of a ledger meets the filter that selected the ledger. -/
theorem selectsProfile_of_selects {l : UsageLedger} {p : TrafficProfileRow}
    (hl : input.selects l) (hslice : p.trafficSlice = l.trafficSlice)
    (hperiod : p.periodStart = input.periodStart ∧ p.periodEnd = input.periodEnd) :
    input.selectsProfile p := by
  have hmodel : p.modelName = trimSpace l.modelName := congrArg TrafficSlice.modelName hslice
  have htier : p.slaTier = normalizeTrafficProfileSlaTier l.slaTier := by
    rw [← l.trafficSlice_slaTier, ← hslice]
    rfl
  have huser : p.userId = l.userId := congrArg TrafficSlice.userId hslice
  unfold TrafficProfileGenerateInput.selects at hl
  unfold TrafficProfileGenerateInput.selectsProfile
  simp only [Bool.and_eq_true, Bool.or_eq_true, decide_eq_true_eq] at hl ⊢
  obtain ⟨⟨⟨-, hmodelName⟩, hslaTier⟩, huserId⟩ := hl
  refine ⟨⟨⟨hperiod, ?_⟩, ?_⟩, ?_⟩
  · refine hmodelName.imp_right fun h => ?_
    rw [hmodel, h, trimSpace_trimSpace]
  · refine hslaTier.imp_right fun h => ?_
    rw [htier]
    split at h
    · next hdefault =>
      rw [hdefault]
      simp only [Bool.or_eq_true, decide_eq_true_eq] at h
      rcases h with h | h
      · rw [h, hdefault]
        decide
      · rw [h]
        decide
    · rw [of_decide_eq_true h, normalizeTrafficProfileSlaTier_idem]
  · exact huserId.imp_right fun h => huser.trans h

variable {order : List TrafficProfileRow → List TrafficProfileRow} {ledgers : List UsageLedger}
  {table table' : TrafficProfiles} {results : List TrafficProfileRow}

/-- The profiles of a call: those that are returned for the slice key of a ledger. The others
    are rows that earlier calls have left in the period. -/
def writtenFor (ls : List UsageLedger) (results : List TrafficProfileRow) :
    List TrafficProfileRow :=
  results.filter fun p => p.sliceKey ∈ ls.map UsageLedger.sliceKey

/-- What a call that succeeds does. -/
theorem generateTrafficProfiles_ok (horder : ∀ ps, (order ps).Perm ps)
    (hwf : TrafficProfilesWF table)
    (h : generateTrafficProfiles order ledgers capacities table input = .ok (results, table')) :
    Table.Upserted TrafficProfileRow.conflictKey TrafficProfileRow.withId table
        (order (trafficProfilesOf input capacities (selectTrafficLedgers input ledgers))) table' ∧
      (selectTrafficLedgers input ledgers ≠ [] →
        results.Perm (table'.rows.filter input.selectsProfile)) ∧
      (selectTrafficLedgers input ledgers = [] → results = []) := by
  have hnodup : ((order (trafficProfilesOf input capacities
      (selectTrafficLedgers input ledgers))).map TrafficProfileRow.conflictKey).Nodup :=
    ((horder _).map _).nodup_iff.mpr (trafficProfilesOf_nodup _ _ _)
  have hspec := Table.upsertAll_spec trafficProfiles_keyColumn hwf.unique hnodup
  unfold generateTrafficProfiles at h
  cases hvalid : validateTrafficProfileGenerateInput input with
  | error e =>
    rw [hvalid] at h
    cases h
  | ok _ =>
    rw [hvalid] at h
    change (if selectTrafficLedgers input ledgers = [] then _ else _) = _ at h
    split at h
    · next hempty =>
      cases h
      have hnone : order (trafficProfilesOf input capacities (selectTrafficLedgers input ledgers))
          = [] := by
        rw [hempty]
        exact List.perm_nil.mp (horder [])
      rw [hnone] at hspec ⊢
      exact ⟨hspec, fun hne => absurd hempty hne, fun _ => rfl⟩
    · next hne =>
      cases h
      exact ⟨hspec, fun _ => List.mergeSort_perm _ _, fun hempty => absurd hempty hne⟩

/-- A profile that a call returns for its ledgers is a profile of theirs, under some id. -/
theorem mem_writtenFor (horder : ∀ ps, (order ps).Perm ps) (hwf : TrafficProfilesWF table)
    (h : generateTrafficProfiles order ledgers capacities table input = .ok (results, table'))
    {p : TrafficProfileRow}
    (hp : p ∈ writtenFor (selectTrafficLedgers input ledgers) results) :
    p ∈ table'.rows ∧ ∃ q ∈ trafficProfilesOf input capacities (selectTrafficLedgers input ledgers),
      ∃ n, p = q.withId n := by
  obtain ⟨hspec, hresults, hempty⟩ := generateTrafficProfiles_ok horder hwf h
  obtain ⟨hmem, hkey⟩ := List.mem_filter.mp hp
  have hkey := of_decide_eq_true hkey
  have hne : selectTrafficLedgers input ledgers ≠ [] := by
    intro hnil
    rw [hnil] at hkey
    exact List.not_mem_nil hkey
  obtain ⟨hrow, hselects⟩ := List.mem_filter.mp ((hresults hne).mem_iff.mp hmem)
  refine ⟨hrow, ?_⟩
  rcases hspec.mem p hrow with ⟨-, hnot⟩ | ⟨q, hq, n, rfl⟩
  · -- a row of the period with the slice key of a ledger is one that the call writes
    exfalso
    apply hnot
    obtain ⟨q, hq, hqkey⟩ := List.mem_map.mp
      ((trafficProfilesOf_keys input capacities _).2 p.sliceKey hkey)
    rw [List.mem_map]
    refine ⟨q, (horder _).mem_iff.mpr hq, ?_⟩
    unfold TrafficProfileGenerateInput.selectsProfile at hselects
    simp only [Bool.and_eq_true, decide_eq_true_eq] at hselects
    obtain ⟨⟨⟨⟨hstart, hend⟩, -⟩, -⟩, -⟩ := hselects
    rw [trafficProfilesOf_conflictKey hq, hqkey, TrafficProfileRow.conflictKey, hstart, hend]
  · exact ⟨q, (horder _).mem_iff.mp hq, n, rfl⟩

/-- Every profile of the ledgers is returned. -/
theorem exists_mem_writtenFor (horder : ∀ ps, (order ps).Perm ps) (hwf : TrafficProfilesWF table)
    (h : generateTrafficProfiles order ledgers capacities table input = .ok (results, table'))
    {q : TrafficProfileRow}
    (hq : q ∈ trafficProfilesOf input capacities (selectTrafficLedgers input ledgers)) :
    ∃ n, q.withId n ∈ writtenFor (selectTrafficLedgers input ledgers) results := by
  obtain ⟨hspec, hresults, -⟩ := generateTrafficProfiles_ok horder hwf h
  obtain ⟨hkey, hprofile⟩ := mem_trafficProfilesOf hq
  obtain ⟨n, hn⟩ := hspec.written q ((horder _).mem_iff.mpr hq)
  have hne : selectTrafficLedgers input ledgers ≠ [] := by
    intro hnil
    rw [hnil] at hkey
    exact List.not_mem_nil hkey
  obtain ⟨l, hl, hslice⟩ := hprofile.slice
  have hselects := (mem_selectTrafficLedgers.mp (List.mem_of_mem_filter hl)).2
  refine ⟨n, List.mem_filter.mpr ⟨(hresults hne).mem_iff.mpr (List.mem_filter.mpr ⟨hn, ?_⟩),
    decide_eq_true hkey⟩⟩
  exact selectsProfile_of_selects hselects hslice hprofile.period

/-- The profiles that are returned for the ledgers are theirs, up to ids. -/
theorem written_perm (horder : ∀ ps, (order ps).Perm ps) (hwf : TrafficProfilesWF table)
    (h : generateTrafficProfiles order ledgers capacities table input = .ok (results, table')) :
    ((writtenFor (selectTrafficLedgers input ledgers) results).map fun p => p.withId 0).Perm
      ((trafficProfilesOf input capacities (selectTrafficLedgers input ledgers)).map
        fun p => p.withId 0) := by
  obtain ⟨hspec, hresults, hempty⟩ := generateTrafficProfiles_ok horder hwf h
  by_cases hne : selectTrafficLedgers input ledgers = []
  · rw [hempty hne, hne]
    exact List.Perm.nil
  have hnodup : ((order (trafficProfilesOf input capacities
      (selectTrafficLedgers input ledgers))).map TrafficProfileRow.conflictKey).Nodup :=
    ((horder _).map _).nodup_iff.mpr (trafficProfilesOf_nodup _ _ _)
  have hwritten : (writtenFor (selectTrafficLedgers input ledgers) results).Nodup :=
    List.Nodup.filter _ ((hresults hne).nodup_iff.mpr
      (List.Nodup.filter _ (List.Nodup.of_map _ table'.nodup)))
  refine (hspec.perm trafficProfiles_keyColumn hnodup hwritten ?_ 0).trans ((horder _).map _)
  intro p
  constructor
  · intro hp
    obtain ⟨hrow, q, hq, n, rfl⟩ := mem_writtenFor horder hwf h hp
    have hq' := (horder _).mem_iff.mpr hq
    exact ⟨hrow, List.mem_map.mpr ⟨q, hq', rfl⟩⟩
  · rintro ⟨hrow, hkey⟩
    obtain ⟨q, hq, hqkey⟩ := List.mem_map.mp hkey
    obtain ⟨n, hn⟩ := exists_mem_writtenFor horder hwf h ((horder _).mem_iff.mp hq)
    have hsame : q.withId n = p :=
      hspec.unique _ (mem_writtenFor horder hwf h hn).1 _ hrow hqkey
    exact hsame ▸ hn

/-! ## The partition -/

/-- The slices of the ledgers and those of earlier profiles of the period. -/
def slicesOf (input : TrafficProfileGenerateInput) (ls : List UsageLedger)
    (table : TrafficProfiles) : List TrafficSlice :=
  ls.map UsageLedger.trafficSlice ++ (table.rows.filter fun p =>
    p.periodStart = input.periodStart ∧ p.periodEnd = input.periodEnd).map
      TrafficProfileRow.trafficSlice

theorem trafficSlice_mem_slicesOf {l : UsageLedger} (hl : l ∈ ls) (table : TrafficProfiles) :
    l.trafficSlice ∈ slicesOf input ls table :=
  List.mem_append_left _ (List.mem_map_of_mem hl)

/-- The ledgers of a slice. -/
def ofSlice (ls : List UsageLedger) (s : TrafficSlice) : List UsageLedger :=
  ls.filter fun l => l.trafficSlice = s

/-- The profiles `written` partition the ledgers `ls`. -/
structure TrafficPartition (ls : List UsageLedger) (slices : List TrafficSlice)
    (written : List TrafficProfileRow) : Prop where
  exactlyOne : ∀ l ∈ ls, ∃! p, p ∈ written ∧ p.trafficSlice = l.trafficSlice
  contributions : ∀ p ∈ written,
    ofSlice ls p.trafficSlice ≠ [] ∧ p.requestCount = (ofSlice ls p.trafficSlice).length ∧
      p.demandTokens = totalTokens (ofSlice ls p.trafficSlice)
  total : (written.map fun p => p.demandTokens).sum = totalTokens ls
  peak : ∀ p ∈ written, p.peakTokens ≤ p.demandTokens
  average : ∀ p ∈ written,
    (p.demandTokens : ℚ) / activeHours (ofSlice ls p.trafficSlice) ≤ p.peakTokens
  apart : ∀ s ∈ slices, ∀ s' ∈ slices, s.key = s'.key → s = s'

/-- No slice runs into another, and no hour of a slice takes more than the whole. -/
structure SlicesApart (ls : List UsageLedger) (slices : List TrafficSlice) : Prop where
  apart : ∀ s ∈ slices, ∀ s' ∈ slices, ¬ s.RunsInto s'
  spread : ∀ l ∈ ls, TokensSpread (ofSlice ls l.trafficSlice)

theorem TrafficSlice.RunsInto.length_lt {a b : TrafficSlice} (h : a.RunsInto b) :
    a.modelName.length < b.modelName.length := by
  obtain ⟨-, w, hmodel, -⟩ := h
  have hlength := congrArg String.length hmodel
  rw [String.length_append, String.length_append] at hlength
  have : "|sla:".length = 5 := by decide
  omega

/-- Counts that are not negative are spread. -/
theorem tokensSpread_of_nonneg (h : ∀ l ∈ ls, 0 ≤ l.requestTokens) : TokensSpread ls := by
  have hsum : ∀ g ⊆ ls, 0 ≤ totalTokens g := by
    intro g hg
    refine List.sum_nonneg fun x hx => ?_
    obtain ⟨l, hl, rfl⟩ := List.mem_map.mp hx
    exact h l (hg hl)
  exact ⟨hsum ls (List.Subset.refl ls), fun l _ => hsum _ (List.filter_subset_self ls)⟩

theorem sliceKey_inj_of_apart (h : ∀ s ∈ slicesOf input ls table,
      ∀ s' ∈ slicesOf input ls table, s.key = s'.key → s = s') :
    ∀ l ∈ ls, ∀ l' ∈ ls, l.sliceKey = l'.sliceKey → l.trafficSlice = l'.trafficSlice := by
  intro l hl l' hl' hkey
  rw [l.sliceKey_eq, l'.sliceKey_eq] at hkey
  exact h _ (trafficSlice_mem_slicesOf hl table) _ (trafficSlice_mem_slicesOf hl' table) hkey

/-- Where slices with one key are one, the ledgers of a key are those of a slice. -/
theorem group_sliceKey_eq (hinj : ∀ l ∈ ls, ∀ l' ∈ ls, l.sliceKey = l'.sliceKey →
    l.trafficSlice = l'.trafficSlice) {l : UsageLedger} (hl : l ∈ ls) :
    group UsageLedger.sliceKey ls l.sliceKey = ofSlice ls l.trafficSlice := by
  refine List.filter_congr fun l' hl' => ?_
  rw [decide_eq_decide]
  constructor
  · exact hinj l' hl' l hl
  · intro hslice
    rw [UsageLedger.sliceKey_eq, hslice, UsageLedger.sliceKey_eq]

/-- What holds of the profiles of a call when slices with one key are one. -/
theorem written_profileOf (horder : ∀ ps, (order ps).Perm ps) (hwf : TrafficProfilesWF table)
    (h : generateTrafficProfiles order ledgers capacities table input = .ok (results, table'))
    (hinj : ∀ l ∈ selectTrafficLedgers input ledgers, ∀ l' ∈ selectTrafficLedgers input ledgers,
      l.sliceKey = l'.sliceKey → l.trafficSlice = l'.trafficSlice) :
    ∀ p ∈ writtenFor (selectTrafficLedgers input ledgers) results,
      ProfileOf input (ofSlice (selectTrafficLedgers input ledgers) p.trafficSlice) p := by
  intro p hp
  obtain ⟨-, q, hq, n, rfl⟩ := mem_writtenFor horder hwf h hp
  have hprofile := (mem_trafficProfilesOf hq).2
  obtain ⟨l, hl, hslice⟩ := hprofile.slice
  obtain ⟨hmem, hkey⟩ := List.mem_filter.mp hl
  rw [← of_decide_eq_true hkey, group_sliceKey_eq hinj hmem, ← hslice] at hprofile
  exact ⟨hprofile.period, hprofile.slice, hprofile.requestCount, hprofile.demandTokens,
    hprofile.peakTokens⟩

/-- Every ledger has the profile of its slice. -/
theorem exists_written_slice (horder : ∀ ps, (order ps).Perm ps) (hwf : TrafficProfilesWF table)
    (h : generateTrafficProfiles order ledgers capacities table input = .ok (results, table'))
    (hinj : ∀ l ∈ selectTrafficLedgers input ledgers, ∀ l' ∈ selectTrafficLedgers input ledgers,
      l.sliceKey = l'.sliceKey → l.trafficSlice = l'.trafficSlice) {l : UsageLedger}
    (hl : l ∈ selectTrafficLedgers input ledgers) :
    ∃! p, p ∈ writtenFor (selectTrafficLedgers input ledgers) results ∧
      p.trafficSlice = l.trafficSlice := by
  obtain ⟨hspec, -, -⟩ := generateTrafficProfiles_ok horder hwf h
  obtain ⟨q, hq, hqkey⟩ := List.mem_map.mp ((trafficProfilesOf_keys input capacities _).2
    l.sliceKey (List.mem_map_of_mem hl))
  -- the key of a profile is that of its slice
  have hown : ∀ q' ∈ trafficProfilesOf input capacities (selectTrafficLedgers input ledgers),
      ∃ l' ∈ selectTrafficLedgers input ledgers, l'.sliceKey = q'.sliceKey ∧
        q'.trafficSlice = l'.trafficSlice := by
    intro q' hq'
    obtain ⟨l', hl', hslice'⟩ := (mem_trafficProfilesOf hq').2.slice
    obtain ⟨hmem', hkey'⟩ := List.mem_filter.mp hl'
    exact ⟨l', hmem', of_decide_eq_true hkey', hslice'⟩
  obtain ⟨l', hl', hkey', hslice'⟩ := hown q hq
  obtain ⟨n, hn⟩ := exists_mem_writtenFor horder hwf h hq
  refine ⟨q.withId n, ⟨hn, hslice'.trans (hinj l' hl' l hl (hkey'.trans hqkey))⟩, ?_⟩
  rintro p ⟨hp, hpslice⟩
  obtain ⟨hrow, q', hq', m, rfl⟩ := mem_writtenFor horder hwf h hp
  obtain ⟨l'', -, hkey'', hslice''⟩ := hown q' hq'
  have hsliceKey : q'.sliceKey = q.sliceKey := by
    rw [← hkey'', hqkey, UsageLedger.sliceKey_eq, UsageLedger.sliceKey_eq, ← hslice'']
    exact congrArg TrafficSlice.key hpslice
  refine hspec.unique _ hrow _ (mem_writtenFor horder hwf h hn).1 ?_
  show q'.conflictKey = q.conflictKey
  rw [trafficProfilesOf_conflictKey hq', trafficProfilesOf_conflictKey hq, hsliceKey]

/-- The profiles of a call partition its ledgers exactly if no slice runs into another and no
    hour of a slice takes more than the whole slice. -/
theorem trafficPartition_iff (horder : ∀ ps, (order ps).Perm ps) (hwf : TrafficProfilesWF table)
    (h : generateTrafficProfiles order ledgers capacities table input = .ok (results, table')) :
    TrafficPartition (selectTrafficLedgers input ledgers)
        (slicesOf input (selectTrafficLedgers input ledgers) table)
        (writtenFor (selectTrafficLedgers input ledgers) results) ↔
      SlicesApart (selectTrafficLedgers input ledgers)
        (slicesOf input (selectTrafficLedgers input ledgers) table) := by
  have hnormal : ∀ s ∈ slicesOf input (selectTrafficLedgers input ledgers) table, s.Normal := by
    intro s hs
    rcases List.mem_append.mp hs with hs | hs
    · obtain ⟨l, -, rfl⟩ := List.mem_map.mp hs
      exact l.trafficSlice_normal
    · obtain ⟨p, hp, rfl⟩ := List.mem_map.mp hs
      exact hwf.normal p (List.mem_of_mem_filter hp)
  constructor
  · intro hpart
    have hinj := sliceKey_inj_of_apart hpart.apart
    constructor
    · intro s hs s' hs' hruns
      have hkey := (TrafficSlice.key_eq_iff (hnormal s hs) (hnormal s' hs')).mpr
        (.inr (.inl hruns))
      have hlt := hruns.length_lt
      rw [hpart.apart s hs s' hs' hkey] at hlt
      exact Nat.lt_irrefl _ hlt
    · intro l hl
      obtain ⟨p, ⟨hp, hslice⟩, -⟩ := hpart.exactlyOne l hl
      have hprofile := written_profileOf horder hwf h hinj p hp
      have hpeak := hpart.peak p hp
      rw [hprofile.peakTokens, hprofile.demandTokens, peak_le_demand_iff, hslice] at hpeak
      exact hpeak
  · intro hapart
    have hkeys : ∀ s ∈ slicesOf input (selectTrafficLedgers input ledgers) table,
        ∀ s' ∈ slicesOf input (selectTrafficLedgers input ledgers) table,
          s.key = s'.key → s = s' := by
      intro s hs s' hs' hkey
      rcases (TrafficSlice.key_eq_iff (hnormal s hs) (hnormal s' hs')).mp hkey with heq | hruns |
        hruns
      · exact heq
      · exact absurd hruns (hapart.apart s hs s' hs')
      · exact absurd hruns (hapart.apart s' hs' s hs)
    have hinj := sliceKey_inj_of_apart hkeys
    have hprofile := written_profileOf horder hwf h hinj
    constructor
    · exact fun l hl => exists_written_slice horder hwf h hinj hl
    · intro p hp
      obtain ⟨l, hl, -⟩ := (hprofile p hp).slice
      exact ⟨List.ne_nil_of_mem hl, (hprofile p hp).requestCount, (hprofile p hp).demandTokens⟩
    · have hperm := (written_perm horder hwf h).map fun p => p.demandTokens
      rw [List.map_map, List.map_map] at hperm
      exact hperm.sum_eq.trans (sum_demandTokens input capacities _)
    · intro p hp
      obtain ⟨l, hl, hslice⟩ := (hprofile p hp).slice
      rw [(hprofile p hp).peakTokens, (hprofile p hp).demandTokens, peak_le_demand_iff, hslice]
      exact hapart.spread l (List.mem_of_mem_filter hl)
    · intro p hp
      rw [(hprofile p hp).peakTokens, (hprofile p hp).demandTokens]
      exact average_le_peak _
    · exact hkeys

/-- A call keeps the table as it should be. -/
theorem TrafficProfilesWF.generate (horder : ∀ ps, (order ps).Perm ps)
    (hwf : TrafficProfilesWF table)
    (h : generateTrafficProfiles order ledgers capacities table input = .ok (results, table')) :
    TrafficProfilesWF table' := by
  obtain ⟨hspec, -, -⟩ := generateTrafficProfiles_ok horder hwf h
  -- a profile that is written has the key and the slice of a ledger
  have hwritten : ∀ q ∈ order (trafficProfilesOf input capacities
      (selectTrafficLedgers input ledgers)),
      q.sliceKey = q.trafficSlice.key ∧ q.trafficSlice.Normal := by
    intro q hq
    obtain ⟨l, hl, hslice⟩ := (mem_trafficProfilesOf ((horder _).mem_iff.mp hq)).2.slice
    rw [hslice]
    obtain ⟨-, hkey⟩ := List.mem_filter.mp hl
    rw [decide_eq_true_eq] at hkey
    exact ⟨hkey.symm.trans l.sliceKey_eq, l.trafficSlice_normal⟩
  refine ⟨hspec.unique, fun p hp => ?_, fun p hp => ?_⟩
  · rcases hspec.mem p hp with ⟨hold, -⟩ | ⟨q, hq, n, rfl⟩
    · exact hwf.keyed p hold
    · exact (hwritten q hq).1
  · rcases hspec.mem p hp with ⟨hold, -⟩ | ⟨q, hq, n, rfl⟩
    · exact hwf.normal p hold
    · exact (hwritten q hq).2

/-- With a valid period the call succeeds. -/
theorem generateTrafficProfiles_total
    (hvalid : validateTrafficProfileGenerateInput input = .ok ())
    (order : List TrafficProfileRow → List TrafficProfileRow)
    (ledgers : List UsageLedger) (capacities : List SupplyCapacity) (table : TrafficProfiles) :
    ∃ results table', generateTrafficProfiles order ledgers capacities table input =
      .ok (results, table') := by
  unfold generateTrafficProfiles
  rw [hvalid]
  by_cases hnone : selectTrafficLedgers input ledgers = []
  · exact ⟨[], table, if_pos hnone⟩
  · exact ⟨_, _, if_neg hnone⟩

theorem trafficProfilesWF_empty : TrafficProfilesWF .empty :=
  ⟨Table.uniqueOn_empty, fun _ hp => (nomatch hp), fun _ hp => (nomatch hp)⟩

/-! ## Two ledgers -/

/-- The period of an hour. -/
def hourPeriod : TrafficProfileGenerateInput := { periodStart := 3600, periodEnd := 7200 }

theorem hourPeriod_valid : validateTrafficProfileGenerateInput hourPeriod = .ok () := rfl

/-- A ledger of this period. -/
def hourLedger (requestId modelName slaTier : String) (userId : Int) : UsageLedger :=
  { requestId, modelName, slaTier, userId, promptTokens := 3, completionTokens := 4
    createdAt := 3600 }

theorem mem_hourLedgers {a b l : UsageLedger}
    (hl : l ∈ selectTrafficLedgers hourPeriod [a, b]) : l = a ∨ l = b := by
  simpa using (mem_selectTrafficLedgers.mp hl).1

/-- Two users of one model have profiles of their own. -/
theorem twoUsers_partition : ∃ results table',
    generateTrafficProfiles id [hourLedger "r1" "m" "" 1, hourLedger "r2" "m" "" 2] [] .empty
      hourPeriod = .ok (results, table') ∧
    TrafficPartition
      (selectTrafficLedgers hourPeriod [hourLedger "r1" "m" "" 1, hourLedger "r2" "m" "" 2])
      (slicesOf hourPeriod
        (selectTrafficLedgers hourPeriod [hourLedger "r1" "m" "" 1, hourLedger "r2" "m" "" 2])
        .empty)
      (writtenFor
        (selectTrafficLedgers hourPeriod [hourLedger "r1" "m" "" 1, hourLedger "r2" "m" "" 2])
        results) := by
  obtain ⟨results, table', h⟩ := generateTrafficProfiles_total hourPeriod_valid id
    [hourLedger "r1" "m" "" 1, hourLedger "r2" "m" "" 2] [] .empty
  refine ⟨results, table', h, ?_⟩
  refine (trafficPartition_iff (fun ps => List.Perm.refl ps) trafficProfilesWF_empty h).mpr ?_
  constructor
  · -- both slices have the same model
    have hmodel : ∀ s ∈ slicesOf hourPeriod (selectTrafficLedgers hourPeriod
        [hourLedger "r1" "m" "" 1, hourLedger "r2" "m" "" 2]) .empty, s.modelName = "m" := by
      intro s hs
      rcases List.mem_append.mp hs with hs | hs
      · obtain ⟨l, hl, rfl⟩ := List.mem_map.mp hs
        rcases mem_hourLedgers hl with rfl | rfl
        · decide
        · decide
      · exact nomatch hs
    intro s hs s' hs' hruns
    have hlt := hruns.length_lt
    rw [hmodel s hs, hmodel s' hs'] at hlt
    exact Nat.lt_irrefl _ hlt
  · intro l _
    refine tokensSpread_of_nonneg fun l' hl' => ?_
    rcases mem_hourLedgers (List.mem_of_mem_filter hl') with rfl | rfl
    · decide
    · decide

/-- The model `a|sla:b` in the tier `c` and the model `a` in the tier `b|sla:c` are one slice. -/
theorem separator_in_model_merges :
    ¬ ∀ (order : List TrafficProfileRow → List TrafficProfileRow) (ledgers : List UsageLedger)
        (capacities : List SupplyCapacity) (table : TrafficProfiles)
        (input : TrafficProfileGenerateInput) (results : List TrafficProfileRow)
        (table' : TrafficProfiles), (∀ ps, (order ps).Perm ps) → TrafficProfilesWF table →
        (∀ l ∈ ledgers, l.status = "success" ∧ 0 ≤ l.promptTokens ∧ 0 ≤ l.completionTokens) →
        generateTrafficProfiles order ledgers capacities table input = .ok (results, table') →
          TrafficPartition (selectTrafficLedgers input ledgers)
            (slicesOf input (selectTrafficLedgers input ledgers) table)
            (writtenFor (selectTrafficLedgers input ledgers) results) := by
  intro hall
  obtain ⟨results, table', h⟩ := generateTrafficProfiles_total hourPeriod_valid id
    [hourLedger "r1" "a|sla:b" "c" 1, hourLedger "r2" "a" "b|sla:c" 1] [] .empty
  have hpart := hall id _ [] .empty hourPeriod results table' (fun ps => List.Perm.refl ps)
    trafficProfilesWF_empty (by decide) h
  have hmem : ∀ l ∈ [hourLedger "r1" "a|sla:b" "c" 1, hourLedger "r2" "a" "b|sla:c" 1],
      l.trafficSlice ∈ slicesOf hourPeriod (selectTrafficLedgers hourPeriod
        [hourLedger "r1" "a|sla:b" "c" 1, hourLedger "r2" "a" "b|sla:c" 1]) .empty := by
    intro l hl
    have hselects : hourPeriod.selects l := by
      revert l hl
      decide +kernel
    exact trafficSlice_mem_slicesOf (mem_selectTrafficLedgers.mpr ⟨hl, hselects⟩) _
  have hsame := hpart.apart _ (hmem (hourLedger "r1" "a|sla:b" "c" 1) (by simp)) _
    (hmem (hourLedger "r2" "a" "b|sla:c" 1) (by simp)) (by decide +kernel)
  exact absurd hsame (by decide)

end TokenRouter
