import TokenRouter.ForStd.FirstRanked
import TokenRouter.Model.RouteCache

/-!
# How often a channel is drawn

Both selections walk a list of weights with a random number below their sum. The cache stops
when the number has fallen below zero, the database already when nothing is left of it, which
gives the first row one number more than its weight and takes one from the last.

## Key results

- `pickAbility_draws_iff`: the rows are drawn by weight only if the first has all the weight
- `getRandomSatisfiedChannel_draws_iff`: the channels are, unless one is listed twice
-/

namespace TokenRouter

/-! ## The database -/

theorem pickAbility_eq (ws : List Int) (weight : Int) :
    pickAbility ws weight = ws.weightedPick (weight - 1) := by
  induction ws generalizing weight with
  | nil => rfl
  | cons w ws ih =>
    rw [pickAbility, List.weightedPick, ih]
    have hlt : weight - 1 - w < 0 ↔ weight - w ≤ 0 := by omega
    have hrest : weight - w - 1 = weight - 1 - w := by omega
    by_cases hle : weight - w ≤ 0
    · rw [if_pos hle, if_pos (hlt.mpr hle)]
    · rw [if_neg hle, if_neg (mt hlt.mp hle), hrest]

theorem supplierRoutePreferenceSelectionWeight_nonneg (baseWeight supplierId : Int)
    (allBaseWeightsZero : Bool) (percents : Int → Option Int) :
    0 ≤ supplierRoutePreferenceSelectionWeight baseWeight supplierId allBaseWeightsZero
      percents := by
  unfold supplierRoutePreferenceSelectionWeight
  dsimp only
  generalize (if allBaseWeightsZero = true then (100 : Int) else baseWeight) = base
  generalize (if 0 < supplierId then _ else (100 : Int)) = percent
  split
  · exact le_refl 0
  · split
    · exact le_refl 0
    · split
      · decide
      · have hprod : 0 ≤ base * percent := Int.mul_nonneg (by omega) (by omega)
        exact Int.ediv_nonneg hprod (by decide)

theorem abilityWeights_nonneg (db : RouteTables) (abilities : List Ability) (now : Int) :
    ∀ w ∈ db.abilityWeights abilities now, 0 ≤ w := by
  intro w hw
  obtain ⟨a, -, rfl⟩ := List.mem_map.mp hw
  exact supplierRoutePreferenceSelectionWeight_nonneg _ _ _ _

/-- The number of values below the sum for which the loop picks the row at position `i`. -/
def pickCount (weights : List Int) (i : Nat) : Nat :=
  ((Finset.range weights.sum.toNat).filter fun r : Nat => pickAbility weights r = some i).card

/-- For every list of rows whose weights have a positive sum: every row is picked as often as its
    weight says if and only if all rows but the first have no weight. -/
theorem pickAbility_draws_iff (db : RouteTables) (first : Ability) (rest : List Ability) (now : Int)
    (hpos : 0 < (db.abilityWeights (first :: rest) now).sum) :
    (∀ (i : Nat) (hi : i < (db.abilityWeights (first :: rest) now).length),
      (pickCount (db.abilityWeights (first :: rest) now) i : Int) =
        (db.abilityWeights (first :: rest) now)[i]) ↔
      ∀ w ∈ db.abilityWeights rest now, w = 0 := by
  simp only [pickCount, pickAbility_eq]
  exact List.card_weightedPick_pred_iff (abilityWeights_nonneg db (first :: rest) now) hpos

/-- A row alone is picked by every number. -/
theorem pickAbility_draws_single :
    (pickCount (RouteTables.abilityWeights {} [⟨"default", "gpt-4", 1, true, 0, 5, none⟩] 0) 0 :
      Int) = 15 :=
  (pickAbility_draws_iff {} ⟨"default", "gpt-4", 1, true, 0, 5, none⟩ [] 0 (by decide)).mpr
    (by decide) 0 (by decide)

/-- Of two rows with the weights 10 and 10 the first is picked by 11 of the 20 numbers. -/
theorem pickAbility_draws_first :
    let weights := RouteTables.abilityWeights {}
      [⟨"default", "gpt-4", 1, true, 0, 0, none⟩, ⟨"default", "gpt-4", 2, true, 0, 0, none⟩] 0
    weights = [10, 10] ∧ pickCount weights 0 = 11 ∧ pickCount weights 1 = 9 := by
  decide

/-! ## The cache -/

namespace RouteCache

/-- The candidates that a retry draws from. -/
def tier (cache : RouteCache) (group model : String) (retry : Nat) (requestPath : String) :
    List ChannelRow :=
  targetChannels (cache.candidateRows group model requestPath) retry

/-- The selection returns the channel with an id. -/
def returns (cache : RouteCache) (group model : String) (retry : Nat) (requestPath : String)
    (randomWeight : Int) (id : Nat) : Bool :=
  match cache.getRandomSatisfiedChannel group model retry requestPath randomWeight with
  | .ok (some channel) => channel.id = id
  | _ => false

/-- The number of values below `totalWeight` for which the channel with an id is returned. -/
def draws (cache : RouteCache) (group model : String) (retry : Nat) (requestPath : String)
    (id : Nat) : Nat :=
  Nat.count (fun r => cache.returns group model retry requestPath r id = true)
    (cache.targetWeights (cache.tier group model retry requestPath)).sum.toNat

/-- What a returned channel is: eligible, listed under the matched name, on the path, and with as
    many candidate priorities above its own as the retry says. -/
structure Served (cache : RouteCache) (group model : String) (retry : Nat) (requestPath : String)
    (channel : ChannelRow) : Prop where
  enabled : channel.status = .enabled
  supplier : channel.supplierId ≤ 0 ∨ cache.supplierStatusIDM channel.supplierId = some .enabled
  cached : cache.channelsIDM channel.id = some channel
  listed : channel.id ∈ cache.channels group (cache.matchedModel group model requestPath)
  path : cache.acceptsPath requestPath channel = true
  rank :
    let priorities := ((cache.candidateRows group model requestPath).map (·.priority)).dedup
    priorities.countP (fun priority => channel.priority < priority) =
      min retry (priorities.length - 1)

variable {cache : RouteCache} {group model : String} {retry : Nat} {requestPath : String}

theorem mem_candidates {id : Nat} : id ∈ cache.candidates group model requestPath ↔
    id ∈ cache.channels group (cache.matchedModel group model requestPath) ∧
      (cache.channelsIDM id).all (cache.acceptsPath requestPath) = true ∧
      (cache.channelsIDM id).all cache.isCachedChannelRuntimeEligible = true := by
  simp only [candidates, eligible, filterChannelsBySupplierStatus, filterChannelsByRequestPath,
    List.mem_filter, and_assoc]

theorem mem_candidateRows {channel : ChannelRow} :
    channel ∈ cache.candidateRows group model requestPath ↔
      channel.id ∈ cache.candidates group model requestPath ∧
        cache.channelsIDM channel.id = some channel := by
  simp only [candidateRows, List.mem_filterMap]
  constructor
  · rintro ⟨id, hid, hrow⟩
    have heq := cache.id_eq id channel hrow
    subst heq
    exact ⟨hid, hrow⟩
  · intro h
    exact ⟨channel.id, h⟩

theorem mem_tier {channel : ChannelRow} : channel ∈ cache.tier group model retry requestPath ↔
    channel ∈ cache.candidateRows group model requestPath ∧
      some channel.priority =
        targetPriority (cache.candidateRows group model requestPath) retry := by
  simp only [tier, targetChannels, List.mem_filter, decide_eq_true_eq]

/-- The tier of a single candidate is that candidate. -/
theorem targetChannels_singleton (channel : ChannelRow) (retry : Nat) :
    targetChannels [channel] retry = [channel] := by
  simp [targetChannels, targetPriority, sortedUniquePriorities]

theorem sortedUniquePriorities_perm (rows : List ChannelRow) :
    (sortedUniquePriorities rows).Perm (rows.map (·.priority)).dedup :=
  List.perm_insertionSort _ _

theorem sortedUniquePriorities_pairwise (rows : List ChannelRow) :
    (sortedUniquePriorities rows).Pairwise (· > ·) := by
  have hsorted : (sortedUniquePriorities rows).Pairwise (· ≥ ·) := List.pairwise_insertionSort _ _
  have hnodup : (sortedUniquePriorities rows).Nodup :=
    (sortedUniquePriorities_perm rows).nodup_iff.mpr (List.nodup_dedup _)
  apply (hsorted.and hnodup).imp
  intro a b h
  have hle := h.1
  have hne := h.2
  omega

/-- The priority of a retry has as many distinct priorities above it as the retry says, and the
    lowest one serves the retries after it. -/
theorem countP_targetPriority {rows : List ChannelRow} {priority : Int}
    (h : some priority = targetPriority rows retry) :
    (rows.map (·.priority)).dedup.countP (fun p => priority < p) =
      min retry ((rows.map (·.priority)).dedup.length - 1) := by
  have hperm := sortedUniquePriorities_perm rows
  obtain ⟨hi, hpriority⟩ := List.getElem?_eq_some_iff.mp h.symm
  rw [← hperm.countP_eq, ← hperm.length_eq, ← hpriority]
  exact List.countP_getElem_of_pairwise (sortedUniquePriorities_pairwise rows)
    (fun a b h => by omega) hi

theorem served_of_mem_tier {channel : ChannelRow}
    (h : channel ∈ cache.tier group model retry requestPath) :
    cache.Served group model retry requestPath channel := by
  obtain ⟨hrow, hpriority⟩ := mem_tier.mp h
  obtain ⟨hid, hcached⟩ := mem_candidateRows.mp hrow
  obtain ⟨hlisted, hpath, heligible⟩ := mem_candidates.mp hid
  rw [hcached, Option.all_some] at hpath heligible
  simp only [isCachedChannelRuntimeEligible, isSupplierStatusEnabled, Bool.and_eq_true,
    Bool.or_eq_true, decide_eq_true_eq] at heligible
  exact ⟨heligible.1, heligible.2, hcached, hlisted, hpath, countP_targetPriority hpriority⟩

/-- The rows of a tier with the id of a row are copies of that row. -/
theorem eq_of_mem_tier {c d : ChannelRow} (hc : c ∈ cache.tier group model retry requestPath)
    (hd : d ∈ cache.tier group model retry requestPath) (hid : d.id = c.id) : d = c := by
  have hcc := (served_of_mem_tier hc).cached
  have hdc := (served_of_mem_tier hd).cached
  rw [hid, hcc] at hdc
  exact (Option.some.inj hdc).symm

/-- A row is in the tier as often as its id is listed. -/
theorem countP_tier {c : ChannelRow} (hc : c ∈ cache.tier group model retry requestPath) :
    (cache.tier group model retry requestPath).countP (fun d => d.id = c.id) =
      (cache.channels group (cache.matchedModel group model requestPath)).count c.id := by
  obtain ⟨hrow, hpriority⟩ := mem_tier.mp hc
  obtain ⟨hid, hcached⟩ := mem_candidateRows.mp hrow
  obtain ⟨-, hpath, heligible⟩ := mem_candidates.mp hid
  simp only [tier, targetChannels, candidateRows, candidates, eligible,
    filterChannelsBySupplierStatus, filterChannelsByRequestPath, List.countP_filter,
    List.countP_filterMap, List.count]
  apply List.countP_congr
  intro id _
  by_cases heq : id = c.id
  · subst heq
    simp only [hcached, Option.all_some] at hpath heligible ⊢
    simp [hpath, heligible, hpriority, candidateRows, candidates, eligible,
      filterChannelsBySupplierStatus, filterChannelsByRequestPath]
  · cases hother : cache.channelsIDM id with
    | none => simp [heq]
    | some d =>
      have hd := cache.id_eq id d hother
      simp [heq, hd]

/-- Every candidate is cached, so that no selection stops with the error of a missing channel. -/
def Consistent (cache : RouteCache) (group model requestPath : String) : Prop :=
  ∀ id ∈ cache.candidates group model requestPath, cache.channelsIDM id ≠ none

theorem targetWeights_nonneg (cache : RouteCache) (target : List ChannelRow) :
    ∀ c ∈ target, 0 ≤ cache.selectionWeight target c :=
  fun _ _ => supplierRoutePreferenceSelectionWeight_nonneg _ _ _ _

/-- With one candidate there is nothing to draw. -/
theorem getRandomSatisfiedChannel_single {id : Nat} {channel : ChannelRow}
    (hone : cache.candidates group model requestPath = [id])
    (hcached : cache.channelsIDM id = some channel) (retry : Nat) (randomWeight : Int) :
    cache.getRandomSatisfiedChannel group model retry requestPath randomWeight =
        .ok (some channel) ∧
      cache.tier group model retry requestPath = [channel] := by
  constructor
  · simp only [getRandomSatisfiedChannel, hone, hcached]
  · simp only [tier, candidateRows, hone, List.filterMap_cons, hcached, List.filterMap_nil,
      targetChannels_singleton]

/-- With several cached candidates the tier is walked with the number drawn. -/
theorem getRandomSatisfiedChannel_several
    (hconsistent : cache.Consistent group model requestPath)
    (hnone : cache.candidates group model requestPath ≠ [])
    (hseveral : ∀ id, cache.candidates group model requestPath ≠ [id]) (retry : Nat)
    (randomWeight : Int) :
    cache.getRandomSatisfiedChannel group model retry requestPath randomWeight =
      let target := cache.tier group model retry requestPath
      if (cache.targetWeights target).sum ≤ 0 then .error "no weighted channel found"
      else
        match ((cache.targetWeights target).weightedPick randomWeight).bind fun i => target[i]? with
        | none => .error "channel not found"
        | some channel => .ok (some channel) := by
  have hfind : (cache.candidates group model requestPath).find?
      (fun id => (cache.channelsIDM id).isNone) = none := by
    apply List.find?_eq_none.mpr
    intro id hid
    simpa using hconsistent id hid
  unfold getRandomSatisfiedChannel
  split
  · next hnil => exact absurd hnil hnone
  · next id hone => exact absurd hone (hseveral id)
  · rw [hfind]
    rfl

/-- A returned channel is of the tier, and every candidate is cached. -/
theorem mem_tier_of_returned {randomWeight : Int} {channel : ChannelRow}
    (h : cache.getRandomSatisfiedChannel group model retry requestPath randomWeight =
      .ok (some channel)) :
    channel ∈ cache.tier group model retry requestPath ∧
      cache.Consistent group model requestPath := by
  by_cases hconsistent : cache.Consistent group model requestPath
  · refine ⟨?_, hconsistent⟩
    by_cases hnone : cache.candidates group model requestPath = []
    · simp [getRandomSatisfiedChannel, hnone] at h
    · by_cases hone : ∃ id, cache.candidates group model requestPath = [id]
      · obtain ⟨id, hone⟩ := hone
        obtain ⟨c, hcached⟩ := Option.ne_none_iff_exists'.mp
          (hconsistent id (by rw [hone]; exact List.mem_singleton_self id))
        have hsingle := getRandomSatisfiedChannel_single hone hcached retry randomWeight
        rw [hsingle.1] at h
        cases h
        rw [hsingle.2]
        exact List.mem_singleton_self _
      · rw [getRandomSatisfiedChannel_several hconsistent hnone (not_exists.mp hone)] at h
        dsimp only at h
        split at h
        · cases h
        · split at h
          · cases h
          · next found hpick =>
            cases h
            obtain ⟨i, -, hi⟩ := Option.bind_eq_some_iff.mp hpick
            exact List.mem_of_getElem? hi
  · obtain ⟨id, hid, hmissing⟩ : ∃ id ∈ cache.candidates group model requestPath,
        cache.channelsIDM id = none := by
      simpa [Consistent] using hconsistent
    unfold getRandomSatisfiedChannel at h
    split at h
    · next hnil =>
      rw [hnil] at hid
      cases hid
    · next only hone =>
      rw [hone, List.mem_singleton] at hid
      subst hid
      rw [hmissing] at h
      cases h
    · split at h
      · cases h
      · next hfind =>
        have := List.find?_eq_none.mp hfind id hid
        simp [hmissing] at this

/-- Over the numbers below the total weight, an id is returned as often as the rows of the tier
    with that id weigh together. -/
theorem draws_eq (hconsistent : cache.Consistent group model requestPath) (id : Nat) :
    (cache.draws group model retry requestPath id : Int) =
      (((cache.tier group model retry requestPath).filter fun d => d.id = id).map
        (cache.selectionWeight (cache.tier group model retry requestPath))).sum := by
  have hnonneg := targetWeights_nonneg cache (cache.tier group model retry requestPath)
  by_cases hnone : cache.candidates group model requestPath = []
  · simp [draws, tier, candidateRows, hnone, targetChannels, targetWeights]
  · by_cases hone : ∃ only, cache.candidates group model requestPath = [only]
    · obtain ⟨only, hone⟩ := hone
      obtain ⟨c, hcached⟩ := Option.ne_none_iff_exists'.mp
        (hconsistent only (by rw [hone]; exact List.mem_singleton_self only))
      have hreturned (r : Int) := (getRandomSatisfiedChannel_single hone hcached retry r).1
      have htier := (getRandomSatisfiedChannel_single hone hcached retry 0).2
      rw [htier] at hnonneg
      have hweight := hnonneg c (List.mem_singleton_self c)
      by_cases hid : c.id = id
      · simp only [draws, returns, hreturned, htier, targetWeights, hid, decide_true,
          Nat.count_true, List.map_cons, List.map_nil, List.sum_cons, List.sum_nil, add_zero,
          List.filter_cons, List.filter_nil, if_true]
        omega
      · simp [draws, returns, hreturned, htier, targetWeights, hid]
    · have hseveral :=
        getRandomSatisfiedChannel_several hconsistent hnone (not_exists.mp hone) retry
      have hcount := List.count_weightedPick (p := fun d => decide (d.id = id)) _ hnonneg
      rw [← hcount]
      unfold draws
      by_cases hsum : (cache.targetWeights (cache.tier group model retry requestPath)).sum ≤ 0
      · have htotal :
            (cache.targetWeights (cache.tier group model retry requestPath)).sum.toNat = 0 := by
          omega
        rw [htotal, Nat.count_zero]
        unfold targetWeights at htotal
        rw [htotal, Nat.count_zero]
      · have hreturns (r : Nat) : cache.returns group model retry requestPath r id =
            ((cache.targetWeights (cache.tier group model retry requestPath)).weightedPick r
              |>.bind fun i => (cache.tier group model retry requestPath)[i]?).any
                fun d => decide (d.id = id) := by
          unfold returns
          rw [hseveral r]
          dsimp only
          rw [if_neg hsum]
          cases ((cache.targetWeights (cache.tier group model retry requestPath)).weightedPick r
            |>.bind fun i => (cache.tier group model retry requestPath)[i]?) with
          | none => rfl
          | some d => rfl
        simp only [hreturns]
        rfl

/-- A row of the tier is returned for its weight times the number of times it is listed. -/
theorem draws_eq_count_mul {c : ChannelRow} (hconsistent : cache.Consistent group model requestPath)
    (hc : c ∈ cache.tier group model retry requestPath) :
    (cache.draws group model retry requestPath c.id : Int) =
      (cache.channels group (cache.matchedModel group model requestPath)).count c.id *
        cache.selectionWeight (cache.tier group model retry requestPath) c := by
  rw [draws_eq hconsistent, ← countP_tier hc, List.countP_eq_length_filter]
  have hcopies : (cache.tier group model retry requestPath).filter (fun d => d.id = c.id) =
      List.replicate ((cache.tier group model retry requestPath).filter
        fun d => d.id = c.id).length c := by
    apply List.eq_replicate_of_mem
    intro d hd
    obtain ⟨hd, hid⟩ := List.mem_filter.mp hd
    exact eq_of_mem_tier hc hd (of_decide_eq_true hid)
  rw [hcopies, List.map_replicate, List.sum_replicate, List.length_replicate, nsmul_eq_mul]

/-- For every cache and request: whatever is returned is served by an eligible channel of the
    retry's priority, and every channel of that priority is returned as often as its weight says,
    if and only if a candidate is missing from the cache (and nothing is returned) or no channel
    of that priority that has weight is listed twice. -/
theorem getRandomSatisfiedChannel_draws_iff (cache : RouteCache) (group model : String)
    (retry : Nat) (requestPath : String) :
    (∀ (r : Nat) (c : ChannelRow),
      cache.getRandomSatisfiedChannel group model retry requestPath r = .ok (some c) →
        cache.Served group model retry requestPath c ∧
        ∀ d ∈ cache.tier group model retry requestPath,
          (cache.draws group model retry requestPath d.id : Int) =
            cache.selectionWeight (cache.tier group model retry requestPath) d) ↔
      (∃ id ∈ cache.candidates group model requestPath, cache.channelsIDM id = none) ∨
        ∀ d ∈ cache.tier group model retry requestPath,
          0 < cache.selectionWeight (cache.tier group model retry requestPath) d →
            (cache.channels group (cache.matchedModel group model requestPath)).count d.id = 1 := by
  constructor
  · intro h
    by_cases hconsistent : cache.Consistent group model requestPath
    · right
      intro d hd hweight
      have hdraws := draws_eq_count_mul hconsistent hd
      have hlisted := List.count_pos_iff.mpr (served_of_mem_tier hd).listed
      have hpos : 0 < cache.draws group model retry requestPath d.id := by
        have := Int.mul_pos (Int.natCast_pos.mpr hlisted) hweight
        omega
      -- some number returns it, so the property speaks about the whole tier
      obtain ⟨r, -, hr⟩ := Nat.count_ne_iff_exists.mp (Nat.ne_of_gt hpos)
      unfold returns at hr
      split at hr
      · next c hreturned =>
        rw [(h r c hreturned).2 d hd] at hdraws
        have hcount := Int.eq_one_of_mul_eq_self_left (Int.ne_of_gt hweight) hdraws.symm
        exact Int.ofNat.inj hcount
      · cases hr
    · left
      simpa [Consistent] using hconsistent
  · intro h r c hreturned
    obtain ⟨hc, hconsistent⟩ := mem_tier_of_returned hreturned
    refine ⟨served_of_mem_tier hc, ?_⟩
    intro d hd
    rw [draws_eq_count_mul hconsistent hd]
    obtain ⟨id, hid, hmissing⟩ | hlisted := h
    · exact absurd hmissing (hconsistent id hid)
    · have hnonneg := targetWeights_nonneg cache (cache.tier group model retry requestPath) d hd
      by_cases hweight : 0 < cache.selectionWeight (cache.tier group model retry requestPath) d
      · rw [hlisted d hd hweight]
        simp
      · have hzero : cache.selectionWeight (cache.tier group model retry requestPath) d = 0 := by
          omega
        rw [hzero, mul_zero]

/-- Two channels of weight 10, the first saved with its group named twice. -/
def channelsListedTwice : Channels where
  rows := [{ id := 1, weight := 10, models := "gpt-4", group := "default,default" },
    { id := 2, weight := 10, models := "gpt-4" }]
  nodup := by decide

/-- Their rows in `abilities`, where the group is taken once. -/
def abilitiesListedTwice : Abilities where
  rows := [⟨"default", "gpt-4", 1, true, 0, 10, none⟩, ⟨"default", "gpt-4", 2, true, 0, 10, none⟩]
  nodup := by decide

/-- The synced cache returns the first channel for 20 of the 30 numbers and the second for 10,
    though both have the selection weight 10. -/
theorem getRandomSatisfiedChannel_draws_listed_twice :
    (initChannelCache (fun _ => none) channelsListedTwice .empty .empty abilitiesListedTwice
        (fun _ => none) 0).map (fun cache =>
          (cache.returns "default" "gpt-4" 0 "" 0 1, cache.draws "default" "gpt-4" 0 "" 1,
            cache.draws "default" "gpt-4" 0 "" 2, (cache.tier "default" "gpt-4" 0 "").map fun c =>
              cache.selectionWeight (cache.tier "default" "gpt-4" 0 "") c)) =
      some (true, 20, 10, [10, 10, 10]) := by
  decide

end RouteCache

end TokenRouter
