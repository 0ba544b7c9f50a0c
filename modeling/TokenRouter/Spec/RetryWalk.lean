import TokenRouter.Controller.Relay
import TokenRouter.ForStd.Run

/-!
# The walk of the retry loop

A turn of the loop moves forward in the order of the pair of group index and retry counter: a
selection may set the counter back to zero, but only together with a step to a later group.
With at most `RetryTimes + 1` turns for a group the number of attempts is bounded.

## Key results

- `cacheGetRandomSatisfiedChannel_walk`: a selection never goes back, and the turn it belongs to
  ends further on
- `attempts_le`: the bound on the number of attempts
- `autoGroupIndex_le`: the group index never decreases
- `retry_walk`: bound, termination, order and the groups that are tried
-/

namespace TokenRouter

variable {α : Type}

/-! ## One selection -/

/-- The group that the next selection starts from. -/
def Selection.index (s : Selection) : Nat := s.ctx.autoGroupIndex.getD 0

/-- The position of the loop: the group index, then the retry counter. -/
def Selection.position (retryTimes : Nat) (s : Selection) : Nat :=
  s.index * (retryTimes + 1) + s.param.retry

/-- The selection state at the end of a turn that goes on. -/
def Selection.increase (s : Selection) : Selection := { s with param := s.param.increaseRetry }

@[simp] theorem Selection.increase_index (s : Selection) : s.increase.index = s.index := rfl

@[simp] theorem RetryParam.increaseRetry_resetNextTry (p : RetryParam) :
    p.increaseRetry.resetNextTry = false := by
  unfold increaseRetry
  split
  · rfl
  · next h => simpa using h

/-- What a selection and the increase of the counter after it do to the position. -/
structure Walks (setting : SelectSetting) (s s' : Selection) : Prop where
  index_le : s.index ≤ s'.index
  bound : s.index ≤ setting.userAutoGroups.length → s'.index ≤ setting.userAutoGroups.length
  advance : s.param.resetNextTry = false → s.param.retry ≤ setting.retryTimes →
    s.position setting.retryTimes < s'.increase.position setting.retryTimes

/-- In the same group with the same counter, the increase moves on. -/
theorem Walks.of_eq {setting : SelectSetting} {s s' : Selection} (hindex : s'.index = s.index)
    (hparam : s'.param = s.param) : Walks setting s s' where
  index_le := hindex.ge
  bound := fun h => hindex ▸ h
  advance := by
    intro hflag _
    have hretry : s'.increase.param.retry = s.param.retry + 1 := by
      simp [Selection.increase, RetryParam.increaseRetry, hparam, hflag]
    unfold Selection.position
    rw [Selection.increase_index, hindex, hretry]
    omega

/-- A later group is further on, whatever the counter. -/
theorem Walks.of_lt {setting : SelectSetting} {s s' : Selection} (hlt : s.index < s'.index)
    (hbound : s'.index ≤ setting.userAutoGroups.length) : Walks setting s s' where
  index_le := hlt.le
  bound := fun _ => hbound
  advance := by
    intro _ hretry
    unfold Selection.position
    rw [Selection.increase_index]
    calc s.index * (setting.retryTimes + 1) + s.param.retry
        < s.index * (setting.retryTimes + 1) + (setting.retryTimes + 1) := by omega
      _ = (s.index + 1) * (setting.retryTimes + 1) := by ring
      _ ≤ s'.index * (setting.retryTimes + 1) := Nat.mul_le_mul_right _ hlt
      _ ≤ s'.index * (setting.retryTimes + 1) + s'.increase.param.retry := Nat.le_add_right _ _

theorem Selection.skipTo_index (s : Selection) (j : Nat) : (s.skipTo s.index j).index = j := by
  unfold skipTo
  split
  · next h => exact h.symm
  · rfl

theorem Selection.skipTo_param (s : Selection) {i j : Nat} (h : j = i) :
    (s.skipTo i j).param = s.param := by
  rw [skipTo, if_pos h]

/-- The index of a group among those from the last group on. -/
theorem lt_of_drop_getElem? {groups : List String} {start k : Nat} {group : String}
    (h : (groups.drop start)[k]? = some group) : start + k < groups.length := by
  rw [List.getElem?_drop] at h
  exact (List.getElem?_eq_some_iff.mp h).1

/-- A selection never goes back, and the turn it belongs to ends further on. -/
theorem scanAutoGroups_walks {setting : SelectSetting} {answers : Availability α} {s : Selection}
    {out : Option (α × String) × Selection}
    (h : ScanCase setting answers s.index (setting.userAutoGroups.drop s.index) s.index s out) :
    Walks setting s out.2 := by
  cases h with
  | exhausted passed =>
    by_cases hlen : (setting.userAutoGroups.drop s.index).length = 0
    · rw [hlen]
      exact .of_eq (s.skipTo_index _) (s.skipTo_param rfl)
    · rw [List.length_drop] at hlen ⊢
      refine .of_lt ?_ ?_
      · rw [s.skipTo_index]
        omega
      · rw [s.skipTo_index]
        omega
  | policy k group channel hk hchannel passed =>
    have hlt := lt_of_drop_getElem? hk
    have hindex : Selection.index
        { param := (s.skipTo s.index (s.index + k)).param
          ctx := { (s.skipTo s.index (s.index + k)).ctx with autoGroup := some group } } =
          s.index + k := s.skipTo_index _
    cases k with
    | zero => exact .of_eq hindex (s.skipTo_param rfl)
    | succ k => exact .of_lt (by rw [hindex]; omega) (by rw [hindex]; omega)
  | drawn k group channel hk hpolicy hchannel passed =>
    have hlt := lt_of_drop_getElem? hk
    unfold Selection.draw
    split
    · refine .of_lt ?_ ?_
      · show s.index < s.index + k + 1
        omega
      · show s.index + k + 1 ≤ _
        omega
    · cases k with
      | zero => exact .of_eq rfl (s.skipTo_param rfl)
      | succ k =>
        refine .of_lt ?_ ?_
        · show s.index < s.index + (k + 1)
          omega
        · show s.index + (k + 1) ≤ _
          omega

theorem cacheGetRandomSatisfiedChannel_walks (setting : SelectSetting) (answers : Availability α)
    (s : Selection) : Walks setting s (cacheGetRandomSatisfiedChannel setting answers s).2 := by
  unfold cacheGetRandomSatisfiedChannel
  split
  · split
    · exact .of_eq rfl rfl
    · exact scanAutoGroups_walks (scanAutoGroups_case setting answers le_rfl _ s)
  · split
    · exact .of_eq rfl rfl
    · split
      · exact .of_eq rfl rfl
      · exact .of_eq rfl rfl

end TokenRouter

namespace TokenRouter.RelayLoop

variable {V : Type}

/-! ## The bound -/

theorem getChannel_walks (env : RelayEnv V) (s : RelayState V) (e : AttemptInput V) :
    Walks env.select s.selection (getChannel env s e).1.selection := by
  have hcase := getChannel_case env s e
  generalize getChannel env s e = out at hcase
  cases hcase with
  | first => exact .of_eq rfl rfl
  | missing m found selection message hmeta hselect =>
    have hwalk := cacheGetRandomSatisfiedChannel_walks env.select e.answers s.selection
    rw [hselect] at hwalk
    exact hwalk
  | found m channel group selection hmeta hselect =>
    have hwalk := cacheGetRandomSatisfiedChannel_walks env.select e.answers s.selection
    rw [hselect] at hwalk
    exact hwalk

theorem getChannel_frame (env : RelayEnv V) (s : RelayState V) (e : AttemptInput V) :
    (getChannel env s e).1.attempts = s.attempts ∧ (getChannel env s e).1.result = s.result := by
  have hcase := getChannel_case env s e
  generalize getChannel env s e = out at hcase
  cases hcase <;> exact ⟨rfl, rfl⟩

theorem attempted_length {env : RelayEnv V} {s s₁ : RelayState V} {e : AttemptInput V}
    (hget : getChannel env (enter s) e = (s₁, none)) :
    (attempted env s₁ e).attempts.length = s.attempts.length + 1 := by
  have hframe := (getChannel_frame env (enter s) e).1
  rw [hget] at hframe
  show (s₁.attempts ++ [_]).length = _
  rw [List.length_append, show s₁.attempts = s.attempts from hframe]
  rfl

/-- The number of user groups. -/
def groupCount (env : RelayEnv V) : Nat := env.select.userAutoGroups.length

/-- While the loop runs, its position has passed every attempt. -/
structure Walking (env : RelayEnv V) (s : RelayState V) : Prop where
  attempts_le : s.attempts.length ≤ (env.select.retryTimes + 1) * (groupCount env + 1)
  attempts_position : s.result = none →
    s.attempts.length ≤ s.selection.position env.select.retryTimes
  flag : s.result = none → s.selection.param.resetNextTry = false
  index_le : s.result = none → s.selection.index ≤ groupCount env

theorem Walking.of_result {env : RelayEnv V} {s : RelayState V}
    (h : s.attempts.length ≤ (env.select.retryTimes + 1) * (groupCount env + 1))
    (hresult : s.result ≠ none) : Walking env s :=
  ⟨h, fun hnone => absurd hnone hresult, fun hnone => absurd hnone hresult,
    fun hnone => absurd hnone hresult⟩

/-- An attempt fits into the bound. -/
theorem Walking.attempt_le {env : RelayEnv V} {s : RelayState V} (h : Walking env s)
    (hresult : s.result = none) (hretry : s.selection.param.retry ≤ env.select.retryTimes) :
    s.attempts.length + 1 ≤ (env.select.retryTimes + 1) * (groupCount env + 1) := by
  have hposition := h.attempts_position hresult
  unfold Selection.position at hposition
  calc s.attempts.length + 1
      ≤ s.selection.index * (env.select.retryTimes + 1) + (env.select.retryTimes + 1) := by omega
    _ = (env.select.retryTimes + 1) * (s.selection.index + 1) := by ring
    _ ≤ (env.select.retryTimes + 1) * (groupCount env + 1) :=
        Nat.mul_le_mul_left _ (Nat.succ_le_succ (h.index_le hresult))

theorem walking_turn (env : RelayEnv V) (s : RelayState V) (e : AttemptInput V)
    (h : Walking env s) : Walking env (turn env s e) := by
  have hframe := getChannel_frame env (enter s) e
  have hwalk := getChannel_walks env (enter s) e
  have hcase := turn_case env s e
  generalize turn env s e = s' at hcase
  cases hcase with
  | idle => exact h
  | spent => exact .of_result h.attempts_le (by simp [leave])
  | noChannel s₁ err _ _ hget =>
    rw [hget] at hframe
    refine .of_result ?_ (by simp [leave])
    show s₁.attempts.length ≤ _
    rw [hframe.1]
    exact h.attempts_le
  | noBody s₁ err _ _ hget =>
    rw [hget] at hframe
    refine .of_result ?_ (by simp [leave])
    show s₁.attempts.length ≤ _
    rw [hframe.1]
    exact h.attempts_le
  | succeeded s₁ hresult hretry hget =>
    refine .of_result ?_ (by simp [leave])
    exact (attempted_length hget).le.trans (h.attempt_le hresult hretry)
  | failed s₁ err hresult hretry hget =>
    rw [hget] at hwalk
    have hlen := attempted_length hget
    have hle := hlen.le.trans (h.attempt_le hresult hretry)
    unfold afterError
    dsimp only
    split
    · refine ⟨hle, fun _ => ?_, fun _ => RetryParam.increaseRetry_resetNextTry _, fun _ => ?_⟩
      · have hadvance := hwalk.advance (h.flag hresult) hretry
        have hposition := h.attempts_position hresult
        show (attempted env s₁ e).attempts.length ≤ s₁.selection.increase.position _
        rw [hlen]
        exact hposition.trans_lt hadvance
      · exact hwalk.bound (h.index_le hresult)
    · exact .of_result hle (by simp [leave])

theorem distribute_index {env : RelayEnv V} {choice : FirstChoice V} {channel : SelectedChannel V}
    {group : Option String} {ctx : GroupContext}
    (h : distribute env.select choice = some (channel, group, ctx)) :
    Selection.index { ctx := ctx } ≤ groupCount env := by
  cases choice with
  | specific c =>
    cases h
    exact Nat.zero_le _
  | preferred c g =>
    cases h
    exact Nat.zero_le _
  | selected answers =>
    have hwalk := cacheGetRandomSatisfiedChannel_walks env.select answers {}
    simp only [distribute] at h
    split at h
    · next c g sel hselect =>
      cases h
      rw [hselect] at hwalk
      exact hwalk.bound (Nat.zero_le _)
    · cases h

theorem walking_start {env : RelayEnv V} {choice : FirstChoice V} {key : KeyDraw}
    {s : RelayState V} (h : start env choice key = some s) : Walking env s := by
  unfold start at h
  split at h
  · cases h
  · next hd =>
    cases h
    exact ⟨Nat.zero_le _, fun _ => Nat.zero_le _, fun _ => rfl, fun _ => distribute_index hd⟩

/-- The number of attempts. -/
theorem attempts_le {env : RelayEnv V} {choice : FirstChoice V} {key : KeyDraw}
    {s₀ : RelayState V} (h : start env choice key = some s₀) (es : List (AttemptInput V)) :
    (Run.run (turn env) s₀ es).attempts.length ≤
      (env.select.retryTimes + 1) * (groupCount env + 1) :=
  (Run.run_inv (walking_turn env) (walking_start h) es).attempts_le

/-! ## Termination and order -/

/-- A turn after which the loop goes on has made an attempt. -/
theorem turn_attempts {env : RelayEnv V} {s : RelayState V} {e : AttemptInput V}
    (h : (turn env s e).result = none) :
    s.result = none ∧ (turn env s e).attempts.length = s.attempts.length + 1 := by
  have hcase := turn_case env s e
  generalize turn env s e = s' at hcase h
  cases hcase with
  | idle hsome => simp [h] at hsome
  | spent => cases h
  | noChannel => cases h
  | noBody => cases h
  | succeeded => cases h
  | failed s₁ err hresult _ hget =>
    refine ⟨hresult, ?_⟩
    unfold afterError
    dsimp only
    split
    · exact attempted_length hget
    · exact attempted_length hget

theorem run_attempts {env : RelayEnv V} (s : RelayState V) (es : List (AttemptInput V))
    (h : (Run.run (turn env) s es).result = none) :
    s.result = none ∧ (Run.run (turn env) s es).attempts.length = s.attempts.length + es.length := by
  induction es generalizing s with
  | nil => exact ⟨h, rfl⟩
  | cons e es ih =>
    obtain ⟨hnone, hlen⟩ := ih (turn env s e) h
    obtain ⟨hresult, hstep⟩ := turn_attempts hnone
    refine ⟨hresult, ?_⟩
    rw [Run.run_cons, hlen, hstep, List.length_cons]
    omega

theorem autoGroupIndex_turn (env : RelayEnv V) (s : RelayState V) (e : AttemptInput V) :
    s.selection.index ≤ (turn env s e).selection.index := by
  have hwalk := (getChannel_walks env (enter s) e).index_le
  have hcase := turn_case env s e
  generalize turn env s e = s' at hcase
  cases hcase with
  | idle => exact le_rfl
  | spent => exact le_rfl
  | noChannel s₁ err _ _ hget =>
    rw [hget] at hwalk
    exact hwalk
  | noBody s₁ err _ _ hget =>
    rw [hget] at hwalk
    exact hwalk
  | succeeded s₁ _ _ hget =>
    rw [hget] at hwalk
    exact hwalk
  | failed s₁ err _ _ hget =>
    rw [hget] at hwalk
    unfold afterError
    dsimp only
    split
    · exact hwalk
    · exact hwalk

/-- The group index never decreases. -/
theorem autoGroupIndex_le (env : RelayEnv V) (s : RelayState V) (es : List (AttemptInput V)) :
    s.selection.index ≤ (Run.run (turn env) s es).selection.index := by
  induction es generalizing s with
  | nil => exact le_rfl
  | cons e es ih => exact (autoGroupIndex_turn env s e).trans (ih (turn env s e))

end TokenRouter.RelayLoop

namespace TokenRouter

variable {α : Type}

/-! ## The groups that are passed -/

/-- The answers offer a channel of the group at every retry number. -/
def Availability.Offers (answers : Availability α) (group : String) : Prop :=
  ∀ retry, (answers.randomChannel group retry).1 ≠ none

theorem Availability.Offers.not_empty {answers : Availability α} {group : String}
    (h : answers.Offers group) (retry : Nat) : ¬ answers.Empty group retry :=
  fun hempty => h retry hempty.2

/-- For a token of the group `auto`, a selection is a scan from the last group on. -/
theorem cacheGetRandomSatisfiedChannel_scan {setting : SelectSetting}
    (hauto : setting.tokenGroup = "auto") (hgroups : setting.autoGroups.length ≠ 0)
    (answers : Availability α) (s : Selection) : ∃ out,
    ScanCase setting answers s.index (setting.userAutoGroups.drop s.index) s.index s out ∧
    cacheGetRandomSatisfiedChannel setting answers s = (.ok out.1, out.2) := by
  refine ⟨_, scanAutoGroups_case setting answers le_rfl _ s, ?_⟩
  unfold cacheGetRandomSatisfiedChannel
  rw [if_pos hauto, if_neg hgroups]
  rfl

theorem Selection.priorityRetry_le (s : Selection) (start j : Nat) :
    s.priorityRetry start j ≤ s.param.retry := by
  unfold priorityRetry
  split
  · exact Nat.zero_le _
  · exact le_rfl

/-- A selection passes no group that is offered: such a group lies before the start, or it is the
    one whose channel is drawn, with its last retry. -/
theorem scan_passes {setting : SelectSetting} {answers : Availability α} {s : Selection}
    {out : Option (α × String) × Selection}
    (h : ScanCase setting answers s.index (setting.userAutoGroups.drop s.index) s.index s out)
    {group : String} (hoffers : answers.Offers group) {k : Nat}
    (hk : setting.userAutoGroups[k]? = some group) (hlt : out.1 = none ∨ k < out.2.index) :
    k < s.index ∨
      (∃ channel, out.1 = some (channel, group)) ∧ setting.retryTimes ≤ s.param.retry := by
  by_cases hbefore : k < s.index
  · exact .inl hbefore
  right
  have hshift : (setting.userAutoGroups.drop s.index)[k - s.index]? = some group := by
    rw [List.getElem?_drop, Nat.add_sub_cancel' (Nat.le_of_not_lt hbefore), hk]
  cases h with
  | exhausted passed => exact absurd (passed _ _ hshift) (hoffers.not_empty _)
  | policy j found channel hj hchannel passed =>
    have hlt : k < (s.skipTo s.index (s.index + j)).index := hlt.resolve_left (by simp)
    rw [s.skipTo_index] at hlt
    exact absurd (passed _ _ hshift (by omega)) (hoffers.not_empty _)
  | drawn j found channel hj hpolicy hchannel passed =>
    have hlt : k < (s.draw setting s.index s.index (s.index + j) found).index :=
      hlt.resolve_left (by simp)
    rcases Nat.lt_or_ge (k - s.index) j with hpassed | hreached
    · exact absurd (passed _ _ hshift hpassed) (hoffers.not_empty _)
    · unfold Selection.draw at hlt
      split at hlt
      · next hlast =>
        have hle : k ≤ s.index + j := Nat.lt_succ_iff.mp hlt
        have heq : k - s.index = j := by omega
        rw [heq, hj] at hshift
        cases hshift
        exact ⟨⟨channel, rfl⟩, hlast.2.trans (s.priorityRetry_le _ _)⟩
      · have hlt : k < s.index + j := hlt
        omega

/-- With cross-group retries and no policy, a drawn channel leaves a retry to the group or moves on
    to the next one. -/
theorem scan_retry {setting : SelectSetting} {answers : Availability α} {s : Selection}
    {out : Option (α × String) × Selection}
    (h : ScanCase setting answers s.index (setting.userAutoGroups.drop s.index) s.index s out)
    (hcross : setting.crossGroupRetry = true) (hpositive : 1 ≤ setting.retryTimes)
    (hpolicy : ∀ g, answers.policyChannel g = none) (hflag : s.param.resetNextTry = false)
    (hfound : out.1 ≠ none) :
    out.2.param.retry < setting.retryTimes ∧
      out.2.increase.param.retry ≤ setting.retryTimes := by
  cases h with
  | exhausted => exact absurd rfl hfound
  | policy j found channel hj hchannel =>
    rw [hpolicy] at hchannel
    cases hchannel
  | drawn j found channel =>
    dsimp only
    unfold Selection.draw
    split
    · exact ⟨hpositive, Nat.zero_le _⟩
    · next hstay =>
      have hlt : s.priorityRetry s.index (s.index + j) < setting.retryTimes :=
        Nat.lt_of_not_le fun hle => hstay ⟨hcross, hle⟩
      have hparam : (s.skipTo s.index (s.index + j)).param.retry < setting.retryTimes ∧
          (s.skipTo s.index (s.index + j)).param.resetNextTry = false := by
        cases j with
        | zero =>
          rw [Nat.add_zero, s.skipTo_self]
          exact ⟨by simpa [Selection.priorityRetry] using hlt, hflag⟩
        | succ j =>
          rw [s.skipTo_of_ne (by omega)]
          exact ⟨hpositive, hflag⟩
      refine ⟨hparam.1, ?_⟩
      show (RetryParam.increaseRetry _).retry ≤ _
      simp only [RetryParam.increaseRetry, hparam.2]
      exact hparam.1

end TokenRouter

namespace TokenRouter.RelayLoop

variable {V : Type}

/-- A turn whose attempt fails with an error that may be tried again, or for which no channel is
    left. -/
def retryableTurn (env : RelayEnv V) (s : RelayState V) (e : AttemptInput V) : Bool :=
  s.result.isSome ||
    match getChannel env (enter s) e with
    | (_, some _) =>
      match (cacheGetRandomSatisfiedChannel env.select e.answers s.selection).1 with
      | .ok (some _) => false
      | _ => true
    | (s₁, none) =>
      e.bodyError.isNone && (attemptError env s₁ e).any fun err => shouldRetry env.rules err 1

theorem retryableTurn_missing {env : RelayEnv V} {s s₁ : RelayState V} {e : AttemptInput V}
    {err : APIError} (h : retryableTurn env s e = true) (hresult : s.result = none)
    (hget : getChannel env (enter s) e = (s₁, some err)) (c : SelectedChannel V × String) :
    (cacheGetRandomSatisfiedChannel env.select e.answers s.selection).1 ≠ .ok (some c) := by
  intro hc
  simp [retryableTurn, hresult, hget, hc] at h

theorem retryableTurn_failed {env : RelayEnv V} {s s₁ : RelayState V} {e : AttemptInput V}
    (h : retryableTurn env s e = true) (hresult : s.result = none)
    (hget : getChannel env (enter s) e = (s₁, none)) :
    e.bodyError = none ∧
      ∃ err, attemptError env s₁ e = some err ∧ shouldRetry env.rules err 1 = true := by
  simpa [retryableTurn, hresult, hget, Option.any_eq_true] using h

/-- An error that may be tried again is tried again while the count is positive. -/
theorem shouldRetry_of_pos {rules : RetryRules} {err : APIError} {count : Int}
    (h : shouldRetry rules err 1 = true) (hcount : 0 < count) :
    shouldRetry rules err count = true := by
  rw [← h]
  simp only [shouldRetry, if_neg (show ¬ (1 : Int) ≤ 0 by decide),
    if_neg (show ¬ count ≤ 0 by omega)]

/-- The group has been tried. -/
def Tried (group : String) (s : RelayState V) : Prop := ∃ a ∈ s.attempts, a.group = some group

/-- While the loop runs, an offered group that lies before the current one has been tried; once
    the loop has been left, every offered one has. -/
structure TriedInOrder (env : RelayEnv V) (group : String) (s : RelayState V) : Prop where
  flag : s.result = none → s.selection.param.resetNextTry = false
  first : s.result = none → s.headerInfo.channelMeta = none → s.selection.param.retry = 0
  retry : s.result = none → s.selection.param.retry ≤ env.select.retryTimes
  passed : s.result = none → ∀ k, env.select.userAutoGroups[k]? = some group →
    k < s.selection.index → Tried group s
  left : s.result ≠ none → Tried group s

theorem Tried.mono {group : String} {s s' : RelayState V} (h : Tried group s)
    (hattempts : ∀ a ∈ s.attempts, a ∈ s'.attempts) : Tried group s' := by
  obtain ⟨a, ha, hgroup⟩ := h
  exact ⟨a, hattempts a ha, hgroup⟩

section Walk

variable {env : RelayEnv V} {group : String}

theorem autoGroups_ne_nil (hgroup : group ∈ env.select.userAutoGroups) :
    env.select.autoGroups.length ≠ 0 := by
  have hmem : group ∈ env.select.autoGroups := List.mem_of_mem_filter hgroup
  exact (List.length_pos_of_mem hmem).ne'

/-- The selection of a turn that comes to an attempt. -/
theorem getChannel_passes (hauto : env.select.tokenGroup = "auto")
    (hcross : env.select.crossGroupRetry = true) (hpositive : 1 ≤ env.select.retryTimes)
    (hgroup : group ∈ env.select.userAutoGroups) {s s₁ : RelayState V} {e : AttemptInput V}
    (hpolicy : ∀ g, e.answers.policyChannel g = none) (hoffers : e.answers.Offers group)
    (hresult : s.result = none) (h : TriedInOrder env group s)
    (hget : getChannel env (enter s) e = (s₁, none)) :
    s₁.selection.param.retry < env.select.retryTimes ∧
    s₁.selection.increase.param.retry ≤ env.select.retryTimes ∧
    ∀ k, env.select.userAutoGroups[k]? = some group → k < s₁.selection.index →
      k < s.selection.index ∨ s₁.selected.2 = some group := by
  have hcase := getChannel_case env (enter s) e
  generalize getChannel env (enter s) e = out at hget hcase
  cases hcase with
  | missing => cases hget
  | first hmeta =>
    cases hget
    have hretry : s.selection.param.retry = 0 := h.first hresult hmeta
    refine ⟨hretry ▸ hpositive, ?_, fun k _ hlt => .inl hlt⟩
    show (RetryParam.increaseRetry _).retry ≤ _
    simp only [RetryParam.increaseRetry, enter, h.flag hresult, hretry]
    exact hpositive
  | found m channel found selection hmeta hselect =>
    rw [Prod.mk.injEq] at hget
    obtain ⟨rfl, -⟩ := hget
    obtain ⟨out, hscan, heq⟩ := cacheGetRandomSatisfiedChannel_scan hauto
      (autoGroups_ne_nil hgroup) e.answers s.selection
    rw [show (enter s).selection = s.selection from rfl, heq] at hselect
    obtain ⟨hfound, hselection⟩ := Prod.mk.inj hselect
    have hout : out.1 = some (channel, found) := by simpa using hfound
    have hretry := scan_retry hscan hcross hpositive hpolicy (h.flag hresult) (by simp [hout])
    rw [hselection] at hretry
    refine ⟨hretry.1, hretry.2, ?_⟩
    intro k hk hlt
    rcases scan_passes hscan hoffers hk (.inr (hselection ▸ hlt)) with hbefore | ⟨⟨c, hc⟩, -⟩
    · exact .inl hbefore
    · rw [hout] at hc
      cases hc
      exact .inr rfl

/-- A turn keeps the order in which offered groups are tried. -/
theorem triedInOrder_turn (hauto : env.select.tokenGroup = "auto")
    (hcross : env.select.crossGroupRetry = true) (hpositive : 1 ≤ env.select.retryTimes)
    (hgroup : group ∈ env.select.userAutoGroups) {s : RelayState V} {e : AttemptInput V}
    (hpolicy : ∀ g, e.answers.policyChannel g = none) (hoffers : e.answers.Offers group)
    (hretryable : retryableTurn env s e = true) (h : TriedInOrder env group s) :
    TriedInOrder env group (turn env s e) := by
  have hcase := turn_case env s e
  generalize turn env s e = s' at hcase
  cases hcase with
  | idle => exact h
  | spent hresult hretry => exact absurd hretry (Nat.not_lt.mpr (h.retry hresult))
  | noBody s₁ err hresult _ hget hbody =>
    have hnone := (retryableTurn_failed hretryable hresult hget).1
    rw [hbody] at hnone
    cases hnone
  | succeeded s₁ hresult _ hget _ herr =>
    obtain ⟨-, err, hsome, -⟩ := retryableTurn_failed hretryable hresult hget
    rw [herr] at hsome
    cases hsome
  | noChannel s₁ err hresult _ hget =>
    have hmissing := retryableTurn_missing hretryable hresult hget
    obtain ⟨out, hscan, heq⟩ := cacheGetRandomSatisfiedChannel_scan hauto
      (autoGroups_ne_nil hgroup) e.answers s.selection
    have hnone : out.1 = none := by
      rw [heq] at hmissing
      cases ho : out.1 with
      | none => rfl
      | some c => exact absurd (by rw [ho]) (hmissing c)
    obtain ⟨k, hk⟩ := List.mem_iff_getElem?.mp hgroup
    have hbefore : k < s.selection.index := by
      rcases scan_passes hscan hoffers hk (.inl hnone) with hbefore | ⟨⟨c, hc⟩, -⟩
      · exact hbefore
      · rw [hnone] at hc
        cases hc
    have hattempts : s₁.attempts = s.attempts := by
      have hframe := (getChannel_frame env (enter s) e).1
      rw [hget] at hframe
      exact hframe
    have htried : Tried group (leave s₁ (.error err)) := by
      refine (h.passed hresult k hk hbefore).mono ?_
      intro a ha
      show a ∈ s₁.attempts
      rw [hattempts]
      exact ha
    exact ⟨fun hn => by simp [leave] at hn, fun hn => by simp [leave] at hn,
      fun hn => by simp [leave] at hn, fun hn => by simp [leave] at hn, fun _ => htried⟩
  | failed s₁ err hresult _ hget hbody herr =>
    obtain ⟨-, err', hsome, hretry⟩ := retryableTurn_failed hretryable hresult hget
    rw [herr] at hsome
    cases hsome
    obtain ⟨hlt, hle, hpassed⟩ := getChannel_passes hauto hcross hpositive hgroup hpolicy hoffers
      hresult h hget
    have hagain : shouldRetry env.rules err
        (env.select.retryTimes - s₁.selection.param.retry) = true :=
      shouldRetry_of_pos hretry (by omega)
    have hattempts : s₁.attempts = s.attempts := by
      have hframe := (getChannel_frame env (enter s) e).1
      rw [hget] at hframe
      exact hframe
    have hrunning : s₁.result = none := by
      have hframe := (getChannel_frame env (enter s) e).2
      rw [hget] at hframe
      exact hframe.trans hresult
    have hmeta : (attempted env s₁ e).headerInfo.channelMeta ≠ none := prepare_channelMeta env s₁ e
    unfold afterError
    dsimp only
    rw [if_pos (show shouldRetry env.rules err
      (env.select.retryTimes - (attempted env s₁ e).selection.param.retry) = true from hagain)]
    refine ⟨fun _ => RetryParam.increaseRetry_resetNextTry _, fun _ hnone => absurd hnone hmeta,
      fun _ => hle, ?_, fun hn => absurd hrunning hn⟩
    intro _ k hk hindex
    rcases hpassed k hk hindex with hbefore | hselected
    · refine (h.passed hresult k hk hbefore).mono ?_
      intro a ha
      rw [← hattempts] at ha
      exact List.mem_append_left _ ha
    · refine ⟨_, List.mem_append_right s₁.attempts (List.mem_singleton_self _), hselected⟩

end Walk

/-- The choice of `Distribute`, where it is a selection, is made among offers of the group too. -/
def FirstOffers (group : String) : FirstChoice V → Prop
  | .selected answers => answers.Offers group
  | _ => True

theorem distribute_passes {env : RelayEnv V} {group : String}
    (hauto : env.select.tokenGroup = "auto") (hpositive : 1 ≤ env.select.retryTimes)
    (hgroup : group ∈ env.select.userAutoGroups) {choice : FirstChoice V}
    (hoffers : FirstOffers group choice) {channel : SelectedChannel V} {first : Option String}
    {ctx : GroupContext} (h : distribute env.select choice = some (channel, first, ctx)) {k : Nat}
    (hk : env.select.userAutoGroups[k]? = some group) :
    ¬ k < Selection.index { ctx := ctx } := by
  cases choice with
  | specific c =>
    cases h
    exact Nat.not_lt_zero k
  | preferred c g =>
    cases h
    exact Nat.not_lt_zero k
  | selected answers =>
    obtain ⟨out, hscan, heq⟩ := cacheGetRandomSatisfiedChannel_scan hauto
      (autoGroups_ne_nil hgroup) answers {}
    have hctx : out.2.ctx = ctx := by
      simp only [distribute, heq] at h
      split at h
      · next hselect =>
        cases h
        exact congrArg Selection.ctx (Prod.mk.inj hselect).2
      · cases h
    intro hlt
    have hindex : k < out.2.index := by
      unfold Selection.index
      rw [hctx]
      exact hlt
    rcases scan_passes hscan hoffers hk (.inr hindex) with hbefore | ⟨-, hlast⟩
    · exact Nat.not_lt_zero k hbefore
    · exact absurd hlast (Nat.not_le.mpr hpositive)

theorem triedInOrder_start {env : RelayEnv V} {group : String}
    (hauto : env.select.tokenGroup = "auto") (hpositive : 1 ≤ env.select.retryTimes)
    (hgroup : group ∈ env.select.userAutoGroups) {choice : FirstChoice V}
    (hoffers : FirstOffers group choice) {key : KeyDraw} {s : RelayState V}
    (h : start env choice key = some s) : TriedInOrder env group s := by
  unfold start at h
  split at h
  · cases h
  · next hd =>
    cases h
    refine ⟨fun _ => rfl, fun _ _ => rfl, fun _ => Nat.zero_le _, ?_, fun hn => absurd rfl hn⟩
    intro _ k hk hlt
    exact absurd hlt (distribute_passes hauto hpositive hgroup hoffers hd hk)

/-- With cross-group retries and at least one retry, a loop that has been left because of retryable
    errors has tried every group that was offered all along, if no policy chose the channels. -/
theorem groups_tried {env : RelayEnv V} {group : String} (hauto : env.select.tokenGroup = "auto")
    (hcross : env.select.crossGroupRetry = true) (hpositive : 1 ≤ env.select.retryTimes)
    (hgroup : group ∈ env.select.userAutoGroups) {choice : FirstChoice V}
    (hoffers : FirstOffers group choice) {key : KeyDraw} {s₀ : RelayState V}
    (hstart : start env choice key = some s₀) {es : List (AttemptInput V)}
    (hanswers : ∀ e ∈ es, (∀ g, e.answers.policyChannel g = none) ∧ e.answers.Offers group)
    (hretryable : Run.Steps (turn env) (fun s e => retryableTurn env s e = true) s₀ es)
    (hleft : (Run.run (turn env) s₀ es).result ≠ none) :
    Tried group (Run.run (turn env) s₀ es) := by
  have hsteps := hretryable.and (Run.steps_of_forall_mem s₀ hanswers)
  have hall := Run.always_of_steps (fun s e h hC =>
    triedInOrder_turn hauto hcross hpositive hgroup hC.2.1 hC.2.2 hC.1 h)
    (triedInOrder_start hauto hpositive hgroup hoffers hstart) hsteps
  exact hall.last.left hleft

/-- The loop makes at most `RetryTimes + 1` attempts for each auto group and one group more, is
    left after as many turns, and never returns to an earlier group; with cross-group retries, at
    least one retry and no policy it gives up on retryable errors only after every offered group
    has been tried. -/
theorem retry_walk {env : RelayEnv V} {choice : FirstChoice V} {key : KeyDraw}
    {s₀ : RelayState V} (hstart : start env choice key = some s₀) (es : List (AttemptInput V)) :
    (Run.run (turn env) s₀ es).attempts.length ≤
        (env.select.retryTimes + 1) * (groupCount env + 1) ∧
    ((env.select.retryTimes + 1) * (groupCount env + 1) < es.length →
      (Run.run (turn env) s₀ es).result ≠ none) ∧
    (∀ es', (Run.run (turn env) s₀ es).selection.index ≤
      (Run.run (turn env) s₀ (es ++ es')).selection.index) ∧
    (env.select.tokenGroup = "auto" → env.select.crossGroupRetry = true →
      1 ≤ env.select.retryTimes → ∀ group ∈ env.select.userAutoGroups, FirstOffers group choice →
      (∀ e ∈ es, (∀ g, e.answers.policyChannel g = none) ∧ e.answers.Offers group) →
      Run.Steps (turn env) (fun s e => retryableTurn env s e = true) s₀ es →
      (Run.run (turn env) s₀ es).result ≠ none → Tried group (Run.run (turn env) s₀ es)) := by
  have hlength : s₀.attempts = [] := by
    unfold start at hstart
    split at hstart
    · cases hstart
    · cases hstart
      rfl
  refine ⟨attempts_le hstart es, ?_, ?_, ?_⟩
  · intro hlong hnone
    have hcount := (run_attempts s₀ es hnone).2
    have hle := attempts_le hstart es
    rw [hcount, hlength, List.length_nil, Nat.zero_add] at hle
    exact absurd hlong (Nat.not_lt.mpr hle)
  · intro es'
    rw [Run.run_append]
    exact autoGroupIndex_le env _ es'
  · intro hauto hcross hpositive group hgroup hoffers hanswers hretryable hleft
    exact groups_tried hauto hcross hpositive hgroup hoffers hstart hanswers hretryable hleft

/-! ## Two groups -/

/-- A token with the auto groups `default` and `vip`, crossing groups on retries. -/
def twoGroups (retryTimes : Nat) : RelayEnv Unit :=
  { select :=
      { tokenGroup := "auto"
        autoGroups := ["default", "vip"]
        crossGroupRetry := true
        retryTimes := retryTimes }
    rules := {}
    ratios := { groupRatio := fun _ => none, groupGroupRatio := fun _ _ => none }
    billing := .ratio
    text := { toLower := id, compileRegex := fun _ => none }
    engine := { isEmpty := fun _ => true, apply := fun _ body _ => .ok (body, []) }
    request := { originModelName := "m" } }

/-- Every group has a channel at all times, the upstream fails with 500, and a policy may choose
    the channels of `default`. -/
def failingTurn (policy : Bool) : AttemptInput Unit :=
  let channel : SelectedChannel Unit :=
    { id := 1, key := "sk", setting := (), otherSettings := (), paramOverride := () }
  { answers :=
      { policyChannel := fun g => if policy ∧ g = "default" then some channel else none
        randomChannel := fun _ _ => (some channel, none) }
    body := ()
    upstream := some { statusCode := 500 } }

theorem failingTurn_offers (policy : Bool) (group : String) :
    (failingTurn policy).answers.Offers group := fun _ h => by cases h

/-- With one retry the walk comes to `vip`. -/
theorem retry_walk_two_groups : ∃ s₀,
    start (twoGroups 1) (.selected (failingTurn false).answers) {} = some s₀ ∧
    Tried "vip" (Run.run (turn (twoGroups 1)) s₀ (List.replicate 5 (failingTurn false))) := by
  refine ⟨_, rfl, ?_⟩
  have h := @retry_walk Unit (twoGroups 1) (.selected (failingTurn false).answers) {} _ rfl
    (List.replicate 5 (failingTurn false))
  refine h.2.2.2 rfl rfl le_rfl "vip" (by decide) (failingTurn_offers false "vip") ?_
    (by decide) nofun
  intro e he
  obtain rfl := List.eq_of_mem_replicate he
  exact ⟨fun g => by simp [failingTurn], failingTurn_offers false "vip"⟩

/-- Without retries, or with a policy for `default`, the loop gives up on retryable errors although
    `vip` has a channel that was never tried. -/
theorem offered_group_not_tried :
    (∃ s₀, start (twoGroups 0) (.selected (failingTurn false).answers) {} = some s₀ ∧
      Run.Steps (turn (twoGroups 0)) (fun s e => retryableTurn (twoGroups 0) s e = true) s₀
        [failingTurn false] ∧
      (Run.run (turn (twoGroups 0)) s₀ [failingTurn false]).result ≠ none ∧
      ¬ Tried "vip" (Run.run (turn (twoGroups 0)) s₀ [failingTurn false])) ∧
    ∃ s₀, start (twoGroups 1) (.selected (failingTurn true).answers) {} = some s₀ ∧
      Run.Steps (turn (twoGroups 1)) (fun s e => retryableTurn (twoGroups 1) s e = true) s₀
        [failingTurn true, failingTurn true] ∧
      (Run.run (turn (twoGroups 1)) s₀ [failingTurn true, failingTurn true]).result ≠ none ∧
      ¬ Tried "vip" (Run.run (turn (twoGroups 1)) s₀ [failingTurn true, failingTurn true]) := by
  constructor
  · refine ⟨_, rfl, by decide, nofun, ?_⟩
    rintro ⟨a, ha, hgroup⟩
    cases List.mem_singleton.mp ha
    revert hgroup
    decide
  · refine ⟨_, rfl, by decide, nofun, ?_⟩
    rintro ⟨a, ha, hgroup⟩
    cases ha with
    | head =>
      revert hgroup
      decide
    | tail _ ha =>
      cases List.mem_singleton.mp ha
      revert hgroup
      decide

end TokenRouter.RelayLoop
