import Mathlib

/-!
# Group selection on retries (`service/channel_select.go`)

For a token of the group `auto` the channel comes from the first of the user's auto groups
that has one, from the group of the last selection on. The index of that group is kept in the
request context, the retry counter in a `RetryParam`; selection writes both.
-/

namespace TokenRouter

/-- `RetryParam`: the counter, and whether its next increase is left out. -/
structure RetryParam where
  retry : Nat := 0
  resetNextTry : Bool := false
  deriving DecidableEq

namespace RetryParam

/-- `SetRetry` -/
def setRetry (p : RetryParam) (retry : Nat) : RetryParam := { p with retry := retry }

/-- `ResetRetryNextTry` -/
def resetRetryNextTry (p : RetryParam) : RetryParam := { p with resetNextTry := true }

/-- `IncreaseRetry` -/
def increaseRetry (p : RetryParam) : RetryParam :=
  if p.resetNextTry then { p with resetNextTry := false } else { p with retry := p.retry + 1 }

end RetryParam

/-- The keys `auto_group` and `auto_group_index` of the request context. -/
structure GroupContext where
  autoGroup : Option String := none
  autoGroupIndex : Option Nat := none
  deriving DecidableEq

/-- What selection reads of the token, of the user and of the settings. `autoGroups` is
    `setting.GetAutoGroups()`, `usableGroup` tells the keys of `GetUserUsableGroups`. -/
structure SelectSetting where
  tokenGroup : String
  autoGroups : List String := []
  usableGroup : String → Bool := fun _ => true
  crossGroupRetry : Bool := false
  retryTimes : Nat := 0

/-- `GetUserAutoGroup` -/
def SelectSetting.userAutoGroups (setting : SelectSetting) : List String :=
  setting.autoGroups.filter setting.usableGroup

/-- What the tables answer during one selection: `getSupplyRoutingPolicyChannel` for a group,
    and the channel and the error of `GetRandomSatisfiedChannel` for a group and a retry. -/
structure Availability (α : Type) where
  policyChannel : String → Option α
  randomChannel : String → Nat → Option α × Option String

/-- The part of the state that a selection changes. -/
structure Selection where
  param : RetryParam := {}
  ctx : GroupContext := {}
  deriving DecidableEq

variable {α : Type}

/-- The loop over the auto groups, at the group of index `i`. -/
def scanAutoGroups (setting : SelectSetting) (answers : Availability α) (startGroupIndex : Nat) :
    List String → Nat → Selection → Option (α × String) × Selection
  | [], _, s => (none, s)
  | autoGroup :: rest, i, s =>
    let priorityRetry := if startGroupIndex < i then 0 else s.param.retry
    match answers.policyChannel autoGroup with
    | some channel =>
      (some (channel, autoGroup), { s with ctx := { s.ctx with autoGroup := some autoGroup } })
    | none =>
      match (answers.randomChannel autoGroup priorityRetry).1 with
      | none =>
        scanAutoGroups setting answers startGroupIndex rest (i + 1)
          { param := s.param.setRetry 0, ctx := { s.ctx with autoGroupIndex := some (i + 1) } }
      | some channel =>
        if setting.crossGroupRetry ∧ setting.retryTimes ≤ priorityRetry then
          (some (channel, autoGroup),
            { param := (s.param.setRetry 0).resetRetryNextTry
              ctx := { autoGroup := some autoGroup, autoGroupIndex := some (i + 1) } })
        else
          (some (channel, autoGroup),
            { s with ctx := { autoGroup := some autoGroup, autoGroupIndex := some i } })

/-- `CacheGetRandomSatisfiedChannel`: a channel with its group, none, or an error. -/
def cacheGetRandomSatisfiedChannel (setting : SelectSetting) (answers : Availability α)
    (s : Selection) : Except String (Option (α × String)) × Selection :=
  if setting.tokenGroup = "auto" then
    if setting.autoGroups.length = 0 then (.error "auto groups is not enabled", s)
    else
      let startGroupIndex := s.ctx.autoGroupIndex.getD 0
      let (found, s') := scanAutoGroups setting answers startGroupIndex
        (setting.userAutoGroups.drop startGroupIndex) startGroupIndex s
      (.ok found, s')
  else
    match answers.policyChannel setting.tokenGroup with
    | some channel => (.ok (some (channel, setting.tokenGroup)), s)
    | none =>
      match answers.randomChannel setting.tokenGroup s.param.retry with
      | (_, some err) => (.error err, s)
      | (channel, none) => (.ok (channel.map fun c => (c, setting.tokenGroup)), s)

/-! ## What a selection does -/

/-- A selection that has passed the groups before `j`, the first of them at index `i`. -/
def Selection.skipTo (s : Selection) (i j : Nat) : Selection :=
  if j = i then s
  else { param := s.param.setRetry 0, ctx := { s.ctx with autoGroupIndex := some j } }

/-- The retry number that the group of index `j` is asked for. -/
def Selection.priorityRetry (s : Selection) (startGroupIndex j : Nat) : Nat :=
  if startGroupIndex < j then 0 else s.param.retry

/-- A group without a channel at a retry number. -/
def Availability.Empty (answers : Availability α) (group : String) (retry : Nat) : Prop :=
  answers.policyChannel group = none ∧ (answers.randomChannel group retry).1 = none

/-- The state after a channel of `group`, the group of index `j`, has been drawn. -/
def Selection.draw (setting : SelectSetting) (s : Selection) (startGroupIndex i j : Nat)
    (group : String) : Selection :=
  if setting.crossGroupRetry ∧ setting.retryTimes ≤ s.priorityRetry startGroupIndex j then
    { param := ((s.skipTo i j).param.setRetry 0).resetRetryNextTry
      ctx := { autoGroup := some group, autoGroupIndex := some (j + 1) } }
  else
    { param := (s.skipTo i j).param
      ctx := { autoGroup := some group, autoGroupIndex := some j } }

@[simp] theorem Selection.skipTo_self (s : Selection) (i : Nat) : s.skipTo i i = s := by
  simp [skipTo]

theorem Selection.skipTo_of_ne (s : Selection) {i j : Nat} (h : j ≠ i) :
    s.skipTo i j = { param := s.param.setRetry 0, ctx := { s.ctx with autoGroupIndex := some j } } := by
  simp [skipTo, h]

/-- Passing one group first makes no difference. -/
theorem Selection.skipTo_succ (s : Selection) {i j : Nat} (h : i + 1 ≤ j) :
    Selection.skipTo { param := s.param.setRetry 0
                       ctx := { s.ctx with autoGroupIndex := some (i + 1) } } (i + 1) j =
      s.skipTo i j := by
  rw [skipTo_of_ne s (by omega)]
  unfold skipTo
  split
  · next heq => rw [heq]
  · rfl

/-- The outcomes of a scan of the groups from index `i` on: all of them are passed, or the
    groups before an index `j` are passed and the group there has a channel. -/
inductive ScanCase (setting : SelectSetting) (answers : Availability α) (startGroupIndex : Nat)
    (groups : List String) (i : Nat) (s : Selection) :
    Option (α × String) × Selection → Prop where
  | exhausted
      (passed : ∀ k g, groups[k]? = some g →
        answers.Empty g (s.priorityRetry startGroupIndex (i + k))) :
      ScanCase setting answers startGroupIndex groups i s (none, s.skipTo i (i + groups.length))
  | policy (k : Nat) (group : String) (channel : α) (hk : groups[k]? = some group)
      (hchannel : answers.policyChannel group = some channel)
      (passed : ∀ k' g, groups[k']? = some g → k' < k →
        answers.Empty g (s.priorityRetry startGroupIndex (i + k'))) :
      ScanCase setting answers startGroupIndex groups i s
        (some (channel, group),
          { param := (s.skipTo i (i + k)).param
            ctx := { (s.skipTo i (i + k)).ctx with autoGroup := some group } })
  | drawn (k : Nat) (group : String) (channel : α) (hk : groups[k]? = some group)
      (hpolicy : answers.policyChannel group = none)
      (hchannel : (answers.randomChannel group (s.priorityRetry startGroupIndex (i + k))).1 =
        some channel)
      (passed : ∀ k' g, groups[k']? = some g → k' < k →
        answers.Empty g (s.priorityRetry startGroupIndex (i + k'))) :
      ScanCase setting answers startGroupIndex groups i s
        (some (channel, group), s.draw setting startGroupIndex i (i + k) group)

theorem Selection.priorityRetry_skip (s : Selection) {startGroupIndex i j : Nat}
    (hi : startGroupIndex ≤ i) (h : i + 1 ≤ j) :
    Selection.priorityRetry { param := s.param.setRetry 0
                              ctx := { s.ctx with autoGroupIndex := some (i + 1) } }
      startGroupIndex j = s.priorityRetry startGroupIndex j := by
  simp [priorityRetry, show startGroupIndex < j by omega]

/-- A group that has been passed comes first in the outcomes of the rest. -/
theorem ScanCase.cons {setting : SelectSetting} {answers : Availability α} {startGroupIndex i : Nat}
    {s : Selection} {group : String} {rest : List String}
    {out : Option (α × String) × Selection} (hi : startGroupIndex ≤ i)
    (hempty : answers.Empty group (s.priorityRetry startGroupIndex i))
    (h : ScanCase setting answers startGroupIndex rest (i + 1)
      { param := s.param.setRetry 0, ctx := { s.ctx with autoGroupIndex := some (i + 1) } } out) :
    ScanCase setting answers startGroupIndex (group :: rest) i s out := by
  have hshift : ∀ k, i + 1 + k = i + (k + 1) := fun k => by omega
  have hpriority := fun k => s.priorityRetry_skip hi (show i + 1 ≤ i + (k + 1) by omega)
  have hskip := fun k => s.skipTo_succ (show i + 1 ≤ i + (k + 1) by omega)
  cases h with
  | exhausted passed =>
    rw [hshift, hskip]
    refine .exhausted ?_
    intro k g hk
    cases k with
    | zero =>
      cases hk
      exact hempty
    | succ k => simpa [hshift, hpriority] using passed k g hk
  | policy k g channel hk hchannel passed =>
    rw [hshift, hskip]
    refine .policy (k + 1) g channel hk hchannel ?_
    intro k' g' hk' hlt
    cases k' with
    | zero =>
      cases hk'
      exact hempty
    | succ k' => simpa [hshift, hpriority] using passed k' g' hk' (by omega)
  | drawn k g channel hk hpolicy hchannel passed =>
    rw [hshift, hpriority] at hchannel
    have hdraw : Selection.draw setting
        { param := s.param.setRetry 0, ctx := { s.ctx with autoGroupIndex := some (i + 1) } }
        startGroupIndex (i + 1) (i + 1 + k) g = s.draw setting startGroupIndex i (i + (k + 1)) g := by
      unfold Selection.draw
      rw [hshift, hpriority, hskip]
    rw [hdraw]
    refine .drawn (k + 1) g channel hk hpolicy hchannel ?_
    intro k' g' hk' hlt
    cases k' with
    | zero =>
      cases hk'
      exact hempty
    | succ k' => simpa [hshift, hpriority] using passed k' g' hk' (by omega)

/-- What the loop over the auto groups does. -/
theorem scanAutoGroups_case (setting : SelectSetting) (answers : Availability α)
    {startGroupIndex i : Nat} (hi : startGroupIndex ≤ i) (groups : List String) (s : Selection) :
    ScanCase setting answers startGroupIndex groups i s
      (scanAutoGroups setting answers startGroupIndex groups i s) := by
  induction groups generalizing i s with
  | nil =>
    have h : ScanCase setting answers startGroupIndex [] i s (none, s.skipTo i (i + 0)) :=
      .exhausted (by simp)
    simpa [scanAutoGroups] using h
  | cons group rest ih =>
    unfold scanAutoGroups
    cases hp : answers.policyChannel group with
    | some channel =>
      have h : ScanCase setting answers startGroupIndex (group :: rest) i s
          (some (channel, group),
            { param := (s.skipTo i (i + 0)).param
              ctx := { (s.skipTo i (i + 0)).ctx with autoGroup := some group } }) :=
        .policy 0 group channel rfl hp (by simp)
      simpa using h
    | none =>
      dsimp only
      cases hr : (answers.randomChannel group (s.priorityRetry startGroupIndex i)).1 with
      | none =>
        simp only [Selection.priorityRetry] at hr
        simp only [hr]
        exact (ih (by omega) _).cons hi ⟨hp, hr⟩
      | some channel =>
        have h : ScanCase setting answers startGroupIndex (group :: rest) i s
            (some (channel, group), s.draw setting startGroupIndex i (i + 0) group) :=
          .drawn 0 group channel rfl hp hr (by simp)
        simp only [Selection.priorityRetry] at hr
        simp only [hr]
        simpa [Selection.draw, Selection.priorityRetry, apply_ite] using h

@[simp] theorem Selection.skipTo_autoGroup (s : Selection) (i j : Nat) :
    (s.skipTo i j).ctx.autoGroup = s.ctx.autoGroup := by
  unfold skipTo
  split
  · rfl
  · rfl

@[simp] theorem Selection.draw_autoGroup (setting : SelectSetting) (s : Selection)
    (startGroupIndex i j : Nat) (group : String) :
    (s.draw setting startGroupIndex i j group).ctx.autoGroup = some group := by
  unfold draw
  split
  · rfl
  · rfl

/-- For a token of the group `auto`, the context names the group of the channel. -/
theorem cacheGetRandomSatisfiedChannel_autoGroup {setting : SelectSetting}
    (hauto : setting.tokenGroup = "auto") {answers : Availability α} {s s' : Selection}
    {found : Except String (Option (α × String))}
    (h : cacheGetRandomSatisfiedChannel setting answers s = (found, s')) :
    (∀ channel group, found = .ok (some (channel, group)) → s'.ctx.autoGroup = some group) ∧
    ((∀ c, found ≠ .ok (some c)) → s'.ctx.autoGroup = s.ctx.autoGroup) := by
  unfold cacheGetRandomSatisfiedChannel at h
  rw [if_pos hauto] at h
  split at h
  · cases h
    exact ⟨fun _ _ hc => absurd hc (by simp), fun _ => rfl⟩
  · have hcase := scanAutoGroups_case setting answers (Nat.le_refl (s.ctx.autoGroupIndex.getD 0))
      (setting.userAutoGroups.drop (s.ctx.autoGroupIndex.getD 0)) s
    dsimp only at h
    generalize scanAutoGroups setting answers _ _ _ s = out at hcase h
    cases h
    cases hcase with
    | exhausted => exact ⟨fun _ _ hc => absurd hc (by simp), fun _ => by simp⟩
    | policy k group channel =>
      refine ⟨?_, fun hne => absurd rfl (hne (channel, group))⟩
      intro c g hc
      cases hc
      rfl
    | drawn k group channel =>
      refine ⟨?_, fun hne => absurd rfl (hne (channel, group))⟩
      intro c g hc
      cases hc
      simp

end TokenRouter
