import TokenRouter.Controller.Relay
import TokenRouter.ForStd.Run

/-!
# The group a request is billed for

A request of a token with the group `auto` may move from group to group between its attempts.
The ratio in `PriceData` moves along with every selection; the ratio in the snapshot of tiered
billing stays the one of the group of the first attempt.

## Key results

- `priced_turn`: every turn of the loop keeps the price fields in step with the selected group
- `settle_ratio_iff`: when a successful attempt is settled at the ratio of its group
-/

namespace TokenRouter.RelayLoop

variable {V : Type}

/-- The group whose ratio is billed: the one in the context, or else the group of the token. -/
def billedGroup (group : Option String) : String := group.getD "auto"

/-- The price fields, relative to the group of the first attempt. -/
structure Priced (env : RelayEnv V) (first : Option String) (s : RelayState V) : Prop where
  userGroup : s.price.userGroup = env.userGroup
  autoGroup : s.selection.ctx.autoGroup = s.selected.2
  usingGroup : s.price.usingGroup = billedGroup s.selected.2
  ratio : s.price.groupRatioInfo =
    groupRatioInfo env.ratios env.userGroup (billedGroup s.selected.2)
  tiered : s.price.tieredGroupRatio =
    if env.billing = .tieredExpr then
      some (groupRatioInfo env.ratios env.userGroup (billedGroup first)).groupRatio
    else none

/-- A step that leaves the prices, the context and the selected channel alone. -/
theorem Priced.congr {env : RelayEnv V} {first : Option String} {s s' : RelayState V}
    (h : Priced env first s) (hprice : s'.price = s.price)
    (hctx : s'.selection.ctx = s.selection.ctx) (hselected : s'.selected = s.selected) :
    Priced env first s' where
  userGroup := by rw [hprice, h.userGroup]
  autoGroup := by rw [hctx, hselected, h.autoGroup]
  usingGroup := by rw [hprice, hselected, h.usingGroup]
  ratio := by rw [hprice, hselected, h.ratio]
  tiered := by rw [hprice, h.tiered]

theorem Priced.leave {env : RelayEnv V} {first : Option String} {s : RelayState V}
    (h : Priced env first s) (result : Except APIError Unit) :
    Priced env first (leave s result) := h.congr rfl rfl rfl

theorem Priced.attempted {env : RelayEnv V} {first : Option String} {s : RelayState V}
    (h : Priced env first s) (e : AttemptInput V) : Priced env first (attempted env s e) :=
  h.congr rfl rfl rfl

theorem Priced.afterError {env : RelayEnv V} {first : Option String} {s : RelayState V}
    (h : Priced env first s) (err : APIError) : Priced env first (afterError env s err) := by
  unfold RelayLoop.afterError
  dsimp only
  split
  · exact h.congr rfl rfl rfl
  · exact h.congr rfl rfl rfl

/-- The group of a selection that finds nothing is the one before. -/
theorem Priced.reselect {env : RelayEnv V} {first : Option String} {s : RelayState V}
    (h : Priced env first s) {selection : Selection}
    (hctx : selection.ctx.autoGroup = s.selection.ctx.autoGroup) :
    Priced env first (reselect env s selection) := by
  have hgroup : selection.ctx.autoGroup.getD s.price.usingGroup = billedGroup s.selected.2 := by
    rw [hctx, h.autoGroup, h.usingGroup]
    cases s.selected.2 <;> rfl
  refine ⟨h.userGroup, hctx.trans h.autoGroup, hgroup, ?_, h.tiered⟩
  show groupRatioInfo env.ratios s.price.userGroup _ = _
  rw [hgroup, h.userGroup]
  rfl

/-- The ratio is that of the group a selection has found. -/
theorem Priced.adopt {env : RelayEnv V} {first : Option String} {s : RelayState V}
    (h : Priced env first s) {selection : Selection} {group : String}
    (hctx : selection.ctx.autoGroup = some group) (channel : SelectedChannel V) (key : KeyDraw) :
    Priced env first (adopt env (RelayLoop.reselect env s selection) channel group key) := by
  have hgroup : selection.ctx.autoGroup.getD s.price.usingGroup = group := by rw [hctx]; rfl
  refine ⟨h.userGroup, hctx, hgroup, ?_, h.tiered⟩
  show groupRatioInfo env.ratios s.price.userGroup _ = _
  rw [hgroup, h.userGroup]
  rfl

theorem priced_getChannel {env : RelayEnv V} (hauto : env.select.tokenGroup = "auto")
    {first : Option String} {s : RelayState V} (h : Priced env first s) (e : AttemptInput V) :
    Priced env first (getChannel env s e).1 := by
  have hcase := getChannel_case env s e
  generalize getChannel env s e = out at hcase
  cases hcase with
  | first hmeta => exact h
  | missing m found selection message hmeta hselect hfound =>
    exact h.reselect ((cacheGetRandomSatisfiedChannel_autoGroup hauto hselect).2 hfound)
  | found m channel group selection hmeta hselect =>
    exact h.adopt ((cacheGetRandomSatisfiedChannel_autoGroup hauto hselect).1 channel group rfl)
      channel e.key

/-- Every turn keeps the price fields in step with the selected group. -/
theorem priced_turn {env : RelayEnv V} (hauto : env.select.tokenGroup = "auto")
    {first : Option String} (s : RelayState V) (e : AttemptInput V) (h : Priced env first s) :
    Priced env first (turn env s e) := by
  have henter : Priced env first (enter s) := h.congr rfl rfl rfl
  have hget := priced_getChannel hauto henter e
  have hcase := turn_case env s e
  generalize turn env s e = s' at hcase
  cases hcase with
  | idle => exact h
  | spent => exact h.leave _
  | noChannel s₁ err _ _ heq =>
    rw [heq] at hget
    exact hget.leave _
  | noBody s₁ err _ _ heq =>
    rw [heq] at hget
    exact hget.leave _
  | succeeded s₁ _ _ heq =>
    rw [heq] at hget
    exact (hget.attempted e).congr rfl rfl rfl
  | failed s₁ err _ _ heq =>
    rw [heq] at hget
    exact (hget.attempted e).afterError err

/-- The loop begins with prices for the group of `Distribute`. -/
theorem priced_start {env : RelayEnv V} (hauto : env.select.tokenGroup = "auto")
    {choice : FirstChoice V} {key : KeyDraw} {s : RelayState V}
    (h : start env choice key = some s) : Priced env s.selected.2 s := by
  unfold start at h
  rcases hd : distribute env.select choice with _ | ⟨channel, group, ctx⟩
  · rw [hd] at h
    cases h
  · rw [hd] at h
    cases h
    have hctx : ctx.autoGroup = group := by
      cases choice with
      | specific c =>
        cases hd
        rfl
      | preferred c g =>
        cases hd
        simp [hauto]
      | selected answers =>
        simp only [distribute] at hd
        split at hd
        · next c g sel hselect =>
          cases hd
          exact (cacheGetRandomSatisfiedChannel_autoGroup hauto hselect).1 _ _ rfl
        · cases hd
    have hgroup : ctx.autoGroup.getD env.select.tokenGroup = billedGroup group := by
      rw [hctx, hauto]
      rfl
    refine ⟨rfl, hctx, hgroup, ?_, ?_⟩
    · show groupRatioInfo env.ratios env.userGroup _ = _
      rw [hgroup]
    · show (if env.billing = .tieredExpr then
          some (groupRatioInfo env.ratios env.userGroup
            (ctx.autoGroup.getD env.select.tokenGroup)).groupRatio
        else none) = _
      rw [hgroup]

/-! ## The attempt that succeeds -/

theorem getChannel_result (env : RelayEnv V) (s : RelayState V) (e : AttemptInput V) :
    (getChannel env s e).1.result = s.result := by
  have hcase := getChannel_case env s e
  generalize getChannel env s e = out at hcase
  cases hcase <;> rfl

/-- A request that has succeeded did so with its last attempt, on the selected channel. -/
def ServedLast (s : RelayState V) : Prop :=
  s.result = some (.ok ()) → ∃ a, s.attempts.getLast? = some a ∧ a.group = s.selected.2

theorem servedLast_turn (env : RelayEnv V) (s : RelayState V) (e : AttemptInput V)
    (h : ServedLast s) : ServedLast (turn env s e) := by
  have hcase := turn_case env s e
  generalize turn env s e = s' at hcase
  intro hdone
  cases hcase with
  | idle => exact h hdone
  | spent => cases hdone
  | noChannel => cases hdone
  | noBody => cases hdone
  | succeeded s₁ =>
    refine ⟨attempt env s₁ e (prepare env s₁ e).2, ?_, rfl⟩
    simp [leave, attempted]
  | failed s₁ err hresult _ hget =>
    have hnone : s₁.result = none := by
      have := getChannel_result env (enter s) e
      rw [hget] at this
      exact this.trans hresult
    simp only [afterError] at hdone
    split at hdone
    · simp [attempted, hnone] at hdone
    · simp [leave] at hdone

section Settle

variable {env : RelayEnv V} {s₀ : RelayState V}

/-- The ratio of a group, as `HandleGroupRatio` gives it for this request. -/
def ratioOf (env : RelayEnv V) (s₀ : RelayState V) (ctx : GroupContext) : ℚ :=
  (handleGroupRatio env.ratios ctx s₀.price).1.groupRatio

/-- A successful attempt is settled at the ratio of the group that served it exactly if the
    model is not billed by a tiered expression, or the group of the first attempt has the same
    ratio. -/
theorem settle_ratio_iff (hauto : env.select.tokenGroup = "auto") {choice : FirstChoice V}
    {key : KeyDraw} (hstart : start env choice key = some s₀) (es : List (AttemptInput V))
    {served : Attempt V} {group : String}
    (hdone : (Run.run (turn env) s₀ es).result = some (.ok ()))
    (hserved : (Run.run (turn env) s₀ es).attempts.getLast? = some served)
    (hgroup : served.group = some group) :
    (Run.run (turn env) s₀ es).price.settleGroupRatio =
        ratioOf env s₀ { autoGroup := some group } ↔
      env.billing ≠ .tieredExpr ∨
        ratioOf env s₀ s₀.selection.ctx = ratioOf env s₀ { autoGroup := some group } := by
  have hpriced₀ := priced_start hauto hstart
  have hpriced := Run.run_inv (fun s e => priced_turn hauto s e) hpriced₀ es
  have hlast : ServedLast (Run.run (turn env) s₀ es) := by
    refine Run.run_inv (servedLast_turn env) ?_ es
    intro hdone₀
    rw [start] at hstart
    split at hstart
    · cases hstart
    · cases hstart
      cases hdone₀
  obtain ⟨a, ha, hagroup⟩ := hlast hdone
  rw [hserved] at ha
  cases ha
  have hselected : (Run.run (turn env) s₀ es).selected.2 = some group := by
    rw [← hagroup, hgroup]
  have hratio : ratioOf env s₀ { autoGroup := some group } =
      (groupRatioInfo env.ratios env.userGroup group).groupRatio := by
    show (groupRatioInfo env.ratios s₀.price.userGroup group).groupRatio = _
    rw [hpriced₀.userGroup]
  have hfirst : ratioOf env s₀ s₀.selection.ctx =
      (groupRatioInfo env.ratios env.userGroup (billedGroup s₀.selected.2)).groupRatio := by
    show (groupRatioInfo env.ratios s₀.price.userGroup
      (s₀.selection.ctx.autoGroup.getD s₀.price.usingGroup)).groupRatio = _
    rw [hpriced₀.userGroup, hpriced₀.autoGroup, hpriced₀.usingGroup]
    cases s₀.selected.2 <;> rfl
  rw [hratio, hfirst, PriceInfo.settleGroupRatio, hpriced.tiered, hpriced.ratio, hselected]
  by_cases hb : env.billing = .tieredExpr
  · simp [hb]
  · simp [hb, billedGroup]

end Settle

/-! ## A request that moves to a dearer group -/

/-- A channel with its number. -/
def plainChannel (id : Nat) : SelectedChannel Unit :=
  { id := id, key := "sk", setting := (), otherSettings := (), paramOverride := () }

/-- Two auto groups: `vip` at the ratio 2 and `default` at 1. -/
def tieredEnv (billing : ModelBilling) : RelayEnv Unit :=
  { select :=
      { tokenGroup := "auto"
        autoGroups := ["default", "vip"]
        crossGroupRetry := true
        retryTimes := 1 }
    rules := {}
    ratios :=
      { groupRatio := fun g => if g = "vip" then some 2 else if g = "default" then some 1 else none
        groupGroupRatio := fun _ _ => none }
    billing := billing
    text := { toLower := id, compileRegex := fun _ => none }
    engine := { isEmpty := fun _ => true, apply := fun _ body _ => .ok (body, []) }
    request := { originModelName := "m" } }

/-- A turn in which only the channels of one group are available. -/
def groupTurn (group : String) (upstream : Option APIError) : AttemptInput Unit :=
  { answers :=
      { policyChannel := fun _ => none
        randomChannel := fun g _ => (if g = group then some (plainChannel 1) else none, none) }
    body := ()
    upstream := upstream }

/-- The first attempt, in `default`, fails; the second one is served by `vip`. -/
def dearerTurns : List (AttemptInput Unit) :=
  [groupTurn "default" (some { statusCode := 500 }), groupTurn "vip" none]

/-- The request as `Distribute` leaves it: a channel of `default`. -/
def defaultFirst : FirstChoice Unit := .selected (groupTurn "default" none).answers

/-- A model with a ratio is billed at the ratio of `vip`. -/
theorem settle_ratio_moved : ∃ s₀, start (tieredEnv .ratio) defaultFirst {} = some s₀ ∧
    (Run.run (turn (tieredEnv .ratio)) s₀ dearerTurns).price.settleGroupRatio = 2 := by
  refine ⟨_, rfl, ?_⟩
  have h := @settle_ratio_iff Unit (tieredEnv .ratio) _ rfl defaultFirst {} rfl dearerTurns _ "vip"
    rfl rfl rfl
  rw [h.mpr (.inl (by decide))]
  rfl

/-- With a tiered expression the request that `vip` served is billed at the ratio 1. -/
theorem settled_at_first_group : ∃ s₀ served,
    start (tieredEnv .tieredExpr) defaultFirst {} = some s₀ ∧
    (Run.run (turn (tieredEnv .tieredExpr)) s₀ dearerTurns).result = some (.ok ()) ∧
    (Run.run (turn (tieredEnv .tieredExpr)) s₀ dearerTurns).attempts.getLast? = some served ∧
    served.group = some "vip" ∧
    ratioOf (tieredEnv .tieredExpr) s₀ { autoGroup := some "vip" } = 2 ∧
    (Run.run (turn (tieredEnv .tieredExpr)) s₀ dearerTurns).price.settleGroupRatio = 1 :=
  ⟨_, _, rfl, rfl, rfl, rfl, rfl, rfl⟩

end TokenRouter.RelayLoop
