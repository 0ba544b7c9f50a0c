import TokenRouter.Model.PaymentOrder
import TokenRouter.ForStd.Run

/-!
# A paid order is honoured once

Every call that completes an order checks the status that it has read. Whether an order is
honoured twice is decided at the commits: it is not, exactly as long as no call writes an
order that another one has completed since it was read.

## Key results

- `PaySystem.writes_spec`: what the writes of a call do to completed orders and counts
- `PaySystem.step_honoured_iff`: a step keeps the orders honoured exactly when it does not
  write over a completed one
- `honoured_once_iff_not_overwritten`: the equivalence over every interleaving
- `concurrent_callbacks_credit_twice`: two callbacks of one payment, credited twice
-/

namespace TokenRouter

/-! ## Orders of a trade number -/

/-- The trade number belongs to a subscription order. -/
def PaymentDB.isSubscription (db : PaymentDB) (tradeNo : String) : Bool :=
  (db.orders.find? tradeNo).isSome

namespace PaySystem

/-- How often the order of a trade number was honoured: credits of a top-up, subscriptions
    of a subscription order. -/
def honours (s : PaySystem) (tradeNo : String) : Nat :=
  if s.db.isSubscription tradeNo then s.created tradeNo else s.credits tradeNo

/-- The order is honoured at most once, a completed order has been honoured, and an order
    that was completed stays completed. -/
structure Honoured (s : PaySystem) (tradeNo : String) : Prop where
  once : s.honours tradeNo ≤ 1
  honoured : success s.db tradeNo = true → s.honours tradeNo = 1
  final : s.succeeded tradeNo = true → success s.db tradeNo = true

theorem success_topUp {db : PaymentDB} {tradeNo : String} (h : db.orders.find? tradeNo = none) :
    success db tradeNo = (db.topUps.find? tradeNo).any (·.status = "success") := by
  rw [success, h]

theorem success_order {db : PaymentDB} {tradeNo : String} {order : SubscriptionOrder}
    (h : db.orders.find? tradeNo = some order) :
    success db tradeNo = decide (order.status = "success") := by
  rw [success, h]

/-- Whether an order is completed only depends on its own rows. -/
theorem success_congr {db db' : PaymentDB} {tradeNo : String}
    (horders : db'.orders.find? tradeNo = db.orders.find? tradeNo)
    (htopUps : db'.topUps.find? tradeNo = db.topUps.find? tradeNo) :
    success db' tradeNo = success db tradeNo := by
  rw [success, success, horders, htopUps]

/-! ## The invariant -/

/-- What a call holds fits the tables. -/
def StageOk (db : PaymentDB) (p : PayProc) : Prop :=
  match p.stage with
  | .topUpReady write =>
    write.topUp.tradeNo = p.op.tradeNo ∧ db.orders.find? p.op.tradeNo = none ∧
      (∃ row, db.topUps.find? p.op.tradeNo = some row ∧ row.userId = write.topUp.userId) ∧
      (write.credit.isSome = true ↔ write.topUp.status = "success")
  | .orderRead order => order.tradeNo = p.op.tradeNo ∧ db.isSubscription p.op.tradeNo = true
  | .subCreated order _ => order.tradeNo = p.op.tradeNo ∧ db.isSubscription p.op.tradeNo = true
  | .completeReady order _ mirror _ =>
    order.tradeNo = p.op.tradeNo ∧ db.isSubscription p.op.tradeNo = true ∧
      mirror.tradeNo = p.op.tradeNo ∧ mirror.status = "success"
  | .expireReady order =>
    order.tradeNo = p.op.tradeNo ∧ db.isSubscription p.op.tradeNo = true ∧
      order.status ≠ "success"
  | _ => True

/-- The tables: the top-up rows of subscription orders are mirrors of completed ones, and
    the users of the other top-up orders exist. -/
structure TablesOk (db : PaymentDB) : Prop where
  mirror : ∀ tradeNo, db.isSubscription tradeNo = true →
    ∀ row ∈ db.topUps.find? tradeNo, row.status = "success"
  users : ∀ row ∈ db.topUps.rows, db.orders.find? row.tradeNo = none →
    (db.wallets.find? row.userId).isSome = true

/-- What holds in every state, whatever is lost or doubled. -/
structure Inv (s : PaySystem) : Prop where
  tables : TablesOk s.db
  procs : ∀ p ∈ s.procs.rows, StageOk s.db p
  seen : ∀ tradeNo, success s.db tradeNo = true → s.succeeded tradeNo = true
  counted : ∀ tradeNo, 0 < s.honours tradeNo → s.succeeded tradeNo = true

/-! ## Reads -/

theorem complete_write {rule : TopUpRule} {now : Int} {topUp : TopUp} {write : TopUpWrite}
    (h : rule.complete now topUp = .ok (some write)) :
    topUp.status = "pending" ∧ write.topUp.tradeNo = topUp.tradeNo ∧
      write.topUp.userId = topUp.userId ∧
      (write.credit.isSome = true ↔ write.topUp.status = "success") := by
  unfold TopUpRule.complete at h
  split at h
  · cases h
  · split at h
    · cases h
    · split at h
      · cases h
      · next hpending =>
        dsimp only at h
        split at h
        · cases h
        · simp only [Except.ok.injEq, Option.some.injEq] at h
          subst h
          exact ⟨not_not.mp hpending, rfl, rfl, by simp⟩

/-- A call writes a top-up order that it has read as pending. -/
theorem topUpWrite_write {env : PaymentEnv} {now : Int} {op : PayOp} {topUp : TopUp}
    {write : TopUpWrite} (h : op.topUpWrite env now topUp = some (.ok (some write))) :
    topUp.status = "pending" ∧ write.topUp.tradeNo = topUp.tradeNo ∧
      write.topUp.userId = topUp.userId ∧
      (write.credit.isSome = true ↔ write.topUp.status = "success") := by
  cases op with
  | recharge tradeNo => exact complete_write (Option.some.inj h)
  | rechargeCreem tradeNo customerEmail => exact complete_write (Option.some.inj h)
  | rechargeWaffo tradeNo => exact complete_write (Option.some.inj h)
  | rechargeWaffoPancake tradeNo => exact complete_write (Option.some.inj h)
  | manualCompleteTopUp tradeNo => exact complete_write (Option.some.inj h)
  | updatePendingTopUpStatus tradeNo expected target closes =>
    have h' := Option.some.inj h
    unfold updatePendingTopUpStatus at h'
    split at h'
    · cases h'
    · split at h'
      · cases h'
      · next hpending =>
        simp only [Except.ok.injEq, Option.some.injEq] at h'
        subst h'
        exact ⟨not_not.mp hpending, rfl, rfl, by simpa using closes⟩
  | completeSubscriptionOrder tradeNo payload expected method => cases h
  | expireSubscriptionOrder tradeNo expected => cases h

theorem stageOk_returned (db : PaymentDB) (p : PayProc) (result : Except String Unit) :
    StageOk db { p with stage := .returned result } := trivial

theorem readTopUp_ok {env : PaymentEnv} {db : PaymentDB} (hdb : TablesOk db) {p : PayProc}
    (hp : p.stage = .started) : StageOk db { p with stage := p.readTopUp env db } := by
  unfold PayProc.readTopUp
  cases hfind : db.topUps.find? p.op.tradeNo with
  | none => exact stageOk_returned db p _
  | some topUp =>
    dsimp only
    cases hwrite : p.op.topUpWrite env p.now.unix topUp with
    | none =>
      rw [hp]
      trivial
    | some result =>
      cases result with
      | error e => exact stageOk_returned db p _
      | ok choice =>
        cases choice with
        | none => exact stageOk_returned db p _
        | some write =>
          obtain ⟨hpending, htrade, huser, hcredit⟩ := topUpWrite_write hwrite
          have hkey : topUp.tradeNo = p.op.tradeNo := Table.find?_key hfind
          refine ⟨htrade.trans hkey, ?_, ⟨topUp, hfind, huser.symm⟩, hcredit⟩
          -- a mirror would not be pending
          by_contra horder
          have hsub : db.isSubscription p.op.tradeNo = true := by
            simpa [PaymentDB.isSubscription, Option.isSome_iff_ne_none] using horder
          have hmirror := hdb.mirror _ hsub topUp hfind
          rw [hpending] at hmirror
          simp at hmirror

theorem readOrder_ok {db : PaymentDB} {p : PayProc} (expected : String) :
    StageOk db { p with stage := p.readOrder db expected } := by
  unfold PayProc.readOrder
  cases hfind : db.orders.find? p.op.tradeNo with
  | none => exact stageOk_returned db p _
  | some order =>
    dsimp only
    split
    · exact stageOk_returned db p _
    · exact stageOk_returned db p _
    · exact ⟨Table.find?_key hfind, by simp [PaymentDB.isSubscription, hfind]⟩

theorem readExpiring_ok {db : PaymentDB} {p : PayProc} (expected : String) :
    StageOk db { p with stage := p.readExpiring db expected } := by
  unfold PayProc.readExpiring
  cases hfind : db.orders.find? p.op.tradeNo with
  | none => exact stageOk_returned db p _
  | some order =>
    dsimp only
    split
    · exact stageOk_returned db p _
    · exact stageOk_returned db p _
    · next order' hexpire =>
      unfold expireSubscriptionOrder at hexpire
      split at hexpire
      · cases hexpire
      · split at hexpire
        · cases hexpire
        · simp only [Except.ok.injEq, Option.some.injEq] at hexpire
          subst hexpire
          have hkey : order.tradeNo = p.op.tradeNo := Table.find?_key hfind
          exact ⟨hkey, by simp [PaymentDB.isSubscription, hfind], by simp⟩

theorem createSubscription_ok {env : PaymentEnv} {db : PaymentDB} {p : PayProc}
    {order : SubscriptionOrder} (hp : order.tradeNo = p.op.tradeNo)
    (hsub : db.isSubscription p.op.tradeNo = true) :
    StageOk db { p with stage := p.createSubscription env db order } := by
  unfold PayProc.createSubscription
  split
  · exact stageOk_returned db p _
  · split
    · exact stageOk_returned db p _
    · exact ⟨hp, hsub⟩

theorem upsert_mirror {now : Int} {order : SubscriptionOrder} {found : Option TopUp}
    {mirror : TopUp} (h : upsertSubscriptionTopUp now order found = .ok mirror)
    (hfound : ∀ row ∈ found, row.tradeNo = order.tradeNo) :
    mirror.tradeNo = order.tradeNo ∧ mirror.status = "success" := by
  cases found with
  | none =>
    simp only [upsertSubscriptionTopUp, Except.ok.injEq] at h
    subst h
    exact ⟨rfl, rfl⟩
  | some row =>
    dsimp only [upsertSubscriptionTopUp] at h
    split at h
    · cases h
    · simp only [Except.ok.injEq] at h
      subst h
      exact ⟨hfound row rfl, rfl⟩

theorem readMirror_ok {db : PaymentDB} {p : PayProc} {order : SubscriptionOrder}
    {created : NewSubscription} (hp : order.tradeNo = p.op.tradeNo)
    (hsub : db.isSubscription p.op.tradeNo = true) :
    StageOk db { p with stage := p.readMirror db order created } := by
  unfold PayProc.readMirror
  dsimp only
  split
  · exact stageOk_returned db p _
  · next mirror hmirror =>
    obtain ⟨htrade, hstatus⟩ := upsert_mirror hmirror fun row hrow => Table.find?_key hrow
    exact ⟨hp, hsub, htrade.trans hp, hstatus⟩

/-- A read leaves a call with something that fits the tables. -/
theorem read_ok (env : PaymentEnv) {db : PaymentDB} (hdb : TablesOk db) {p : PayProc}
    (hp : StageOk db p) : StageOk db { p with stage := p.read env db } := by
  unfold PayProc.read
  cases hstage : p.stage with
  | started =>
    dsimp only
    split
    · exact stageOk_returned db p _
    · split
      · exact readOrder_ok _
      · exact readExpiring_ok _
      · exact readTopUp_ok hdb hstage
  | orderRead order =>
    rw [StageOk, hstage] at hp
    exact createSubscription_ok hp.1 hp.2
  | subCreated order created =>
    rw [StageOk, hstage] at hp
    exact readMirror_ok hp.1 hp.2
  | _ =>
    rw [StageOk, hstage] at hp
    exact hp

/-! ## Writes -/

theorem isSubscription_eq_false {db : PaymentDB} {tradeNo : String} :
    db.isSubscription tradeNo = false ↔ db.orders.find? tradeNo = none := by
  simp [PaymentDB.isSubscription]

/-- No order is lost, and a top-up order keeps its user. -/
structure Frame (db db' : PaymentDB) : Prop where
  subscription : ∀ tradeNo, db'.isSubscription tradeNo = db.isSubscription tradeNo
  rows : ∀ tradeNo row, db.orders.find? tradeNo = none → db.topUps.find? tradeNo = some row →
    ∃ row', db'.topUps.find? tradeNo = some row' ∧ row'.userId = row.userId

theorem Frame.orders_none {db db' : PaymentDB} (hframe : Frame db db') {tradeNo : String}
    (h : db.orders.find? tradeNo = none) : db'.orders.find? tradeNo = none := by
  rw [← isSubscription_eq_false] at h ⊢
  rw [hframe.subscription, h]

theorem Frame.stageOk {db db' : PaymentDB} (hframe : Frame db db') {p : PayProc}
    (hp : StageOk db p) : StageOk db' p := by
  unfold StageOk at hp ⊢
  cases hstage : p.stage with
  | topUpReady write =>
    rw [hstage] at hp
    obtain ⟨htrade, horder, ⟨row, hrow, huser⟩, hcredit⟩ := hp
    obtain ⟨row', hrow', huser'⟩ := hframe.rows _ row horder hrow
    exact ⟨htrade, hframe.orders_none horder, ⟨row', hrow', huser'.trans huser⟩, hcredit⟩
  | orderRead order =>
    rw [hstage] at hp
    exact ⟨hp.1, (hframe.subscription _).trans hp.2⟩
  | subCreated order created =>
    rw [hstage] at hp
    exact ⟨hp.1, (hframe.subscription _).trans hp.2⟩
  | completeReady order created mirror fresh =>
    rw [hstage] at hp
    exact ⟨hp.1, (hframe.subscription _).trans hp.2.1, hp.2.2⟩
  | expireReady order =>
    rw [hstage] at hp
    exact ⟨hp.1, (hframe.subscription _).trans hp.2.1, hp.2.2⟩
  | started => trivial
  | returned result => trivial

/-- The writes of a call on one order. -/
structure WriteSpec (s s' : PaySystem) (tradeNo : String) : Prop where
  others : ∀ t, t ≠ tradeNo → success s'.db t = success s.db t ∧ s'.honours t = s.honours t
  self : (success s'.db tradeNo = true ∧ s'.honours tradeNo = s.honours tradeNo + 1) ∨
    (success s'.db tradeNo = false ∧ s'.honours tradeNo = s.honours tradeNo)
  tables : TablesOk s'.db
  frame : Frame s.db s'.db
  succeeded : s'.succeeded = s.succeeded

/-- The counts of other orders. -/
theorem honours_congr {s s' : PaySystem} {t : String}
    (hsub : s'.db.isSubscription t = s.db.isSubscription t)
    (hcredits : s'.credits t = s.credits t) (hcreated : s'.created t = s.created t) :
    s'.honours t = s.honours t := by
  rw [honours, honours, hsub, hcredits, hcreated]

theorem honours_topUp {s : PaySystem} {t : String} (h : s.db.orders.find? t = none) :
    s.honours t = s.credits t := by
  rw [honours, isSubscription_eq_false.mpr h]
  rfl

theorem honours_order {s : PaySystem} {t : String} (h : s.db.isSubscription t = true) :
    s.honours t = s.created t := by
  rw [honours, if_pos h]

/-- A top-up order is saved, with its user's row in place. -/
theorem tablesOk_set_topUp {db db' : PaymentDB} (hdb : TablesOk db) {topUp row : TopUp}
    (horders : db'.orders = db.orders) (htopUps : db'.topUps = db.topUps.set topUp)
    (hwallets : ∀ u, (db.wallets.find? u).isSome = true → (db'.wallets.find? u).isSome = true)
    (hrow : db.topUps.find? topUp.tradeNo = some row) (huser : row.userId = topUp.userId)
    (hnone : db.orders.find? topUp.tradeNo = none) : TablesOk db' := by
  constructor
  · intro t ht r hr
    have hne : topUp.tradeNo ≠ t := by
      intro heq
      rw [PaymentDB.isSubscription, horders, ← heq, hnone] at ht
      cases ht
    rw [htopUps, Table.find?_set_of_ne _ hne] at hr
    rw [PaymentDB.isSubscription, horders] at ht
    exact hdb.mirror t ht r hr
  · intro r hr horder
    rw [htopUps] at hr
    rw [horders] at horder
    apply hwallets
    cases Table.mem_set hr with
    | inl heq =>
      rw [heq, ← huser]
      exact hdb.users row (Table.find?_mem hrow) (by rw [Table.find?_key hrow]; exact hnone)
    | inr hold => exact hdb.users r hold.1 horder

theorem frame_set_topUp {db db' : PaymentDB} {topUp row : TopUp}
    (horders : db'.orders = db.orders) (htopUps : db'.topUps = db.topUps.set topUp)
    (hrow : db.topUps.find? topUp.tradeNo = some row) (huser : row.userId = topUp.userId) :
    Frame db db' := by
  constructor
  · intro t
    rw [PaymentDB.isSubscription, PaymentDB.isSubscription, horders]
  · intro t r _ hr
    by_cases ht : topUp.tradeNo = t
    · subst ht
      refine ⟨topUp, ?_, ?_⟩
      · rw [htopUps]
        exact Table.find?_set_self hrow rfl
      · rw [hrow] at hr
        cases hr
        exact huser.symm
    · exact ⟨r, by rw [htopUps, Table.find?_set_of_ne _ ht, hr], rfl⟩

theorem success_set_topUp (db db' : PaymentDB) {topUp row : TopUp}
    (horders : db'.orders = db.orders) (htopUps : db'.topUps = db.topUps.set topUp)
    (hrow : db.topUps.find? topUp.tradeNo = some row)
    (hnone : db.orders.find? topUp.tradeNo = none) (t : String) :
    success db' t =
      if t = topUp.tradeNo then decide (topUp.status = "success") else success db t := by
  by_cases ht : t = topUp.tradeNo
  · subst ht
    rw [if_pos rfl, success_topUp (by rw [horders]; exact hnone), htopUps,
      Table.find?_set_self hrow rfl]
    rfl
  · rw [if_neg ht]
    refine success_congr (by rw [horders]) ?_
    rw [htopUps, Table.find?_set_of_ne _ (Ne.symm ht)]

theorem addQuota_wallets (db : PaymentDB) (userId quota u : Int)
    (h : (db.wallets.find? u).isSome = true) :
    ((db.addQuota userId quota).wallets.find? u).isSome = true := by
  have hfind := Table.find?_update db.wallets userId u
    (f := fun user => { user with quota := user.quota + quota }) fun _ => rfl
  show ((db.wallets.update userId fun user => { user with quota := user.quota + quota }).find?
    u).isSome = true
  rw [hfind]
  split
  · simpa using h
  · exact h

theorem commitTopUp_spec {s s' : PaySystem} (hs : TablesOk s.db) {email tradeNo : String}
    {write : TopUpWrite} {row : TopUp} (htrade : write.topUp.tradeNo = tradeNo)
    (hnone : s.db.orders.find? tradeNo = none) (hrow : s.db.topUps.find? tradeNo = some row)
    (huser : row.userId = write.topUp.userId)
    (hcredit : write.credit.isSome = true ↔ write.topUp.status = "success")
    (h : s.commitTopUp email write = .ok s') : WriteSpec s s' tradeNo := by
  subst htrade
  unfold commitTopUp at h
  dsimp only at h
  cases hc : write.credit with
  | none =>
    -- the order is closed
    simp only [hc, Except.ok.injEq] at h
    subst h
    have hstatus : write.topUp.status ≠ "success" := by
      intro hsucc
      have hsome := hcredit.mpr hsucc
      simp [hc] at hsome
    have hsuccess := success_set_topUp s.db
      { s.db with topUps := s.db.topUps.set write.topUp } rfl rfl hrow hnone
    refine ⟨?_, .inr ⟨?_, rfl⟩, tablesOk_set_topUp hs rfl rfl (fun _ hu => hu) hrow huser hnone,
      frame_set_topUp rfl rfl hrow huser, rfl⟩
    · intro t ht
      exact ⟨by rw [hsuccess, if_neg ht], rfl⟩
    · rw [hsuccess, if_pos rfl]
      simpa using hstatus
  | some quota =>
    have hstatus : write.topUp.status = "success" := hcredit.mp (by simp [hc])
    have hwallet : (s.db.wallets.find? write.topUp.userId).isSome = true := by
      rw [← huser]
      exact hs.users row (Table.find?_mem hrow) (by rw [Table.find?_key hrow]; exact hnone)
    cases hfind : s.db.wallets.find? write.topUp.userId with
    | none => simp [hfind] at hwallet
    | some user =>
      simp only [hc, hfind, Except.ok.injEq] at h
      subst h
      have hsuccess := success_set_topUp s.db
        (PaymentDB.addQuota { s.db with topUps := s.db.topUps.set write.topUp }
          write.topUp.userId quota) rfl rfl hrow hnone
      refine ⟨?_, .inl ⟨?_, ?_⟩, ?_, frame_set_topUp rfl rfl hrow huser, rfl⟩
      · intro t ht
        refine ⟨by rw [hsuccess, if_neg ht], honours_congr rfl ?_ rfl⟩
        exact Function.update_of_ne ht _ _
      · rw [hsuccess, if_pos rfl]
        simpa using hstatus
      · rw [honours_topUp hnone]
        refine (honours_topUp (by exact hnone)).trans ?_
        exact Function.update_self _ _ _
      · exact tablesOk_set_topUp hs rfl rfl
          (fun u hu => addQuota_wallets _ write.topUp.userId quota u hu) hrow huser hnone

theorem isSubscription_set (db db' : PaymentDB) {order : SubscriptionOrder}
    (horders : db'.orders = db.orders.set order) (t : String) :
    db'.isSubscription t = db.isSubscription t := by
  rw [PaymentDB.isSubscription, PaymentDB.isSubscription, horders, Table.find?_set]
  split
  · simp
  · rfl

theorem success_set_order (db db' : PaymentDB) {order : SubscriptionOrder}
    (horders : db'.orders = db.orders.set order)
    (htopUps : ∀ t, t ≠ order.tradeNo → db'.topUps.find? t = db.topUps.find? t)
    (hsub : db.isSubscription order.tradeNo = true) (t : String) :
    success db' t =
      if t = order.tradeNo then decide (order.status = "success") else success db t := by
  by_cases ht : t = order.tradeNo
  · subst ht
    rw [if_pos rfl]
    obtain ⟨old, hold⟩ := Option.isSome_iff_exists.mp hsub
    exact success_order (by rw [horders]; exact Table.find?_set_self hold rfl)
  · rw [if_neg ht]
    refine success_congr ?_ (htopUps t ht)
    rw [horders, Table.find?_set_of_ne _ (Ne.symm ht)]

/-- The tables stay in order when only rows of a subscription order change. -/
theorem tablesOk_set_order {db db' : PaymentDB} (hdb : TablesOk db) {order : SubscriptionOrder}
    (horders : db'.orders = db.orders.set order) (hwallets : db'.wallets = db.wallets)
    (htopUps : ∀ t, t ≠ order.tradeNo → db'.topUps.find? t = db.topUps.find? t)
    (hmirror : ∀ row ∈ db'.topUps.find? order.tradeNo, row.status = "success")
    (hsub : db.isSubscription order.tradeNo = true) : TablesOk db' := by
  constructor
  · intro t ht row hrow
    by_cases heq : t = order.tradeNo
    · exact hmirror row (heq ▸ hrow)
    · rw [htopUps t heq] at hrow
      rw [isSubscription_set db db' horders] at ht
      exact hdb.mirror t ht row hrow
  · intro row hrow horder
    have hnone : db.isSubscription row.tradeNo = false := by
      rw [← isSubscription_set db db' horders]
      exact isSubscription_eq_false.mpr horder
    have hne : row.tradeNo ≠ order.tradeNo := by
      intro heq
      rw [heq, hsub] at hnone
      cases hnone
    have hfind := Table.find?_of_mem hrow
    rw [htopUps _ hne] at hfind
    rw [hwallets]
    exact hdb.users row (Table.find?_mem hfind) (isSubscription_eq_false.mp hnone)

theorem frame_set_order {db db' : PaymentDB} {order : SubscriptionOrder}
    (horders : db'.orders = db.orders.set order)
    (htopUps : ∀ t, t ≠ order.tradeNo → db'.topUps.find? t = db.topUps.find? t)
    (hsub : db.isSubscription order.tradeNo = true) : Frame db db' := by
  constructor
  · exact isSubscription_set db db' horders
  · intro t row hnone hrow
    have hne : t ≠ order.tradeNo := by
      intro heq
      rw [← isSubscription_eq_false, heq, hsub] at hnone
      cases hnone
    exact ⟨row, by rw [htopUps t hne, hrow], rfl⟩

theorem commitComplete_spec {s s' : PaySystem} (hs : TablesOk s.db) {now : Int}
    {payload method : String} {order : SubscriptionOrder} {created : NewSubscription}
    {mirror : TopUp} {fresh : Bool} (hsub : s.db.isSubscription order.tradeNo = true)
    (hmirror : mirror.tradeNo = order.tradeNo) (hstatus : mirror.status = "success")
    (h : s.commitComplete now payload method order created mirror fresh = .ok s') :
    WriteSpec s s' order.tradeNo := by
  unfold commitComplete at h
  split at h
  · cases h
  · simp only [Except.ok.injEq] at h
    subst h
    have htopUps : ∀ t, t ≠ order.tradeNo →
        (s.db.topUps.upsert mirror).find? t = s.db.topUps.find? t := by
      intro t ht
      rw [Table.find?_upsert, if_neg fun heq => ht (heq.symm.trans hmirror)]
    have hrow : ∀ row ∈ (s.db.topUps.upsert mirror).find? order.tradeNo,
        row.status = "success" := by
      intro row hrow
      rw [Table.find?_upsert, if_pos hmirror] at hrow
      cases hrow
      exact hstatus
    have hsuccess := success_set_order s.db
      { s.db with
        topUps := s.db.topUps.upsert mirror
        orders := s.db.orders.set (completedOrder now payload method order)
        subscriptions := s.db.subscriptions.insertCreated created } rfl htopUps hsub
    have hframe : Frame s.db { s.db with
        topUps := s.db.topUps.upsert mirror
        orders := s.db.orders.set (completedOrder now payload method order)
        subscriptions := s.db.subscriptions.insertCreated created } :=
      frame_set_order rfl htopUps hsub
    refine ⟨?_, .inl ⟨?_, ?_⟩, tablesOk_set_order hs rfl rfl htopUps hrow hsub, hframe, rfl⟩
    · intro t ht
      refine ⟨(hsuccess t).trans (if_neg ht), honours_congr (hframe.subscription t) rfl ?_⟩
      exact Function.update_of_ne ht _ _
    · exact (hsuccess order.tradeNo).trans (if_pos rfl)
    · rw [honours_order hsub]
      refine (honours_order ((hframe.subscription _).trans hsub)).trans ?_
      exact Function.update_self _ _ _

theorem commitExpire_spec {s : PaySystem} (hs : TablesOk s.db) {order : SubscriptionOrder}
    (hsub : s.db.isSubscription order.tradeNo = true) (hstatus : order.status ≠ "success") :
    WriteSpec s { s with db := { s.db with orders := s.db.orders.set order } } order.tradeNo := by
  have hsuccess := success_set_order s.db { s.db with orders := s.db.orders.set order } rfl
    (fun _ _ => rfl) hsub
  have hframe : Frame s.db { s.db with orders := s.db.orders.set order } :=
    frame_set_order rfl (fun _ _ => rfl) hsub
  refine ⟨?_, .inr ⟨?_, ?_⟩, ?_, hframe, rfl⟩
  · intro t ht
    exact ⟨by rw [hsuccess, if_neg ht], honours_congr (hframe.subscription t) rfl rfl⟩
  · rw [hsuccess, if_pos rfl]
    simpa using hstatus
  · exact honours_congr (hframe.subscription _) rfl rfl
  · exact tablesOk_set_order hs rfl rfl (fun _ _ => rfl) (hs.mirror _ hsub) hsub

/-- What the writes of a call do. -/
theorem writes_spec {s s' : PaySystem} (hs : TablesOk s.db) {p : PayProc} (hp : StageOk s.db p)
    (h : s.writes p = some (.ok s')) : WriteSpec s s' p.op.tradeNo := by
  unfold StageOk at hp
  unfold writes at h
  cases hstage : p.stage with
  | topUpReady write =>
    rw [hstage] at hp
    simp only [hstage, Option.some.injEq] at h
    obtain ⟨htrade, hnone, ⟨row, hrow, huser⟩, hcredit⟩ := hp
    exact commitTopUp_spec hs htrade hnone hrow huser hcredit h
  | completeReady order created mirror fresh =>
    rw [hstage] at hp
    obtain ⟨htrade, hsub, hmirror, hstatus⟩ := hp
    rw [← htrade] at hsub hmirror ⊢
    cases hop : p.op with
    | completeSubscriptionOrder tradeNo payload expected method =>
      simp only [hstage, hop, Option.some.injEq] at h
      exact commitComplete_spec hs hsub hmirror hstatus h
    | _ => simp [hstage, hop] at h
  | expireReady order =>
    rw [hstage] at hp
    obtain ⟨htrade, hsub, hstatus⟩ := hp
    rw [← htrade] at hsub ⊢
    simp only [hstage, Option.some.injEq, Except.ok.injEq] at h
    subst h
    exact commitExpire_spec hs hsub hstatus
  | _ => simp [hstage] at h

/-! ## Steps -/

/-- Whether the writes of a call succeed. -/
def commits (s : PaySystem) (p : PayProc) : Bool :=
  match s.writes p with
  | some (.ok _) => true
  | _ => false

/-- A commit does not write over an order that is completed. -/
def NotOverwritten (s : PaySystem) : PayEvent → Prop
  | .commit pid => ∀ p ∈ s.procs.find? pid, s.commits p = true → success s.db p.op.tradeNo = false
  | _ => True

instance (s : PaySystem) : DecidablePred s.NotOverwritten
  | .start _ _ _ => inferInstanceAs (Decidable True)
  | .read _ => inferInstanceAs (Decidable True)
  | .abort _ => inferInstanceAs (Decidable True)
  | .commit pid => inferInstanceAs (Decidable (∀ p ∈ s.procs.find? pid,
      s.commits p = true → success s.db p.op.tradeNo = false))

/-- A step writes nothing, or it is the commit of a call. -/
inductive StepCases (env : PaymentEnv) (s : PaySystem) (e : PayEvent) : Prop
  | idle (hdb : (s.step env e).db = s.db) (hcount : ∀ t, (s.step env e).honours t = s.honours t)
      (hprocs : ∀ p ∈ (s.step env e).procs.rows, StageOk s.db p) (hno : s.NotOverwritten e)
  | wrote {pid : Nat} {p : PayProc} {s' : PaySystem} (he : e = .commit pid)
      (hfind : s.procs.find? pid = some p) (hspec : WriteSpec s s' p.op.tradeNo)
      (hcommits : s.commits p = true) (hdb : (s.step env e).db = s'.db)
      (hcount : ∀ t, (s.step env e).honours t = s'.honours t)
      (hprocs : (s.step env e).procs = s.procs.set { p with stage := .returned (.ok ()) })

/-- A step that only moves calls. -/
theorem StepCases.of_procs {env : PaymentEnv} {s : PaySystem} {e : PayEvent}
    {procs : Table PayProc (·.pid)} (hcore : s.stepCore env e = { s with procs := procs })
    (hprocs : ∀ p ∈ procs.rows, StageOk s.db p) (hno : s.NotOverwritten e) :
    StepCases env s e := by
  refine .idle ?_ ?_ ?_ hno
  · show (s.stepCore env e).db = s.db
    rw [hcore]
  · intro t
    exact honours_congr (congrArg (·.db.isSubscription t) hcore)
      (congrArg (·.credits t) hcore) (congrArg (·.created t) hcore)
  · intro p hp
    have hp' : p ∈ (s.stepCore env e).procs.rows := hp
    rw [hcore] at hp'
    exact hprocs p hp'

/-- The calls after one of them has moved on. -/
theorem procs_set {s : PaySystem} (hs : ∀ p ∈ s.procs.rows, StageOk s.db p) {p : PayProc}
    {stage : PayStage} (hstage : StageOk s.db { p with stage := stage }) :
    ∀ q ∈ (s.procs.set { p with stage := stage }).rows, StageOk s.db q := by
  intro q hq
  cases Table.mem_set hq with
  | inl heq => exact heq ▸ hstage
  | inr hold => exact hs q hold.1

theorem step_cases (env : PaymentEnv) {s : PaySystem} (hs : s.Inv) (e : PayEvent) :
    StepCases env s e := by
  cases e with
  | start pid op now =>
    refine .of_procs rfl ?_ trivial
    intro p hp
    cases Table.mem_of_mem_insert hp with
    | inl hold => exact hs.procs p hold
    | inr heq =>
      subst heq
      trivial
  | read pid =>
    cases hfind : s.procs.find? pid with
    | none => exact .of_procs (by simp only [stepCore, hfind]) hs.procs trivial
    | some p =>
      have hp := read_ok env hs.tables (hs.procs p (Table.find?_mem hfind))
      exact .of_procs (by simp only [stepCore, hfind]) (procs_set hs.procs hp) trivial
  | abort pid =>
    cases hfind : s.procs.find? pid with
    | none => exact .of_procs (by simp only [stepCore, hfind]) hs.procs trivial
    | some p =>
      refine .of_procs (by simp only [stepCore, hfind]; rfl) ?_ trivial
      exact procs_set hs.procs (stageOk_returned s.db p _)
  | commit pid =>
    cases hfind : s.procs.find? pid with
    | none =>
      exact .of_procs (by simp only [stepCore, hfind]) hs.procs (by simp [NotOverwritten, hfind])
    | some p =>
      cases hwrites : s.writes p with
      | none =>
        exact .of_procs (by simp only [stepCore, hfind, hwrites]) hs.procs
          (by simp [NotOverwritten, hfind, commits, hwrites])
      | some result =>
        cases result with
        | error e =>
          refine .of_procs (by simp only [stepCore, hfind, hwrites]; rfl) ?_
            (by simp [NotOverwritten, hfind, commits, hwrites])
          exact procs_set hs.procs (stageOk_returned s.db p _)
        | ok s' =>
          have hcore : s.stepCore env (.commit pid) =
              { s' with procs := s.procs.set { p with stage := .returned (.ok ()) } } := by
            simp only [stepCore, hfind, hwrites]
          have hspec := writes_spec hs.tables (hs.procs p (Table.find?_mem hfind)) hwrites
          refine .wrote rfl hfind hspec (by simp [commits, hwrites]) ?_ ?_ ?_
          · show (s.stepCore env (.commit pid)).db = s'.db
            rw [hcore]
          · intro t
            exact honours_congr (congrArg (·.db.isSubscription t) hcore)
              (congrArg (·.credits t) hcore) (congrArg (·.created t) hcore)
          · show (s.stepCore env (.commit pid)).procs = _
            rw [hcore]

/-- One step keeps the invariant. -/
theorem step_inv (env : PaymentEnv) (s : PaySystem) (e : PayEvent) (hs : s.Inv) :
    (s.step env e).Inv := by
  have hseen : ∀ t, success (s.step env e).db t = true → (s.step env e).succeeded t = true := by
    intro t ht
    show (s.succeeded t || success (s.stepCore env e).db t) = true
    rw [show success (s.stepCore env e).db t = true from ht, Bool.or_true]
  have hkept : ∀ t, s.succeeded t = true → (s.step env e).succeeded t = true := by
    intro t ht
    show (s.succeeded t || success (s.stepCore env e).db t) = true
    rw [ht, Bool.true_or]
  cases step_cases env hs e with
  | idle hdb hcount hprocs hno =>
    refine ⟨hdb ▸ hs.tables, ?_, hseen, ?_⟩
    · intro p hp
      rw [hdb]
      exact hprocs p hp
    · intro t ht
      rw [hcount] at ht
      exact hkept t (hs.counted t ht)
  | @wrote pid p s' he hfind hspec hcommits hdb hcount hprocs =>
    refine ⟨hdb ▸ hspec.tables, ?_, hseen, ?_⟩
    · intro q hq
      rw [hdb]
      rw [hprocs] at hq
      exact hspec.frame.stageOk (procs_set hs.procs (stageOk_returned s.db p _) q hq)
    · intro t ht
      rw [hcount] at ht
      by_cases heq : t = p.op.tradeNo
      · subst heq
        obtain ⟨hyes, -⟩ | ⟨-, hsame⟩ := hspec.self
        · exact hseen _ (by rw [hdb]; exact hyes)
        · rw [hsame] at ht
          exact hkept _ (hs.counted _ ht)
      · rw [(hspec.others t heq).2] at ht
        exact hkept t (hs.counted t ht)

/-- Whether an order is honoured only depends on its count and on its completion. -/
theorem honoured_congr {s s' : PaySystem} {t : String} (hcount : s'.honours t = s.honours t)
    (hsuccess : success s'.db t = success s.db t)
    (hsucceeded : s'.succeeded t = s.succeeded t) : s'.Honoured t ↔ s.Honoured t := by
  constructor
  · rintro ⟨honce, hhonoured, hfinal⟩
    exact ⟨hcount ▸ honce, fun h => hcount ▸ hhonoured (hsuccess ▸ h),
      fun h => hsuccess ▸ hfinal (hsucceeded ▸ h)⟩
  · rintro ⟨honce, hhonoured, hfinal⟩
    exact ⟨hcount ▸ honce, fun h => hcount ▸ hhonoured (hsuccess ▸ h),
      fun h => hsuccess ▸ hfinal (hsucceeded ▸ h)⟩

/-- A step keeps the orders honoured exactly when it does not write over a completed one. -/
theorem step_honoured_iff (env : PaymentEnv) (s : PaySystem) (e : PayEvent) (hs : s.Inv)
    (h : ∀ t, s.Honoured t) : (∀ t, (s.step env e).Honoured t) ↔ s.NotOverwritten e := by
  -- an order whose completion did not change has no new history
  have hsucceeded : ∀ t, success (s.step env e).db t = success s.db t →
      (s.step env e).succeeded t = s.succeeded t := by
    intro t ht
    show (s.succeeded t || success (s.step env e).db t) = s.succeeded t
    rw [ht]
    cases hsuccess : success s.db t with
    | false => rw [Bool.or_false]
    | true => rw [hs.seen t hsuccess, Bool.true_or]
  cases step_cases env hs e with
  | idle hdb hcount hprocs hno =>
    have hall : ∀ t, (s.step env e).Honoured t := by
      intro t
      have hsuccess : success (s.step env e).db t = success s.db t := by rw [hdb]
      rw [honoured_congr (hcount t) hsuccess (hsucceeded t hsuccess)]
      exact h t
    exact ⟨fun _ => hno, fun _ => hall⟩
  | @wrote pid p s' he hfind hspec hcommits hdb hhonours hprocs =>
    subst he
    have hother : ∀ t, t ≠ p.op.tradeNo → (s.step env (.commit pid)).Honoured t := by
      intro t ht
      obtain ⟨hsuccess, hcount⟩ := hspec.others t ht
      rw [← hdb] at hsuccess
      rw [honoured_congr ((hhonours t).trans hcount) hsuccess (hsucceeded t hsuccess)]
      exact h t
    have hiff : s.NotOverwritten (.commit pid) ↔ success s.db p.op.tradeNo = false := by
      simp [NotOverwritten, hfind, hcommits]
    rw [hiff]
    constructor
    · intro hall
      by_contra hsuccess
      have hyes : success s.db p.op.tradeNo = true := by simpa using hsuccess
      have hone := (h p.op.tradeNo).honoured hyes
      obtain ⟨honce, hhonoured, hfinal⟩ := hall p.op.tradeNo
      rw [hhonours] at honce
      rw [hdb] at hfinal
      obtain ⟨-, hcount⟩ | ⟨hno, -⟩ := hspec.self
      · -- honoured a second time
        omega
      · -- the completed order is closed
        have hseen : (s.step env (.commit pid)).succeeded p.op.tradeNo = true := by
          show (s.succeeded p.op.tradeNo || _) = true
          rw [hs.seen _ hyes, Bool.true_or]
        rw [hno] at hfinal
        exact absurd (hfinal hseen) (by simp)
    · intro hopen t
      by_cases ht : t = p.op.tradeNo
      · subst ht
        have hseen : s.succeeded p.op.tradeNo = false := by
          by_contra hyes
          have hdone := (h p.op.tradeNo).final (by simpa using hyes)
          rw [hopen] at hdone
          cases hdone
        have hzero : s.honours p.op.tradeNo = 0 := by
          by_contra hne
          have hyes := hs.counted _ (Nat.pos_of_ne_zero hne)
          rw [hseen] at hyes
          cases hyes
        have hsucc' : (s.step env (.commit pid)).succeeded p.op.tradeNo =
            success s'.db p.op.tradeNo := by
          show (s.succeeded p.op.tradeNo || success (s.step env (.commit pid)).db p.op.tradeNo) = _
          rw [hseen, Bool.false_or, hdb]
        refine ⟨?_, ?_, ?_⟩
        · rw [hhonours]
          obtain ⟨-, hcount⟩ | ⟨-, hcount⟩ := hspec.self <;> omega
        · intro hyes
          rw [hdb] at hyes
          rw [hhonours]
          obtain ⟨-, hcount⟩ | ⟨hno, -⟩ := hspec.self
          · omega
          · rw [hno] at hyes
            cases hyes
        · intro hyes
          rw [hdb, ← hsucc']
          exact hyes
      · exact hother t ht

/-- Before any call: completed orders have been honoured. -/
def start (db : PaymentDB) : PaySystem :=
  { db := db
    procs := .empty
    credits := fun t => (success db t).toNat
    created := fun t => (success db t).toNat
    succeeded := success db }

theorem start_honours (db : PaymentDB) (t : String) :
    (start db).honours t = (success db t).toNat := by
  rw [honours]
  split
  · rfl
  · rfl

theorem start_inv {db : PaymentDB} (hdb : TablesOk db) : (start db).Inv := by
  refine ⟨hdb, ?_, fun _ h => h, ?_⟩
  · intro p hp
    simp [start] at hp
  · intro t ht
    rw [start_honours] at ht
    show success db t = true
    cases hsuccess : success db t with
    | true => rfl
    | false => simp [hsuccess] at ht

theorem start_honoured (db : PaymentDB) (t : String) : (start db).Honoured t := by
  refine ⟨?_, ?_, fun h => h⟩
  · rw [start_honours]
    exact Bool.toNat_le _
  · intro h
    have h' : success db t = true := h
    rw [start_honours, h']
    rfl

end PaySystem

/-- In every interleaving of calls, each order is honoured at most once, a completed order
    has been honoured and stays completed, exactly when no commit writes over a completed
    order. -/
theorem honoured_once_iff_not_overwritten (env : PaymentEnv) (db : PaymentDB)
    (hdb : PaySystem.TablesOk db) (es : List PayEvent) :
    Run.Always (PaySystem.step env) (fun s => ∀ tradeNo, s.Honoured tradeNo)
        (PaySystem.start db) es ↔
      Run.Steps (PaySystem.step env) PaySystem.NotOverwritten (PaySystem.start db) es :=
  Run.always_iff_steps (PaySystem.step_inv env) (PaySystem.step_honoured_iff env)
    (PaySystem.start_inv hdb) (PaySystem.start_honoured db) es

/-- Prices that turn one unit of money into one unit of quota, and no plans. -/
def plainPayment : PaymentEnv :=
  { stripe := intPart
    quotaPerUnit := 1
    plans := fun _ => .error "record not found"
    calendar := ⟨fun t _ _ => t, id, id, id⟩ }

/-- User 1 with a pending Stripe order of 20. -/
def pendingTopUp : PaymentDB :=
  { topUps := Table.empty.insert
      { tradeNo := "ref_1", userId := 1, amount := 20, money := 20, paymentProvider := "stripe" }
    orders := .empty
    wallets := Table.empty.insert { id := 1, quota := 0 }
    subscriptions := { users := .empty, subs := .empty } }

theorem pendingTopUp_ok : PaySystem.TablesOk pendingTopUp := by
  constructor
  · intro t ht
    cases ht
  · decide

/-- A second callback that reads after the first has committed changes nothing. -/
theorem honoured_once_repeated_callback :
    Run.Always (PaySystem.step plainPayment) (fun s => ∀ tradeNo, s.Honoured tradeNo)
      (PaySystem.start pendingTopUp)
      [.start 1 (.recharge "ref_1") ⟨1, by decide⟩, .read 1, .commit 1,
        .start 2 (.recharge "ref_1") ⟨2, by decide⟩, .read 2, .commit 2] :=
  (honoured_once_iff_not_overwritten plainPayment pendingTopUp pendingTopUp_ok _).mpr (by decide)

/-- Two callbacks of one payment that both read the order as pending: the user is credited
    twice. -/
theorem concurrent_callbacks_credit_twice :
    ∃ es : List PayEvent,
      es = [.start 1 (.recharge "ref_1") ⟨1, by decide⟩,
        .start 2 (.recharge "ref_1") ⟨1, by decide⟩, .read 1, .read 2, .commit 1,
        .commit 2] ∧
      (Run.run (PaySystem.step plainPayment) (PaySystem.start pendingTopUp) es).credits "ref_1" = 2 ∧
      ((Run.run (PaySystem.step plainPayment) (PaySystem.start pendingTopUp) es).db.wallets.find?
        1).map (·.quota) = some 40 ∧
      ¬ Run.Always (PaySystem.step plainPayment) (fun s => ∀ tradeNo, s.Honoured tradeNo)
        (PaySystem.start pendingTopUp) es := by
  refine ⟨_, rfl, by decide, by decide, ?_⟩
  intro hall
  have honce := (hall.last "ref_1").once
  revert honce
  decide

end TokenRouter
