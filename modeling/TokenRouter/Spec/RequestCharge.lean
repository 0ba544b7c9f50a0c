import TokenRouter.ForStd.Run
import TokenRouter.Spec.SubscriptionCharge

/-!
# A request id charges one subscription once

`PreConsumeUserSubscription` keeps a record for each request id. Over any calls with one id the
first that succeeds charges a subscription and the others read the record. A session keeps its
own copy of the amount, which is the recorded one if it asks for that amount.

## Key results

- `trySubscription_cases`: opening a session on a subscription is a call and a token debit
- `RequestRun.step_charges`: the charges of a run are those that the record tells
- `request_charged_once`: the law over every run of calls with one id
- `session_counts_other_amount`: a session that believes in another amount than was charged
-/

namespace TokenRouter

/-- Opening a session on a subscription: refused, with the subscriptions and records as they
    were; or a successful call after a debit of the token. -/
inductive SubscriptionTried (env : BillingEnv) (db : QuotaDB) (info : RelayInfo) (quota : Int)
    (r : OpenResult) : Prop where
  | refused (e : NewAPIError) (herr : r.result = .error e)
      (hsubs : r.db.subscriptions = db.subscriptions) (hrecords : r.db.records = db.records)
  | opened (s : BillingSession) (f : SubscriptionFunding) (db₁ : QuotaDB)
      (res : QuotaDB.PreConsumeResult) (hok : r.result = .ok s)
      (hsubs : db₁.subscriptions = db.subscriptions) (hrecords : db₁.records = db.records)
      (hcall : db₁.preConsumeUserSubscription env info.requestId info.userId quota =
        .ok (res, r.db))
      (hfunding : s.funding = .subscription f) (hid : f.subscriptionId = res.userSubscriptionId)
      (hpre : f.preConsumed = res.preConsumed) (hquota : s.preConsumedQuota = quota)

/-- A token write leaves subscriptions and records alone. -/
theorem preConsumeTokenQuota_frame {env : BillingEnv} {db db' : QuotaDB} {info : RelayInfo}
    {quota : Int} (h : db.preConsumeTokenQuota env info quota = .ok db') :
    db'.subscriptions = db.subscriptions ∧ db'.records = db.records := by
  rcases preConsumeTokenQuota_ok h with ⟨-, rfl⟩ | ⟨-, -, rfl⟩
  · exact ⟨rfl, rfl⟩
  · exact ⟨rfl, rfl⟩

/-- What a session on a subscription asks for. -/
def subConsume (preConsumedQuota : Int) : Int := if preConsumedQuota ≤ 0 then 1 else preConsumedQuota

theorem subConsume_pos (preConsumedQuota : Int) : 0 < subConsume preConsumedQuota := by
  unfold subConsume
  split <;> omega

theorem trySubscription_cases (env : BillingEnv) (db : QuotaDB) (info : RelayInfo)
    (tokenQuota preConsumedQuota : Int) :
    SubscriptionTried env db info (subConsume preConsumedQuota)
      (trySubscription env db info tokenQuota preConsumedQuota) := by
  have hpos := subConsume_pos preConsumedQuota
  rw [subConsume] at *
  unfold trySubscription
  dsimp only
  generalize (if preConsumedQuota ≤ 0 then (1 : Int) else preConsumedQuota) = quota at *
  unfold preConsume
  dsimp only
  rw [shouldTrust_subscription]
  simp only [Bool.false_eq_true, if_false, if_pos hpos]
  cases htoken : db.preConsumeTokenQuota env info quota with
  | error e => exact .refused _ rfl rfl rfl
  | ok db₁ =>
    obtain ⟨hsubs, hrecords⟩ := preConsumeTokenQuota_frame htoken
    simp only [preConsumeFunding, FundingSource.preConsume]
    cases hcall : db₁.preConsumeUserSubscription env info.requestId info.userId quota with
    | error e =>
      -- the token gets its quota back
      simp only [QuotaDB.increaseTokenQuota_of_nonneg _ _ hpos.le, logged]
      refine .refused _ rfl ?_ ?_
      · dsimp only
        split <;> exact hsubs
      · dsimp only
        split <;> exact hrecords
    | ok result =>
      obtain ⟨res, db₂⟩ := result
      exact .opened _ _ db₁ res rfl hsubs hrecords hcall rfl rfl rfl rfl

/-! ## Runs -/

/-- The calls with one request id. -/
inductive RequestCall where
  | preConsume (env : BillingEnv) (userId amount : Int)
  | refund
  /-- `preConsume` of a session on a subscription -/
  | session (env : BillingEnv) (info : RelayInfo) (tokenQuota preConsumedQuota : Int)

/-- The clock and the settings of a call that may charge. -/
def RequestCall.env : RequestCall → Option BillingEnv
  | preConsume env _ _ => some env
  | refund => none
  | session env _ _ _ => some env

/-- The database, and what the calls with an id did: the charges, the subscriptions and amounts
    that were returned, and for each opened session the amount it holds and the recorded one. -/
structure RequestRun where
  db : QuotaDB
  charges : List (Nat × Int)
  returned : List (Nat × Int) := []
  opened : List (Int × Int) := []

/-- The subscription and the amount recorded for an id. -/
def QuotaDB.recorded (db : QuotaDB) (requestId : String) : List (Nat × Int) :=
  (db.records.find? requestId).toList.map fun r => (r.userSubscriptionId, r.preConsumed)

namespace RequestRun

variable (requestId : String)

/-- Before the first call of the run. -/
def start (db : QuotaDB) : RequestRun := { db := db, charges := db.recorded requestId }

/-- A call that inserts the record has charged. -/
def moved (s : RequestRun) (db' : QuotaDB) : RequestRun :=
  { s with
    db := db'
    charges := if (s.db.records.find? requestId).isNone then s.charges ++ db'.recorded requestId
      else s.charges }

/-- One call. -/
def step (s : RequestRun) : RequestCall → RequestRun
  | .preConsume env userId amount =>
    match s.db.preConsumeUserSubscription env requestId userId amount with
    | .error _ => s
    | .ok (res, db') =>
      { s.moved requestId db' with
        returned := s.returned ++ [(res.userSubscriptionId, res.preConsumed)] }
  | .refund =>
    match s.db.refundSubscriptionPreConsume requestId with
    | .error _ => s
    | .ok db' => s.moved requestId db'
  | .session env info tokenQuota preConsumedQuota =>
    let r := trySubscription env s.db { info with requestId := requestId } tokenQuota
      preConsumedQuota
    match r.result with
    | .error _ => s.moved requestId r.db
    | .ok session =>
      { s.moved requestId r.db with
        returned := s.returned ++ match session.funding with
          | .subscription f => [(f.subscriptionId, f.preConsumed)]
          | .wallet _ => []
        opened := s.opened ++ (r.db.recorded requestId).map fun p => (session.preConsumedQuota, p.2) }

/-- The id was charged at most once, the record tells the charge, every call returned it, and
    every session holds its amount. -/
structure ChargedOnce (s : RequestRun) : Prop where
  once : s.charges.length ≤ 1
  recorded : s.charges = s.db.recorded requestId
  returned : ∀ p ∈ s.returned, p ∈ s.charges
  opened : ∀ amounts ∈ s.opened, amounts.1 = amounts.2

/-- What one call does. -/
structure Lawful (s : RequestRun) (call : RequestCall) : Prop where
  /-- with a recorded id no `amount_used` changes -/
  replay : call.env.isSome → (s.db.records.find? requestId).isSome →
    (step requestId s call).db.subscriptions = s.db.subscriptions
  /-- after a refund the call fails -/
  refunded : call.env.isSome → (s.db.records.find? requestId).any (·.refunded) →
    (step requestId s call).returned = s.returned ∧ (step requestId s call).opened = s.opened
  /-- a first call that succeeds charges the recorded subscription with the recorded amount -/
  charged : ∀ env, call.env = some env → s.db.records.find? requestId = none →
    (step requestId s call).db.subscriptions = s.db.subscriptions ∨
      ∃ r, (step requestId s call).db.records.find? requestId = some r ∧
        (step requestId s call).db.amountUsed r.userSubscriptionId =
          s.db.usedAfterReset env r.userSubscriptionId + r.preConsumed ∧
        ∀ k, k ≠ r.userSubscriptionId →
          (step requestId s call).db.amountUsed k = s.db.amountUsed k ∨
            (step requestId s call).db.amountUsed k = s.db.usedAfterReset env k

/-- A session that is opened for a recorded id asks for the recorded amount. -/
def AsksRecorded (s : RequestRun) : RequestCall → Prop
  | .session _ _ _ preConsumedQuota =>
    ∀ p ∈ s.db.recorded requestId, subConsume preConsumedQuota = p.2
  | _ => True

instance (s : RequestRun) (call : RequestCall) : Decidable (AsksRecorded requestId s call) :=
  match call with
  | .session _ _ _ preConsumedQuota => inferInstanceAs (Decidable
      (∀ p ∈ s.db.recorded requestId, subConsume preConsumedQuota = p.2))
  | .preConsume .. => isTrue trivial
  | .refund => isTrue trivial

/-! ## What a call leaves in the records -/

variable {requestId}

theorem recorded_congr {db db' : QuotaDB} (h : db'.records = db.records) :
    db'.recorded requestId = db.recorded requestId := by
  simp only [QuotaDB.recorded, h]

theorem recorded_of_find? {db : QuotaDB} {r : SubscriptionPreConsumeRecord}
    (h : db.records.find? requestId = some r) :
    db.recorded requestId = [(r.userSubscriptionId, r.preConsumed)] := by
  simp [QuotaDB.recorded, h]

theorem recorded_of_none {db : QuotaDB} (h : db.records.find? requestId = none) :
    db.recorded requestId = [] := by
  simp [QuotaDB.recorded, h]

theorem length_recorded_le (db : QuotaDB) : (db.recorded requestId).length ≤ 1 := by
  unfold QuotaDB.recorded
  cases db.records.find? requestId <;> simp

/-- After a successful call the record says what was returned; an older record stays. -/
theorem recorded_of_ok {env : BillingEnv} {db db' : QuotaDB} {userId amount : Int}
    {res : QuotaDB.PreConsumeResult}
    (h : db.preConsumeUserSubscription env requestId userId amount = .ok (res, db')) :
    db'.recorded requestId = [(res.userSubscriptionId, res.preConsumed)] ∧
      ((db.records.find? requestId).isSome → db'.recorded requestId = db.recorded requestId) ∧
      (db.records.find? requestId = none → res.preConsumed = amount) := by
  cases hr : db.records.find? requestId with
  | none =>
    obtain ⟨hcharge, hpre⟩ := QuotaDB.charge_of_ok hr h
    obtain ⟨r, hr', -, hid, hamount⟩ := hcharge.record
    refine ⟨?_, nofun, fun _ => hpre⟩
    rw [recorded_of_find? hr', hid, hamount, hpre]
  | some r =>
    obtain ⟨rfl, -, hid, hpre⟩ := QuotaDB.preConsumeUserSubscription_replay hr h
    refine ⟨?_, fun _ => rfl, nofun⟩
    rw [recorded_of_find? hr, hid, hpre]

/-- A refund marks the record and keeps what it says. -/
theorem recorded_refund {db db' : QuotaDB} (h : db.refundSubscriptionPreConsume requestId = .ok db') :
    db'.recorded requestId = db.recorded requestId := by
  unfold QuotaDB.refundSubscriptionPreConsume at h
  split at h
  · cases h
  cases hr : db.records.find? requestId with
  | none => simp [hr] at h
  | some r =>
    have hkey := Table.find?_key hr
    -- the marked record in place of the one that was read
    have hmarked (db₁ : QuotaDB) (hrecords : db₁.records = db.records) :
        QuotaDB.recorded { db₁ with records := db₁.records.set { r with refunded := true } }
          requestId = db.recorded requestId := by
      have hfind : (db₁.records.set { r with refunded := true }).find? requestId =
          some { r with refunded := true } :=
        Table.find?_set_self (hrecords ▸ hr) hkey
      rw [recorded_of_find? hr]
      exact recorded_of_find? (r := { r with refunded := true }) hfind
    simp only [hr] at h
    split at h
    · cases h
      rfl
    split at h
    · cases h
      exact hmarked db rfl
    split at h
    · cases h
    next db₁ hpost =>
    cases h
    refine hmarked db₁ ?_
    unfold QuotaDB.postConsumeUserSubscriptionDelta at hpost
    split at hpost
    · cases hpost
    split at hpost
    · cases hpost
      rfl
    split at hpost
    · cases hpost
    dsimp only at hpost
    split at hpost
    · cases hpost
    · cases hpost
      rfl

/-- The charges are what the record tells, as long as no call rewrites it. -/
theorem moved_charges {s : RequestRun} (hs : s.charges = s.db.recorded requestId) {db' : QuotaDB}
    (h : (s.db.records.find? requestId).isSome → db'.recorded requestId = s.db.recorded requestId) :
    (s.moved requestId db').charges = db'.recorded requestId := by
  unfold moved
  dsimp only
  cases hr : s.db.records.find? requestId with
  | none => simp [hs, recorded_of_none hr]
  | some r => simp [hs, h (by rw [hr]; rfl)]

/-! ## One call -/

/-- The property after a call, from what it adds to the answers. -/
theorem ChargedOnce.after {s s' : RequestRun} (hs : s.ChargedOnce requestId)
    (hcharges : s'.charges = s'.db.recorded requestId)
    (hkeep : (s.db.records.find? requestId).isSome →
      s'.db.recorded requestId = s.db.recorded requestId)
    {returned : List (Nat × Int)} (hreturned : s'.returned = s.returned ++ returned)
    (hnew : ∀ p ∈ returned, p ∈ s'.db.recorded requestId)
    {opened : List (Int × Int)} (hopened : s'.opened = s.opened ++ opened)
    (hamounts : ∀ amounts ∈ opened, amounts.1 = amounts.2) : s'.ChargedOnce requestId := by
  refine ⟨hcharges ▸ length_recorded_le s'.db, hcharges, ?_, ?_⟩
  · intro p hp
    rw [hcharges]
    rw [hreturned] at hp
    rcases List.mem_append.mp hp with hp | hp
    · -- an earlier answer is the one charge, which is still recorded
      have hold := hs.returned p hp
      rw [hs.recorded] at hold
      cases hr : s.db.records.find? requestId with
      | none =>
        rw [recorded_of_none hr] at hold
        cases hold
      | some r => rwa [hkeep (by rw [hr]; rfl)]
    · exact hnew p hp
  · intro amounts ha
    rw [hopened] at ha
    rcases List.mem_append.mp ha with ha | ha
    · exact hs.opened amounts ha
    · exact hamounts amounts ha

/-- One call keeps the property, if a session asks for the recorded amount. -/
theorem step_chargedOnce (s : RequestRun) (call : RequestCall) (hs : s.ChargedOnce requestId)
    (hasks : s.AsksRecorded requestId call) : (step requestId s call).ChargedOnce requestId := by
  cases call with
  | preConsume env userId amount =>
    unfold step
    dsimp only
    cases hcall : s.db.preConsumeUserSubscription env requestId userId amount with
    | error e => exact hs
    | ok result =>
      obtain ⟨res, db'⟩ := result
      obtain ⟨hrecorded, hkeep, -⟩ := recorded_of_ok hcall
      refine hs.after (moved_charges hs.recorded hkeep) hkeep rfl ?_ (List.append_nil _).symm nofun
      intro p hp
      show p ∈ db'.recorded requestId
      rwa [hrecorded]
  | refund =>
    unfold step
    dsimp only
    cases hrefund : s.db.refundSubscriptionPreConsume requestId with
    | error e => exact hs
    | ok db' =>
      have hkeep := recorded_refund hrefund
      exact hs.after (moved_charges hs.recorded fun _ => hkeep) (fun _ => hkeep)
        (List.append_nil _).symm nofun (List.append_nil _).symm nofun
  | session env info tokenQuota preConsumedQuota =>
    unfold step
    dsimp only
    have htried := trySubscription_cases env s.db { info with requestId := requestId } tokenQuota
      preConsumedQuota
    generalize trySubscription env s.db { info with requestId := requestId } tokenQuota
      preConsumedQuota = r at htried
    cases htried with
    | refused e herr hsubs hrecords =>
      simp only [herr]
      have hkeep := @recorded_congr requestId _ _ hrecords
      exact hs.after (moved_charges hs.recorded fun _ => hkeep) (fun _ => hkeep)
        (List.append_nil _).symm nofun (List.append_nil _).symm nofun
    | opened session f db₁ res hok hsubs hrecords hcall hfunding hid hpre hquota =>
      simp only [hok, hfunding]
      obtain ⟨hrecorded, hkeep, hfirst⟩ := recorded_of_ok hcall
      rw [hrecords, @recorded_congr requestId _ _ hrecords] at hkeep
      refine hs.after (moved_charges hs.recorded hkeep) hkeep rfl ?_ rfl ?_
      · intro p hp
        show p ∈ r.db.recorded requestId
        rwa [hrecorded, ← hid, ← hpre]
      · intro amounts ha
        rw [hrecorded, List.map_singleton, List.mem_singleton] at ha
        rw [ha, hquota]
        dsimp only
        cases hr : s.db.records.find? requestId with
        | none => exact (hfirst (hrecords ▸ hr)).symm
        | some rec =>
          refine hasks (res.userSubscriptionId, res.preConsumed) ?_
          rw [← hkeep (by rw [hr]; rfl), hrecorded]
          exact List.mem_singleton_self _

/-- The amounts used only depend on the subscriptions. -/
theorem amountUsed_congr {db db' : QuotaDB} (h : db'.subscriptions = db.subscriptions) (k : Nat) :
    db'.amountUsed k = db.amountUsed k := by
  simp only [QuotaDB.amountUsed, h]

theorem usedAfterReset_congr (env : BillingEnv) {db db' : QuotaDB}
    (h : db'.subscriptions = db.subscriptions) (k : Nat) :
    db'.usedAfterReset env k = db.usedAfterReset env k := by
  simp only [QuotaDB.usedAfterReset, h]

/-- Every call is lawful. -/
theorem step_lawful (s : RequestRun) (call : RequestCall) : s.Lawful requestId call := by
  cases call with
  | preConsume env userId amount =>
    cases hcall : s.db.preConsumeUserSubscription env requestId userId amount with
    | error e =>
      have hstep : step requestId s (.preConsume env userId amount) = s := by simp [step, hcall]
      refine ⟨fun _ _ => ?_, fun _ _ => ?_, fun _ _ _ => ?_⟩
      · rw [hstep]
      · rw [hstep]
        exact ⟨rfl, rfl⟩
      · rw [hstep]
        exact .inl rfl
    | ok result =>
      obtain ⟨res, db'⟩ := result
      have hdb : (step requestId s (.preConsume env userId amount)).db = db' := by
        simp [step, hcall, moved]
      refine ⟨fun _ hsome => ?_, fun _ hrefunded => ?_, fun env' henv hnone => ?_⟩
      · obtain ⟨r, hr⟩ := Option.isSome_iff_exists.mp hsome
        rw [hdb, (QuotaDB.preConsumeUserSubscription_replay hr hcall).1]
      · cases hr : s.db.records.find? requestId with
        | none => simp [hr] at hrefunded
        | some r =>
          have hlive := (QuotaDB.preConsumeUserSubscription_replay hr hcall).2.1
          simp [hr, hlive] at hrefunded
      · cases henv
        obtain ⟨hcharge, -⟩ := QuotaDB.charge_of_ok hnone hcall
        obtain ⟨r, hr, -, rid, hamount⟩ := hcharge.record
        refine .inr ⟨r, hdb ▸ hr, ?_, ?_⟩
        · rw [hdb, rid, hamount]
          exact hcharge.charged
        · rw [hdb, rid]
          exact hcharge.others
  | refund => exact ⟨nofun, nofun, nofun⟩
  | session env info tokenQuota preConsumedQuota =>
    have htried := trySubscription_cases env s.db { info with requestId := requestId } tokenQuota
      preConsumedQuota
    have hdb : (step requestId s (.session env info tokenQuota preConsumedQuota)).db =
        (trySubscription env s.db { info with requestId := requestId } tokenQuota
          preConsumedQuota).db := by
      simp only [step]
      split <;> rfl
    cases htried with
    | refused e herr hsubs hrecords =>
      have hlogs : (step requestId s (.session env info tokenQuota preConsumedQuota)).returned =
          s.returned ∧
          (step requestId s (.session env info tokenQuota preConsumedQuota)).opened = s.opened := by
        simp only [step, herr]
        exact ⟨rfl, rfl⟩
      exact ⟨fun _ _ => by rw [hdb, hsubs], fun _ _ => hlogs, fun _ _ _ => .inl (by rw [hdb, hsubs])⟩
    | opened session f db₁ res hok hsubs hrecords hcall hfunding hid hpre hquota =>
      refine ⟨fun _ hsome => ?_, fun _ hrefunded => ?_, fun env' henv hnone => ?_⟩
      · rw [← hrecords] at hsome
        obtain ⟨r, hr⟩ := Option.isSome_iff_exists.mp hsome
        rw [hdb, (QuotaDB.preConsumeUserSubscription_replay hr hcall).1, hsubs]
      · cases hr : s.db.records.find? requestId with
        | none => simp [hr] at hrefunded
        | some r =>
          have hlive := (QuotaDB.preConsumeUserSubscription_replay (hrecords ▸ hr) hcall).2.1
          simp [hr, hlive] at hrefunded
      · cases henv
        obtain ⟨hcharge, -⟩ := QuotaDB.charge_of_ok (hrecords ▸ hnone) hcall
        obtain ⟨r, hr, -, rid, hamount⟩ := hcharge.record
        refine .inr ⟨r, hdb ▸ hr, ?_, ?_⟩
        · rw [hdb, rid, hamount, ← usedAfterReset_congr env hsubs]
          exact hcharge.charged
        · intro k hk
          rw [hdb, ← usedAfterReset_congr env hsubs, ← amountUsed_congr hsubs]
          exact hcharge.others k (rid ▸ hk)

/-! ## Runs -/

variable (requestId)

theorem start_chargedOnce (db : QuotaDB) : (start requestId db).ChargedOnce requestId :=
  ⟨length_recorded_le db, rfl, nofun, nofun⟩

/-- For every request id, every database and every calls with the id: if the sessions that are
    opened for a recorded id ask for the recorded amount, then the id is charged to one
    subscription at most once, every call returns what is recorded, every session holds it,
    and no other call changes an amount used. -/
theorem request_charged_once (db : QuotaDB) (calls : List RequestCall)
    (hasks : Run.Steps (step requestId) (AsksRecorded requestId) (start requestId db) calls) :
    Run.Always (step requestId) (ChargedOnce requestId) (start requestId db) calls ∧
      Run.Steps (step requestId) (Lawful requestId) (start requestId db) calls := by
  constructor
  · exact Run.always_of_steps step_chargedOnce (start_chargedOnce requestId db) hasks
  · exact Run.steps_of_forall (fun s call => step_lawful s call) _ _

end RequestRun

/-- User 1 with a token of 100 and a subscription of 50. -/
def subscriber : QuotaDB :=
  { users := .empty
    tokens := Table.empty.insert { id := 1, remainQuota := 100 }
    subscriptions := Table.empty.insert
      { id := 1, userId := 1, amountTotal := 50, amountUsed := 0, endTime := 100
        id_pos := Nat.one_pos, amountUsed_nonneg := UserSubscription.unused_nonneg }
    records := .empty }

/-- A request of that user. -/
def subscriberRequest : RelayInfo := { requestId := "r1", userId := 1, tokenId := 1 }

/-- A charge of 10, a session for the same id and amount, and the refund. -/
theorem request_charged_once_session :
    Run.Always (RequestRun.step "r1") (RequestRun.ChargedOnce "r1")
        (RequestRun.start "r1" subscriber)
        [.preConsume plainEnv 1 10, .session plainEnv subscriberRequest 100 10, .refund] ∧
      Run.Steps (RequestRun.step "r1") (RequestRun.Lawful "r1") (RequestRun.start "r1" subscriber)
        [.preConsume plainEnv 1 10, .session plainEnv subscriberRequest 100 10, .refund] :=
  RequestRun.request_charged_once "r1" subscriber _ (by decide +kernel)

/-- The id was charged with 5, a session for 10 opens and holds 10. -/
theorem session_counts_other_amount :
    (Run.run (RequestRun.step "r1") (RequestRun.start "r1" subscriber)
        [.preConsume plainEnv 1 5, .session plainEnv subscriberRequest 100 10]).opened = [(10, 5)] ∧
      ¬ Run.Always (RequestRun.step "r1") (RequestRun.ChargedOnce "r1")
        (RequestRun.start "r1" subscriber)
        [.preConsume plainEnv 1 5, .session plainEnv subscriberRequest 100 10] := by
  have hopened : (Run.run (RequestRun.step "r1") (RequestRun.start "r1" subscriber)
      [.preConsume plainEnv 1 5, .session plainEnv subscriberRequest 100 10]).opened =
      [(10, 5)] := by
    decide +kernel
  refine ⟨hopened, fun hall => ?_⟩
  have hsame := hall.last.opened (10, 5) (by rw [hopened]; exact List.mem_singleton_self _)
  exact absurd hsame (by decide)

end TokenRouter
