import TokenRouter.ForStd.Run
import TokenRouter.Service.SubscriptionRefund

/-!
# A subscription refund happens at most once

The decrease of `amount_used` and the mark on the record are committed by two
transactions, the first inside the second. A failure after the inner commit that rolls
the outer one back leaves the decrease without the mark, and the next attempt decreases
again.

## Key results

- `QuotaDB.tryRefund_none`: without a failure an attempt is `RefundSubscriptionPreConsume`
- `QuotaDB.tryRefund_cases`: what one attempt can do
- `refunded_once_iff_no_split`: every pattern of failures and every number of attempts
- `split_refund_decreases_twice`: one failure between the commits, then a success
-/

namespace TokenRouter

namespace QuotaDB

/-- Without a failure, an attempt does what `refundSubscriptionPreConsume` does. -/
theorem tryRefund_none (db : QuotaDB) (requestId : String) :
    match db.refundSubscriptionPreConsume requestId with
    | .ok db' => (db.tryRefund requestId none).db = db' ∧
        (db.tryRefund requestId none).error = none
    | .error e => (db.tryRefund requestId none).db = db ∧
        (db.tryRefund requestId none).error = some e := by
  unfold refundSubscriptionPreConsume tryRefund
  by_cases hreq : trimSpace requestId = ""
  · simp [hreq]
  · simp only [hreq, if_false]
    cases hfind : db.records.find? requestId with
    | none => simp
    | some record =>
      by_cases hrefunded : record.refunded = true
      · simp [hrefunded]
      · by_cases hpre : record.preConsumed ≤ 0
        · simp [hrefunded, hpre, markRefunded]
        · simp only [hrefunded, hpre, if_false, Bool.false_eq_true, postConsumeInner]
          cases hinner : db.postConsumeUserSubscriptionDelta record.userSubscriptionId
              (-record.preConsumed) with
          | error e => simp
          | ok db' => simp [markRefunded]

/-- The failure leaves the decrease committed and the mark rolled back. -/
def SplitsCommits : RefundFailure → Prop
  | some (.commitInner true, _) | some (.saveRecord, _) | some (.commitOuter false, _) => True
  | _ => False

instance : DecidablePred SplitsCommits
  | some (.commitInner true, _) | some (.saveRecord, _) | some (.commitOuter false, _) =>
    isTrue trivial
  | none | some (.beginOuter, _) | some (.readRecord, _) | some (.beginInner, _)
  | some (.readSubscription, _) | some (.saveSubscription, _) | some (.commitInner false, _)
  | some (.commitOuter true, _) => isFalse not_false

/-- The record is marked. -/
def Refunded (db : QuotaDB) (requestId : String) : Prop :=
  ∃ record ∈ db.records.find? requestId, record.refunded = true

instance (db : QuotaDB) (requestId : String) : Decidable (db.Refunded requestId) :=
  inferInstanceAs (Decidable (∃ record ∈ db.records.find? requestId, record.refunded = true))

/-- An attempt has something to refund: the record is not marked and its decrease is
    accepted. -/
def Refundable (db : QuotaDB) (requestId : String) : Prop :=
  trimSpace requestId ≠ "" ∧ ∃ record ∈ db.records.find? requestId, record.refunded = false ∧
    (db.postConsumeUserSubscriptionDelta record.userSubscriptionId
      (-record.preConsumed)).toOption.isSome

instance (db : QuotaDB) (requestId : String) : Decidable (db.Refundable requestId) :=
  inferInstanceAs (Decidable (_ ∧ _))

/-- What an attempt on an unmarked record with an accepted decrease leaves. -/
theorem tryRefund_of_refundable {db db' : QuotaDB} {requestId : String}
    {record : SubscriptionPreConsumeRecord} (hreq : trimSpace requestId ≠ "")
    (hfind : db.records.find? requestId = some record) (hpre : 0 < record.preConsumed)
    (hrefunded : record.refunded = false)
    (hinner : db.postConsumeUserSubscriptionDelta record.userSubscriptionId
      (-record.preConsumed) = .ok db') (failure : RefundFailure) :
    ((db.tryRefund requestId failure).db = db ∧
        (db.tryRefund requestId failure).decreased = false ∧ ¬ SplitsCommits failure) ∨
      ((db.tryRefund requestId failure).db = db' ∧
        (db.tryRefund requestId failure).decreased = true ∧ SplitsCommits failure) ∨
      ((db.tryRefund requestId failure).db =
          { db' with records := db'.records.set { record with refunded := true } } ∧
        (db.tryRefund requestId failure).decreased = true ∧ ¬ SplitsCommits failure) := by
  have hpre' : ¬ record.preConsumed ≤ 0 := not_le.mpr hpre
  cases failure with
  | none => simp [tryRefund, hreq, hfind, hrefunded, hpre', postConsumeInner, hinner, markRefunded,
      SplitsCommits]
  | some f =>
    obtain ⟨fault, e⟩ := f
    -- one line per step that may fail; only the last four come after the inner commit
    cases fault with
    | beginOuter => simp [tryRefund, hreq, SplitsCommits]
    | readRecord => simp [tryRefund, hreq, SplitsCommits]
    | beginInner => simp [tryRefund, hreq, hfind, hrefunded, hpre', postConsumeInner, SplitsCommits]
    | readSubscription =>
      simp [tryRefund, hreq, hfind, hrefunded, hpre', postConsumeInner, SplitsCommits]
    | saveSubscription =>
      simp [tryRefund, hreq, hfind, hrefunded, hpre', postConsumeInner, hinner, SplitsCommits]
    | commitInner committed =>
      cases committed <;>
        simp [tryRefund, hreq, hfind, hrefunded, hpre', postConsumeInner, hinner, SplitsCommits]
    | saveRecord =>
      simp [tryRefund, hreq, hfind, hrefunded, hpre', postConsumeInner, hinner, markRefunded,
        SplitsCommits]
    | commitOuter committed =>
      cases committed <;>
        simp [tryRefund, hreq, hfind, hrefunded, hpre', postConsumeInner, hinner, markRefunded,
          SplitsCommits]

/-- A refused decrease ends the attempt. -/
theorem postConsumeInner_of_error {db : QuotaDB} {subscriptionId : Nat} {delta : Int} {e : String}
    (h : db.postConsumeUserSubscriptionDelta subscriptionId delta = .error e)
    (failure : RefundFailure) :
    ∃ e', db.postConsumeInner subscriptionId delta failure = ⟨db, false, some e'⟩ := by
  unfold postConsumeInner
  rw [h]
  -- the branches of an accepted decrease are contradictory
  split <;> first | exact ⟨_, rfl⟩ | contradiction

/-- An attempt with nothing to refund leaves the database as it was. -/
theorem tryRefund_of_not_refundable {db : QuotaDB} {requestId : String}
    {record : SubscriptionPreConsumeRecord} (hfind : db.records.find? requestId = some record)
    (hpre : 0 < record.preConsumed) (h : ¬ db.Refundable requestId) (failure : RefundFailure) :
    (db.tryRefund requestId failure).db = db ∧
      (db.tryRefund requestId failure).decreased = false := by
  have hpre' : ¬ record.preConsumed ≤ 0 := not_le.mpr hpre
  unfold tryRefund
  split
  · exact ⟨rfl, rfl⟩
  next hreq =>
  split
  · exact ⟨rfl, rfl⟩
  · exact ⟨rfl, rfl⟩
  rw [hfind]
  dsimp only
  split
  · split <;> exact ⟨rfl, rfl⟩
  next hrefunded =>
  cases hinner : db.postConsumeUserSubscriptionDelta record.userSubscriptionId
      (-record.preConsumed) with
  | ok db' =>
    -- then there was something to refund
    refine absurd ⟨hreq, record, hfind, by simpa using hrefunded, ?_⟩ h
    rw [hinner]
    rfl
  | error e =>
    obtain ⟨e', herror⟩ := postConsumeInner_of_error hinner failure
    rw [herror]
    exact ⟨rfl, rfl⟩

/-- Lowering `amount_used` by an amount, not below zero. -/
def lower (preConsumed used : Int) : Int := max 0 (used - preConsumed)

/-- An accepted decrease lowers `amount_used` and keeps the records. -/
theorem postConsume_decrease {db db' : QuotaDB} {subscriptionId : Nat} {preConsumed : Int}
    (hpre : 0 < preConsumed)
    (h : db.postConsumeUserSubscriptionDelta subscriptionId (-preConsumed) = .ok db') :
    db'.records = db.records ∧
      db'.amountUsed subscriptionId = lower preConsumed (db.amountUsed subscriptionId) := by
  unfold postConsumeUserSubscriptionDelta at h
  split at h
  · cases h
  rw [if_neg (by omega)] at h
  split at h
  · cases h
  next sub hsub =>
  dsimp only at h
  split at h
  · cases h
  rw [Except.ok.injEq] at h
  subst h
  refine ⟨rfl, ?_⟩
  unfold amountUsed
  dsimp only
  rw [Table.find?_set, if_pos (Table.find?_key hsub), hsub]
  show max 0 (sub.amountUsed + -preConsumed) = max 0 (sub.amountUsed - preConsumed)
  rw [sub_eq_add_neg]

end QuotaDB

/-! ## Runs -/

namespace RefundRun

/-- Before the first attempt. A record that is marked already has had its decrease. -/
def start (db : QuotaDB) (requestId : String) : RefundRun :=
  { db := db, decreases := if db.Refunded requestId then 1 else 0 }

/-- The decrease was committed at most once, and the record is marked exactly if it was. -/
def RefundedOnce (requestId : String) (s : RefundRun) : Prop :=
  s.decreases ≤ 1 ∧ (s.db.Refunded requestId ↔ s.decreases = 1)

instance (requestId : String) (s : RefundRun) : Decidable (s.RefundedOnce requestId) :=
  inferInstanceAs (Decidable (_ ∧ _))

/-- The attempt does not fail between the two commits of a refund. -/
def NoSplit (requestId : String) (s : RefundRun) (failure : RefundFailure) : Prop :=
  s.returned = false → s.db.Refundable requestId → ¬ QuotaDB.SplitsCommits failure

instance (requestId : String) (s : RefundRun) (failure : RefundFailure) :
    Decidable (s.NoSplit requestId failure) :=
  inferInstanceAs (Decidable (_ → _ → _))

/-- The record and its subscription, and what the counted decreases have made of them. -/
structure Tracks (requestId : String) (record : SubscriptionPreConsumeRecord) (used : Int)
    (first : Nat) (s : RefundRun) : Prop where
  stored : ∃ refunded, s.db.records.find? requestId = some { record with refunded := refunded }
  refunded : s.db.Refunded requestId → 1 ≤ s.decreases
  first_le : first ≤ s.decreases
  amountUsed : s.db.amountUsed record.userSubscriptionId =
    (QuotaDB.lower record.preConsumed)^[s.decreases - first] used

variable {requestId : String} {record : SubscriptionPreConsumeRecord} {used : Int} {first : Nat}

/-- What one attempt does: nothing, or one decrease with or without the mark. -/
theorem step_cases {s : RefundRun} (h : s.Tracks requestId record used first)
    (hpre : 0 < record.preConsumed) (failure : RefundFailure) :
    ((s.step requestId failure).db = s.db ∧ (s.step requestId failure).decreases = s.decreases ∧
        s.NoSplit requestId failure) ∨
      (¬ s.db.Refunded requestId ∧ (s.step requestId failure).decreases = s.decreases + 1 ∧
        ((s.step requestId failure).db.Refunded requestId ↔ s.NoSplit requestId failure) ∧
        (∃ refunded, (s.step requestId failure).db.records.find? requestId =
          some { record with refunded := refunded }) ∧
        (s.step requestId failure).db.amountUsed record.userSubscriptionId =
          QuotaDB.lower record.preConsumed (s.db.amountUsed record.userSubscriptionId)) := by
  obtain ⟨refunded, hfind⟩ := h.stored
  unfold step
  by_cases hreturned : s.returned = true
  · rw [if_pos hreturned]
    refine .inl ⟨rfl, rfl, ?_⟩
    intro hopen
    rw [hreturned] at hopen
    exact nomatch hopen
  rw [if_neg hreturned]
  dsimp only
  by_cases hrefundable : s.db.Refundable requestId
  · obtain ⟨hreq, r, hr, hunmarked, hok⟩ := hrefundable
    rw [hfind, Option.mem_some_iff] at hr
    subst hr
    obtain rfl : refunded = false := hunmarked
    obtain ⟨db', hinner⟩ : ∃ db', s.db.postConsumeUserSubscriptionDelta
        record.userSubscriptionId (-record.preConsumed) = .ok db' := by
      dsimp only at hok
      cases hinner : s.db.postConsumeUserSubscriptionDelta record.userSubscriptionId
          (-record.preConsumed) with
      | error e => rw [hinner] at hok; exact nomatch hok
      | ok db' => exact ⟨db', rfl⟩
    have hrefundable : s.db.Refundable requestId := ⟨hreq, _, hfind, rfl, hok⟩
    have hnot : ¬ s.db.Refunded requestId := by
      rintro ⟨r, hr, hmarked⟩
      rw [hfind, Option.mem_some_iff] at hr
      rw [← hr] at hmarked
      exact nomatch hmarked
    obtain ⟨hrecords, hused⟩ := QuotaDB.postConsume_decrease hpre hinner
    rcases QuotaDB.tryRefund_of_refundable hreq hfind hpre rfl hinner failure with
      ⟨hdb, hdec, hsplit⟩ | ⟨hdb, hdec, hsplit⟩ | ⟨hdb, hdec, hsplit⟩
    · rw [hdb, hdec]
      exact .inl ⟨rfl, rfl, fun _ _ => hsplit⟩
    · -- the decrease is committed, the mark is not
      rw [hdb, hdec]
      refine .inr ⟨hnot, rfl, iff_of_false ?_ ?_, ⟨false, ?_⟩, hused⟩
      · rintro ⟨r, hr, hmarked⟩
        rw [hrecords, hfind, Option.mem_some_iff] at hr
        rw [← hr] at hmarked
        exact nomatch hmarked
      · intro hno
        exact hno (by simpa using hreturned) hrefundable hsplit
      · rw [hrecords]
        exact hfind
    · rw [hdb, hdec]
      have hmarked : (db'.records.set { record with refunded := true }).find? requestId =
          some { record with refunded := true } := by
        have hkey := Table.find?_key hfind
        dsimp only at hkey
        rw [hrecords]
        exact Table.find?_set_self hfind hkey
      refine .inr ⟨hnot, rfl, iff_of_true ⟨_, hmarked, rfl⟩ fun _ _ => hsplit, ⟨true, hmarked⟩,
        hused⟩
  · obtain ⟨hdb, hdec⟩ := QuotaDB.tryRefund_of_not_refundable hfind hpre hrefundable failure
    rw [hdb, hdec]
    exact .inl ⟨rfl, rfl, fun _ hyes => absurd hyes hrefundable⟩

/-- The counted decreases are what happened to `amount_used`. -/
theorem Tracks.step_tracks {s : RefundRun} (h : s.Tracks requestId record used first)
    (hpre : 0 < record.preConsumed) (failure : RefundFailure) :
    (s.step requestId failure).Tracks requestId record used first := by
  rcases step_cases h hpre failure with ⟨hdb, hdec, -⟩ | ⟨-, hdec, -, hrecord, hused⟩
  · refine ⟨?_, ?_, ?_, ?_⟩
    · rw [hdb]
      exact h.stored
    · rw [hdb, hdec]
      exact h.refunded
    · rw [hdec]
      exact h.first_le
    · rw [hdb, hdec]
      exact h.amountUsed
  · have hfirst := h.first_le
    refine ⟨hrecord, fun _ => by omega, by omega, ?_⟩
    rw [hused, hdec, h.amountUsed, show s.decreases + 1 - first = s.decreases - first + 1 by omega,
      Function.iterate_succ_apply']

/-- One attempt keeps the two halves together exactly when it does not split them. -/
theorem step_refundedOnce_iff (s : RefundRun) (failure : RefundFailure)
    (h : s.Tracks requestId record used first) (hpre : 0 < record.preConsumed)
    (honce : s.RefundedOnce requestId) :
    (s.step requestId failure).RefundedOnce requestId ↔ s.NoSplit requestId failure := by
  rcases step_cases h hpre failure with ⟨hdb, hdec, hno⟩ | ⟨hnot, hdec, hiff, -, -⟩
  · refine iff_of_true ?_ hno
    rw [RefundedOnce, hdb, hdec]
    exact honce
  · -- nothing was decreased before, so now it is once
    have hzero : s.decreases = 0 := by
      have hne : s.decreases ≠ 1 := fun hone => hnot (honce.2.mpr hone)
      have hle := honce.1
      omega
    rw [RefundedOnce, hdec, hzero, hiff]
    simp

/-- Once the halves disagree they stay so. -/
theorem refundedOnce_of_step (s : RefundRun) (failure : RefundFailure)
    (h : s.Tracks requestId record used first) (hpre : 0 < record.preConsumed)
    (honce : (s.step requestId failure).RefundedOnce requestId) :
    s.RefundedOnce requestId := by
  rcases step_cases h hpre failure with ⟨hdb, hdec, -⟩ | ⟨hnot, hdec, -, -, -⟩
  · rw [RefundedOnce, hdb, hdec] at honce
    exact honce
  · rw [RefundedOnce, hdec] at honce
    refine ⟨by omega, iff_of_false hnot (by omega)⟩

end RefundRun

/-- For every record, every number of attempts and every pattern of failures: the decrease
    is committed at most once and the record is marked exactly if it was, if and only if
    no attempt fails between the commit of the decrease and the commit of the mark. The
    counted decreases are those of `amount_used`. -/
theorem refunded_once_iff_no_split (db : QuotaDB) (requestId : String)
    (record : SubscriptionPreConsumeRecord) (hfind : db.records.find? requestId = some record)
    (hpre : 0 < record.preConsumed) (failures : List RefundFailure) :
    ((Run.run (RefundRun.step requestId) (.start db requestId) failures).RefundedOnce requestId ↔
        Run.Steps (RefundRun.step requestId) (RefundRun.NoSplit requestId) (.start db requestId)
          failures) ∧
      (Run.run (RefundRun.step requestId) (.start db requestId) failures).db.amountUsed
          record.userSubscriptionId =
        (QuotaDB.lower record.preConsumed)^[
          (Run.run (RefundRun.step requestId) (.start db requestId) failures).decreases -
            (RefundRun.start db requestId).decreases] (db.amountUsed record.userSubscriptionId) := by
  have hstart : (RefundRun.start db requestId).Tracks requestId record
      (db.amountUsed record.userSubscriptionId) (RefundRun.start db requestId).decreases := by
    refine ⟨⟨record.refunded, hfind⟩, ?_, le_refl _, ?_⟩
    · intro hrefunded
      simp only [RefundRun.start] at hrefunded ⊢
      rw [if_pos hrefunded]
    · simp [RefundRun.start]
  have honce : (RefundRun.start db requestId).RefundedOnce requestId := by
    unfold RefundRun.RefundedOnce RefundRun.start
    by_cases hrefunded : db.Refunded requestId
    · simp [hrefunded]
    · simp [hrefunded]
  have hstep : ∀ (s : RefundRun) (failure : RefundFailure),
      s.Tracks requestId record (db.amountUsed record.userSubscriptionId)
        (RefundRun.start db requestId).decreases →
      (s.step requestId failure).Tracks requestId record
        (db.amountUsed record.userSubscriptionId) (RefundRun.start db requestId).decreases :=
    fun s failure h => h.step_tracks hpre failure
  refine ⟨?_, (Run.run_inv hstep hstart failures).amountUsed⟩
  rw [← Run.always_iff_steps hstep
    (fun s failure h => RefundRun.step_refundedOnce_iff s failure h hpre) hstart honce]
  constructor
  · exact Run.always_of_last_of hstep
      (fun s failure h => RefundRun.refundedOnce_of_step s failure h hpre) hstart
  · exact Run.Always.last

/-- Subscription 1 with 80 used, 30 of them by request `a`. -/
def consumedRecord : QuotaDB :=
  { users := .empty
    tokens := .empty
    subscriptions := Table.empty.insert
      { id := 1, userId := 1, amountTotal := 100, amountUsed := 80, endTime := 100 }
    records := Table.empty.insert
      { requestId := "a", userId := 1, userSubscriptionId := 1, preConsumed := 30 } }

/-- A failure before the inner commit, then a success. -/
theorem refunded_once_after_retry :
    (Run.run (RefundRun.step "a") (.start consumedRecord "a")
      [some (.readSubscription, "connection reset"), none]).RefundedOnce "a" :=
  (refunded_once_iff_no_split consumedRecord "a" _ rfl (by decide) _).1.mpr (by decide)

/-- The outer commit of the first attempt fails after the inner one: the second attempt
    decreases again, from 80 to 20 instead of 50. -/
theorem split_refund_decreases_twice :
    ∃ failures : List RefundFailure,
      failures = [some (.commitOuter false, "connection reset"), none] ∧
      ¬ ((RefundRun.start consumedRecord "a").refundWithRetry "a" failures).RefundedOnce "a" ∧
      ((RefundRun.start consumedRecord "a").refundWithRetry "a" failures).decreases = 2 ∧
      ((RefundRun.start consumedRecord "a").refundWithRetry "a" failures).db.amountUsed 1 = 20 :=
  ⟨_, rfl, by decide, by decide, by decide⟩

end TokenRouter
