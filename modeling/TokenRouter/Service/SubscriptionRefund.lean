import TokenRouter.Model.Quota

/-!
# Refunding a subscription with retries (`model/subscription.go`, `service/funding_source.go`)

`RefundSubscriptionPreConsume` opens a transaction, reads the record, lowers `amount_used`
through `PostConsumeUserSubscriptionDelta`, which opens and commits a transaction of its
own, and then marks the record. `refundWithRetry` calls it again after any error. Every
database step of an attempt may fail.
-/

namespace TokenRouter

/-- The database steps of one attempt. A commit that fails may have taken effect. -/
inductive RefundFault where
  | beginOuter
  | readRecord
  | beginInner
  | readSubscription
  | saveSubscription
  | commitInner (committed : Bool)
  | saveRecord
  | commitOuter (committed : Bool)
  deriving DecidableEq

/-- The step of an attempt that fails, with the error. -/
abbrev RefundFailure := Option (RefundFault × String)

/-- What one attempt leaves: the database, whether the decrease was committed, and the
    error it returns. -/
structure RefundAttempt where
  db : QuotaDB
  decreased : Bool
  error : Option String

namespace QuotaDB

/-- `PostConsumeUserSubscriptionDelta` inside an attempt: its own transaction. -/
def postConsumeInner (db : QuotaDB) (subscriptionId : Nat) (delta : Int)
    (failure : RefundFailure) : RefundAttempt :=
  match db.postConsumeUserSubscriptionDelta subscriptionId delta, failure with
  | _, some (.beginInner, e) => ⟨db, false, some e⟩
  | _, some (.readSubscription, e) => ⟨db, false, some e⟩
  | .error e, _ => ⟨db, false, some e⟩
  | .ok _, some (.saveSubscription, e) => ⟨db, false, some e⟩
  | .ok _, some (.commitInner false, e) => ⟨db, false, some e⟩
  | .ok db', some (.commitInner true, e) => ⟨db', true, some e⟩
  | .ok db', _ => ⟨db', true, none⟩

/-- The end of an attempt: the record is marked and the outer transaction commits. -/
def markRefunded (db : QuotaDB) (record : SubscriptionPreConsumeRecord) (decreased : Bool)
    (failure : RefundFailure) : RefundAttempt :=
  let marked := { db with records := db.records.set { record with refunded := true } }
  match failure with
  | some (.saveRecord, e) => ⟨db, decreased, some e⟩
  | some (.commitOuter false, e) => ⟨db, decreased, some e⟩
  | some (.commitOuter true, e) => ⟨marked, decreased, some e⟩
  | _ => ⟨marked, decreased, none⟩

/-- One `RefundSubscriptionPreConsume` call. A failure at a step that the call does not
    reach does not happen. -/
def tryRefund (db : QuotaDB) (requestId : String) (failure : RefundFailure) : RefundAttempt :=
  if trimSpace requestId = "" then ⟨db, false, some "requestId is empty"⟩
  else
    match failure with
    | some (.beginOuter, e) => ⟨db, false, some e⟩
    | some (.readRecord, e) => ⟨db, false, some e⟩
    | failure =>
      match db.records.find? requestId with
      | none => ⟨db, false, some "record not found"⟩
      | some record =>
        if record.refunded then
          match failure with
          | some (.commitOuter _, e) => ⟨db, false, some e⟩
          | _ => ⟨db, false, none⟩
        else if record.preConsumed ≤ 0 then db.markRefunded record false failure
        else
          let inner := db.postConsumeInner record.userSubscriptionId (-record.preConsumed) failure
          match inner.error with
          | some e => ⟨inner.db, inner.decreased, some e⟩
          | none => inner.db.markRefunded record inner.decreased failure

end QuotaDB

/-- A `refundWithRetry` call in progress: how often the decrease was committed, and
    whether an attempt has returned without an error. -/
structure RefundRun where
  db : QuotaDB
  decreases : Nat
  returned : Bool := false

/-- The next attempt of the loop of `refundWithRetry`, unless one has succeeded. -/
def RefundRun.step (requestId : String) (s : RefundRun) (failure : RefundFailure) : RefundRun :=
  if s.returned then s
  else
    let attempt := s.db.tryRefund requestId failure
    { db := attempt.db
      decreases := s.decreases + attempt.decreased.toNat
      returned := attempt.error.isNone }

/-- `maxAttempts` of `refundWithRetry`. -/
def refundMaxAttempts : Nat := 3

/-- `refundWithRetry` around `RefundSubscriptionPreConsume`; `failures` says what fails in
    each attempt. -/
def RefundRun.refundWithRetry (requestId : String) (s : RefundRun)
    (failures : List RefundFailure) : RefundRun :=
  (failures.take refundMaxAttempts).foldl (RefundRun.step requestId) s

end TokenRouter
