import TokenRouter.ForStd.Run
import TokenRouter.Model.Redemption

/-!
# A redemption code pays once

Two calls that have both read the code as enabled both credit its quota: the save does not
look at the status again. In every interleaving the code pays once exactly as long as every
commit still finds the code enabled (and the user to be credited).

## Main results

- `paidOnce_step_iff`: one step keeps the payments right exactly if it does not commit too late
- `redeem_once_iff`: whole runs
-/

namespace TokenRouter

namespace RedeemStage

/-- The copy of the code that a call with a stage holds comes from the row that the calls
    started with, enabled. -/
def FromRow (row? : Option Redemption) (userId : Int) : RedeemStage → Prop
  | started => True
  | found redemption => row? = some redemption ∧ redemption.status = .enabled
  | credited redemption => row? = some redemption ∧ redemption.status = .enabled
  | saved redemption => ∃ row now, row? = some row ∧ row.status = .enabled ∧
      redemption = row.redeemedBy userId now
  | returned => True

end RedeemStage

namespace RedeemState

variable {key : String} {s₀ s : RedeemState}

/-- The quota of all users together. -/
def totalQuota (s : RedeemState) : Int := s.users.sum (·.quota)

/-- At most one call has succeeded. If none has, users and codes are as they were; if one has,
    its user has the quota of the code, everyone else what they had, and only the code has
    changed. -/
def PaidOnce (key : String) (s₀ s : RedeemState) : Prop :=
  match s.paid with
  | [] => s.users = s₀.users ∧ s.codes = s₀.codes
  | [(userId, quota)] =>
    s.users = s₀.users.update userId (User.addQuota quota) ∧
      s.totalQuota = s₀.totalQuota + quota ∧
      ∃ row now, s₀.codes.find? key = some row ∧ row.quota = quota ∧
        s.codes = s₀.codes.set (row.redeemedBy userId now)
  | _ => False

/-- A commit finds the code enabled, and the user unless there is nothing to credit. -/
def CommitsInTime (key : String) (s : RedeemState) : RedeemEvent → Prop
  | .commit i =>
    match s.calls[i]? with
    | some ⟨userId, .saved redemption⟩ =>
      (s.codes.find? key).map (·.status) = some .enabled ∧
        ((s.users.find? userId).isSome ∨ redemption.quota = 0)
    | _ => True
  | _ => True

/-- What holds of every interleaving: the code is unchanged until a call succeeds and used from
    then on, and every copy was read before. -/
structure Inv (key : String) (s₀ s : RedeemState) : Prop where
  fresh : s.paid = [] → s.codes.find? key = s₀.codes.find? key
  used : s.paid ≠ [] → ∃ row, s.codes.find? key = some row ∧ row.status = .used
  copies : ∀ c ∈ s.calls, c.stage.FromRow (s₀.codes.find? key) c.userId

/-! ## Steps that do not commit -/

/-- A call that goes on changes no table and pays nothing. -/
theorem Inv.advance (h : Inv key s₀ s) (i : Nat) {userId : Int} {stage : RedeemStage}
    (hcopy : stage.FromRow (s₀.codes.find? key) userId) :
    Inv key s₀ (s.advance i userId stage) := by
  refine ⟨h.fresh, h.used, ?_⟩
  intro c hc
  rcases List.mem_or_eq_of_mem_set hc with hc | rfl
  · exact h.copies c hc
  · exact hcopy

/-- The copy of a call. -/
theorem Inv.copy (h : Inv key s₀ s) {i : Nat} {c : RedeemCall} (hc : s.calls[i]? = some c) :
    c.stage.FromRow (s₀.codes.find? key) c.userId :=
  h.copies c (List.mem_of_getElem? hc)

/-- The copy that a call is about to commit. -/
theorem Inv.savedCopy (h : Inv key s₀ s) {i : Nat} {userId : Int} {redemption : Redemption}
    (hc : s.calls[i]? = some { userId, stage := .saved redemption }) :
    ∃ row now, s₀.codes.find? key = some row ∧ row.status = .enabled ∧
      redemption = row.redeemedBy userId now := h.copy hc

/-- A code that is read as enabled is the one the calls started with. -/
theorem Inv.first (h : Inv key s₀ s) {redemption : Redemption}
    (hfirst : s.first key = some redemption) (hstatus : redemption.status = .enabled) :
    s₀.codes.find? key = some redemption := by
  have hrow : s.codes.find? key = some redemption := (Option.filter_eq_some_iff.mp hfirst).1
  by_cases hpaid : s.paid = []
  · rw [← h.fresh hpaid, hrow]
  · obtain ⟨row, hused, hrowstatus⟩ := h.used hpaid
    rw [hrow] at hused
    cases hused
    rw [hstatus] at hrowstatus
    cases hrowstatus

theorem inv_call (h : Inv key s₀ s) (userId : Int) : Inv key s₀ (s.call key userId) := by
  have hnew : ∀ stage : RedeemStage, stage.FromRow (s₀.codes.find? key) userId →
      Inv key s₀ { s with calls := s.calls ++ [{ userId, stage }] } := by
    intro stage hstage
    refine ⟨h.fresh, h.used, ?_⟩
    intro c hc
    rcases List.mem_append.mp hc with hc | hc
    · exact h.copies c hc
    · rw [List.mem_singleton.mp hc]
      exact hstage
  unfold call
  split
  · exact hnew .returned trivial
  · exact hnew .started trivial

theorem inv_read (h : Inv key s₀ s) (i : Nat) (now : Int) : Inv key s₀ (s.read key i now) := by
  unfold read
  split
  · split
    · rename_i redemption hfirst
      split
      · exact h.advance i trivial
      · rename_i hstatus
        rw [not_not] at hstatus
        split
        · exact h.advance i trivial
        · exact h.advance i ⟨h.first hfirst hstatus, hstatus⟩
    · exact h.advance i trivial
  · exact h

theorem inv_credit (h : Inv key s₀ s) (i : Nat) : Inv key s₀ (s.credit i) := by
  unfold credit
  split
  · rename_i userId redemption hcall
    split
    · exact h
    · exact h.advance i (h.copy hcall)
  · exact h

theorem inv_save (h : Inv key s₀ s) (i : Nat) (now : Int) : Inv key s₀ (s.save i now) := by
  unfold save
  split
  · rename_i userId redemption hcall
    split
    · exact h
    · obtain ⟨hrow, hstatus⟩ := h.copy hcall
      exact h.advance i ⟨redemption, now, hrow, hstatus, rfl⟩
  · exact h

theorem inv_rollback (h : Inv key s₀ s) (i : Nat) : Inv key s₀ (s.rollback i) := by
  unfold rollback
  split
  · exact h.advance i trivial
  · exact h

/-- Steps that do not commit leave the tables and the payments alone. -/
theorem step_frame (key : String) (s : RedeemState) {e : RedeemEvent} (he : ∀ i, e ≠ .commit i) :
    (s.step key e).users = s.users ∧ (s.step key e).codes = s.codes ∧
      (s.step key e).paid = s.paid := by
  cases e with
  | call userId => simp only [step, call]; split <;> simp
  | read i now =>
    simp only [step, read]
    split
    · split
      · split_ifs <;> simp [advance]
      · simp [advance]
    · simp
  | credit i =>
    simp only [step, credit]
    split
    · split <;> simp [advance]
    · simp
  | save i now =>
    simp only [step, save]
    split
    · split <;> simp [advance]
    · simp
  | commit i => exact absurd rfl (he i)
  | rollback i => simp only [step, rollback]; split <;> simp [advance]

/-! ## The commit -/

/-- The total after one user's quota was raised. -/
theorem sum_update_addQuota (users : Table User (·.id)) (userId quota : Int) :
    (users.update userId (User.addQuota quota)).sum (·.quota) =
      users.sum (·.quota) + if (users.find? userId).isSome then quota else 0 := by
  unfold Table.update
  cases hfind : users.find? userId with
  | none => simp
  | some user =>
    have hkey : users.find? (User.addQuota quota user).id = some user := by
      show users.find? user.id = some user
      rw [Table.find?_key hfind, hfind]
    simp only [Option.isSome_some, if_true]
    rw [Table.sum_set _ hkey]
    show users.sum (·.quota) - user.quota + (user.quota + quota) = _
    omega

theorem inv_commit (h : Inv key s₀ s) (i : Nat) : Inv key s₀ (s.commit i) := by
  unfold commit
  split
  · rename_i userId redemption hcall
    obtain ⟨row, now, hrow, hstatus, rfl⟩ := h.savedCopy hcall
    have hadvance : Inv key s₀ (s.advance i userId .returned) := h.advance i trivial
    refine ⟨by simp, ?_, hadvance.copies⟩
    intro _
    refine ⟨row.redeemedBy userId now, ?_, rfl⟩
    -- the code has a row, and its key is the one asked for
    have hkey : row.key = key := Table.find?_key hrow
    have hsome : ∃ r, s.codes.find? key = some r := by
      by_cases hpaid : s.paid = []
      · exact ⟨row, (h.fresh hpaid).trans hrow⟩
      · obtain ⟨r, hr, -⟩ := h.used hpaid
        exact ⟨r, hr⟩
    obtain ⟨r, hr⟩ := hsome
    exact Table.find?_set_self hr hkey
  · exact h

/-- What every step keeps. -/
theorem inv_step (h : Inv key s₀ s) (e : RedeemEvent) : Inv key s₀ (s.step key e) := by
  cases e with
  | call userId => exact inv_call h userId
  | read i now => exact inv_read h i now
  | credit i => exact inv_credit h i
  | save i now => exact inv_save h i now
  | commit i => exact inv_commit h i
  | rollback i => exact inv_rollback h i

/-- The first commit is right exactly if there is a user to credit. -/
theorem paidOnce_commit_first (h : Inv key s₀ s) {i : Nat} {userId : Int} {redemption : Redemption}
    (hcall : s.calls[i]? = some { userId, stage := .saved redemption }) (hpaid : s.paid = [])
    (hp : PaidOnce key s₀ s) :
    PaidOnce key s₀ (s.commit i) ↔ (s.users.find? userId).isSome ∨ redemption.quota = 0 := by
  obtain ⟨row, now, hrow, hstatus, rfl⟩ := h.savedCopy hcall
  simp only [PaidOnce, hpaid] at hp
  obtain ⟨husers, hcodes⟩ := hp
  simp only [commit, hcall, PaidOnce, hpaid, List.nil_append, totalQuota, husers, hcodes]
  rw [sum_update_addQuota]
  constructor
  · rintro ⟨-, htotal, -⟩
    by_cases hsome : (s₀.users.find? userId).isSome
    · exact .inl hsome
    · rw [if_neg hsome] at htotal
      exact .inr (by omega)
  · intro hcredit
    refine ⟨trivial, ?_, row, now, hrow, rfl, rfl⟩
    by_cases hsome : (s₀.users.find? userId).isSome
    · rw [if_pos hsome]
    · have hzero := hcredit.resolve_left hsome
      rw [if_neg hsome, hzero]

/-- A second commit is never right. -/
theorem not_paidOnce_commit_again {i : Nat} {userId : Int} {redemption : Redemption}
    (hcall : s.calls[i]? = some { userId, stage := .saved redemption }) (hpaid : s.paid ≠ []) :
    ¬ PaidOnce key s₀ (s.commit i) := by
  obtain ⟨p, ps, hps⟩ := List.exists_cons_of_ne_nil hpaid
  simp only [commit, hcall, PaidOnce, hps]
  cases ps <;> simp

/-- What one step does to the payments. -/
theorem paidOnce_step_iff (s : RedeemState) (e : RedeemEvent) (h : Inv key s₀ s)
    (hp : PaidOnce key s₀ s) :
    PaidOnce key s₀ (s.step key e) ↔ CommitsInTime key s e := by
  by_cases he : ∃ i, e = .commit i
  · obtain ⟨i, rfl⟩ := he
    show PaidOnce key s₀ (s.commit i) ↔ _
    simp only [CommitsInTime]
    split
    · rename_i userId redemption hcall
      by_cases hpaid : s.paid = []
      · -- the code is still the enabled one that was read
        obtain ⟨row, now, hrow, hstatus, hcopy⟩ := h.savedCopy hcall
        rw [paidOnce_commit_first h hcall hpaid hp, h.fresh hpaid, hrow]
        simp [hstatus]
      · obtain ⟨row, hrow, hused⟩ := h.used hpaid
        refine iff_of_false (not_paidOnce_commit_again hcall hpaid) ?_
        simp [hrow, hused]
    · rename_i hcall
      refine iff_of_true ?_ trivial
      have hsame : s.commit i = s := by
        unfold commit
        split
        · rename_i userId redemption hcall'
          exact absurd hcall' (hcall userId redemption)
        · rfl
      rw [hsame]
      exact hp
  · rw [not_exists] at he
    obtain ⟨husers, hcodes, hpaid⟩ := step_frame key s he
    have hc : CommitsInTime key s e := by
      cases e with
      | commit i => exact absurd rfl (he i)
      | _ => trivial
    refine iff_of_true ?_ hc
    simp only [PaidOnce, totalQuota, husers, hcodes, hpaid] at hp ⊢
    exact hp

end RedeemState

open RedeemState in
/-- For every database and every interleaving of calls of `Redeem` for a key, the code pays at
    most once, its quota in all, and calls that fail change nothing, in every state, if and only
    if every commit still finds the code enabled and a user to credit. -/
theorem redeem_once_iff (users : Table User (·.id)) (codes : Table Redemption (·.key))
    (key : String) (es : List RedeemEvent) :
    Run.Always (step key) (PaidOnce key { users, codes }) { users, codes } es ↔
      Run.Steps (step key) (CommitsInTime key) { users, codes } es := by
  have hstep : ∀ s e, Inv key { users, codes } s → Inv key { users, codes } (s.step key e) :=
    fun s e h => inv_step h e
  apply Run.always_iff_steps hstep paidOnce_step_iff
  · exact ⟨fun _ => rfl, fun h => absurd rfl h, by simp⟩
  · exact ⟨rfl, rfl⟩

/-- Two users without quota and a code worth 500. -/
def giftState : RedeemState where
  users := ⟨[{ id := 1, quota := 0 }, { id := 2, quota := 0 }], by decide⟩
  codes := ⟨[{ id := 1, key := "gift", quota := 500 }], by simp⟩

/-- Both calls read the code before the first one commits. -/
def giftRace : List RedeemEvent :=
  [.call 1, .call 2, .read 0 100, .read 1 100, .credit 0, .credit 1, .save 0 100, .commit 0,
    .save 1 101, .commit 1]

open RedeemState in
/-- The second call pays the code again. -/
theorem gift_pays_twice :
    ¬ ∀ (users : Table User (·.id)) (codes : Table Redemption (·.key)) (key : String)
        (es : List RedeemEvent),
        Run.Always (step key) (PaidOnce key { users, codes }) { users, codes } es := by
  intro h
  have hpaid : (Run.run (step "gift") giftState giftRace).paid = [(1, 500), (2, 500)] := by
    decide
  have hlast := @Run.Always.last _ _ (step "gift") (PaidOnce "gift" giftState) giftState giftRace
    (h giftState.users giftState.codes "gift" giftRace)
  unfold PaidOnce at hlast
  rw [hpaid] at hlast
  exact hlast

end TokenRouter
