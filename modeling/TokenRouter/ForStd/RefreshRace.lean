import TokenRouter.ForStd.Run
import TokenRouter.ForStd.Table

/-!
# Refresh jobs over a table that others write

A refresh job lists the rows of a table, queries a source for each copy, and writes
columns computed from the copy and the answer back by key. Other writers read the table
first and write it later. Every read and every write is a step of its own, so any two
jobs and writers interleave.

## Key results

- `always_exact_iff`: a relation between the columns of a row, kept by the other writers,
  holds throughout exactly when every write of a job finds the row as its copy saw it
- `run_aloneSteps`: a job that runs alone rewrites the listed rows
- `find?_run_twice`: a second job over an unchanged source
-/

/-- A refresh job and the other writers of its table. -/
structure RefreshRace (ρ π ω τ σ ι : Type) (key : ρ → Nat) where
  /-- The rows that a job lists for an input. -/
  lists : ι → ρ → Bool
  /-- What the source answers for a copy. -/
  query : τ → ρ → σ
  /-- The `UPDATE` of a row from the copy and the answer, at a time. -/
  write : Int → ρ → σ → ρ → ρ
  key_write : ∀ now copy answer r, key (write now copy answer r) = key r
  /-- What another writer keeps of the table before it writes, if its input is accepted. -/
  read : ω → Table ρ key → Option π
  /-- The write of another writer. -/
  apply : π → Table ρ key → Table ρ key

namespace RefreshRace

variable {ρ π ω τ σ ι : Type} {key : ρ → Nat}

/-- A job under way: its time, the copies it has not written, the answer for the first. -/
structure Job (ρ σ : Type) where
  now : Int
  todo : List ρ
  answer : Option σ

/-- The table, the source, and what is under way. -/
structure State (ρ π τ σ : Type) (key : ρ → Nat) where
  rows : Table ρ key
  source : τ
  pending : List π
  jobs : List (Job ρ σ)

/-- The steps: the source changes, another writer reads or writes, a job lists, queries or
writes. -/
inductive Event (ω τ ι : Type) where
  | source (t : τ)
  | read (w : ω)
  | apply (i : Nat)
  | list (input : ι) (now : Int)
  | query (j : Nat)
  | write (j : Nat)

variable (M : RefreshRace ρ π ω τ σ ι key)

/-- One write of a job. -/
def writeRow (t : Table ρ key) (now : Int) (copy : ρ) (answer : σ) : Table ρ key :=
  t.update (key copy) (M.write now copy answer)

/-- One step; an index with nothing under way does nothing. A job reads each row back and
ends if it is gone. -/
def step (s : State ρ π τ σ key) : Event ω τ ι → State ρ π τ σ key
  | .source t => { s with source := t }
  | .read w =>
    match M.read w s.rows with
    | some p => { s with pending := s.pending ++ [p] }
    | none => s
  | .apply i =>
    match s.pending[i]? with
    | some p => { s with rows := M.apply p s.rows, pending := s.pending.eraseIdx i }
    | none => s
  | .list input now =>
    { s with jobs := s.jobs ++ [⟨now, s.rows.rows.filter (M.lists input), none⟩] }
  | .query j =>
    match s.jobs[j]? with
    | some ⟨now, copy :: todo, none⟩ =>
      { s with jobs := s.jobs.set j ⟨now, copy :: todo, some (M.query s.source copy)⟩ }
    | _ => s
  | .write j =>
    match s.jobs[j]? with
    | some ⟨now, copy :: todo, some answer⟩ =>
      let rows := M.writeRow s.rows now copy answer
      let rest := if (rows.find? (key copy)).isSome then todo else []
      { s with rows, jobs := s.jobs.set j ⟨now, rest, none⟩ }
    | _ => s

/-- A write of a job finds its row as the copy saw it, in what `Agrees` compares. -/
def Fresh (Agrees : ρ → ρ → Prop) (s : State ρ π τ σ key) : Event ω τ ι → Prop
  | .write j =>
    match s.jobs[j]? with
    | some ⟨_, copy :: _, some _⟩ => ∀ r ∈ s.rows.find? (key copy), Agrees copy r
    | _ => True
  | _ => True

instance (Agrees : ρ → ρ → Prop) [∀ c r, Decidable (Agrees c r)] (s : State ρ π τ σ key) :
    ∀ e : Event ω τ ι, Decidable (Fresh Agrees s e)
  | .write j =>
    match h : s.jobs[j]? with
    | some ⟨_, copy :: _, some _⟩ =>
      decidable_of_iff (∀ r ∈ s.rows.find? (key copy), Agrees copy r) (by simp only [Fresh, h])
    | some ⟨_, [], _⟩ => isTrue (by simp only [Fresh, h])
    | some ⟨_, _ :: _, none⟩ => isTrue (by simp only [Fresh, h])
    | none => isTrue (by simp only [Fresh, h])
  | .source _ => isTrue trivial
  | .read _ => isTrue trivial
  | .apply _ => isTrue trivial
  | .list .. => isTrue trivial
  | .query _ => isTrue trivial

/-- Every row satisfies the relation. -/
def AllExact (Exact : ρ → Prop) (s : State ρ π τ σ key) : Prop := ∀ r ∈ s.rows.rows, Exact r

variable {M} {Exact : ρ → Prop} {Agrees : ρ → ρ → Prop}

theorem exact_writeRow_iff
    (hwrite : ∀ now c a r, Exact r → (Exact (M.write now c a r) ↔ Agrees c r))
    {t : Table ρ key} (h : ∀ r ∈ t.rows, Exact r) (now : Int) (copy : ρ) (answer : σ) :
    (∀ r ∈ (M.writeRow t now copy answer).rows, Exact r) ↔
      ∀ r ∈ t.find? (key copy), Agrees copy r := by
  unfold writeRow Table.update
  cases hfind : t.find? (key copy) with
  | none => simpa using h
  | some r =>
    have hr := Table.find?_mem hfind
    have hself : t.find? (key (M.write now copy answer r)) = some r := by
      rw [M.key_write, Table.find?_key hfind]
      exact hfind
    simp only [Option.mem_some_iff, forall_eq']
    rw [← hwrite now copy answer r (h r hr)]
    constructor
    · intro hall
      exact hall _ (Table.mem_set_self hself)
    · intro hnew x hx
      rcases Table.mem_set hx with rfl | ⟨hmem, -⟩
      · exact hnew
      · exact h x hmem

/-- One step keeps the relation exactly if it writes over a row that agrees with the copy. -/
theorem exact_step_iff
    (hwrite : ∀ now c a r, Exact r → (Exact (M.write now c a r) ↔ Agrees c r))
    (happly : ∀ p t, (∀ r ∈ t.rows, Exact r) → ∀ r ∈ (M.apply p t).rows, Exact r)
    {s : State ρ π τ σ key} {e : Event ω τ ι} (h : AllExact Exact s) :
    AllExact Exact (M.step s e) ↔ Fresh Agrees s e := by
  cases e with
  | source t => exact iff_of_true h trivial
  | read w =>
    refine iff_of_true ?_ trivial
    simp only [step]
    split <;> exact h
  | apply i =>
    refine iff_of_true ?_ trivial
    simp only [step]
    split
    · next p _ => exact happly p s.rows h
    · exact h
  | list input now => exact iff_of_true h trivial
  | query j =>
    refine iff_of_true ?_ trivial
    simp only [step]
    split <;> exact h
  | write j =>
    simp only [step, Fresh]
    split
    · next now copy todo answer hjob => exact exact_writeRow_iff hwrite h now copy answer
    · next hjob => exact iff_of_true h trivial

/-- The relation holds in every state of a run exactly when every write of a job is fresh. -/
theorem always_exact_iff
    (hwrite : ∀ now c a r, Exact r → (Exact (M.write now c a r) ↔ Agrees c r))
    (happly : ∀ p t, (∀ r ∈ t.rows, Exact r) → ∀ r ∈ (M.apply p t).rows, Exact r)
    {s : State ρ π τ σ key} (h : AllExact Exact s) (es : List (Event ω τ ι)) :
    Run.Always M.step (AllExact Exact) s es ↔ Run.Steps M.step (Fresh Agrees) s es :=
  Run.always_iff_steps (fun _ _ (_ : True) => trivial)
    (fun _ _ _ hs => exact_step_iff hwrite happly hs) trivial h es

/-! ### A job that runs alone -/

variable (M) in
/-- The table after a job that nothing interrupts. -/
def refresh (source : τ) (input : ι) (now : Int) (t : Table ρ key) : Table ρ key :=
  (t.rows.filter (M.lists input)).foldl
    (fun t copy => M.writeRow t now copy (M.query source copy)) t

theorem find?_writeRow (t : Table ρ key) (now : Int) (copy : ρ) (answer : σ) (k : Nat) :
    (M.writeRow t now copy answer).find? k =
      if key copy = k then (t.find? k).map (M.write now copy answer) else t.find? k :=
  Table.find?_update _ _ _ (M.key_write now copy answer)

open Classical in
/-- Writing back a list of copies of rows of the table. -/
theorem foldl_writeRow (source : τ) (now : Int) {t : Table ρ key} {copies : List ρ}
    (hmem : ∀ c ∈ copies, c ∈ t.rows) (hnodup : copies.Nodup) (k : Nat) :
    ((copies.foldl (fun t copy => M.writeRow t now copy (M.query source copy)) t).find? k) =
      (t.find? k).map fun r => if r ∈ copies then M.write now r (M.query source r) r else r := by
  induction copies using List.reverseRecOn with
  | nil => simp
  | append_singleton copies c ih =>
    have hmem' : ∀ c ∈ copies, c ∈ t.rows := fun x hx => hmem x (List.mem_append_left _ hx)
    have hc : c ∈ t.rows := hmem c (by simp)
    rw [List.nodup_append] at hnodup
    have hcnot : c ∉ copies := fun h => hnodup.2.2 c h c (by simp) rfl
    rw [List.foldl_append]
    simp only [List.foldl_cons, List.foldl_nil]
    rw [find?_writeRow]
    have hself := Table.find?_of_mem hc
    split
    · next hk =>
      rw [ih hmem' hnodup.1, ← hk, hself]
      simp [hcnot]
    · next hk =>
      rw [ih hmem' hnodup.1]
      cases hfind : t.find? k with
      | none => rfl
      | some r =>
        -- another key, so another row
        have hne : r ≠ c := by
          rintro rfl
          exact hk (Table.find?_key hfind)
        simp [hne]

theorem find?_refresh (source : τ) (input : ι) (now : Int) (t : Table ρ key) (k : Nat) :
    (M.refresh source input now t).find? k =
      (t.find? k).map fun r =>
        if M.lists input r then M.write now r (M.query source r) r else r := by
  unfold refresh
  rw [foldl_writeRow source now (fun c hc => (List.mem_filter.mp hc).1)
    (List.Nodup.filter _ (List.Nodup.of_map _ t.nodup))]
  cases hfind : t.find? k with
  | none => rfl
  | some r =>
    have hr := Table.find?_mem hfind
    simp [List.mem_filter, hr]

/-- If a write changes nothing that jobs list by or query with, a second job over the same
source writes what the first would have written at its time. -/
theorem find?_refresh_refresh
    (hlists : ∀ input now c a r, M.lists input (M.write now c a r) = M.lists input r)
    (hquery : ∀ source now a r, M.query source (M.write now r a r) = M.query source r)
    (htwice : ∀ now now' a r,
      M.write now' (M.write now r a r) a (M.write now r a r) = M.write now' r a r)
    (source : τ) (input : ι) (now now' : Int) (t : Table ρ key) (k : Nat) :
    (M.refresh source input now' (M.refresh source input now t)).find? k =
      (M.refresh source input now' t).find? k := by
  rw [find?_refresh, find?_refresh, find?_refresh]
  cases t.find? k with
  | none => rfl
  | some r =>
    by_cases hl : M.lists input r
    · simp [hl, hlists, hquery, htwice]
    · simp [hl]

/-- The steps of the `j`-th job for `n` copies. -/
def jobSteps (j : Nat) : Nat → List (Event ω τ ι)
  | 0 => []
  | n + 1 => .query j :: .write j :: jobSteps j n

/-- The steps of a job write its copies back, if they stay rows of the table. -/
theorem run_jobSteps {s : State ρ π τ σ key} {j : Nat} {now : Int} {copies : List ρ}
    (hjob : s.jobs[j]? = some ⟨now, copies, none⟩)
    (hmem : ∀ c ∈ copies, (s.rows.find? (key c)).isSome) :
    Run.run M.step s (jobSteps j copies.length) =
      { s with
        rows := copies.foldl
          (fun t copy => M.writeRow t now copy (M.query s.source copy)) s.rows
        jobs := s.jobs.set j ⟨now, [], none⟩ } := by
  induction copies generalizing s with
  | nil =>
    have hset : s.jobs.set j ⟨now, [], none⟩ = s.jobs := by
      apply List.ext_getElem?
      intro i
      by_cases hi : j = i
      · subst hi
        rw [List.getElem?_set_self (List.getElem?_eq_some_iff.mp hjob).1, hjob]
      · rw [List.getElem?_set_ne hi]
    simp only [jobSteps, List.length_nil, Run.run_nil, List.foldl_nil, hset]
  | cons c copies ih =>
    have hj := (List.getElem?_eq_some_iff.mp hjob).1
    have hfound : ∀ k, (s.rows.find? k).isSome →
        ((M.writeRow s.rows now c (M.query s.source c)).find? k).isSome := by
      intro k hk
      rw [find?_writeRow]
      split
      · next heq => simpa [heq] using hk
      · exact hk
    have hstep : M.step (M.step s (.query j)) (.write j) =
        { s with
          rows := M.writeRow s.rows now c (M.query s.source c)
          jobs := s.jobs.set j ⟨now, copies, none⟩ } := by
      have hquery : M.step s (.query j) =
          { s with jobs := s.jobs.set j ⟨now, c :: copies, some (M.query s.source c)⟩ } := by
        simp only [step, hjob]
      have hkeep := hfound (key c) (hmem c List.mem_cons_self)
      rw [hquery]
      simp only [step, List.getElem?_set_self hj, hkeep, if_true, List.set_set]
    rw [List.length_cons, jobSteps, Run.run_cons, Run.run_cons, hstep]
    have hjob' : (s.jobs.set j ⟨now, copies, none⟩)[j]? = some ⟨now, copies, none⟩ :=
      List.getElem?_set_self hj
    rw [ih hjob' fun x hx => hfound _ (hmem x (List.mem_cons_of_mem c hx))]
    simp only [List.foldl_cons, List.set_set]

variable (M) in
/-- The steps of a job that nothing interrupts. -/
def aloneSteps (s : State ρ π τ σ key) (input : ι) (now : Int) : List (Event ω τ ι) :=
  .list input now :: jobSteps s.jobs.length (s.rows.rows.filter (M.lists input)).length

/-- A job that runs alone leaves the refreshed table and the source as it was. -/
theorem run_aloneSteps (s : State ρ π τ σ key) (input : ι) (now : Int) :
    (Run.run M.step s (M.aloneSteps s input now)).rows = M.refresh s.source input now s.rows ∧
      (Run.run M.step s (M.aloneSteps s input now)).source = s.source := by
  have hjob : (M.step s (.list input now)).jobs[s.jobs.length]? =
      some ⟨now, s.rows.rows.filter (M.lists input), none⟩ := by simp [step]
  have hmem : ∀ c ∈ s.rows.rows.filter (M.lists input),
      ((M.step s (.list input now)).rows.find? (key c)).isSome := by
    intro c hc
    rw [show (M.step s (.list input now)).rows = s.rows from rfl,
      Table.find?_of_mem (List.mem_filter.mp hc).1]
    rfl
  rw [aloneSteps, Run.run_cons, run_jobSteps hjob hmem]
  exact ⟨rfl, rfl⟩

/-- Two jobs alone, one after the other, leave each row as the second would have alone. -/
theorem find?_run_twice
    (hlists : ∀ input now c a r, M.lists input (M.write now c a r) = M.lists input r)
    (hquery : ∀ source now a r, M.query source (M.write now r a r) = M.query source r)
    (htwice : ∀ now now' a r,
      M.write now' (M.write now r a r) a (M.write now r a r) = M.write now' r a r)
    (s : State ρ π τ σ key) (input : ι) (now now' : Int) (k : Nat) :
    let s₁ := Run.run M.step s (M.aloneSteps s input now)
    (Run.run M.step s₁ (M.aloneSteps s₁ input now')).rows.find? k =
      (Run.run M.step s (M.aloneSteps s input now')).rows.find? k := by
  obtain ⟨hrows, hsource⟩ := run_aloneSteps (M := M) s input now
  simp only [(run_aloneSteps _ input now').1, hrows, hsource]
  exact find?_refresh_refresh hlists hquery htwice s.source input now now' s.rows k

end RefreshRace
