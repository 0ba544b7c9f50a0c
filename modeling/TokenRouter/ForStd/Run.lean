import Mathlib

/-!
# Runs of a state machine

A machine is a step function `step : σ → ε → σ`; a run is a list of events.
`Always` says that a property holds in every state of a run, `Steps` that a
condition holds of every step, judged in the state before it.

## Key results

- `run_inv`: an inductive invariant holds at the end of a run
- `always_of_inv`: what an inductive invariant implies holds throughout
- `not_steps_iff`: the step of a run that fails a condition
- `always_of_steps`: the same, for runs all of whose steps meet a condition
- `steps_congr_of_inv`: two conditions that agree under an invariant
- `steps_of_times`: an invariant relative to a clock, over events in order of time
- `always_of_last`: what every step reflects holds throughout if it holds at the end
- `always_iff_steps_of`: a property that a step keeps exactly under a condition
  holds throughout exactly when every step meets the condition
-/

namespace Run

universe u v

variable {σ : Type u} {ε : Type v} (step : σ → ε → σ)

/-- The state a run ends in. -/
def run (s : σ) (es : List ε) : σ := es.foldl step s

@[simp] theorem run_nil (s : σ) : run step s [] = s := rfl

@[simp] theorem run_cons (s : σ) (e : ε) (es : List ε) :
    run step s (e :: es) = run step (step s e) es := rfl

theorem run_append (s : σ) (es es' : List ε) :
    run step s (es ++ es') = run step (run step s es) es' :=
  List.foldl_append

/-- `P` holds in every state of the run, the first and the last included. -/
def Always (P : σ → Prop) : σ → List ε → Prop
  | s, [] => P s
  | s, e :: es => P s ∧ Always P (step s e) es

/-- Every step of the run meets `C`, judged in the state before the step. -/
def Steps (C : σ → ε → Prop) : σ → List ε → Prop
  | _, [] => True
  | s, e :: es => C s e ∧ Steps C (step s e) es

instance decidableSteps (C : σ → ε → Prop) [∀ s e, Decidable (C s e)] :
    ∀ s es, Decidable (Steps step C s es)
  | _, [] => inferInstanceAs (Decidable True)
  | s, e :: es =>
    have := decidableSteps C (step s e) es
    inferInstanceAs (Decidable (C s e ∧ Steps step C (step s e) es))

variable {step}

theorem Always.head {P : σ → Prop} {s : σ} {es : List ε} (h : Always step P s es) : P s := by
  cases es with
  | nil => exact h
  | cons e es => exact h.1

theorem Always.last {P : σ → Prop} {s : σ} {es : List ε} (h : Always step P s es) :
    P (run step s es) := by
  induction es generalizing s with
  | nil => exact h
  | cons e es ih => exact ih h.2

theorem Always.mono {P Q : σ → Prop} (hPQ : ∀ s, P s → Q s) {s : σ} {es : List ε}
    (h : Always step P s es) : Always step Q s es := by
  induction es generalizing s with
  | nil => exact hPQ s h
  | cons e es ih => exact ⟨hPQ s h.1, ih h.2⟩

theorem Always.and {P Q : σ → Prop} {s : σ} {es : List ε} (hP : Always step P s es)
    (hQ : Always step Q s es) : Always step (fun s => P s ∧ Q s) s es := by
  induction es generalizing s with
  | nil => exact ⟨hP, hQ⟩
  | cons e es ih => exact ⟨⟨hP.1, hQ.1⟩, ih hP.2 hQ.2⟩

theorem Steps.and {C D : σ → ε → Prop} {s : σ} {es : List ε} (hC : Steps step C s es)
    (hD : Steps step D s es) : Steps step (fun s e => C s e ∧ D s e) s es := by
  induction es generalizing s with
  | nil => trivial
  | cons e es ih => exact ⟨⟨hC.1, hD.1⟩, ih hC.2 hD.2⟩

theorem steps_append {C : σ → ε → Prop} {s : σ} {es es' : List ε} :
    Steps step C s (es ++ es') ↔ Steps step C s es ∧ Steps step C (run step s es) es' := by
  induction es generalizing s with
  | nil => exact ⟨fun h => ⟨trivial, h⟩, fun h => h.2⟩
  | cons e es ih =>
    constructor
    · intro h
      obtain ⟨h₁, h₂⟩ := ih.mp h.2
      exact ⟨⟨h.1, h₁⟩, h₂⟩
    · intro h
      exact ⟨h.1.1, ih.mpr ⟨h.1.2, h.2⟩⟩

/-- A run has a step that does not meet `C` unless all of them do. -/
theorem not_steps_iff {C : σ → ε → Prop} {s : σ} {es : List ε} :
    ¬ Steps step C s es ↔ ∃ es₁ e es₂, es = es₁ ++ e :: es₂ ∧ ¬ C (run step s es₁) e := by
  constructor
  · intro h
    induction es generalizing s with
    | nil => exact absurd trivial h
    | cons e es ih =>
      by_cases hC : C s e
      · obtain ⟨es₁, e', es₂, rfl, hnot⟩ := ih fun hrest => h ⟨hC, hrest⟩
        exact ⟨e :: es₁, e', es₂, rfl, hnot⟩
      · exact ⟨[], e, es, rfl, hC⟩
  · rintro ⟨es₁, e, es₂, rfl, hnot⟩ h
    exact hnot (steps_append.mp h).2.1

/-- Two conditions that agree under an invariant of the steps that meet the first. -/
theorem steps_congr_of_inv {Inv : σ → Prop} {C D : σ → ε → Prop}
    (hstep : ∀ s e, Inv s → C s e → Inv (step s e)) (h : ∀ s e, Inv s → (C s e ↔ D s e)) {s : σ}
    (hs : Inv s) (es : List ε) : Steps step C s es ↔ Steps step D s es := by
  induction es generalizing s with
  | nil => exact Iff.rfl
  | cons e es ih =>
    constructor
    · intro hC
      exact ⟨(h s e hs).mp hC.1, (ih (hstep s e hs hC.1)).mp hC.2⟩
    · intro hD
      have hC := (h s e hs).mpr hD.1
      exact ⟨hC, (ih (hstep s e hs hC)).mpr hD.2⟩

/-- A preorder that every step meeting `C` respects relates the ends of a run of such steps. -/
theorem run_rel_of_steps {Inv : σ → Prop} {C : σ → ε → Prop} {R : σ → σ → Prop}
    (hrefl : ∀ s, R s s) (htrans : ∀ a b c, R a b → R b c → R a c)
    (hinv : ∀ s e, Inv s → Inv (step s e)) (hstep : ∀ s e, Inv s → C s e → R s (step s e)) {s : σ}
    (hs : Inv s) {es : List ε} (h : Steps step C s es) : R s (run step s es) := by
  induction es generalizing s with
  | nil => exact hrefl s
  | cons e es ih => exact htrans _ _ _ (hstep s e hs h.1) (ih (hinv s e hs) h.2)

/-- An inductive invariant survives a run. -/
theorem run_inv {Inv : σ → Prop} (hstep : ∀ s e, Inv s → Inv (step s e)) {s : σ}
    (h : Inv s) (es : List ε) : Inv (run step s es) := by
  induction es generalizing s with
  | nil => exact h
  | cons e es ih => exact ih (hstep s e h)

/-- An invariant that steps meeting `C` keep holds throughout a run of such steps. -/
theorem always_of_steps {Inv : σ → Prop} {C : σ → ε → Prop}
    (hstep : ∀ s e, Inv s → C s e → Inv (step s e)) {s : σ} (h : Inv s) {es : List ε}
    (hes : Steps step C s es) : Always step Inv s es := by
  induction es generalizing s with
  | nil => exact h
  | cons e es ih => exact ⟨h, ih (hstep s e h hes.1) hes.2⟩

/-- An inductive invariant holds throughout. -/
theorem always_of_inv {Inv : σ → Prop} (hstep : ∀ s e, Inv s → Inv (step s e)) {s : σ}
    (h : Inv s) (es : List ε) : Always step Inv s es := by
  induction es generalizing s with
  | nil => exact h
  | cons e es ih => exact ⟨h, ih (hstep s e h)⟩

/-- A condition that no step violates holds of every step of a run. -/
theorem steps_of_forall {C : σ → ε → Prop} (h : ∀ s e, C s e) (s : σ) (es : List ε) :
    Steps step C s es := by
  induction es generalizing s with
  | nil => trivial
  | cons e es ih => exact ⟨h s e, ih (step s e)⟩

/-- In states where `P` holds, steps that meet `C` meet `D`. -/
theorem Steps.mono_of_always {P : σ → Prop} {C D : σ → ε → Prop}
    (h : ∀ s e, P s → C s e → D s e) {s : σ} {es : List ε} (hall : Always step P s es)
    (hC : Steps step C s es) : Steps step D s es := by
  induction es generalizing s with
  | nil => trivial
  | cons e es ih => exact ⟨h s e hall.1 hC.1, ih hall.2 hC.2⟩

/-- What every step does in states where `P` holds, it does throughout a run in `P`. -/
theorem steps_of_always {P : σ → Prop} {C : σ → ε → Prop} (h : ∀ s e, P s → C s e) {s : σ}
    {es : List ε} (hall : Always step P s es) : Steps step C s es := by
  induction es generalizing s with
  | nil => trivial
  | cons e es ih => exact ⟨h s e hall.1, ih hall.2⟩

/-- A condition on events alone. -/
theorem steps_of_forall_mem {C : ε → Prop} (s : σ) {es : List ε} (h : ∀ e ∈ es, C e) :
    Steps step (fun _ e => C e) s es := by
  induction es generalizing s with
  | nil => trivial
  | cons e es ih =>
    exact ⟨h e List.mem_cons_self, ih (step s e) fun x hx => h x (List.mem_cons_of_mem e hx)⟩

/-- A property that every step reflects, under an inductive invariant, holds throughout
    a run that ends in it. -/
theorem always_of_last_of {P Q : σ → Prop} (hQ : ∀ s e, Q s → Q (step s e))
    (hback : ∀ s e, Q s → P (step s e) → P s) {s : σ} (hs : Q s) {es : List ε}
    (h : P (run step s es)) : Always step P s es := by
  induction es generalizing s with
  | nil => exact h
  | cons e es ih =>
    have hnext := ih (hQ s e hs) h
    exact ⟨hback s e hs hnext.head, hnext⟩

/-- `always_of_last_of` without an invariant. -/
theorem always_of_last {P : σ → Prop} (hback : ∀ s e, P (step s e) → P s) {s : σ}
    {es : List ε} (h : P (run step s es)) : Always step P s es :=
  always_of_last_of (Q := fun _ => True) (fun _ _ _ => trivial) (fun s e _ => hback s e) trivial h

/-- If, under an inductive invariant and while `D` holds, a step keeps `P` exactly
    when it meets `C`, then `P` holds throughout a run exactly when every step meets
    `C`. -/
theorem always_iff_steps_of {Inv D P : σ → Prop} {C : σ → ε → Prop}
    (hInv : ∀ s e, Inv s → Inv (step s e))
    (hP : ∀ s e, Inv s → D (step s e) → P s → (P (step s e) ↔ C s e)) {s : σ} (hs : Inv s)
    (h : P s) {es : List ε} (hD : Always step D s es) :
    Always step P s es ↔ Steps step C s es := by
  induction es generalizing s with
  | nil => exact ⟨fun _ => trivial, fun _ => h⟩
  | cons e es ih =>
    have hstep := hP s e hs hD.2.head h
    constructor
    · intro hall
      have hnext : P (step s e) := hall.2.head
      exact ⟨hstep.mp hnext, (ih (hInv s e hs) hnext hD.2).mp hall.2⟩
    · intro hes
      have hnext : P (step s e) := hstep.mpr hes.1
      exact ⟨h, (ih (hInv s e hs) hnext hD.2).mpr hes.2⟩

/-- `always_iff_steps_of` without a side condition. -/
theorem always_iff_steps {Inv P : σ → Prop} {C : σ → ε → Prop}
    (hInv : ∀ s e, Inv s → Inv (step s e))
    (hP : ∀ s e, Inv s → P s → (P (step s e) ↔ C s e)) {s : σ} (hs : Inv s) (h : P s)
    (es : List ε) : Always step P s es ↔ Steps step C s es :=
  always_iff_steps_of (D := fun _ => True) hInv (fun s e hs _ => hP s e hs) hs h
    (always_of_inv (fun _ _ _ => trivial) trivial es)

/-- `always_iff_steps` for a step condition that needs no invariant. -/
theorem always_iff_steps_step {P : σ → Prop} {C : σ → ε → Prop}
    (hP : ∀ s e, P s → (P (step s e) ↔ C s e)) {s : σ} (h : P s) (es : List ε) :
    Always step P s es ↔ Steps step C s es :=
  @always_iff_steps σ ε step (fun _ => True) P C (fun _ _ _ => trivial) (fun s e _ => hP s e) s
    trivial h es

/-- The same for runs whose steps all meet a side condition `E`. -/
theorem always_iff_steps_under {P : σ → Prop} {E C : σ → ε → Prop}
    (hP : ∀ s e, E s e → P s → (P (step s e) ↔ C s e)) {s : σ} (h : P s) {es : List ε}
    (hE : Steps step E s es) : Always step P s es ↔ Steps step C s es := by
  induction es generalizing s with
  | nil => exact ⟨fun _ => trivial, fun _ => h⟩
  | cons e es ih =>
    have hstep := hP s e hE.1 h
    constructor
    · intro hall
      have hnext : P (step s e) := hall.2.head
      exact ⟨hstep.mp hnext, (ih hnext hE.2).mp hall.2⟩
    · intro hes
      have hnext : P (step s e) := hstep.mpr hes.1
      exact ⟨h, (ih hnext hE.2).mpr hes.2⟩

/-- Two conditions that agree at every step of a run agree on the run. -/
theorem steps_congr {C D : σ → ε → Prop} {s : σ} {es : List ε}
    (h : Steps step (fun s e => C s e ↔ D s e) s es) : Steps step C s es ↔ Steps step D s es := by
  induction es generalizing s with
  | nil => exact Iff.rfl
  | cons e es ih => exact and_congr h.1 (ih h.2)

/-- An invariant relative to a clock, over events in the order of their times: it may be
    moved forward, and a step meeting `G` keeps it at the time of its event. -/
theorem steps_of_times {time : ε → Int} (Inv : Int → σ → Prop) {G C : σ → ε → Prop}
    (hmono : ∀ t t' s, t ≤ t' → Inv t s → Inv t' s)
    (hstep : ∀ s e, Inv (time e) s → G s e → Inv (time e) (step s e))
    (h : ∀ s e, Inv (time e) s → G s e → C s e) {s : σ} {es : List ε}
    (hs : ∀ e ∈ es, Inv (time e) s) (htimes : es.Pairwise fun e e' => time e ≤ time e')
    (hG : Steps step G s es) : Steps step C s es := by
  induction es generalizing s with
  | nil => trivial
  | cons e es ih =>
    rw [List.pairwise_cons] at htimes
    have he := hs e List.mem_cons_self
    refine ⟨h s e he hG.1, ih ?_ htimes.2 hG.2⟩
    intro e' he'
    exact hmono _ _ _ (htimes.1 e' he') (hstep s e he hG.1)

end Run
