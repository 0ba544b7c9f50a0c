import Mathlib.Logic.Relation

/-!
# Chains of a partial function

Following a partial function either ends where it is not defined or comes back to where it has
been, and never both.

## Key results

- `Chain.reaches_end`: everything on a chain leads to its end
- `Chain.not_cyclic_of_endsAt`: a chain that ends has no cycle
- `Chain.endsAt_unique`: it has one end
-/

namespace Chain

universe u

variable {α : Type u} {next : α → Option α} {a b x e : α}

/-- One step of the chain. -/
def Step (next : α → Option α) (a b : α) : Prop := next a = some b

/-- The chain ends. -/
structure EndsAt (next : α → Option α) (a e : α) : Prop where
  reaches : Relation.ReflTransGen (Step next) a e
  stops : next e = none

/-- The chain enters a cycle. -/
def Cyclic (next : α → Option α) (a : α) : Prop :=
  ∃ x, Relation.ReflTransGen (Step next) a x ∧ Relation.TransGen (Step next) x x

theorem step_unique (h : Step next a b) (h' : Step next a x) : b = x :=
  Option.some.inj (h.symm.trans h')

/-- Everything on a chain leads to its end. -/
theorem reaches_end (hend : EndsAt next a e) (hx : Relation.ReflTransGen (Step next) a x) :
    Relation.ReflTransGen (Step next) x e := by
  induction hx with
  | refl => exact hend.reaches
  | tail _ hstep ih =>
    rcases Relation.ReflTransGen.cases_head ih with heq | ⟨y, hy, hrest⟩
    · rw [Step, heq, hend.stops] at hstep
      cases hstep
    · exact step_unique hy hstep ▸ hrest

theorem endsAt_unique {e' : α} (hend : EndsAt next a e) (hend' : EndsAt next a e') : e = e' := by
  rcases Relation.ReflTransGen.cases_head (reaches_end hend hend'.reaches) with heq | ⟨y, hy, -⟩
  · exact heq.symm
  · rw [Step, hend'.stops] at hy
    cases hy

/-- A cycle goes along with what it leads to. -/
theorem cycle_of_reaches (hreach : Relation.ReflTransGen (Step next) a b)
    (hcycle : Relation.TransGen (Step next) a a) : Relation.TransGen (Step next) b b := by
  induction hreach with
  | refl => exact hcycle
  | tail _ hstep ih =>
    obtain ⟨y, hy, hback⟩ := Relation.TransGen.head'_iff.mp ih
    rw [step_unique hy hstep] at hback
    exact Relation.TransGen.tail' hback hstep

/-- A chain that ends has no cycle. -/
theorem not_cyclic_of_endsAt (hend : EndsAt next a e) : ¬ Cyclic next a := by
  rintro ⟨x, hx, hcycle⟩
  obtain ⟨y, hy, -⟩ := Relation.TransGen.head'_iff.mp (cycle_of_reaches (reaches_end hend hx) hcycle)
  rw [Step, hend.stops] at hy
  cases hy

end Chain
