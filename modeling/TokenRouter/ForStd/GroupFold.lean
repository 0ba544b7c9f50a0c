import Mathlib

/-!
# Folding a list by groups

One accumulator for each key, opened by the first element that has it: the loop over a map from
keys to accumulators.

## Key results

- `groupFold_spec`: what the loop leaves
- `mem_groupFold`: the accumulator of a key is the fold of the elements with this key
- `sum_groupFold`: a total is that of the list
- `filter_groupFold`: the accumulators of some keys
- `groupFold_map`: a map of the elements that the accumulators follow
- `length_groupFold`: there are as many accumulators as keys
- `mem_setAdd`: a set of values kept as a list
-/

universe u v w x

namespace GroupFold

variable {α : Type u} {κ : Type v} {β : Type w} [DecidableEq κ] {key : α → κ} {start : α → β}
  {step : β → α → β}

/-- One turn of the loop: look the accumulator up, open it if need be, and add the element. -/
def groupStep (key : α → κ) (start : α → β) (step : β → α → β) (accs : List (κ × β)) (a : α) :
    List (κ × β) :=
  if key a ∈ accs.map Prod.fst then
    accs.map fun e => if e.1 = key a then (e.1, step e.2 a) else e
  else accs ++ [(key a, step (start a) a)]

/-- The accumulators after the loop, in the order in which they were opened. -/
def groupFold (key : α → κ) (start : α → β) (step : β → α → β) (as : List α) : List (κ × β) :=
  as.foldl (groupStep key start step) []

/-- The elements of a key. -/
def group (key : α → κ) (as : List α) (k : κ) : List α := as.filter fun a => key a = k

/-- The accumulators of a list: one for each key, the fold of the elements with this key. -/
structure Folded (key : α → κ) (start : α → β) (step : β → α → β) (as : List α)
    (accs : List (κ × β)) : Prop where
  nodup : (accs.map Prod.fst).Nodup
  mem_keys : ∀ k, k ∈ accs.map Prod.fst ↔ k ∈ as.map key
  fold : ∀ e ∈ accs, ∃ a rest, group key as e.1 = a :: rest ∧ e.2 = (a :: rest).foldl step (start a)

theorem group_concat_self (as : List α) (a : α) :
    group key (as ++ [a]) (key a) = group key as (key a) ++ [a] := by
  simp [group, List.filter_append]

theorem group_concat_of_ne {as : List α} {a : α} {k : κ} (h : key a ≠ k) :
    group key (as ++ [a]) k = group key as k := by
  simp [group, List.filter_append, h]

theorem group_eq_nil_iff {as : List α} {k : κ} : group key as k = [] ↔ k ∉ as.map key := by
  simp only [group, List.filter_eq_nil_iff, decide_eq_true_eq, List.mem_map, not_exists, not_and]

theorem keys_map_step (accs : List (κ × β)) (k : κ) (a : α) :
    (accs.map fun e => if e.1 = k then (e.1, step e.2 a) else e).map Prod.fst =
      accs.map Prod.fst := by
  rw [List.map_map]
  refine List.map_congr_left fun e _ => ?_
  show (if e.1 = k then (e.1, step e.2 a) else e).1 = e.1
  split
  · rfl
  · rfl

/-- One more element goes to the accumulator of its key. -/
theorem Folded.concat {as : List α} {accs : List (κ × β)} (h : Folded key start step as accs)
    (a : α) : Folded key start step (as ++ [a]) (groupStep key start step accs a) := by
  unfold groupStep
  by_cases hopen : key a ∈ accs.map Prod.fst
  · rw [if_pos hopen]
    constructor
    · rw [keys_map_step]
      exact h.nodup
    · intro k
      rw [keys_map_step, h.mem_keys, List.map_append, List.mem_append, List.map_singleton,
        List.mem_singleton]
      constructor
      · exact Or.inl
      · rintro (hk | rfl)
        · exact hk
        · exact (h.mem_keys _).mp hopen
    · intro e he
      obtain ⟨e', he', rfl⟩ := List.mem_map.mp he
      obtain ⟨first, rest, hgroup, hfold⟩ := h.fold e' he'
      by_cases hkey : e'.1 = key a
      · rw [if_pos hkey]
        refine ⟨first, rest ++ [a], ?_, ?_⟩
        · show group key (as ++ [a]) e'.1 = _
          rw [hkey, group_concat_self, ← hkey, hgroup]
          rfl
        · show step e'.2 a = _
          rw [hfold, ← List.cons_append, List.foldl_append]
          rfl
      · rw [if_neg hkey]
        refine ⟨first, rest, ?_, hfold⟩
        rw [group_concat_of_ne (Ne.symm hkey), hgroup]
  · rw [if_neg hopen]
    have hnew : group key as (key a) = [] :=
      group_eq_nil_iff.mpr fun hk => hopen ((h.mem_keys _).mpr hk)
    constructor
    · rw [List.map_append, List.map_singleton]
      exact h.nodup.append (List.nodup_singleton _) (by simpa using hopen)
    · intro k
      rw [List.map_append, List.map_append, List.mem_append, List.mem_append, h.mem_keys]
      rfl
    · intro e he
      rcases List.mem_append.mp he with hold | hlast
      · obtain ⟨first, rest, hgroup, hfold⟩ := h.fold e hold
        have hkey : key a ≠ e.1 := fun heq => hopen (heq ▸ List.mem_map_of_mem hold)
        exact ⟨first, rest, by rw [group_concat_of_ne hkey, hgroup], hfold⟩
      · obtain rfl := List.mem_singleton.mp hlast
        refine ⟨a, [], ?_, rfl⟩
        show group key (as ++ [a]) (key a) = [a]
        rw [group_concat_self, hnew]
        rfl

theorem groupFold_spec (key : α → κ) (start : α → β) (step : β → α → β) (as : List α) :
    Folded key start step as (groupFold key start step as) := by
  induction as using List.reverseRecOn with
  | nil => exact ⟨List.nodup_nil, fun k => Iff.rfl, fun e he => nomatch he⟩
  | append_singleton as a ih =>
    unfold groupFold at ih ⊢
    rw [List.foldl_append]
    exact ih.concat a

/-- The accumulator of a key is the fold of the elements with this key. -/
theorem mem_groupFold {as : List α} {e : κ × β} :
    e ∈ groupFold key start step as ↔
      ∃ a rest, group key as e.1 = a :: rest ∧ e.2 = (a :: rest).foldl step (start a) := by
  have h := groupFold_spec key start step as
  constructor
  · exact h.fold e
  · rintro ⟨a, rest, hgroup, hfold⟩
    have hkey : e.1 ∈ as.map key := by
      by_contra hnot
      rw [group_eq_nil_iff.mpr hnot] at hgroup
      cases hgroup
    obtain ⟨e', he', hfst⟩ := List.mem_map.mp ((h.mem_keys e.1).mpr hkey)
    obtain ⟨a', rest', hgroup', hfold'⟩ := h.fold e' he'
    rw [hfst, hgroup] at hgroup'
    cases hgroup'
    have heq : e' = e := Prod.ext hfst (hfold'.trans hfold.symm)
    exact heq ▸ he'

/-- A total that starts at zero and to which every element adds its own value. -/
theorem sum_groupFold {M : Type x} [AddCommMonoid M] {f : β → M} {g : α → M}
    (hstart : ∀ a, f (start a) = 0) (hstep : ∀ b a, f (step b a) = f b + g a) (as : List α) :
    ((groupFold key start step as).map fun e => f e.2).sum = (as.map g).sum := by
  induction as using List.reverseRecOn with
  | nil => rfl
  | append_singleton as a ih =>
    have hnodup := (groupFold_spec key start step as).nodup
    rw [List.map_append, List.sum_append, List.map_singleton, List.sum_singleton, ← ih]
    show ((groupFold key start step (as ++ [a])).map fun e => f e.2).sum = _
    unfold groupFold at ih hnodup ⊢
    rw [List.foldl_append]
    generalize List.foldl (groupStep key start step) [] as = accs at hnodup
    show ((groupStep key start step accs a).map fun e => f e.2).sum = _
    unfold groupStep
    split
    · next hopen =>
      -- the accumulator of the key is there once
      clear ih
      induction accs with
      | nil => exact absurd hopen List.not_mem_nil
      | cons e accs ih =>
        rw [List.map_cons, List.nodup_cons] at hnodup
        rw [List.map_cons, List.map_cons, List.sum_cons, List.map_cons, List.sum_cons]
        by_cases hkey : e.1 = key a
        · have hrest : accs.map (fun e => if e.1 = key a then (e.1, step e.2 a) else e) = accs := by
            conv_rhs => rw [← List.map_id accs]
            refine List.map_congr_left fun e' he' => ?_
            rw [if_neg]
            · rfl
            · intro heq
              exact hnodup.1 (hkey.trans heq.symm ▸ List.mem_map_of_mem he')
          rw [hrest, if_pos hkey]
          show f (step e.2 a) + _ = _
          rw [hstep, add_right_comm]
        · have hopen' : key a ∈ accs.map Prod.fst := by
            rcases List.mem_cons.mp hopen with heq | hmem
            · exact absurd heq.symm hkey
            · exact hmem
          rw [if_neg hkey, ih hnodup.2 hopen', add_assoc]
    · rw [List.map_append, List.sum_append, List.map_singleton, List.sum_singleton]
      show _ + f (step (start a) a) = _
      rw [hstep, hstart, zero_add]

/-- The accumulators of some keys are those of the elements with these keys. -/
theorem filter_groupFold (p : κ → Bool) (as : List α) :
    (groupFold key start step as).filter (fun e => p e.1) =
      groupFold key start step (as.filter fun a => p (key a)) := by
  induction as using List.reverseRecOn with
  | nil => rfl
  | append_singleton as a ih =>
    have hlast : ∀ as : List α, groupFold key start step (as ++ [a]) =
        groupStep key start step (groupFold key start step as) a := by
      intro as
      unfold groupFold
      rw [List.foldl_append]
      rfl
    have hkeep : ∀ accs : List (κ × β),
        (accs.map fun e => if e.1 = key a then (e.1, step e.2 a) else e).filter (fun e => p e.1) =
          (accs.filter fun e => p e.1).map fun e =>
            if e.1 = key a then (e.1, step e.2 a) else e := by
      intro accs
      rw [List.filter_map]
      congr 1
      refine List.filter_congr fun e _ => ?_
      show p (if e.1 = key a then (e.1, step e.2 a) else e).1 = p e.1
      split
      · rfl
      · rfl
    rw [hlast, List.filter_append]
    cases hp : p (key a) with
    | true =>
      rw [List.filter_singleton, hp, cond_true, hlast, ← ih]
      have hmem : key a ∈ ((groupFold key start step as).filter fun e => p e.1).map Prod.fst ↔
          key a ∈ (groupFold key start step as).map Prod.fst := by
        constructor
        · intro h
          obtain ⟨e, he, heq⟩ := List.mem_map.mp h
          exact heq ▸ List.mem_map_of_mem (List.mem_of_mem_filter he)
        · intro h
          obtain ⟨e, he, heq⟩ := List.mem_map.mp h
          refine List.mem_map.mpr ⟨e, List.mem_filter.mpr ⟨he, ?_⟩, heq⟩
          rw [heq, hp]
      unfold groupStep
      by_cases hopen : key a ∈ (groupFold key start step as).map Prod.fst
      · rw [if_pos hopen, if_pos (hmem.mpr hopen), hkeep]
      · rw [if_neg hopen, if_neg fun h => hopen (hmem.mp h), List.filter_append,
          List.filter_singleton, hp, cond_true]
    | false =>
      rw [List.filter_singleton, hp, cond_false, List.append_nil, ← ih]
      unfold groupStep
      split
      · rw [hkeep]
        refine (List.map_congr_left fun e he => ?_).trans (List.map_id _)
        have hpe : p e.1 = true := (List.mem_filter.mp he).2
        rw [if_neg]
        · rfl
        · intro heq
          rw [heq, hp] at hpe
          cases hpe
      · rw [List.filter_append, List.filter_singleton, hp, cond_false,
          List.append_nil]

/-- A map of the elements that keeps their keys, and a map of the accumulators that follows it. -/
theorem groupFold_map {α' : Type u} {β' : Type w} {key' : α' → κ} {start' : α' → β'}
    {step' : β' → α' → β'} {h : α → α'} {g : β → β'} (hkey : ∀ a, key' (h a) = key a)
    (hstart : ∀ a, g (start a) = start' (h a)) (hstep : ∀ b a, g (step b a) = step' (g b) (h a))
    (as : List α) :
    (groupFold key start step as).map (fun e => (e.1, g e.2)) =
      groupFold key' start' step' (as.map h) := by
  have hturn : ∀ (accs : List (κ × β)) (a : α),
      (groupStep key start step accs a).map (fun e => (e.1, g e.2)) =
        groupStep key' start' step' (accs.map fun e => (e.1, g e.2)) (h a) := by
    intro accs a
    have hkeys : (accs.map fun e => (e.1, g e.2)).map Prod.fst = accs.map Prod.fst := by
      rw [List.map_map]
      rfl
    unfold groupStep
    rw [hkeys, hkey]
    split
    · rw [List.map_map, List.map_map]
      refine List.map_congr_left fun e _ => ?_
      dsimp only [Function.comp_apply]
      split
      · rw [hstep]
      · rfl
    · rw [List.map_append, List.map_singleton, hstep, hstart]
  unfold groupFold
  rw [List.foldl_map]
  have hloop : ∀ accs : List (κ × β),
      (as.foldl (groupStep key start step) accs).map (fun e => (e.1, g e.2)) =
        as.foldl (fun accs a => groupStep key' start' step' accs (h a))
          (accs.map fun e => (e.1, g e.2)) := by
    induction as with
    | nil => exact fun _ => rfl
    | cons a as ih =>
      intro accs
      rw [List.foldl_cons, List.foldl_cons, ih, hturn]
  exact hloop []

theorem length_groupFold (as : List α) :
    (groupFold key start step as).length = (as.map key).dedup.length := by
  have h := groupFold_spec key start step as
  rw [← List.length_map (f := Prod.fst)]
  apply List.Perm.length_eq
  rw [List.perm_ext_iff_of_nodup h.nodup (List.nodup_dedup _)]
  intro k
  rw [h.mem_keys, List.mem_dedup]

/-! ## Sets of values -/

/-- Add a value to a set. -/
def setAdd [DecidableEq β] (s : List β) (b : β) : List β := if b ∈ s then s else s ++ [b]

theorem mem_setAdd [DecidableEq β] {s : List β} {b c : β} : c ∈ setAdd s b ↔ c ∈ s ∨ c = b := by
  unfold setAdd
  split
  · next hb =>
    constructor
    · exact Or.inl
    · rintro (hc | rfl)
      · exact hc
      · exact hb
  · rw [List.mem_append, List.mem_singleton]

end GroupFold
