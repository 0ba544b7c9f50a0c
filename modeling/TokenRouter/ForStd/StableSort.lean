import Mathlib

/-!
# What decides a stable sort

An insertion sort asks for the order of two elements only in the order in which the list has them,
so that two sorts agree exactly when they answer these questions alike.

## Key results

- `map_insertionSort_of_pairwise`: a map that keeps the answers commutes with the sort
- `pair_sublist_insertionSort_iff`: the sort keeps the order of two elements exactly when asked to
- `insertionSort_map_iff`: when the sorts of a list and of its image have the same keys
- `take_eq_filter`: the first elements of a list in which a property comes first
- `mem_take_iff_of_perm`: the first elements are the same in two sorts if no value is tied with one
  that is left out
-/

universe u v w

namespace StableSort

variable {α : Type u} {β : Type v} {κ : Type w}

theorem map_orderedInsert_of_forall {r : α → α → Prop} [DecidableRel r] {s : β → β → Prop}
    [DecidableRel s] (f : α → β) {a : α} {as : List α} (h : ∀ b ∈ as, (r a b ↔ s (f a) (f b))) :
    (as.orderedInsert r a).map f = (as.map f).orderedInsert s (f a) := by
  induction as with
  | nil => rfl
  | cons b as ih =>
    have hb := h b List.mem_cons_self
    rw [List.map_cons, List.orderedInsert_cons, List.orderedInsert_cons]
    by_cases hab : r a b
    · rw [if_pos hab, if_pos (hb.mp hab)]
      rfl
    · rw [if_neg hab, if_neg fun hs => hab (hb.mpr hs), List.map_cons,
        ih fun c hc => h c (List.mem_cons_of_mem b hc)]

/-- A map that keeps the answers for the pairs of the list commutes with the sort. -/
theorem map_insertionSort_of_pairwise {r : α → α → Prop} [DecidableRel r] {s : β → β → Prop}
    [DecidableRel s] (f : α → β) {as : List α}
    (h : as.Pairwise fun a b => (r a b ↔ s (f a) (f b))) :
    (as.insertionSort r).map f = (as.map f).insertionSort s := by
  induction as with
  | nil => rfl
  | cons a as ih =>
    obtain ⟨hhead, htail⟩ := List.pairwise_cons.mp h
    rw [List.map_cons, List.insertionSort_cons, List.insertionSort_cons, ← ih htail]
    apply map_orderedInsert_of_forall
    intro b hb
    exact hhead b ((List.mem_insertionSort r).mp hb)

/-- Two elements that a list has in some order are in the sort in the order of the relation. -/
theorem pair_sublist_insertionSort_iff {r : α → α → Prop} [DecidableRel r] [Std.Total r]
    [IsTrans α r] {as : List α} {a b : α} (h : [a, b].Sublist as) :
    [a, b].Sublist (as.insertionSort r) ↔ r a b := by
  constructor
  · intro hsort
    exact List.pairwise_pair.mp ((List.pairwise_insertionSort r as).sublist hsort)
  · intro hab
    exact List.pair_sublist_insertionSort hab h

/-- Two elements are in a list without duplicates in the order in which their keys are. -/
theorem pair_sublist_map_iff {as : List α} {k : α → κ} (hk : (as.map k).Nodup) {a b : α}
    (ha : a ∈ as) (hb : b ∈ as) : [k a, k b].Sublist (as.map k) ↔ [a, b].Sublist as := by
  constructor
  · intro h
    obtain ⟨pair, hpair, heq⟩ := List.sublist_map_iff.mp h
    have hinj := List.inj_on_of_nodup_map hk
    obtain ⟨a', rest, rfl, ha', hrest⟩ := List.map_eq_cons_iff.mp heq.symm
    obtain ⟨b', last, rfl, hb', hlast⟩ := List.map_eq_cons_iff.mp hrest
    obtain rfl := List.map_eq_nil_iff.mp hlast
    have hmem : ∀ c ∈ [a', b'], c ∈ as := fun c hc => hpair.subset hc
    rwa [hinj (hmem a' List.mem_cons_self) ha ha',
      hinj (hmem b' (List.mem_cons_of_mem _ List.mem_cons_self)) hb hb'] at hpair
  · intro h
    exact h.map k

/-- The sorts of a list and of its image have the same keys exactly when they answer the same for
every pair of the list. -/
theorem insertionSort_map_iff {r : α → α → Prop} [DecidableRel r] [Std.Total r] [IsTrans α r]
    {f : α → α} {k : α → κ} (hkf : ∀ a, k (f a) = k a) {as : List α} (hk : (as.map k).Nodup) :
    ((as.map f).insertionSort r).map k = (as.insertionSort r).map k ↔
      as.Pairwise fun a b => (r a b ↔ r (f a) (f b)) := by
  have hkeys : (as.map f).map k = as.map k := by
    rw [List.map_map]
    exact List.map_congr_left fun a _ => hkf a
  constructor
  · intro h
    rw [List.pairwise_iff_forall_sublist]
    intro a b hab
    have hsorted : ∀ bs : List α, (bs.map k).Nodup → ((bs.insertionSort r).map k).Nodup :=
      fun bs hbs => ((List.perm_insertionSort r bs).map k).nodup_iff.mpr hbs
    have hmem : ∀ c ∈ [a, b], c ∈ as := fun c hc => hab.subset hc
    have ha := hmem a List.mem_cons_self
    have hb := hmem b (List.mem_cons_of_mem a List.mem_cons_self)
    -- the order of the two keys in either sort
    have hleft : [k a, k b].Sublist ((as.insertionSort r).map k) ↔ r a b := by
      rw [pair_sublist_map_iff (hsorted as hk) ((List.mem_insertionSort r).mpr ha)
        ((List.mem_insertionSort r).mpr hb)]
      exact pair_sublist_insertionSort_iff hab
    have hright : [k a, k b].Sublist (((as.map f).insertionSort r).map k) ↔ r (f a) (f b) := by
      rw [← hkf a, ← hkf b, pair_sublist_map_iff (hsorted _ (hkeys ▸ hk))
        ((List.mem_insertionSort r).mpr (List.mem_map_of_mem ha))
        ((List.mem_insertionSort r).mpr (List.mem_map_of_mem hb))]
      exact pair_sublist_insertionSort_iff (hab.map f)
    rw [← hleft, ← hright, h]
  · intro h
    rw [← map_insertionSort_of_pairwise f h, List.map_map]
    exact List.map_congr_left fun a _ => hkf a

/-- The elements with a property that comes first are as many first elements. -/
theorem take_eq_filter {p : α → Bool} {as : List α}
    (h : as.Pairwise fun a b => p b = true → p a = true) :
    as.take (as.filter p).length = as.filter p := by
  induction as with
  | nil => rfl
  | cons a as ih =>
    obtain ⟨hhead, htail⟩ := List.pairwise_cons.mp h
    cases hp : p a with
    | true =>
      rw [List.filter_cons_of_pos hp, List.length_cons, List.take_succ_cons, ih htail]
    | false =>
      have hnone : as.filter p = [] := by
        rw [List.filter_eq_nil_iff]
        intro b hb hpb
        rw [hhead b hb hpb] at hp
        cases hp
      rw [List.filter_cons_of_neg (by simp [hp]), hnone]
      rfl

/-- Two sorts by falling value have the same first elements, by key, unless one of them is tied with
an element that is left out. -/
theorem mem_take_iff_of_perm [DecidableEq κ] {δ : Type v} [LinearOrder δ] {k : α → κ}
    {value : α → δ}
    {as bs : List α} (hperm : as.Perm bs) (hk : (as.map k).Nodup)
    (has : as.Pairwise fun a b => value b ≤ value a)
    (hbs : bs.Pairwise fun a b => value b ≤ value a)
    {n : Nat} (hclear : ∀ a ∈ as, k a ∈ (as.take n).map k → ∀ b ∈ as, k b ∉ (as.take n).map k →
      value a ≠ value b) (key : κ) :
    key ∈ (bs.take n).map k ↔ key ∈ (as.take n).map k := by
  let p : α → Bool := fun a => decide (k a ∈ (as.take n).map k)
  have hinj := List.inj_on_of_nodup_map hk
  have hin : ∀ a ∈ as, k a ∈ (as.take n).map k → a ∈ as.take n := by
    intro a ha hka
    obtain ⟨a', ha', heq⟩ := List.mem_map.mp hka
    exact hinj (List.mem_of_mem_take ha') ha heq ▸ ha'
  have hfilter : as.filter p = as.take n := by
    have hsplit : as.filter p = (as.take n).filter p ++ (as.drop n).filter p := by
      rw [← List.filter_append, List.take_append_drop]
    have hfirst : (as.take n).filter p = as.take n :=
      List.filter_eq_self.mpr fun a ha => decide_eq_true (List.mem_map_of_mem ha)
    have hrest : (as.drop n).filter p = [] := by
      rw [List.filter_eq_nil_iff]
      intro a ha hpa
      have hnodup : (as.take n ++ as.drop n).Nodup := by
        rw [List.take_append_drop]
        exact hk.of_map
      have htake := hin a (List.mem_of_mem_drop ha) (of_decide_eq_true hpa)
      exact (List.disjoint_of_nodup_append hnodup) htake ha
    rw [hsplit, hfirst, hrest, List.append_nil]
  have hfirst : bs.Pairwise fun a b => p b = true → p a = true := by
    refine hbs.imp_of_mem fun {a b} ha hb hle hpb => ?_
    by_contra hpa
    have ha' := hperm.mem_iff.mpr ha
    have hb' := hperm.mem_iff.mpr hb
    have hkb : k b ∈ (as.take n).map k := of_decide_eq_true hpb
    have hka : k a ∉ (as.take n).map k := fun h => hpa (decide_eq_true h)
    have hdrop : a ∈ as.drop n := by
      have hmem : a ∈ as.take n ++ as.drop n := by rwa [List.take_append_drop]
      exact (List.mem_append.mp hmem).resolve_left fun h => hka (List.mem_map_of_mem h)
    have hsorted : (as.take n ++ as.drop n).Pairwise fun a b => value b ≤ value a := by
      rwa [List.take_append_drop]
    have hge := (List.pairwise_append.mp hsorted).2.2 b (hin b hb' hkb) a hdrop
    exact hclear b hb' hkb a ha' hka (le_antisymm hle hge)
  have hlen : (bs.filter p).length = (as.take n).length := by
    rw [← hfilter, (hperm.filter p).length_eq]
  have htake : bs.take n = bs.filter p := by
    have h := take_eq_filter hfirst
    rw [hlen, List.length_take, hperm.length_eq] at h
    rw [← h]
    rcases Nat.le_total n bs.length with hn | hn
    · rw [Nat.min_eq_left hn]
    · rw [Nat.min_eq_right hn, List.take_of_length_le hn, List.take_length]
  rw [htake]
  constructor
  · intro h
    obtain ⟨b, hb, rfl⟩ := List.mem_map.mp h
    exact of_decide_eq_true (List.mem_filter.mp hb).2
  · intro h
    obtain ⟨a, ha, rfl⟩ := List.mem_map.mp h
    refine List.mem_map_of_mem (List.mem_filter.mpr ⟨?_, decide_eq_true h⟩)
    exact hperm.mem_iff.mp (List.mem_of_mem_take ha)

end StableSort
