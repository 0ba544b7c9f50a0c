import Mathlib.Data.List.Basic

/-!
# Fragments keyed by an index

What a client keeps of a stream whose fragments name the entry they belong to: a list of
entries in the order they were opened. A fragment of an index opens an entry or is merged
into the one that is there.

## Main results

- `extend_of_notMem`, `extend_last`: extending an entry leaves the others alone
- `foldl_add_eq_append`, `nodup_of_length_foldl_add`: fragments stay apart exactly if no two
  of them name the same entry
- `join_eq_append_iff`: pieces of a text are the last one alone only if the others are empty
- `join_kept_iff`: leaving pieces out keeps a text only if they are empty
-/

namespace Keyed

variable {α : Type}

/-- The indexes that have an entry. -/
def keys (l : List (Nat × α)) : List Nat := l.map Prod.fst

/-- Change the entry of index `i`, if there is one. -/
def extend (f : α → α) (i : Nat) (l : List (Nat × α)) : List (Nat × α) :=
  l.map fun e => if e.1 = i then (e.1, f e.2) else e

/-- Merge a fragment into the entry of index `i`, or open it. -/
def add (merge : α → α → α) (i : Nat) (x : α) (l : List (Nat × α)) : List (Nat × α) :=
  if i ∈ keys l then extend (fun y => merge y x) i l else l ++ [(i, x)]

@[simp] theorem keys_nil : keys ([] : List (Nat × α)) = [] := rfl

@[simp] theorem keys_append (l m : List (Nat × α)) : keys (l ++ m) = keys l ++ keys m := by
  simp [keys]

@[simp] theorem keys_singleton (i : Nat) (x : α) : keys [(i, x)] = [i] := rfl

/-- Changing an entry keeps the indexes. -/
@[simp] theorem keys_extend (f : α → α) (i : Nat) (l : List (Nat × α)) :
    keys (extend f i l) = keys l := by
  simp only [keys, extend, List.map_map]
  apply List.map_congr_left
  intro e _
  by_cases h : e.1 = i <;> simp [h]

/-- Without an entry of the index nothing changes. -/
theorem extend_of_notMem (f : α → α) {i : Nat} {l : List (Nat × α)} (h : i ∉ keys l) :
    extend f i l = l := by
  have hid : ∀ e ∈ l, (if e.1 = i then (e.1, f e.2) else e) = e := by
    intro e he
    rw [if_neg]
    rintro rfl
    exact h (List.mem_map_of_mem he)
  rw [extend, List.map_congr_left hid, List.map_id']

/-- An entry that was just opened is the only one that is changed. -/
theorem extend_last (f : α → α) {i : Nat} (x : α) {l : List (Nat × α)} (h : i ∉ keys l) :
    extend f i (l ++ [(i, x)]) = l ++ [(i, f x)] := by
  have hl := extend_of_notMem f h
  simp only [extend] at hl
  simp [extend, hl]

/-- A fragment of a new index opens an entry. -/
theorem add_of_notMem (merge : α → α → α) {i : Nat} (x : α) {l : List (Nat × α)}
    (h : i ∉ keys l) : add merge i x l = l ++ [(i, x)] := if_neg h

/-- Merging opens at most one entry. -/
theorem length_add_le (merge : α → α → α) (i : Nat) (x : α) (l : List (Nat × α)) :
    (add merge i x l).length ≤ l.length + 1 := by
  unfold add
  split <;> simp [extend]

/-- Merging fragments opens at most one entry for each. -/
theorem length_foldl_add_le (merge : α → α → α) (xs l : List (Nat × α)) :
    (xs.foldl (fun l e => add merge e.1 e.2 l) l).length ≤ l.length + xs.length := by
  induction xs generalizing l with
  | nil => simp
  | cons e xs ih =>
    have h1 := ih (add merge e.1 e.2 l)
    have h2 := length_add_le merge e.1 e.2 l
    simp only [List.foldl_cons, List.length_cons]
    omega

/-- Fragments of different new indexes become entries of their own. -/
theorem foldl_add_eq_append (merge : α → α → α) (xs l : List (Nat × α))
    (h : (keys (l ++ xs)).Nodup) :
    xs.foldl (fun l e => add merge e.1 e.2 l) l = l ++ xs := by
  induction xs generalizing l with
  | nil => simp
  | cons e xs ih =>
    have hnew : e.1 ∉ keys l := by
      intro hmem
      rw [keys_append, List.nodup_append] at h
      exact h.2.2 _ hmem _ (by simp [keys]) rfl
    rw [List.foldl_cons, add_of_notMem merge e.2 hnew, ih _ (by simpa using h),
      List.append_assoc]
    rfl

/-- If each fragment opened an entry, then no two name the same one. -/
theorem nodup_of_length_foldl_add (merge : α → α → α) (xs l : List (Nat × α))
    (h : (xs.foldl (fun l e => add merge e.1 e.2 l) l).length = l.length + xs.length) :
    (keys xs).Nodup ∧ ∀ i ∈ keys xs, i ∉ keys l := by
  induction xs generalizing l with
  | nil => simp [keys]
  | cons e xs ih =>
    simp only [List.foldl_cons, List.length_cons] at h
    have hle := length_foldl_add_le merge xs (add merge e.1 e.2 l)
    have hnew : e.1 ∉ keys l := by
      intro hmem
      have hlen : (add merge e.1 e.2 l).length = l.length := by
        rw [add, if_pos hmem]
        simp [extend]
      omega
    rw [add_of_notMem merge e.2 hnew] at h
    obtain ⟨hnodup, hapart⟩ := ih (l ++ [(e.1, e.2)]) (by rw [h]; simp; omega)
    have he : ∀ i ∈ keys xs, i ∉ keys l ∧ i ≠ e.1 := by
      intro i hi
      simpa [keys] using hapart i hi
    constructor
    · show (e.1 :: keys xs).Nodup
      exact List.nodup_cons.mpr ⟨fun hmem => (he _ hmem).2 rfl, hnodup⟩
    · intro i hi
      rcases List.mem_cons.mp hi with rfl | hi
      · exact hnew
      · exact (he i hi).1

/-- Among elements with different keys, one is found by its key. -/
theorem filter_key_eq_singleton {β : Type} (key : β → Nat) {l : List β} (h : (l.map key).Nodup)
    {x : β} (hx : x ∈ l) : l.filter (fun y => key y = key x) = [x] := by
  induction l with
  | nil => simp at hx
  | cons y l ih =>
    rw [List.map_cons, List.nodup_cons] at h
    rcases List.mem_cons.mp hx with rfl | hx
    · have hnone : ∀ y ∈ l, ¬ key y = key x := by
        intro y hy heq
        exact h.1 (heq ▸ List.mem_map_of_mem hy)
      simpa using hnone
    · have hne : key y ≠ key x := by
        intro heq
        exact h.1 (heq ▸ List.mem_map_of_mem hx)
      rw [List.filter_cons_of_neg (by simpa using hne), ih h.2 hx]

/-! ## Texts in pieces -/

theorem join_eq_empty_iff (ts : List String) : String.join ts = "" ↔ ∀ t ∈ ts, t = "" := by
  induction ts with
  | nil => simp
  | cons t ts ih => simp [String.join_cons, ih]

/-- The pieces make up the last one alone only if the others are empty. -/
theorem join_eq_append_iff (ts : List String) (last : String) :
    String.join (ts ++ [last]) = last ↔ ∀ t ∈ ts, t = "" := by
  rw [String.join_append, ← join_eq_empty_iff]
  simp

/-- The pieces make up the first one alone only if the others are empty. -/
theorem join_cons_eq_iff (first : String) (ts : List String) :
    String.join (first :: ts) = first ↔ ∀ t ∈ ts, t = "" := by
  rw [String.join_cons, ← join_eq_empty_iff]
  simp

/-- Leaving pieces out makes a text no longer. -/
theorem length_join_kept_le {β : Type} (keep : β → Bool) (text : β → String) (l : List β) :
    (String.join (l.map fun x => if keep x then text x else "")).length ≤
      (String.join (l.map text)).length := by
  induction l with
  | nil => simp
  | cons x l ih =>
    simp only [List.map_cons, String.join_cons, String.length_append]
    cases keep x
    · simp only [Bool.false_eq_true, if_false, String.length_empty]
      omega
    · simp only [if_true]
      omega

/-- Leaving pieces out keeps a text if and only if they are empty. -/
theorem join_kept_iff {β : Type} (keep : β → Bool) (text : β → String) (l : List β) :
    String.join (l.map fun x => if keep x then text x else "") = String.join (l.map text) ↔
      ∀ x ∈ l, text x ≠ "" → keep x := by
  induction l with
  | nil => simp
  | cons x l ih =>
    simp only [List.map_cons, String.join_cons, List.forall_mem_cons]
    cases hkeep : keep x with
    | true => simp [ih]
    | false =>
      by_cases htext : text x = ""
      · simp [htext, ih]
      · -- what is left is too short
        have hpos : 0 < (text x).length := by
          rw [Nat.pos_iff_ne_zero]
          intro hzero
          exact htext (String.length_eq_zero_iff.mp hzero)
        have hle := length_join_kept_le keep text l
        constructor
        · intro h
          have hlen := congrArg String.length h
          simp only [Bool.false_eq_true, if_false, String.length_append,
            String.length_empty] at hlen
          omega
        · intro h
          exact absurd (h.1 htext) (by simp)

end Keyed
