import Mathlib

/-!
# Trimming and splitting lists

Trimming a list before it is split changes nothing about its parts once they are trimmed too.

## Key results

- `filter_trimBy`: trimming keeps what is not trimmed
- `map_trimBy_splitOn`: trimmed parts do not depend on trimming the whole
- `pairwise_first_iff`: a property that only the first elements have splits a list
- `flatMap_eq_iff_of_length_le`: pieces that did not grow are the same if the whole is
- `append_cons_inj_of_notMem`: the last separator is where the parts meet
- `append_separator_eq_iff`: two ways to read one text, when a part may contain the separator
- `notMem_repr`: a decimal text contains only digits and a sign
-/

namespace List

variable {α : Type*} {p q : α → Bool}

/-- Drop what satisfies `p` at both ends. -/
def trimBy (p : α → Bool) (l : List α) : List α := (l.dropWhile p).rdropWhile p

theorem trimBy_eq_nil_iff {l : List α} : l.trimBy p = [] ↔ ∀ x ∈ l, p x = true := by
  unfold trimBy
  rw [rdropWhile_eq_nil_iff]
  constructor
  · intro h x hx
    rw [← takeWhile_append_dropWhile (p := p) (l := l), mem_append] at hx
    rcases hx with hx | hx
    · exact (mem_takeWhile_imp hx)
    · exact h x hx
  · intro h x hx
    exact h x ((dropWhile_suffix p).subset hx)

theorem trimBy_subset (l : List α) : l.trimBy p ⊆ l := by
  intro x hx
  have hpre : l.trimBy p <+: l.dropWhile p := rdropWhile_prefix p _
  exact (dropWhile_suffix p).subset (hpre.subset hx)

theorem filter_dropWhile (h : ∀ x, q x = true → p x = false) (l : List α) :
    (l.dropWhile p).filter q = l.filter q := by
  induction l with
  | nil => rfl
  | cons a l ih =>
    by_cases ha : p a = true
    · have hq : ¬q a = true := fun hq => by simp [h a hq] at ha
      rw [dropWhile_cons_of_pos ha, filter_cons_of_neg hq, ih]
    · rw [dropWhile_cons_of_neg ha]

/-- Trimming keeps what is not trimmed. -/
theorem filter_trimBy (h : ∀ x, q x = true → p x = false) (l : List α) :
    (l.trimBy p).filter q = l.filter q := by
  rw [trimBy, rdropWhile, filter_reverse, filter_dropWhile h, filter_reverse, reverse_reverse,
    filter_dropWhile h]

theorem mem_trimBy {l : List α} {a : α} (ha : p a = false) : a ∈ l.trimBy p ↔ a ∈ l := by
  have hfilter := filter_trimBy (p := p) (q := fun x => !p x) (by simp) l
  have hmem : ∀ l' : List α, a ∈ l'.filter (fun x => !p x) ↔ a ∈ l' := by
    intro l'
    simp [ha]
  rw [← hmem, hfilter, hmem]

theorem dropWhile_congr {l : List α} (h : ∀ x ∈ l, p x = q x) : l.dropWhile p = l.dropWhile q := by
  induction l with
  | nil => rfl
  | cons a l ih =>
    have ha := h a mem_cons_self
    simp only [dropWhile_cons, ha, ih fun x hx => h x (mem_cons_of_mem a hx)]

theorem trimBy_congr {l : List α} (h : ∀ x ∈ l, p x = q x) : l.trimBy p = l.trimBy q := by
  have hdrop := dropWhile_congr h
  have hrest : ∀ x ∈ (l.dropWhile q).reverse, p x = q x := fun x hx =>
    h x ((dropWhile_suffix q).subset (mem_reverse.mp hx))
  rw [trimBy, trimBy, rdropWhile, rdropWhile, hdrop, dropWhile_congr hrest]

theorem trimBy_map {f : α → α} (h : ∀ x, p (f x) = p x) (l : List α) :
    (l.map f).trimBy p = (l.trimBy p).map f := by
  have hcomp : p ∘ f = p := funext h
  rw [trimBy, trimBy, rdropWhile, rdropWhile, dropWhile_map, hcomp, ← map_reverse, dropWhile_map,
    hcomp, map_reverse]

@[simp] theorem trimBy_nil : ([] : List α).trimBy p = [] := rfl

theorem trimBy_cons_of_pos {a : α} (ha : p a = true) (l : List α) :
    (a :: l).trimBy p = l.trimBy p := by
  rw [trimBy, dropWhile_cons_of_pos ha, trimBy]

theorem trimBy_concat_of_pos {a : α} (ha : p a = true) (l : List α) :
    (l ++ [a]).trimBy p = l.trimBy p := by
  rw [trimBy, dropWhile_append]
  split
  · rename_i hempty
    rw [dropWhile_cons_of_pos ha, dropWhile_nil, trimBy, isEmpty_iff.mp hempty]
  · rw [rdropWhile_concat_pos p _ _ ha, trimBy]

theorem trimBy_trimBy (l : List α) : (l.trimBy p).trimBy p = l.trimBy p := by
  have hdrop : (l.trimBy p).dropWhile p = l.trimBy p := by
    rw [dropWhile_eq_self_iff]
    intro hl
    have hpre : l.trimBy p <+: l.dropWhile p := rdropWhile_prefix p _
    rw [hpre.getElem hl]
    exact dropWhile_get_zero_not p l (hl.trans_le hpre.length_le)
  rw [trimBy, hdrop, trimBy, rdropWhile_idempotent]

theorem count_trimBy [BEq α] [LawfulBEq α] {a : α} (ha : p a = false) (l : List α) :
    (l.trimBy p).count a = l.count a := by
  have hq : ∀ x, (x == a) = true → p x = false := fun x hx => by rw [eq_of_beq hx, ha]
  rw [count_eq_length_filter, count_eq_length_filter, filter_trimBy hq]

theorem trimBy_eq_self {l : List α} (h : ∀ x ∈ l, p x = false) : l.trimBy p = l := by
  have hkeep := filter_trimBy (p := p) (q := fun x => !p x) (by simp) l
  have hall : ∀ l' : List α, (∀ x ∈ l', p x = false) → l'.filter (fun x => !p x) = l' := by
    intro l' h'
    rw [filter_eq_self]
    intro x hx
    simp [h' x hx]
  rw [hall l h, hall _ fun x hx => h x (trimBy_subset l hx)] at hkeep
  exact hkeep

theorem mem_of_mem_intercalate {a c : α} {ls : List (List α)} (h : c ∈ [a].intercalate ls) :
    c = a ∨ ∃ l ∈ ls, c ∈ l := by
  induction ls with
  | nil => simp at h
  | cons l ls ih =>
    cases ls with
    | nil => exact .inr ⟨l, by simp, by simpa using h⟩
    | cons l' ls =>
      rw [intercalate_cons_cons, mem_append, mem_append, mem_singleton] at h
      rcases h with (h | h) | h
      · exact .inr ⟨l, mem_cons_self, h⟩
      · exact .inl h
      · exact (ih h).imp_right fun ⟨s, hs, hc⟩ => ⟨s, mem_cons_of_mem l hs, hc⟩

theorem length_splitOn [BEq α] {a : α} (l : List α) : (l.splitOn a).length = l.count a + 1 := by
  induction l with
  | nil => rfl
  | cons c l ih =>
    rw [splitOn_cons_eq_if_modifyHead, count_cons]
    split
    · rw [length_cons, ih]
    · rw [length_modifyHead, ih, Nat.add_zero]

section Split

variable [BEq α] [LawfulBEq α] {a : α}

/-- A new last element goes to the last part. -/
theorem splitOn_concat {c : α} (hc : c ≠ a) (l : List α) :
    ∃ init last, l.splitOn a = init ++ [last] ∧ (l ++ [c]).splitOn a = init ++ [last ++ [c]] := by
  induction l with
  | nil =>
    refine ⟨[], [], rfl, ?_⟩
    simp [splitOn_cons_eq_if_modifyHead, hc]
  | cons d l ih =>
    obtain ⟨init, last, hl, hlc⟩ := ih
    rw [cons_append, splitOn_cons_eq_if_modifyHead, splitOn_cons_eq_if_modifyHead, hl, hlc]
    by_cases hd : (d == a) = true
    · rw [if_pos hd, if_pos hd]
      exact ⟨[] :: init, last, rfl, rfl⟩
    · rw [if_neg hd, if_neg hd]
      cases init with
      | nil => exact ⟨[], d :: last, rfl, rfl⟩
      | cons s init => exact ⟨(d :: s) :: init, last, rfl, rfl⟩

theorem map_trimBy_splitOn_dropWhile (ha : p a = false) (l : List α) :
    ((l.dropWhile p).splitOn a).map (trimBy p) = (l.splitOn a).map (trimBy p) := by
  induction l with
  | nil => rfl
  | cons c l ih =>
    by_cases hc : p c = true
    · have hne : ¬(c == a) = true := fun h => by simp [← eq_of_beq h, hc] at ha
      rw [dropWhile_cons_of_pos hc, ih, splitOn_cons_eq_if_modifyHead, if_neg hne]
      cases hs : l.splitOn a with
      | nil => exact absurd hs (splitOn_ne_nil a l)
      | cons s rest => simp only [modifyHead_cons, map_cons, trimBy_cons_of_pos hc]
    · rw [dropWhile_cons_of_neg hc]

theorem map_trimBy_splitOn_rdropWhile (ha : p a = false) (l : List α) :
    ((l.rdropWhile p).splitOn a).map (trimBy p) = (l.splitOn a).map (trimBy p) := by
  induction l using reverseRecOn with
  | nil => rfl
  | append_singleton l c ih =>
    by_cases hc : p c = true
    · have hne : c ≠ a := fun h => by simp [← h, hc] at ha
      obtain ⟨init, last, hl, hlc⟩ := splitOn_concat hne l
      rw [rdropWhile_concat_pos p _ _ hc, ih, hl, hlc, map_append, map_append, map_singleton,
        map_singleton, trimBy_concat_of_pos hc]
    · rw [rdropWhile_concat_neg p _ _ hc]

/-- Trimmed parts do not depend on trimming the whole. -/
theorem map_trimBy_splitOn (ha : p a = false) (l : List α) :
    ((l.trimBy p).splitOn a).map (trimBy p) = (l.splitOn a).map (trimBy p) := by
  rw [trimBy, map_trimBy_splitOn_rdropWhile ha, map_trimBy_splitOn_dropWhile ha]

theorem not_mem_of_mem_splitOn {l s : List α} (h : s ∈ l.splitOn a) : a ∉ s := by
  induction l generalizing s with
  | nil =>
    rw [splitOn_nil, mem_singleton] at h
    simp [h]
  | cons c l ih =>
    rw [splitOn_cons_eq_if_modifyHead] at h
    split at h
    · rcases mem_cons.mp h with rfl | h
      · simp
      · exact ih h
    · rename_i hc
      cases hs : l.splitOn a with
      | nil => exact absurd hs (splitOn_ne_nil a l)
      | cons s₀ rest =>
        rw [hs, modifyHead_cons, mem_cons] at h
        rw [hs] at ih
        rcases h with rfl | h
        · have hs₀ := ih mem_cons_self
          have hca : a ≠ c := fun h => hc (by rw [h, beq_self_eq_true])
          simp [hs₀, hca]
        · exact ih (mem_cons_of_mem s₀ h)

/-- The parts of a joined list are the parts of what was joined. -/
theorem splitOn_intercalate_flatMap {ls : List (List α)} (hne : ls ≠ []) :
    ([a].intercalate ls).splitOn a = ls.flatMap (splitOn a) := by
  induction ls with
  | nil => exact absurd rfl hne
  | cons l ls ih =>
    cases ls with
    | nil => simp
    | cons l' ls =>
      rw [intercalate_cons_cons, append_assoc, singleton_append, splitOn_append_cons_self,
        ih (cons_ne_nil l' ls), ← flatMap_cons]

/-- Two joined lists are the same when what was joined has the same parts. -/
theorem intercalate_eq_iff {ls ls' : List (List α)} (hne : ls ≠ []) (hne' : ls' ≠ []) :
    [a].intercalate ls = [a].intercalate ls' ↔ ls.flatMap (splitOn a) = ls'.flatMap (splitOn a) := by
  rw [← splitOn_intercalate_flatMap hne, ← splitOn_intercalate_flatMap hne']
  constructor
  · intro h
    rw [h]
  · intro h
    have hjoin := congrArg [a].intercalate h
    rwa [intercalate_splitOn, intercalate_splitOn] at hjoin

end Split

end List

/-! ## Lists put together from pieces -/

namespace List

variable {α : Type*}

/-- A property that only the first elements have splits the list. -/
theorem pairwise_first_iff (p : α → Bool) (l : List α) :
    l.Pairwise (fun a b => p b = true → p a = true) ↔
      l = l.filter p ++ l.filter fun a => !p a := by
  induction l with
  | nil => simp
  | cons a l ih =>
    rw [pairwise_cons, ih]
    cases ha : p a with
    | true => simp [ha]
    | false =>
      simp only [Bool.false_eq_true, imp_false, Bool.not_eq_true, ha, filter_cons, if_false,
        Bool.not_false, if_true]
      constructor
      · rintro ⟨hnone, -⟩
        have hnil : l.filter p = [] := by simpa using hnone
        have hall : l.filter (fun a => !p a) = l := by simpa using hnone
        rw [hnil, hall, nil_append]
      · intro h
        have hnil : l.filter p = [] := by
          by_contra hne
          obtain ⟨b, rest, hb⟩ := exists_cons_of_ne_nil hne
          rw [hb, cons_append, cons.injEq] at h
          have hpb : p b = true := (mem_filter.mp (hb ▸ mem_cons_self)).2
          rw [← h.1, ha] at hpb
          cases hpb
        have hnone : ∀ b ∈ l, p b = false := by simpa using hnil
        have hall : l.filter (fun a => !p a) = l := by simpa using hnone
        exact ⟨hnone, by rw [hnil, hall, nil_append]⟩

/-- Lists of pieces, none of which got longer, are the same joined if and only if the pieces are
    the same. -/
theorem flatMap_eq_iff_of_length_le {β : Type*} {f g : α → List β} {l : List α}
    (hle : ∀ a ∈ l, (f a).length ≤ (g a).length) :
    l.flatMap f = l.flatMap g ↔ ∀ a ∈ l, f a = g a := by
  constructor
  · induction l with
    | nil => simp
    | cons a l ih =>
      intro h
      have hrest : (l.flatMap f).length ≤ (l.flatMap g).length := by
        rw [length_flatMap, length_flatMap]
        exact List.sum_le_sum fun b hb => hle b (mem_cons_of_mem a hb)
      rw [flatMap_cons, flatMap_cons] at h
      have hlen := congrArg length h
      rw [length_append, length_append] at hlen
      have hhead : (f a).length = (g a).length := by
        have := hle a mem_cons_self
        omega
      obtain ⟨hfirst, hothers⟩ := append_inj h hhead
      rintro b (_ | ⟨_, hb⟩)
      · exact hfirst
      · exact ih (fun c hc => hle c (mem_cons_of_mem a hc)) hothers b hb
  · intro h
    exact flatMap_congr h

end List

/-! ## Texts joined by a separator

What can be read off a list of characters in which a separator stands between the parts.
-/

namespace Separator

universe u

variable {α : Type u}

/-- A separator that does not occur in what follows it. -/
theorem append_cons_inj_of_notMem {a : α} {xs xs' ys ys' : List α} (hys : a ∉ ys) (hys' : a ∉ ys')
    (h : xs ++ a :: ys = xs' ++ a :: ys') : xs = xs' ∧ ys = ys' := by
  rcases List.append_eq_append_iff.mp h with ⟨as, rfl, has⟩ | ⟨as, rfl, has⟩
  · cases as with
    | nil => simpa using has
    | cons b as =>
      rw [List.cons_append, List.cons.injEq] at has
      rw [has.2] at hys
      exact absurd (by simp) hys
  · cases as with
    | nil => simpa [eq_comm] using has
    | cons b as =>
      rw [List.cons_append, List.cons.injEq] at has
      rw [has.2] at hys'
      exact absurd (by simp) hys'

/-- A separator whose first element does not come again in it has no proper overlap with
    itself. -/
theorem eq_nil_or_append_of_append_eq {a : α} {sep ys ys' zs : List α} (ha : a ∉ sep)
    (h : a :: sep ++ ys = zs ++ (a :: sep ++ ys')) :
    zs = [] ∨ ∃ ws, zs = a :: sep ++ ws ∧ ys = ws ++ (a :: sep ++ ys') := by
  cases zs with
  | nil => exact .inl rfl
  | cons b zs =>
    rw [List.cons_append, List.cons_append, List.cons.injEq] at h
    obtain ⟨rfl, h⟩ := h
    right
    rcases List.append_eq_append_iff.mp h with ⟨ws, rfl, hws⟩ | ⟨ws, hsep, hws⟩
    · exact ⟨ws, rfl, hws⟩
    · cases ws with
      | nil =>
        rw [List.append_nil] at hsep
        subst hsep
        exact ⟨[], by simp, by simpa using hws.symm⟩
      | cons c ws =>
        rw [List.cons_append, List.cons_append, List.cons.injEq] at hws
        rw [hsep, ← hws.1] at ha
        exact absurd (by simp) ha

/-- Two readings of a text are the same, or the left part of one goes on with the separator
    inside the other. -/
theorem append_separator_eq_iff {a : α} {sep xs xs' ys ys' : List α} (ha : a ∉ sep) :
    xs ++ (a :: sep ++ ys) = xs' ++ (a :: sep ++ ys') ↔
      (xs = xs' ∧ ys = ys') ∨
        (∃ ws, xs' = xs ++ (a :: sep ++ ws) ∧ ys = ws ++ (a :: sep ++ ys')) ∨
        ∃ ws, xs = xs' ++ (a :: sep ++ ws) ∧ ys' = ws ++ (a :: sep ++ ys) := by
  constructor
  · intro h
    rcases List.append_eq_append_iff.mp h with ⟨zs, rfl, hzs⟩ | ⟨zs, rfl, hzs⟩
    · rcases eq_nil_or_append_of_append_eq ha hzs with rfl | ⟨ws, rfl, hws⟩
      · exact .inl ⟨by simp, by simpa using hzs⟩
      · exact .inr (.inl ⟨ws, rfl, hws⟩)
    · rcases eq_nil_or_append_of_append_eq ha hzs with rfl | ⟨ws, rfl, hws⟩
      · exact .inl ⟨by simp, by simpa using hzs.symm⟩
      · exact .inr (.inr ⟨ws, rfl, hws⟩)
  · rintro (⟨rfl, rfl⟩ | ⟨ws, rfl, rfl⟩ | ⟨ws, rfl, rfl⟩)
    · rfl
    · simp only [List.append_assoc]
    · simp only [List.append_assoc]

/-- The decimal text of a number contains no other character. -/
theorem notMem_repr {c : Char} (hdigit : c.isDigit = false) (hsign : c ≠ '-') (n : Int) :
    c ∉ n.repr.toList := by
  have hnat : ∀ m : Nat, c ∉ m.repr.toList := by
    intro m hmem
    have hmem' : c ∈ Nat.toDigits 10 m := by simpa [Nat.repr] using hmem
    have := Nat.isDigit_of_mem_toDigits (by decide) (by decide) hmem'
    rw [hdigit] at this
    exact Bool.false_ne_true this
  cases n with
  | ofNat m => exact hnat m
  | negSucc m =>
    show c ∉ ("-" ++ (m + 1).repr).toList
    rw [String.toList_append, List.mem_append, not_or]
    refine ⟨?_, hnat (m + 1)⟩
    simpa using hsign

end Separator
