import Mathlib

/-!
# Tables with a unique key

A `Table` is a list of rows together with a proof that a key function is
injective on it, so two rows with the same key cannot be stored. `find?`,
`insert` and `set` are the select, the `INSERT ... ON CONFLICT DO NOTHING` and
the `UPDATE ... WHERE key = ?` of a relational store; `sum` is a `SUM` column.

## Key results

- `find?_insert`, `find?_set`: reading back after a write
- `sum_insert`, `sum_set`: what one write does to a sum over the table
- `sum_filter`: a sum over selected rows
- `groupSum_insert`: what one write does to the sum of a group
- `sum_congr`, `sum_set_congr`: sums of two functions that agree off one key
- `find?_upsert`, `find?_update`: reading back after an upsert or an update by key
- `nextId_fresh`: the auto-increment key is unused
- `mem_foldl_update`: rows read at first and written back by key
- `mem_upsertOn`: the rows after an upsert on another unique column
- `upsertAll_spec`: the rows afterwards are the old ones of other values, and the batch
- `Upserted.perm`: the rows with a value of the batch are the batch, up to the primary key
-/

universe u v w

/-- Rows with a unique key. -/
structure Table (ρ : Type u) {κ : Type v} (key : ρ → κ) where
  rows : List ρ
  nodup : (rows.map key).Nodup

namespace Table

variable {ρ : Type u} {κ : Type v} {key : ρ → κ}

/-- The table with no row. -/
def empty : Table ρ key := ⟨[], List.nodup_nil⟩

instance : Inhabited (Table ρ key) := ⟨empty⟩

@[simp] theorem rows_empty : (empty : Table ρ key).rows = [] := rfl

/-- Two rows with one key are one row. -/
theorem eq_of_key_eq (t : Table ρ key) {a b : ρ} (ha : a ∈ t.rows) (hb : b ∈ t.rows)
    (h : key a = key b) : a = b :=
  List.inj_on_of_nodup_map t.nodup ha hb h

/-! ## Sums -/

section Sum

variable {β : Type w} [AddCommMonoid β]

/-- The sum of `f` over the rows. -/
def sum (t : Table ρ key) (f : ρ → β) : β := (t.rows.map f).sum

@[simp] theorem sum_empty (f : ρ → β) : (empty : Table ρ key).sum f = 0 := rfl

/-- The sum only reads `f` on rows of the table. -/
theorem sum_congr (t : Table ρ key) {f g : ρ → β} (h : ∀ r ∈ t.rows, f r = g r) :
    t.sum f = t.sum g := by
  unfold sum
  rw [List.map_congr_left h]

theorem sum_eq_zero (t : Table ρ key) {f : ρ → β} (h : ∀ r ∈ t.rows, f r = 0) :
    t.sum f = 0 := by
  rw [t.sum_congr h]
  simp [sum]

/-- A sum over the rows that satisfy `p`. -/
theorem sum_filter (t : Table ρ key) (p : ρ → Prop) [DecidablePred p] (f : ρ → β) :
    ((t.rows.filter p).map f).sum = t.sum fun r => if p r then f r else 0 := by
  unfold sum
  induction t.rows with
  | nil => rfl
  | cons r rs ih =>
    by_cases h : p r
    · simp [h, ih]
    · simp [h, ih]

/-- The sum of `f` over the rows of one group: what a `GROUP BY g` computes. -/
def groupSum {γ : Type*} [DecidableEq γ] (t : Table ρ key) (g : ρ → γ) (f : ρ → β) (k : γ) : β :=
  ((t.rows.filter fun r => g r = k).map f).sum

@[simp] theorem groupSum_empty {γ : Type*} [DecidableEq γ] (g : ρ → γ) (f : ρ → β) (k : γ) :
    (empty : Table ρ key).groupSum g f k = 0 := rfl

end Sum

/-- Replacing one element of a list replaces one summand. -/
theorem sum_map_set {α : Type*} {β : Type w} [AddCommGroup β] (f : α → β) {l : List α} {n : Nat}
    {a : α} (h : l[n]? = some a) (b : α) :
    ((l.set n b).map f).sum = (l.map f).sum - f a + f b := by
  induction l generalizing n with
  | nil => simp at h
  | cons x l ih =>
    cases n with
    | zero =>
      obtain rfl : x = a := by simpa using h
      simp only [List.set_cons_zero, List.map_cons, List.sum_cons]
      abel
    | succ n =>
      have hrest := ih (by simpa using h)
      simp only [List.set_cons_succ, List.map_cons, List.sum_cons, hrest]
      abel

/-- Every summand of a sum of non-negative terms is below the sum. -/
theorem le_sum (t : Table ρ key) {f : ρ → Int} (h : ∀ r ∈ t.rows, 0 ≤ f r) {r : ρ}
    (hr : r ∈ t.rows) : f r ≤ t.sum f := by
  refine List.single_le_sum ?_ _ (List.mem_map_of_mem hr)
  intro x hx
  obtain ⟨y, hy, rfl⟩ := List.mem_map.mp hx
  exact h y hy

theorem sum_nonneg (t : Table ρ key) {f : ρ → Int} (h : ∀ r ∈ t.rows, 0 ≤ f r) :
    0 ≤ t.sum f := by
  refine List.sum_nonneg ?_
  intro x hx
  obtain ⟨y, hy, rfl⟩ := List.mem_map.mp hx
  exact h y hy

/-! ## Reading and writing -/

variable [DecidableEq κ]

/-- The row with key `k`. -/
def find? (t : Table ρ key) (k : κ) : Option ρ := t.rows.find? fun r => key r = k

@[simp] theorem find?_empty (k : κ) : (empty : Table ρ key).find? k = none := rfl

theorem find?_mem {t : Table ρ key} {k : κ} {r : ρ} (h : t.find? k = some r) : r ∈ t.rows :=
  List.mem_of_find?_eq_some h

theorem find?_key {t : Table ρ key} {k : κ} {r : ρ} (h : t.find? k = some r) : key r = k := by
  simpa using List.find?_some h

/-- A stored row is what its key finds. -/
theorem find?_of_mem {t : Table ρ key} {r : ρ} (h : r ∈ t.rows) : t.find? (key r) = some r := by
  cases hf : t.find? (key r) with
  | none =>
    have hne := List.find?_eq_none.mp hf r h
    simp at hne
  | some r' => rw [t.eq_of_key_eq (find?_mem hf) h (find?_key hf)]

theorem find?_eq_none_iff {t : Table ρ key} {k : κ} :
    t.find? k = none ↔ ∀ r ∈ t.rows, key r ≠ k := by
  simp [find?, List.find?_eq_none]

/-- Insert a row unless its key is taken. -/
def insert (t : Table ρ key) (r : ρ) : Table ρ key :=
  if h : key r ∈ t.rows.map key then t
  else ⟨t.rows ++ [r], by
    rw [List.map_append, List.map_singleton]
    exact List.Nodup.append t.nodup (List.nodup_singleton _) (by simpa using h)⟩

theorem insert_of_find?_none {t : Table ρ key} {r : ρ} (h : t.find? (key r) = none) :
    (t.insert r).rows = t.rows ++ [r] := by
  have hmem : key r ∉ t.rows.map key := by
    intro hk
    obtain ⟨x, hx, hxk⟩ := List.mem_map.mp hk
    exact find?_eq_none_iff.mp h x hx hxk
  simp only [insert, dif_neg hmem]

theorem insert_of_find?_some {t : Table ρ key} {r r' : ρ} (h : t.find? (key r) = some r') :
    t.insert r = t := by
  have hmem : key r ∈ t.rows.map key :=
    List.mem_map.mpr ⟨r', find?_mem h, find?_key h⟩
  simp only [insert, dif_pos hmem]

theorem mem_insert {t : Table ρ key} {r x : ρ} (h : t.find? (key r) = none) :
    x ∈ (t.insert r).rows ↔ x ∈ t.rows ∨ x = r := by
  rw [insert_of_find?_none h, List.mem_append, List.mem_singleton]

theorem mem_of_mem_insert {t : Table ρ key} {r x : ρ} (h : x ∈ (t.insert r).rows) :
    x ∈ t.rows ∨ x = r := by
  cases hf : t.find? (key r) with
  | none => exact (mem_insert hf).mp h
  | some r' =>
    rw [insert_of_find?_some hf] at h
    exact .inl h

theorem find?_insert (t : Table ρ key) (r : ρ) (k : κ) :
    (t.insert r).find? k = if key r = k then some ((t.find? k).getD r) else t.find? k := by
  cases h : t.find? (key r) with
  | some r' =>
    rw [insert_of_find?_some h]
    split
    · next hk => subst hk; rw [h]; rfl
    · rfl
  | none =>
    have hrows := insert_of_find?_none h
    simp only [find?, hrows, List.find?_append]
    split
    · next hk =>
      subst hk
      have hnone : t.rows.find? (fun x => key x = key r) = none := h
      simp [hnone]
    · next hk => simp [hk]

theorem sum_insert {β : Type w} [AddCommMonoid β] {t : Table ρ key} {r : ρ}
    (h : t.find? (key r) = none) (f : ρ → β) : (t.insert r).sum f = t.sum f + f r := by
  simp only [sum, insert_of_find?_none h, List.map_append, List.map_singleton, List.sum_append,
    List.sum_singleton]

/-- A new row adds to the sum of its own group. -/
theorem groupSum_insert {β : Type w} [AddCommMonoid β] {γ : Type*} [DecidableEq γ]
    {t : Table ρ key} {r : ρ} (h : t.find? (key r) = none) (g : ρ → γ) (f : ρ → β) (k : γ) :
    (t.insert r).groupSum g f k = t.groupSum g f k + if g r = k then f r else 0 := by
  simp only [groupSum, insert_of_find?_none h, List.filter_append, List.map_append,
    List.sum_append]
  by_cases hk : g r = k
  · simp [hk]
  · simp [hk]

/-- Overwrite the row that has `r`'s key; without such a row nothing happens. -/
def set (t : Table ρ key) (r : ρ) : Table ρ key :=
  ⟨t.rows.map fun x => if key x = key r then r else x, by
    have hkeys : (t.rows.map fun x => if key x = key r then r else x).map key = t.rows.map key := by
      rw [List.map_map]
      refine List.map_congr_left fun x _ => ?_
      simp only [Function.comp_apply]
      split
      · next h => exact h.symm
      · rfl
    rw [hkeys]
    exact t.nodup⟩

theorem mem_set {t : Table ρ key} {r x : ρ} (h : x ∈ (t.set r).rows) :
    x = r ∨ (x ∈ t.rows ∧ key x ≠ key r) := by
  obtain ⟨y, hy, hxy⟩ := List.mem_map.mp h
  split at hxy
  · exact .inl hxy.symm
  · next hne => subst hxy; exact .inr ⟨hy, hne⟩

theorem mem_set_of_ne {t : Table ρ key} {r x : ρ} (hx : x ∈ t.rows) (h : key x ≠ key r) :
    x ∈ (t.set r).rows :=
  List.mem_map.mpr ⟨x, hx, by simp [h]⟩

theorem mem_set_self {t : Table ρ key} {r r' : ρ} (h : t.find? (key r) = some r') :
    r ∈ (t.set r).rows :=
  List.mem_map.mpr ⟨r', find?_mem h, by simp [find?_key h]⟩

theorem find?_set (t : Table ρ key) (r : ρ) (k : κ) :
    (t.set r).find? k = if key r = k then (t.find? k).map (fun _ => r) else t.find? k := by
  simp only [find?, set]
  induction t.rows with
  | nil => simp
  | cons x xs ih =>
    rw [List.map_cons, List.find?_cons, List.find?_cons, ih]
    by_cases hx : key x = key r
    · by_cases hk : key r = k
      · simp [hx, hk]
      · simp [hx, hk]
    · by_cases hk : key r = k
      · have hxk : key x ≠ k := fun h => hx (h.trans hk.symm)
        rw [if_neg hx]
        simp [hk, hxk]
      · rw [if_neg hx, if_neg hk]
        by_cases hxk : key x = k
        · simp [hxk, hk]
        · simp [hxk, hk]

theorem find?_set_self {t : Table ρ key} {r r' : ρ} {k : κ} (h : t.find? k = some r')
    (hk : key r = k) : (t.set r).find? k = some r := by
  rw [find?_set, if_pos hk, h]
  rfl

theorem find?_set_of_ne (t : Table ρ key) {r : ρ} {k : κ} (h : key r ≠ k) :
    (t.set r).find? k = t.find? k := by
  rw [find?_set, if_neg h]

/-- Writing a stored row again changes nothing. -/
theorem set_of_find? {t : Table ρ key} {r : ρ} (h : t.find? (key r) = some r) : t.set r = t := by
  have hrows : (t.rows.map fun x => if key x = key r then r else x) = t.rows := by
    refine (List.map_congr_left fun x hx => ?_).trans (List.map_id _)
    show (if key x = key r then r else x) = x
    split
    · next hk => exact t.eq_of_key_eq (find?_mem h) hx hk.symm
    · rfl
  cases t
  simp only [set, hrows]

/-- A found row splits the table into rows with other keys. -/
theorem rows_split {t : Table ρ key} {k : κ} {r : ρ} (h : t.find? k = some r) :
    ∃ l₁ l₂, t.rows = l₁ ++ r :: l₂ ∧ ∀ x ∈ l₁ ++ l₂, key x ≠ k := by
  obtain ⟨l₁, l₂, hrows⟩ := List.append_of_mem (find?_mem h)
  refine ⟨l₁, l₂, hrows, ?_⟩
  have hnd := t.nodup
  rw [hrows, List.map_append, List.map_cons, List.nodup_middle, List.nodup_cons,
    ← List.map_append] at hnd
  intro x hx hxk
  exact hnd.1 (find?_key h ▸ hxk ▸ List.mem_map_of_mem hx)

/-- Overwriting one row replaces one summand; the summand function may change
    too, but only at the key written. -/
theorem sum_set_congr {β : Type w} [AddCommGroup β] {t : Table ρ key} {r r' : ρ} {f g : ρ → β}
    (h : t.find? (key r) = some r') (hfg : ∀ x ∈ t.rows, key x ≠ key r → g x = f x) :
    (t.set r).sum g = t.sum f - f r' + g r := by
  obtain ⟨l₁, l₂, hrows, hne⟩ := rows_split h
  have hmap : ∀ l : List ρ, (∀ x ∈ l, x ∈ t.rows ∧ key x ≠ key r) →
      (l.map fun x => if key x = key r then r else x).map g = l.map f := by
    intro l hl
    rw [List.map_map]
    refine List.map_congr_left fun x hx => ?_
    obtain ⟨hmem, hxr⟩ := hl x hx
    simp only [Function.comp_apply, if_neg hxr, hfg x hmem hxr]
  have h₁ := hmap l₁ fun x hx => ⟨by simp [hrows, hx], hne x (by simp [hx])⟩
  have h₂ := hmap l₂ fun x hx => ⟨by simp [hrows, hx], hne x (by simp [hx])⟩
  simp only [sum, set, hrows, List.map_append, List.map_cons, find?_key h, if_pos, h₁, h₂,
    List.sum_append, List.sum_cons]
  abel

/-- Overwriting one row replaces one summand. -/
theorem sum_set {β : Type w} [AddCommGroup β] {t : Table ρ key} {r r' : ρ} (f : ρ → β)
    (h : t.find? (key r) = some r') : (t.set r).sum f = t.sum f - f r' + f r :=
  sum_set_congr h fun _ _ _ => rfl

/-! ## Upsert -/

/-- Insert a row, or overwrite the row that has its key. -/
def upsert (t : Table ρ key) (r : ρ) : Table ρ key := (t.insert r).set r

theorem find?_upsert (t : Table ρ key) (r : ρ) (k : κ) :
    (t.upsert r).find? k = if key r = k then some r else t.find? k := by
  rw [upsert, find?_set, find?_insert]
  split
  · rfl
  · rfl

theorem upsert_of_find?_some {t : Table ρ key} {r r' : ρ} (h : t.find? (key r) = some r') :
    t.upsert r = t.set r := by
  rw [upsert, insert_of_find?_some h]

/-! ## Update by key -/

/-- Change the row with key `k`; without such a row nothing happens. -/
def update (t : Table ρ key) (k : κ) (f : ρ → ρ) : Table ρ key :=
  match t.find? k with
  | none => t
  | some r => t.set (f r)

theorem find?_update (t : Table ρ key) (k k' : κ) {f : ρ → ρ} (hf : ∀ r, key (f r) = key r) :
    (t.update k f).find? k' = if k = k' then (t.find? k').map f else t.find? k' := by
  unfold update
  split
  · next hnone =>
    split
    · next hk => simp [← hk, hnone]
    · rfl
  · next r hsome =>
    have hkey : key (f r) = k := (hf r).trans (find?_key hsome)
    rw [find?_set, hkey]
    split
    · next hk => simp [← hk, hsome]
    · rfl

/-- Overwriting a row twice. -/
theorem set_set (t : Table ρ key) {a b : ρ} (h : key a = key b) : (t.set a).set b = t.set b := by
  have hrows : ((t.rows.map fun x => if key x = key a then a else x).map
      fun x => if key x = key b then b else x) = t.rows.map fun x => if key x = key b then b else x := by
    rw [List.map_map]
    apply List.map_congr_left
    intro x _
    simp only [Function.comp_apply, ← h]
    by_cases hx : key x = key a <;> simp [hx]
  simp only [set, hrows]

/-- A change that is taken back leaves the table as it was. -/
theorem update_cancel (t : Table ρ key) (k : κ) {f g : ρ → ρ} (hf : ∀ r, key (f r) = key r)
    (hgf : ∀ r, g (f r) = r) : (t.update k f).update k g = t := by
  have hfind := find?_update t k k hf
  rw [if_pos rfl] at hfind
  cases hr : t.find? k with
  | none =>
    rw [hr] at hfind
    have hfirst : t.update k f = t := by rw [update, hr]
    rw [hfirst, update, hr]
  | some r =>
    rw [hr] at hfind
    have hkey := find?_key hr
    have hsecond : (t.update k f).update k g = (t.update k f).set (g (f r)) := by
      rw [update, hfind]
      rfl
    have hfirst : t.update k f = t.set (f r) := by rw [update, hr]
    rw [hsecond, hfirst, hgf, set_set t (hf r), set_of_find? (hkey ▸ hr)]

theorem mem_update {t : Table ρ key} {k : κ} {f : ρ → ρ} {r : ρ}
    (h : r ∈ (t.update k f).rows) : r ∈ t.rows ∨ ∃ r₀ ∈ t.rows, r = f r₀ := by
  unfold update at h
  split at h
  · exact .inl h
  · next r₀ hr₀ =>
    rcases mem_set h with rfl | ⟨h, -⟩
    · exact .inr ⟨r₀, find?_mem hr₀, rfl⟩
    · exact .inl h

/-- Rows read at first and written back by key, one after the other. -/
theorem find?_foldl_update [DecidableEq ρ] {g : ρ → ρ → ρ} (hg : ∀ a r, key (g a r) = key r)
    {t : Table ρ key} {copies : List ρ} (hmem : ∀ c ∈ copies, c ∈ t.rows)
    (hnodup : (copies.map key).Nodup) (k : κ) :
    (copies.foldl (fun t c => t.update (key c) (g c)) t).find? k =
      (t.find? k).map fun r => if r ∈ copies then g r r else r := by
  induction copies generalizing t with
  | nil => simp
  | cons c cs ih =>
    rw [List.map_cons, List.nodup_cons] at hnodup
    have hc := find?_of_mem (hmem c List.mem_cons_self)
    have hfresh : ∀ r, key r = key c → r ∉ cs := fun r hr hcs =>
      hnodup.1 (hr ▸ List.mem_map_of_mem hcs)
    have hrest : ∀ x ∈ cs, x ∈ (t.update (key c) (g c)).rows := by
      intro x hx
      have hne : key c ≠ key x := fun h => hfresh x h.symm hx
      apply find?_mem (k := key x)
      rw [find?_update t _ _ (hg c), if_neg hne]
      exact find?_of_mem (hmem x (List.mem_cons_of_mem c hx))
    rw [List.foldl_cons, ih hrest hnodup.2, find?_update t _ _ (hg c)]
    by_cases hk : key c = k
    · -- the row that was written first is not written again
      subst hk
      simp [hc, hfresh (g c c) (hg c c)]
    · rw [if_neg hk]
      cases hr : t.find? k with
      | none => rfl
      | some r =>
        have hrc : r ≠ c := fun h => hk (h ▸ find?_key hr)
        simp [hrc]

theorem mem_foldl_update [DecidableEq ρ] {g : ρ → ρ → ρ} (hg : ∀ a r, key (g a r) = key r)
    {t : Table ρ key} {copies : List ρ} (hmem : ∀ c ∈ copies, c ∈ t.rows)
    (hnodup : (copies.map key).Nodup) {x : ρ} :
    x ∈ (copies.foldl (fun t c => t.update (key c) (g c)) t).rows ↔
      ∃ r ∈ t.rows, x = if r ∈ copies then g r r else r := by
  constructor
  · intro hx
    have hfind := find?_of_mem hx
    rw [find?_foldl_update hg hmem hnodup, Option.map_eq_some_iff] at hfind
    obtain ⟨r, hr, hrx⟩ := hfind
    exact ⟨r, find?_mem hr, hrx.symm⟩
  · rintro ⟨r, hr, rfl⟩
    apply find?_mem (k := key r)
    rw [find?_foldl_update hg hmem hnodup, find?_of_mem hr]
    rfl

theorem mem_of_mem_upsert {t : Table ρ key} {r x : ρ} (h : x ∈ (t.upsert r).rows) :
    x = r ∨ x ∈ t.rows := by
  rcases mem_set h with rfl | ⟨h, -⟩
  · exact .inl rfl
  · exact (mem_of_mem_insert h).symm

/-! ## Bulk update and deletion -/

/-- Change every row; keys stay as they are. -/
def mapRows (t : Table ρ key) (f : ρ → ρ) (hf : ∀ r, key (f r) = key r) : Table ρ key :=
  ⟨t.rows.map f, by
    have hkeys : (t.rows.map f).map key = t.rows.map key := by
      rw [List.map_map]
      exact List.map_congr_left fun r _ => hf r
    rw [hkeys]
    exact t.nodup⟩

theorem find?_mapRows (t : Table ρ key) {f : ρ → ρ} (hf : ∀ r, key (f r) = key r) (k : κ) :
    (t.mapRows f hf).find? k = (t.find? k).map f := by
  unfold find? mapRows
  rw [List.find?_map]
  congr 2
  funext r
  simp [hf]

omit [DecidableEq κ] in
theorem mem_mapRows {t : Table ρ key} {f : ρ → ρ} {hf : ∀ r, key (f r) = key r} {r : ρ} :
    r ∈ (t.mapRows f hf).rows ↔ ∃ x ∈ t.rows, f x = r := by
  simp [mapRows]

omit [DecidableEq κ] in
/-- A bulk update that changes no row. -/
theorem mapRows_eq_self {t : Table ρ key} {f : ρ → ρ} {hf : ∀ r, key (f r) = key r}
    (h : ∀ r ∈ t.rows, f r = r) : t.mapRows f hf = t := by
  have hrows : t.rows.map f = t.rows := (List.map_congr_left h).trans (List.map_id _)
  cases t
  simp only [mapRows, hrows]

omit [DecidableEq κ] in
/-- Raising the summand of every row that satisfies `p` by one amount. -/
theorem sum_mapRows_add {β : Type w} [AddCommMonoid β] (t : Table ρ key) {g : ρ → ρ}
    (hg : ∀ r, key (g r) = key r) (p : ρ → Bool) {f : ρ → β} {x : β}
    (hf : ∀ r, f (g r) = f r + if p r then x else 0) :
    (t.mapRows g hg).sum f = t.sum f + (t.rows.countP p) • x := by
  simp only [sum, mapRows, List.map_map]
  induction t.rows with
  | nil => simp
  | cons r rs ih =>
    rw [List.map_cons, List.map_cons, List.sum_cons, List.sum_cons, ih, List.countP_cons]
    simp only [Function.comp_apply, hf]
    cases p r <;> simp [add_smul] <;> abel

/-- Keep the rows that satisfy `p`: `DELETE` of the others. -/
def filterRows (t : Table ρ key) (p : ρ → Bool) : Table ρ key :=
  ⟨t.rows.filter p, t.nodup.sublist (List.filter_sublist.map key)⟩

omit [DecidableEq κ] in
theorem mem_filterRows {t : Table ρ key} {p : ρ → Bool} {r : ρ} :
    r ∈ (t.filterRows p).rows ↔ r ∈ t.rows ∧ p r = true := by
  simp [filterRows]

/-- Inserting rows one by one, where rows with equal keys are equal: `INSERT ... ON CONFLICT DO
    NOTHING` of a batch. -/
theorem mem_foldl_insert {t : Table ρ key} {l : List ρ}
    (h : ∀ x ∈ l, ∀ y, y ∈ l ∨ y ∈ t.rows → key y = key x → y = x) {r : ρ} :
    r ∈ (l.foldl insert t).rows ↔ r ∈ t.rows ∨ r ∈ l := by
  induction l generalizing t with
  | nil => simp
  | cons x xs ih =>
    -- after the insertion, the row with the key of `x` is `x`
    have hinsert : ∀ y, y ∈ (t.insert x).rows ↔ y ∈ t.rows ∨ y = x := by
      intro y
      cases hf : t.find? (key x) with
      | none => exact mem_insert hf
      | some r' =>
        have hx : r' = x := h x List.mem_cons_self r' (.inr (find?_mem hf)) (find?_key hf)
        rw [insert_of_find?_some hf]
        constructor
        · exact .inl
        · rintro (hy | rfl)
          · exact hy
          · exact hx ▸ find?_mem hf
    rw [List.foldl_cons, ih, hinsert, List.mem_cons, or_assoc]
    intro y hy z hz hkey
    refine h y (List.mem_cons_of_mem x hy) z ?_ hkey
    rcases hz with hz | hz
    · exact .inl (List.mem_cons_of_mem x hz)
    · rcases (hinsert z).mp hz with hz | rfl
      · exact .inr hz
      · exact .inl List.mem_cons_self

/-- Delete the row with key `k`. -/
def erase (t : Table ρ key) (k : κ) : Table ρ key :=
  ⟨t.rows.filter fun r => key r ≠ k, t.nodup.sublist (List.filter_sublist.map key)⟩

/-- Deleting a row takes its summand away. -/
theorem sum_erase {β : Type w} [AddCommGroup β] {t : Table ρ key} {k : κ} {r : ρ} (f : ρ → β)
    (h : t.find? k = some r) : (t.erase k).sum f = t.sum f - f r := by
  obtain ⟨l₁, l₂, hrows, hne⟩ := rows_split h
  have hkeep : ∀ l : List ρ, (∀ x ∈ l, key x ≠ k) → l.filter (fun r => key r ≠ k) = l := by
    intro l hl
    simpa using hl
  have h₁ := hkeep l₁ fun x hx => hne x (by simp [hx])
  have h₂ := hkeep l₂ fun x hx => hne x (by simp [hx])
  simp only [sum, erase, hrows, List.filter_append, h₁, List.map_append, List.sum_append,
    List.map_cons, List.sum_cons]
  rw [List.filter_cons_of_neg (by simp [find?_key h]), h₂]
  abel

theorem mem_erase {t : Table ρ key} {k : κ} {r : ρ} :
    r ∈ (t.erase k).rows ↔ r ∈ t.rows ∧ key r ≠ k := by
  simp [erase]

/-! ## Auto-increment keys -/

/-- One more than the largest key in use. -/
def nextId {ρ : Type u} {key : ρ → Nat} (t : Table ρ key) : Nat :=
  (t.rows.map key).foldr max 0 + 1

theorem lt_nextId {ρ : Type u} {key : ρ → Nat} {t : Table ρ key} {r : ρ} (h : r ∈ t.rows) :
    key r < t.nextId := by
  simp only [nextId]
  have hle : ∀ l : List Nat, key r ∈ l → key r ≤ l.foldr max 0 := by
    intro l hl
    induction l with
    | nil => simp at hl
    | cons x xs ih =>
      rw [List.foldr_cons]
      rcases List.mem_cons.mp hl with heq | htail
      · omega
      · have := ih htail
        omega
  have := hle _ (List.mem_map_of_mem h)
  omega

theorem nextId_fresh {ρ : Type u} {key : ρ → Nat} (t : Table ρ key) : t.find? t.nextId = none := by
  rw [find?_eq_none_iff]
  intro r hr
  have := lt_nextId hr
  omega

/-! ## Upsert on another unique column -/

section UpsertOn

variable {ρ : Type u} {key : ρ → Nat} {γ : Type w} [DecidableEq γ] {col : ρ → γ}

/-- Two rows with one value of the column are one row. -/
def UniqueOn (t : Table ρ key) (col : ρ → γ) : Prop :=
  ∀ a ∈ t.rows, ∀ b ∈ t.rows, col a = col b → a = b

/-- Change the row that has value `v` in the column, or insert a new row under the next key:
    `INSERT ... ON CONFLICT (col) DO UPDATE`. -/
def upsertOn (t : Table ρ key) (col : ρ → γ) (v : γ) (f : ρ → ρ) (new : Nat → ρ) : Table ρ key :=
  match t.rows.find? fun r => col r = v with
  | some r => t.set (f r)
  | none => t.insert (new t.nextId)

theorem upsertOn_eq_set {t : Table ρ key} (h : t.UniqueOn col) {f : ρ → ρ} {new : Nat → ρ} {r : ρ}
    (hr : r ∈ t.rows) : t.upsertOn col (col r) f new = t.set (f r) := by
  unfold upsertOn
  split
  · next r₀ hr₀ =>
    have hcol : col r₀ = col r := by simpa using List.find?_some hr₀
    rw [h r₀ (List.mem_of_find?_eq_some hr₀) r hr hcol]
  · next hnone =>
    have hne := List.find?_eq_none.mp hnone r hr
    simp at hne

theorem upsertOn_eq_insert {t : Table ρ key} {v : γ} {f : ρ → ρ} {new : Nat → ρ}
    (h : ∀ r ∈ t.rows, col r ≠ v) : t.upsertOn col v f new = t.insert (new t.nextId) := by
  have hnone : (t.rows.find? fun r => col r = v) = none := by
    rw [List.find?_eq_none]
    intro r hr
    simpa using h r hr
  simp only [upsertOn, hnone]

theorem mem_of_mem_upsertOn {t : Table ρ key} {v : γ} {f : ρ → ρ} {new : Nat → ρ} {r : ρ}
    (h : r ∈ (t.upsertOn col v f new).rows) :
    r ∈ t.rows ∨ (∃ r₀ ∈ t.rows, r = f r₀) ∨ r = new t.nextId := by
  unfold upsertOn at h
  split at h
  · next r₀ hr₀ =>
    rcases mem_set h with rfl | ⟨h, -⟩
    · exact .inr (.inl ⟨r₀, List.mem_of_find?_eq_some hr₀, rfl⟩)
    · exact .inl h
  · rcases mem_of_mem_insert h with h | rfl
    · exact .inl h
    · exact .inr (.inr rfl)

/-- The rows after an upsert: the others, and the one row with the value. -/
theorem mem_upsertOn {t : Table ρ key} (h : t.UniqueOn col) {v : γ} {f : ρ → ρ} {new : Nat → ρ}
    (hf : ∀ r, key (f r) = key r) (hnew : ∀ n, key (new n) = n) {r : ρ} :
    r ∈ (t.upsertOn col v f new).rows ↔
      (r ∈ t.rows ∧ col r ≠ v) ∨ (∃ r₀ ∈ t.rows, col r₀ = v ∧ r = f r₀) ∨
        ((∀ x ∈ t.rows, col x ≠ v) ∧ r = new t.nextId) := by
  by_cases hex : ∃ r₀ ∈ t.rows, col r₀ = v
  · obtain ⟨r₀, hr₀, rfl⟩ := hex
    rw [upsertOn_eq_set h hr₀]
    have hself : t.find? (key (f r₀)) = some r₀ := by
      rw [hf]
      exact find?_of_mem hr₀
    constructor
    · intro hr
      rcases mem_set hr with rfl | ⟨hmem, hne⟩
      · exact .inr (.inl ⟨r₀, hr₀, rfl, rfl⟩)
      · refine .inl ⟨hmem, ?_⟩
        intro hc
        rw [h r hmem r₀ hr₀ hc, hf] at hne
        exact hne rfl
    · rintro (⟨hmem, hne⟩ | ⟨x, hx, hxc, rfl⟩ | ⟨hnone, -⟩)
      · refine mem_set_of_ne hmem ?_
        intro hk
        rw [hf] at hk
        exact hne (congrArg col (t.eq_of_key_eq hmem hr₀ hk))
      · rw [h x hx r₀ hr₀ hxc]
        exact mem_set_self hself
      · exact absurd rfl (hnone r₀ hr₀)
  · have hnone : ∀ x ∈ t.rows, col x ≠ v := fun x hx hc => hex ⟨x, hx, hc⟩
    have hfresh : t.find? (key (new t.nextId)) = none := by
      rw [hnew]
      exact t.nextId_fresh
    rw [upsertOn_eq_insert hnone, mem_insert hfresh]
    constructor
    · rintro (hmem | rfl)
      · exact .inl ⟨hmem, hnone r hmem⟩
      · exact .inr (.inr ⟨hnone, rfl⟩)
    · rintro (⟨hmem, -⟩ | ⟨x, hx, hxc, -⟩ | ⟨-, rfl⟩)
      · exact .inl hmem
      · exact absurd hxc (hnone x hx)
      · exact .inr rfl

theorem UniqueOn.upsertOn {t : Table ρ key} (h : t.UniqueOn col) {v : γ} {f : ρ → ρ}
    {new : Nat → ρ} (hf : ∀ r, key (f r) = key r) (hcol : ∀ r, col (f r) = col r)
    (hnew : ∀ n, key (new n) = n) (hv : ∀ n, col (new n) = v) :
    (t.upsertOn col v f new).UniqueOn col := by
  intro a ha b hb hab
  rw [mem_upsertOn h hf hnew] at ha hb
  rcases ha with ⟨ha, hav⟩ | ⟨a₀, ha₀, hav, rfl⟩ | ⟨hnone, rfl⟩ <;>
    rcases hb with ⟨hb, hbv⟩ | ⟨b₀, hb₀, hbv, rfl⟩ | ⟨hnone', rfl⟩
  · exact h a ha b hb hab
  · exact absurd (hab.trans ((hcol b₀).trans hbv)) hav
  · exact absurd (hab.trans (hv _)) hav
  · exact absurd (hab.symm.trans ((hcol a₀).trans hav)) hbv
  · rw [h a₀ ha₀ b₀ hb₀ (hav.trans hbv.symm)]
  · exact absurd hav (hnone' a₀ ha₀)
  · exact absurd (hab.symm.trans (hv _)) hbv
  · exact absurd hbv (hnone b₀ hb₀)
  · rfl

omit [DecidableEq γ] in
theorem uniqueOn_empty : (empty : Table ρ key).UniqueOn col := by
  intro a ha
  simp at ha

omit [DecidableEq γ] in
/-- Overwriting a row without changing the column keeps the column unique. -/
theorem UniqueOn.set {t : Table ρ key} (h : t.UniqueOn col) {r r' : ρ}
    (hr : t.find? (key r) = some r') (hcol : col r = col r') : (t.set r).UniqueOn col := by
  intro a ha b hb hab
  have hr' := find?_mem hr
  have hkey := find?_key hr
  rcases mem_set ha with har | ⟨ha, hka⟩ <;> rcases mem_set hb with hbr | ⟨hb, hkb⟩
  · rw [har, hbr]
  · rw [h b hb r' hr' (hab.symm.trans (har ▸ hcol))] at hkb
    exact absurd hkey hkb
  · rw [h a ha r' hr' (hab.trans (hbr ▸ hcol))] at hka
    exact absurd hkey hka
  · exact h a ha b hb hab

end UpsertOn

end Table

/-! ## Upserting a batch of rows

`INSERT ... ON CONFLICT (col) DO UPDATE` for every row of a batch, in a table whose primary key
is assigned on insert and kept on update.
-/

namespace Table

variable {ρ : Type u} {key : ρ → Nat} {γ : Type w} [DecidableEq γ] {col : ρ → γ}
  {withKey : ρ → Nat → ρ}

/-- The upsert of one row. -/
def upsertRow (col : ρ → γ) (withKey : ρ → Nat → ρ) (t : Table ρ key) (r : ρ) : Table ρ key :=
  t.upsertOn col (col r) (fun old => withKey r (key old)) (withKey r)

/-- The upsert of a batch. -/
def upsertAll (col : ρ → γ) (withKey : ρ → Nat → ρ) (t : Table ρ key) (rs : List ρ) :
    Table ρ key :=
  rs.foldl (upsertRow col withKey) t

/-- The primary key is a column of its own. -/
structure KeyColumn (key : ρ → Nat) (col : ρ → γ) (withKey : ρ → Nat → ρ) : Prop where
  key_withKey : ∀ r n, key (withKey r n) = n
  col_withKey : ∀ r n, col (withKey r n) = col r
  withKey_withKey : ∀ r n m, withKey (withKey r n) m = withKey r m

/-- The table after the batch `rs`. -/
structure Upserted (col : ρ → γ) (withKey : ρ → Nat → ρ) (t : Table ρ key) (rs : List ρ)
    (t' : Table ρ key) : Prop where
  unique : t'.UniqueOn col
  mem : ∀ x ∈ t'.rows, (x ∈ t.rows ∧ col x ∉ rs.map col) ∨ ∃ r ∈ rs, ∃ n, x = withKey r n
  kept : ∀ x ∈ t.rows, col x ∉ rs.map col → x ∈ t'.rows
  written : ∀ r ∈ rs, ∃ n, withKey r n ∈ t'.rows

/-- What the upsert of one row leaves of a table. -/
theorem mem_upsertRow (hk : KeyColumn key col withKey) {t : Table ρ key} (h : t.UniqueOn col)
    {r x : ρ} : x ∈ (t.upsertRow col withKey r).rows ↔
      (x ∈ t.rows ∧ col x ≠ col r) ∨ (∃ old ∈ t.rows, col old = col r ∧ x = withKey r (key old)) ∨
        ((∀ old ∈ t.rows, col old ≠ col r) ∧ x = withKey r t.nextId) :=
  mem_upsertOn h (fun old => hk.key_withKey r (key old)) (hk.key_withKey r)

theorem UniqueOn.upsertRow (hk : KeyColumn key col withKey) {t : Table ρ key} (h : t.UniqueOn col)
    (r : ρ) : (t.upsertRow col withKey r).UniqueOn col := by
  -- the only row with the value of `r` is the one that was written
  have hrow : ∀ x ∈ (t.upsertRow col withKey r).rows, (x ∈ t.rows ∧ col x ≠ col r) ∨
      (col x = col r ∧ ∀ y ∈ (t.upsertRow col withKey r).rows, col y = col r → x = y) := by
    intro x hx
    rcases (mem_upsertRow hk h).mp hx with hold | ⟨old, hold, hcol, rfl⟩ | ⟨hnone, rfl⟩
    · exact .inl hold
    · refine .inr ⟨hk.col_withKey _ _, fun y hy hcoly => ?_⟩
      rcases (mem_upsertRow hk h).mp hy with ⟨-, hne⟩ | ⟨old', hold', hcol', rfl⟩ | ⟨hnone, -⟩
      · exact absurd hcoly hne
      · rw [h old hold old' hold' (hcol.trans hcol'.symm)]
      · exact absurd hcol (hnone old hold)
    · refine .inr ⟨hk.col_withKey _ _, fun y hy hcoly => ?_⟩
      rcases (mem_upsertRow hk h).mp hy with ⟨-, hne⟩ | ⟨old, hold, hcol, -⟩ | ⟨-, rfl⟩
      · exact absurd hcoly hne
      · exact absurd hcol (hnone old hold)
      · rfl
  intro a ha b hb hab
  rcases hrow a ha with ⟨hmem, hne⟩ | ⟨hcol, hone⟩
  · rcases hrow b hb with ⟨hmem', -⟩ | ⟨hcol', -⟩
    · exact h a hmem b hmem' hab
    · exact absurd (hab.trans hcol') hne
  · exact hone b hb (hab.symm.trans hcol)

theorem Upserted.concat (hk : KeyColumn key col withKey) {t t' : Table ρ key} {rs : List ρ} {r : ρ}
    (h : Upserted col withKey t rs t') (hr : col r ∉ rs.map col) :
    Upserted col withKey t (rs ++ [r]) (t'.upsertRow col withKey r) := by
  have hcols : ∀ c, c ∈ (rs ++ [r]).map col ↔ c ∈ rs.map col ∨ c = col r := by simp
  constructor
  · exact h.unique.upsertRow hk r
  · intro x hx
    rcases (mem_upsertRow hk h.unique).mp hx with ⟨hmem, hne⟩ | ⟨old, -, -, rfl⟩ | ⟨-, rfl⟩
    · rcases h.mem x hmem with ⟨hold, hcol⟩ | ⟨r', hr', hx'⟩
      · refine .inl ⟨hold, fun hc => ?_⟩
        rcases (hcols _).mp hc with hc | hc
        · exact hcol hc
        · exact hne hc
      · exact .inr ⟨r', List.mem_append_left _ hr', hx'⟩
    · exact .inr ⟨r, by simp, _, rfl⟩
    · exact .inr ⟨r, by simp, _, rfl⟩
  · intro x hx hcol
    rw [hcols, not_or] at hcol
    exact (mem_upsertRow hk h.unique).mpr (.inl ⟨h.kept x hx hcol.1, hcol.2⟩)
  · intro r' hr'
    rcases List.mem_append.mp hr' with hold | hlast
    · obtain ⟨n, hn⟩ := h.written r' hold
      refine ⟨n, (mem_upsertRow hk h.unique).mpr (.inl ⟨hn, fun hc => ?_⟩)⟩
      rw [hk.col_withKey] at hc
      exact hr (hc ▸ List.mem_map_of_mem hold)
    · obtain rfl := List.mem_singleton.mp hlast
      by_cases hex : ∃ old ∈ t'.rows, col old = col r'
      · obtain ⟨old, hold, hcol⟩ := hex
        exact ⟨_, (mem_upsertRow hk h.unique).mpr (.inr (.inl ⟨old, hold, hcol, rfl⟩))⟩
      · refine ⟨_, (mem_upsertRow hk h.unique).mpr (.inr (.inr ⟨fun old hold hc => ?_, rfl⟩))⟩
        exact hex ⟨old, hold, hc⟩

/-- A batch of rows with different values. -/
theorem upsertAll_spec (hk : KeyColumn key col withKey) {t : Table ρ key} (h : t.UniqueOn col)
    {rs : List ρ} (hrs : (rs.map col).Nodup) :
    Upserted col withKey t rs (t.upsertAll col withKey rs) := by
  induction rs using List.reverseRecOn with
  | nil => exact ⟨h, fun x hx => .inl ⟨hx, List.not_mem_nil⟩, fun x hx _ => hx, fun r hr => nomatch hr⟩
  | append_singleton rs r ih =>
    rw [List.map_append, List.map_singleton, List.nodup_append] at hrs
    have hr : col r ∉ rs.map col := fun hmem => hrs.2.2 _ hmem _ (List.mem_singleton_self _) rfl
    unfold upsertAll at ih ⊢
    rw [List.foldl_append]
    exact (ih hrs.1).concat hk hr

omit [DecidableEq γ] in
/-- The rows with a value of the batch are the batch, up to the primary key. -/
theorem Upserted.perm (hk : KeyColumn key col withKey) {t t' : Table ρ key} {rs : List ρ}
    (h : Upserted col withKey t rs t') (hrs : (rs.map col).Nodup) {written : List ρ}
    (hnodup : written.Nodup) (hwritten : ∀ x, x ∈ written ↔ x ∈ t'.rows ∧ col x ∈ rs.map col)
    (n : Nat) : (written.map fun x => withKey x n).Perm (rs.map fun r => withKey r n) := by
  have hcol : ∀ a b, withKey a n = withKey b n → col a = col b := by
    intro a b hab
    rw [← hk.col_withKey a n, hab, hk.col_withKey]
  rw [List.perm_ext_iff_of_nodup]
  · intro x
    rw [List.mem_map, List.mem_map]
    constructor
    · rintro ⟨y, hy, rfl⟩
      obtain ⟨hmem, hcoly⟩ := (hwritten y).mp hy
      rcases h.mem y hmem with ⟨-, hnot⟩ | ⟨r, hr, m, rfl⟩
      · exact absurd hcoly hnot
      · exact ⟨r, hr, (hk.withKey_withKey r m n).symm⟩
    · rintro ⟨r, hr, rfl⟩
      obtain ⟨m, hm⟩ := h.written r hr
      refine ⟨withKey r m, (hwritten _).mpr ⟨hm, ?_⟩, hk.withKey_withKey r m n⟩
      rw [hk.col_withKey]
      exact List.mem_map_of_mem hr
  · refine List.Nodup.map_on ?_ hnodup
    intro a ha b hb hab
    exact h.unique a ((hwritten a).mp ha).1 b ((hwritten b).mp hb).1 (hcol a b hab)
  · refine List.Nodup.map_on ?_ (List.Nodup.of_map _ hrs)
    intro a ha b hb hab
    exact List.inj_on_of_nodup_map hrs ha hb (hcol a b hab)

end Table
