import Mathlib.Data.List.AList
import TokenRouter.Common
import TokenRouter.ForStd.Split

/-!
# Namespaced caches (`pkg/cachex`)

A cache over Redis or memory whose keys carry a namespace. The cache is a map: entries do not
expire here and are not evicted. The `MATCH` option of Redis is a parameter.
-/

namespace TokenRouter.Cachex

/-- `Namespace` -/
abbrev Namespace := List Char

namespace Namespace

/-- `prefix` -/
def nsPrefix (n : Namespace) : List Char :=
  let ns := (List.trimBy isSpace n).rdropWhile (· = ':')
  if ns = [] then [] else ns ++ [':']

/-- `FullKey` -/
def fullKey (n : Namespace) (key : List Char) : List Char :=
  let key := key.trimBy isSpace
  if key = [] then []
  else
    let p := n.nsPrefix
    if p = [] then key.dropWhile (· = ':')
    else if p <+: key then key
    else p ++ key.dropWhile (· = ':')

/-! ### Keys in full form -/

variable {n : Namespace} {p t : List Char}

theorem fullKey_of_trimmed {key : List Char} (htrim : key.trimBy isSpace = key) (hne : key ≠ [])
    (hp : n.nsPrefix = p) (hpne : p ≠ []) :
    n.fullKey key = if p <+: key then key else p ++ key.dropWhile (· = ':') := by
  simp only [fullKey, htrim, hp, if_neg hne, if_neg hpne]

/-- A text behind the namespace is a full key. -/
theorem fullKey_append (hp : n.nsPrefix = p) (hpne : p ≠ []) (hstart : p.dropWhile isSpace = p)
    (ht : t.rdropWhile isSpace = t) (htne : t ≠ []) : n.fullKey (p ++ t) = p ++ t := by
  have hne : p ++ t ≠ [] := by simp [hpne]
  have hdrop : (p ++ t).dropWhile isSpace = p ++ t := by
    rw [List.dropWhile_append, hstart, if_neg (by simpa using hpne)]
  have htrim : (p ++ t).trimBy isSpace = p ++ t := by
    rw [List.trimBy, hdrop, List.rdropWhile_eq_self_iff]
    intro hl
    rw [List.getLast_append_of_ne_nil hl htne]
    exact List.rdropWhile_eq_self_iff.mp ht htne
  rw [fullKey_of_trimmed htrim hne hp hpne, if_pos (List.prefix_append p t)]

/-- When a text is the full key of itself behind the namespace: nothing is cut off its start and it
    is not taken for a full key. -/
theorem fullKey_eq_append_iff (hp : n.nsPrefix = p) (hpne : p ≠ [])
    (ht : t.rdropWhile isSpace = t) (htne : t ≠ []) :
    n.fullKey t = p ++ t ↔
      t.dropWhile isSpace = t ∧ t.dropWhile (· = ':') = t ∧ ¬p <+: t := by
  have hppos : 0 < p.length := List.length_pos_iff.mpr hpne
  constructor
  · intro h
    have htrimlen : (t.trimBy isSpace).length ≤ t.length :=
      ((List.rdropWhile_prefix _ _).length_le).trans (List.dropWhile_suffix _).length_le
    have hcut : ((t.trimBy isSpace).dropWhile (· = ':')).length ≤ (t.trimBy isSpace).length :=
      (List.dropWhile_suffix _).length_le
    have hlen := congrArg List.length h
    simp only [fullKey, hp, if_neg hpne] at h hlen
    -- Every other branch makes the key too short.
    split at h
    · simp [hpne] at h
    rename_i hne
    split at h
    · rename_i hpre
      rw [if_neg hne, if_pos hpre, List.length_append] at hlen
      omega
    rename_i hpre
    have hdrop : (t.trimBy isSpace).dropWhile (· = ':') = t := List.append_cancel_left h
    rw [hdrop] at hcut
    have hspace : t.dropWhile isSpace = t := by
      apply (List.dropWhile_suffix _).eq_of_length
      have hle := (List.dropWhile_suffix isSpace (l := t)).length_le
      have htrimle : (t.trimBy isSpace).length ≤ (t.dropWhile isSpace).length :=
        (List.rdropWhile_prefix _ _).length_le
      omega
    have htrim : t.trimBy isSpace = t := by rw [List.trimBy, hspace, ht]
    rw [htrim] at hdrop hpre
    exact ⟨hspace, hdrop, hpre⟩
  · rintro ⟨hspace, hcolon, hpre⟩
    have htrim : t.trimBy isSpace = t := by rw [List.trimBy, hspace, ht]
    rw [fullKey_of_trimmed htrim htne hp hpne, if_neg hpre, hcolon]

end Namespace

/-- `HybridCache`; an entry is stored with its time to live. -/
structure HybridCache (V : Type) where
  ns : Namespace
  redisOn : Bool
  entries : AList fun _ : List Char => V × Int

namespace HybridCache

variable {V : Type}

/-- `Get` -/
def get (c : HybridCache V) (key : List Char) : Option V :=
  let full := c.ns.fullKey key
  if full = [] then none else (c.entries.lookup full).map Prod.fst

/-- `SetWithTTL` -/
def setWithTTL (c : HybridCache V) (key : List Char) (v : V) (ttl : Int) : HybridCache V :=
  let full := c.ns.fullKey key
  if full = [] then c else { c with entries := c.entries.insert full (v, ttl) }

/-- `Unlink` in Redis, a deletion in memory: whether the key was there. -/
def deleteKey (c : HybridCache V) (key : List Char) : HybridCache V × Bool :=
  ({ c with entries := c.entries.erase key }, decide (key ∈ c.entries))

/-- The loop of `DeleteMany` over full keys. -/
def deleteKeys (res : AList fun _ : List Char => Bool) (c : HybridCache V) :
    List (List Char) → HybridCache V × AList fun _ : List Char => Bool
  | [] => (c, res)
  | key :: keys => deleteKeys (res.insert key (c.deleteKey key).2) (c.deleteKey key).1 keys

/-- `DeleteMany` -/
def deleteMany (c : HybridCache V) (keys : List (List Char)) :
    HybridCache V × AList fun _ : List Char => Bool :=
  c.deleteKeys ∅ ((keys.map c.ns.fullKey).filter (· ≠ []))

/-- What `DeleteByPrefix` compares keys with. -/
def deletePattern (n : Namespace) (keyPrefix : List Char) : List Char :=
  let fullPrefix := n.fullKey keyPrefix
  if [':'] <:+ fullPrefix then fullPrefix else fullPrefix ++ [':']

/-- Whether `DeleteByPrefix` deletes a key. -/
def isDeleted (redisMatch : List Char → List Char → Bool) (redisOn : Bool) (pattern key : List Char) :
    Bool :=
  if redisOn then redisMatch (pattern ++ ['*']) key else pattern.isPrefixOf key

/-- `DeleteByPrefix` -/
def deleteByPrefix (redisMatch : List Char → List Char → Bool) (c : HybridCache V)
    (keyPrefix : List Char) : HybridCache V × Nat :=
  if c.ns.fullKey keyPrefix = [] then (c, 0)
  else
    let pattern := deletePattern c.ns keyPrefix
    let keys := c.entries.keys.filter (isDeleted redisMatch c.redisOn pattern)
    if keys = [] then (c, 0)
    else
      let (c, res) := c.deleteMany keys
      (c, res.keys.countP fun key => res.lookup key = some true)

/-! ## What the operations do to the map -/

@[simp] theorem deleteKey_ns (c : HybridCache V) (key : List Char) :
    (c.deleteKey key).1.ns = c.ns := rfl

@[simp] theorem deleteKey_redisOn (c : HybridCache V) (key : List Char) :
    (c.deleteKey key).1.redisOn = c.redisOn := rfl

theorem deleteKeys_frame (res : AList fun _ : List Char => Bool) (c : HybridCache V)
    (keys : List (List Char)) :
    (c.deleteKeys res keys).1.ns = c.ns ∧ (c.deleteKeys res keys).1.redisOn = c.redisOn := by
  induction keys generalizing c res with
  | nil => exact ⟨rfl, rfl⟩
  | cons key keys ih => exact ih _ _

theorem lookup_deleteKeys (res : AList fun _ : List Char => Bool) (c : HybridCache V)
    (keys : List (List Char)) (key : List Char) :
    (c.deleteKeys res keys).1.entries.lookup key =
      if key ∈ keys then none else c.entries.lookup key := by
  induction keys generalizing c res with
  | nil => simp [deleteKeys]
  | cons k keys ih =>
    rw [deleteKeys, ih]
    by_cases hmem : key ∈ keys
    · rw [if_pos hmem, if_pos (List.mem_cons_of_mem k hmem)]
    · rw [if_neg hmem]
      by_cases hkey : key = k
      · subst hkey
        rw [if_pos List.mem_cons_self]
        exact AList.lookup_erase _ _
      · have hnot : key ∉ k :: keys := by simp [hkey, hmem]
        rw [if_neg hnot]
        exact AList.lookup_erase_ne hkey

@[simp] theorem setWithTTL_ns (c : HybridCache V) (key : List Char) (v : V) (ttl : Int) :
    (c.setWithTTL key v ttl).ns = c.ns := by
  simp only [setWithTTL]
  split <;> rfl

@[simp] theorem setWithTTL_redisOn (c : HybridCache V) (key : List Char) (v : V) (ttl : Int) :
    (c.setWithTTL key v ttl).redisOn = c.redisOn := by
  simp only [setWithTTL]
  split <;> rfl

theorem get_of_fullKey {c : HybridCache V} {key full : List Char} (hfull : c.ns.fullKey key = full)
    (hne : full ≠ []) : c.get key = (c.entries.lookup full).map Prod.fst := by
  subst hfull
  simp only [get, if_neg hne]

theorem lookup_setWithTTL {c : HybridCache V} {key full : List Char} {v : V} {ttl : Int}
    (hfull : c.ns.fullKey key = full) (hne : full ≠ []) (key' : List Char) :
    (c.setWithTTL key v ttl).entries.lookup key' =
      if key' = full then some (v, ttl) else c.entries.lookup key' := by
  subst hfull
  simp only [setWithTTL, if_neg hne]
  split
  · rename_i hkey
    rw [hkey, AList.lookup_insert]
  · rename_i hkey
    exact AList.lookup_insert_ne hkey

theorem deleteByPrefix_frame (redisMatch : List Char → List Char → Bool) (c : HybridCache V)
    (keyPrefix : List Char) : (deleteByPrefix redisMatch c keyPrefix).1.ns = c.ns ∧
      (deleteByPrefix redisMatch c keyPrefix).1.redisOn = c.redisOn := by
  simp only [deleteByPrefix]
  split
  · exact ⟨rfl, rfl⟩
  · split
    · exact ⟨rfl, rfl⟩
    · exact deleteKeys_frame _ _ _

/-- A deletion by prefix from a cache whose keys are full keys. -/
theorem lookup_deleteByPrefix {redisMatch : List Char → List Char → Bool} {c : HybridCache V}
    {keyPrefix : List Char} (hfull : ∀ key ∈ c.entries, c.ns.fullKey key = key ∧ key ≠ [])
    (hstart : c.ns.fullKey keyPrefix ≠ []) (key : List Char) :
    (deleteByPrefix redisMatch c keyPrefix).1.entries.lookup key =
      if isDeleted redisMatch c.redisOn (deletePattern c.ns keyPrefix) key then none
      else c.entries.lookup key := by
  simp only [deleteByPrefix, if_neg hstart]
  generalize hp : isDeleted redisMatch c.redisOn (deletePattern c.ns keyPrefix) = deleted
  generalize hkeys : c.entries.keys.filter deleted = keys
  have hmem : ∀ k, k ∈ keys ↔ k ∈ c.entries ∧ deleted k = true := by
    intro k
    rw [← hkeys, List.mem_filter, AList.mem_keys]
  have hdeleted : (if key ∈ keys then none else c.entries.lookup key) =
      if deleted key then none else c.entries.lookup key := by
    by_cases hk : key ∈ c.entries
    · simp only [hmem, hk, true_and]
    · have hnone := AList.lookup_eq_none.mpr hk
      simp only [hnone, ite_self]
  split
  · rename_i hnil
    rw [← hdeleted, hnil, if_neg List.not_mem_nil]
  · have hmap : keys.map c.ns.fullKey = keys :=
      List.map_congr_left (fun k hk => (hfull k ((hmem k).mp hk).1).1) |>.trans (List.map_id' keys)
    have hfilter : keys.filter (· ≠ []) = keys := by
      rw [List.filter_eq_self]
      intro k hk
      simpa using (hfull k ((hmem k).mp hk).1).2
    rw [← hdeleted]
    simp only [deleteMany]
    rw [lookup_deleteKeys, hmap, hfilter]

end HybridCache

end TokenRouter.Cachex
