import TokenRouter.Setting.ToolPrices

/-!
# The price of a tool is that of the longest prefix

A configuration names the price of a tool, and overrides it for models by a prefix of their name.
The keys `tool:gpt-4` and `tool:gpt-4*` set the same prefix, so only if they agree is there one
price to find.
-/

namespace TokenRouter.ToolPriceSetting

variable {prices : Prices} {toolName modelName : String}

/-! ## What a configuration says -/

/-- The price of a key: the configured one, else the built-in one. -/
def configured (prices : Prices) (key : String) : Option ℚ :=
  (prices.get? key).or ((defaultToolPriceOverrides.get? key).or (defaultToolPrices.get? key))

/-- A key that overrides the price of a tool for a model, with the prefix it sets. -/
def Overrides (prices : Prices) (toolName modelName key : String) (p : List Char) : Prop :=
  (configured prices key).isSome ∧ overridePrefix toolName key = some p ∧ p <+: modelName.toList

/-- An override with the longest prefix. -/
def Longest (prices : Prices) (toolName modelName key : String) : Prop :=
  ∃ p, Overrides prices toolName modelName key p ∧
    ∀ key' p', Overrides prices toolName modelName key' p' → p'.length ≤ p.length

/-- The model has an override. -/
def Overridden (prices : Prices) (toolName modelName : String) : Prop :=
  modelName ≠ "" ∧ ∃ key p, Overrides prices toolName modelName key p

/-- The price of the override with the longest prefix, else the default of the tool, else zero. -/
structure RightPrice (prices : Prices) (toolName modelName : String) (price : ℚ) : Prop where
  longest : Overridden prices toolName modelName →
    ∀ key, Longest prices toolName modelName key → configured prices key = some price
  default : ¬Overridden prices toolName modelName →
    price = if splitKey toolName = none then (configured prices toolName).getD 0 else 0

/-- The overrides with the longest prefix agree. -/
def LongestAgree (prices : Prices) (toolName modelName : String) : Prop :=
  modelName ≠ "" → ∀ key key', Longest prices toolName modelName key →
    Longest prices toolName modelName key' → configured prices key = configured prices key'

/-! ## The merged map -/

theorem get?_assignAll (entries m : Prices) (key : String) :
    (assignAll entries m).get? key = (entries.get? key).or (m.get? key) := by
  unfold assignAll
  induction entries with
  | nil => rfl
  | cons e entries ih =>
    obtain ⟨k, v⟩ := e
    rw [List.foldr_cons, GoMap.get?_cons]
    by_cases h : key = k
    · subst h
      simp
    · rw [GoMap.get?_set_ne _ _ h, ih, if_neg h]

theorem get?_merged (prices : Prices) (key : String) :
    (merged prices).get? key = configured prices key := by
  simp only [merged, get?_assignAll, configured, GoMap.get?_nil, Option.or_none]

theorem keys_set (m : Prices) (key : String) (value : ℚ) (k : String) :
    k ∈ (m.set key value).map Prod.fst ↔ k = key ∨ k ∈ m.map Prod.fst := by
  have hnone := GoMap.get?_eq_none_iff (m.set key value) k
  have hold := GoMap.get?_eq_none_iff m k
  by_cases h : k = key
  · subst h
    rw [GoMap.get?_set_self] at hnone
    simp only [true_or, iff_true]
    by_contra hmem
    cases hnone.mpr hmem
  · rw [GoMap.get?_set_ne m value h] at hnone
    simp only [h, false_or]
    exact not_iff_not.mp (hnone.symm.trans hold)

theorem sorted_set {m : Prices} (h : m.Sorted) (key : String) (value : ℚ) :
    (m.set key value).Sorted := by
  induction m with
  | nil => simp [GoMap.set, GoMap.Sorted]
  | cons e m ih =>
    obtain ⟨k, v⟩ := e
    obtain ⟨hk, hm⟩ := List.pairwise_cons.mp h
    unfold GoMap.set
    split
    · rename_i hlt
      refine List.pairwise_cons.mpr ⟨fun k' hk' => ?_, h⟩
      rcases List.mem_cons.mp hk' with rfl | hk'
      · exact hlt
      · exact hlt.trans (hk k' hk')
    · split
      · rename_i heq
        subst heq
        exact h
      · rename_i hge hne
        have hlt : k < key := lt_of_le_of_ne (not_lt.mp hge) (Ne.symm hne)
        refine List.pairwise_cons.mpr ⟨fun k' hk' => ?_, ih hm⟩
        rcases (keys_set m key value k').mp hk' with rfl | hk'
        · exact hlt
        · exact hk k' hk'

theorem sorted_assignAll (entries : Prices) {m : Prices} (h : m.Sorted) :
    (assignAll entries m).Sorted := by
  unfold assignAll
  induction entries with
  | nil => exact h
  | cons e entries ih => exact sorted_set ih e.1 e.2

theorem nodup_merged (prices : Prices) : ((merged prices).map Prod.fst).Nodup :=
  have hempty : GoMap.Sorted ([] : Prices) := List.Pairwise.nil
  (sorted_assignAll _ (sorted_assignAll _ (sorted_assignAll _ hempty))).imp fun h => h.ne

theorem mem_iff_get? {m : Prices} (hnodup : (m.map Prod.fst).Nodup) (key : String) (price : ℚ) :
    (key, price) ∈ m ↔ m.get? key = some price := by
  refine ⟨fun h => ?_, GoMap.mem_of_get?⟩
  induction m with
  | nil => cases h
  | cons e m ih =>
    obtain ⟨k, v⟩ := e
    obtain ⟨hk, hm⟩ := List.nodup_cons.mp hnodup
    rw [GoMap.get?_cons]
    rcases List.mem_cons.mp h with heq | hmem
    · cases heq
      rw [if_pos rfl]
    · have hne : key ≠ k := fun heq => hk (List.mem_map.mpr ⟨_, hmem, heq⟩)
      rw [if_neg hne]
      exact ih hm hmem

/-- An entry of the map in any order is what the configuration says. -/
theorem mem_order_iff {order : Prices} (horder : order.Perm (merged prices)) (key : String)
    (price : ℚ) : (key, price) ∈ order ↔ configured prices key = some price := by
  rw [horder.mem_iff, mem_iff_get? (nodup_merged prices), get?_merged]

/-! ## What the lookup finds -/

theorem byteLen_append (as bs : List Char) : byteLen (as ++ bs) = byteLen as + byteLen bs := by
  simp [byteLen]

theorem byteLen_le_of_prefix {p q : List Char} (h : p <+: q) : byteLen p ≤ byteLen q := by
  obtain ⟨rest, rfl⟩ := h
  rw [byteLen_append]
  omega

/-- Of two prefixes of one name the one with more bytes has at least as many characters. -/
theorem length_le_of_byteLen_le {p q name : List Char} (hp : p <+: name) (hq : q <+: name)
    (h : byteLen p ≤ byteLen q) : p.length ≤ q.length := by
  by_contra hlen
  obtain ⟨rest, rfl⟩ := List.prefix_of_prefix_length_le hq hp (by omega)
  cases rest with
  | nil => simp at hlen
  | cons c rest =>
    have hsum := byteLen_append q (c :: rest)
    have hc := Char.utf8Size_pos c
    have hcons : byteLen (c :: rest) = c.utf8Size + byteLen rest := by simp [byteLen]
    omega

theorem mem_toolEntries {order : Prices} {tool : String} {e : PrefixEntry} :
    e ∈ toolEntries order tool.toList ↔
      ∃ key, (key, e.price) ∈ order ∧ overridePrefix tool key = some e.entryPrefix := by
  unfold toolEntries
  rw [List.mem_filterMap]
  constructor
  · rintro ⟨⟨key, price⟩, hmem, he⟩
    simp only at he
    split at he
    · rename_i t modelPart hsplit
      split at he
      · rename_i htool
        cases he
        refine ⟨key, hmem, ?_⟩
        simp only [overridePrefix, hsplit, htool, if_true]
      · cases he
    · cases he
  · rintro ⟨key, hmem, hkey⟩
    refine ⟨(key, e.price), hmem, ?_⟩
    unfold overridePrefix at hkey
    split at hkey
    · rename_i t modelPart hsplit
      split at hkey
      · rename_i htool
        simp only [hsplit, htool, if_true, Option.some.inj hkey]
      · cases hkey
    · cases hkey

/-- The defaults of the index. -/
theorem get?_defaults {sort : List PrefixEntry → List PrefixEntry} {order : Prices}
    (horder : order.Perm (merged prices)) (toolName : String) :
    (rebuildToolPriceIndex sort order).defaults.get? toolName =
      if splitKey toolName = none then configured prices toolName else none := by
  have hnodup : (((rebuildToolPriceIndex sort order).defaults).map Prod.fst).Nodup := by
    have horderNodup : (order.map Prod.fst).Nodup :=
      (horder.map Prod.fst).nodup_iff.mpr (nodup_merged prices)
    exact horderNodup.sublist (List.filter_sublist.map Prod.fst)
  have hiff : ∀ price, (rebuildToolPriceIndex sort order).defaults.get? toolName = some price ↔
      configured prices toolName = some price ∧ splitKey toolName = none := by
    intro price
    rw [← mem_iff_get? hnodup, rebuildToolPriceIndex, List.mem_filter, mem_order_iff horder]
    simp
  apply Option.ext
  intro price
  rw [hiff]
  split
  · rename_i h
    simp [h]
  · rename_i h
    simp [h]

/-- The search stops at an override with the longest prefix. -/
theorem find?_longest {sort : List PrefixEntry → List PrefixEntry} (hsort : LengthSort sort)
    {order : Prices} (horder : order.Perm (merged prices)) {e : PrefixEntry}
    (h : ((rebuildToolPriceIndex sort order).prefixes toolName.toList).find?
      (fun e => e.entryPrefix.isPrefixOf modelName.toList) = some e) :
    ∃ key, Longest prices toolName modelName key ∧ configured prices key = some e.price := by
  obtain ⟨hmatch, before, behind, hlist, hbefore⟩ := List.find?_eq_some_iff_append.mp h
  have hmem : ∀ e', e' ∈ before ++ e :: behind ↔ e' ∈ toolEntries order toolName.toList := by
    intro e'
    rw [← hlist]
    exact (hsort.perm _).mem_iff
  have hsorted : (before ++ e :: behind).Pairwise fun a b =>
      byteLen b.entryPrefix ≤ byteLen a.entryPrefix := by
    rw [← hlist]
    exact hsort.sorted _
  have he := List.isPrefixOf_iff_prefix.mp hmatch
  obtain ⟨key, hkey, hprefix⟩ := mem_toolEntries.mp ((hmem e).mp (by simp))
  rw [mem_order_iff horder] at hkey
  refine ⟨key, ⟨e.entryPrefix, ⟨by rw [hkey]; rfl, hprefix, he⟩, ?_⟩, hkey⟩
  intro key' p' hother
  obtain ⟨hsome, hprefix', hp'⟩ := hother
  obtain ⟨price', hprice'⟩ := Option.isSome_iff_exists.mp hsome
  have hentry : (⟨p', price'⟩ : PrefixEntry) ∈ before ++ e :: behind := by
    rw [hmem, mem_toolEntries]
    exact ⟨key', (mem_order_iff horder key' price').mpr hprice', hprefix'⟩
  -- no entry in front of the found one matches, so this one stands behind it
  rcases List.mem_append.mp hentry with hin | hin
  · have hno := hbefore _ hin
    simp only [Bool.not_eq_true', ← Bool.not_eq_true] at hno
    exact absurd (List.isPrefixOf_iff_prefix.mpr hp') hno
  · rcases List.mem_cons.mp hin with heq | hin
    · rw [← heq]
    · have hle := (List.pairwise_cons.mp (List.pairwise_append.mp hsorted).2.1).1 _ hin
      exact length_le_of_byteLen_le hp' he hle

theorem find?_none_iff {sort : List PrefixEntry → List PrefixEntry} (hsort : LengthSort sort)
    {order : Prices} (horder : order.Perm (merged prices)) :
    ((rebuildToolPriceIndex sort order).prefixes toolName.toList).find?
        (fun e => e.entryPrefix.isPrefixOf modelName.toList) = none ↔
      ¬∃ key p, Overrides prices toolName modelName key p := by
  rw [List.find?_eq_none]
  constructor
  · rintro h ⟨key, p, hsome, hprefix, hp⟩
    obtain ⟨price, hprice⟩ := Option.isSome_iff_exists.mp hsome
    have hentry : (⟨p, price⟩ : PrefixEntry) ∈ toolEntries order toolName.toList :=
      mem_toolEntries.mpr ⟨key, (mem_order_iff horder key price).mpr hprice, hprefix⟩
    exact h _ ((hsort.perm _).mem_iff.mpr hentry) (List.isPrefixOf_iff_prefix.mpr hp)
  · intro h e he hmatch
    obtain ⟨key, hkey, hprefix⟩ := mem_toolEntries.mp ((hsort.perm _).mem_iff.mp he)
    rw [mem_order_iff horder] at hkey
    exact h ⟨key, e.entryPrefix, by rw [hkey]; rfl, hprefix, List.isPrefixOf_iff_prefix.mp hmatch⟩

/-- The price of a model that is overridden is that of an override with the longest prefix. -/
theorem toolPrice_longest {sort : List PrefixEntry → List PrefixEntry} (hsort : LengthSort sort)
    {order : Prices} (horder : order.Perm (merged prices))
    (h : Overridden prices toolName modelName) :
    ∃ key, Longest prices toolName modelName key ∧
      configured prices key = some (toolPrice sort order toolName modelName) := by
  obtain ⟨hname, hover⟩ := h
  unfold toolPrice getToolPriceForModel
  simp only [if_neg hname]
  cases hfind : ((rebuildToolPriceIndex sort order).prefixes toolName.toList).find?
      (fun e => e.entryPrefix.isPrefixOf modelName.toList) with
  | none => exact absurd hover ((find?_none_iff hsort horder).mp hfind)
  | some e => exact find?_longest hsort horder hfind

theorem toolPrice_default {sort : List PrefixEntry → List PrefixEntry} (hsort : LengthSort sort)
    {order : Prices} (horder : order.Perm (merged prices))
    (h : ¬Overridden prices toolName modelName) :
    toolPrice sort order toolName modelName =
      if splitKey toolName = none then (configured prices toolName).getD 0 else 0 := by
  have hnone : (if modelName = "" then none
      else ((rebuildToolPriceIndex sort order).prefixes toolName.toList).find?
        (fun e => e.entryPrefix.isPrefixOf modelName.toList)) = none := by
    split
    · rfl
    · rename_i hname
      exact (find?_none_iff hsort horder).mpr fun hover => h ⟨hname, hover⟩
  unfold toolPrice getToolPriceForModel
  simp only [hnone, get?_defaults horder]
  split <;> rfl

/-! ## Either of two equals can come first -/

/-- By length, and a given entry before its equals. -/
def rankLe (first a b : PrefixEntry) : Bool :=
  byteLen b.entryPrefix < byteLen a.entryPrefix ∨
    byteLen b.entryPrefix = byteLen a.entryPrefix ∧ (a = first ∨ b ≠ first)

/-- A sort by length that puts a given entry before its equals. -/
def sortFirst (first : PrefixEntry) (entries : List PrefixEntry) : List PrefixEntry :=
  entries.insertionSort fun a b => rankLe first a b = true

theorem rankLe_trans (first : PrefixEntry) {a b c : PrefixEntry} (hab : rankLe first a b = true)
    (hbc : rankLe first b c = true) : rankLe first a c = true := by
  simp only [rankLe, decide_eq_true_eq] at *
  by_cases ha : a = first
  · simp only [ha, true_or, and_true] at *
    omega
  · by_cases hb : b = first
    · simp only [ha, hb, ne_eq, not_true_eq_false, or_self, and_false, or_false] at hab
      rw [hb] at hbc
      omega
    · by_cases hc : c = first
      · simp only [hb, hc, ne_eq, not_true_eq_false, or_self, and_false, or_false] at hbc
        rw [hc]
        omega
      · simp only [hb, hc, ne_eq, not_false_eq_true, or_true, and_true] at *
        omega

theorem rankLe_total (first a b : PrefixEntry) :
    rankLe first a b = true ∨ rankLe first b a = true := by
  simp only [rankLe, decide_eq_true_eq]
  by_cases ha : a = first
  · simp only [ha, true_or, and_true]
    omega
  · simp only [ha, ne_eq, not_false_eq_true, or_true, and_true]
    omega

theorem sortFirst_pairwise (first : PrefixEntry) (entries : List PrefixEntry) :
    (sortFirst first entries).Pairwise fun a b => rankLe first a b = true := by
  have htotal : Std.Total fun a b => rankLe first a b = true := ⟨rankLe_total first⟩
  have htrans : IsTrans PrefixEntry fun a b => rankLe first a b = true :=
    ⟨fun _ _ _ => rankLe_trans first⟩
  exact List.pairwise_insertionSort _ entries

theorem sortFirst_lengthSort (first : PrefixEntry) : LengthSort (sortFirst first) where
  perm entries := List.perm_insertionSort _ entries
  sorted entries := by
    apply (sortFirst_pairwise first entries).imp
    intro a b hab
    simp only [rankLe, decide_eq_true_eq] at hab
    omega

/-- An override with the longest prefix is found when it is sorted before its equals. -/
theorem toolPrice_of_longest {key : String} {price : ℚ} (hname : modelName ≠ "")
    (hlongest : Longest prices toolName modelName key) (hprice : configured prices key = some price) :
    ∃ first, toolPrice (sortFirst first) (merged prices) toolName modelName = price := by
  obtain ⟨p, ⟨-, hprefix, hp⟩, hmax⟩ := hlongest
  have hrefl := List.Perm.refl (merged prices)
  refine ⟨⟨p, price⟩, ?_⟩
  have hsort := sortFirst_lengthSort ⟨p, price⟩
  have hentry : (⟨p, price⟩ : PrefixEntry) ∈
      sortFirst ⟨p, price⟩ (toolEntries (merged prices) toolName.toList) :=
    (hsort.perm _).mem_iff.mpr
      (mem_toolEntries.mpr ⟨key, (mem_order_iff hrefl key price).mpr hprice, hprefix⟩)
  have hpairwise := sortFirst_pairwise ⟨p, price⟩ (toolEntries (merged prices) toolName.toList)
  unfold toolPrice getToolPriceForModel
  simp only [if_neg hname]
  cases hfind : ((rebuildToolPriceIndex (sortFirst ⟨p, price⟩) (merged prices)).prefixes
      toolName.toList).find? (fun e => e.entryPrefix.isPrefixOf modelName.toList) with
  | none =>
    have hno := List.find?_eq_none.mp hfind _ hentry
    exact absurd (List.isPrefixOf_iff_prefix.mpr hp) hno
  | some e =>
    obtain ⟨hmatch, before, behind, hlist, hbefore⟩ := List.find?_eq_some_iff_append.mp hfind
    have he := List.isPrefixOf_iff_prefix.mp hmatch
    have hlist' : sortFirst ⟨p, price⟩ (toolEntries (merged prices) toolName.toList) =
        before ++ e :: behind := hlist
    have hmem : e ∈ sortFirst ⟨p, price⟩ (toolEntries (merged prices) toolName.toList) := by
      simp [hlist']
    rw [hlist'] at hentry hpairwise
    rcases List.mem_append.mp hentry with hin | hin
    · have hno := hbefore _ hin
      simp only [Bool.not_eq_true', ← Bool.not_eq_true] at hno
      exact absurd (List.isPrefixOf_iff_prefix.mpr hp) hno
    · rcases List.mem_cons.mp hin with heq | hin
      · exact congrArg PrefixEntry.price heq.symm
      · have hle := (List.pairwise_cons.mp (List.pairwise_append.mp hpairwise).2.1).1 _ hin
        obtain ⟨key', hkey', hprefix'⟩ := mem_toolEntries.mp ((hsort.perm _).mem_iff.mp hmem)
        rw [mem_order_iff hrefl] at hkey'
        have hlen := hmax key' e.entryPrefix ⟨by rw [hkey']; rfl, hprefix', he⟩
        have hbytes := byteLen_le_of_prefix (List.prefix_of_prefix_length_le he hp hlen)
        simp only [rankLe, decide_eq_true_eq, ne_eq, not_true_eq_false, or_false] at hle
        rcases hle with hlt | ⟨-, heq⟩
        · omega
        · exact congrArg PrefixEntry.price heq

/-! ## When there is one price -/

/-- Whatever the order of the map and the sort, the price is the right one, exactly when the
overrides with the longest prefix agree. -/
theorem toolPrice_iff (prices : Prices) (toolName modelName : String) :
    (∃ price, RightPrice prices toolName modelName price ∧
        ∀ sort order, LengthSort sort → order.Perm (merged prices) →
          toolPrice sort order toolName modelName = price) ↔
      LongestAgree prices toolName modelName := by
  constructor
  · rintro ⟨price, -, hall⟩ hname key key' hkey hkey'
    have hfound : ∀ k, Longest prices toolName modelName k → configured prices k = some price := by
      intro k hk
      obtain ⟨p, ⟨hsome, -, -⟩, -⟩ := id hk
      obtain ⟨x, hx⟩ := Option.isSome_iff_exists.mp hsome
      obtain ⟨first, hprice⟩ := toolPrice_of_longest hname hk hx
      rw [hx, ← hprice, hall _ _ (sortFirst_lengthSort first) (List.Perm.refl _)]
    rw [hfound key hkey, hfound key' hkey']
  · intro hagree
    have hrefl := List.Perm.refl (merged prices)
    by_cases hover : Overridden prices toolName modelName
    · obtain ⟨key, hkey, hprice⟩ := toolPrice_longest (sortFirst_lengthSort ⟨[], 0⟩) hrefl hover
      generalize toolPrice (sortFirst ⟨[], 0⟩) (merged prices) toolName modelName = price at hprice
      refine ⟨price, ⟨fun _ k hk => ?_, fun h => absurd hover h⟩, ?_⟩
      · rw [hagree hover.1 k key hk hkey, hprice]
      · intro sort order hsort horder
        obtain ⟨key', hkey', hprice'⟩ := toolPrice_longest hsort horder hover
        rw [hagree hover.1 key' key hkey' hkey, hprice] at hprice'
        exact (Option.some.inj hprice').symm
    · refine ⟨_, ⟨fun h => absurd h hover, fun _ => rfl⟩, ?_⟩
      intro sort order hsort horder
      exact toolPrice_default hsort horder hover

/-! ## A prefix with and without its star -/

/-- An operator who sets a price without a star does not replace the built-in one with a star. -/
def plainKeyPrices : Prices := [("web_search_preview:gpt-4o", 30)]

theorem plainKey_two_prices :
    ∃ sort sort' : List PrefixEntry → List PrefixEntry, LengthSort sort ∧ LengthSort sort' ∧
      toolPrice sort (merged plainKeyPrices) "web_search_preview" "gpt-4o-2024" = 30 ∧
      toolPrice sort' (merged plainKeyPrices) "web_search_preview" "gpt-4o-2024" = 25 := by
  refine ⟨sortFirst ⟨"gpt-4o".toList, 30⟩, sortFirst ⟨"gpt-4o".toList, 25⟩,
    sortFirst_lengthSort _, sortFirst_lengthSort _, ?_⟩
  decide

end TokenRouter.ToolPriceSetting
