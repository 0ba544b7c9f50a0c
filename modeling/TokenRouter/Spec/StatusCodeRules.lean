import TokenRouter.Controller.Relay
import TokenRouter.Web.HttpStatusCodeRules

/-!
# Two readers of status code rules

The form and the server trim other characters, drop other white space between the digits, and
differ on signs and on what follows a second dash. A part of the rules that both can read they
read alike; each has parts that only it can read.

## Key results

- `read_of_server`: what the server reads, the form reads alike or not at all
- `read_of_form`: what the form reads, the server reads alike or not at all
-/

namespace TokenRouter

/-! ## Numbers -/

theorem digitsValue_isSome {cs : List Char} {n : Nat} (h : digitsValue cs = some n) :
    cs ≠ [] ∧ ∀ c ∈ cs, c.isDigit = true := by
  unfold digitsValue at h
  split at h
  · rename_i hdigits
    exact ⟨hdigits.1, fun c hc => List.all_eq_true.mp hdigits.2 c hc⟩
  · cases h

theorem atoi_of_digits {cs : List Char} (h : ∀ c ∈ cs, c.isDigit = true) :
    atoi cs = (Web.parseNumber cs).filter fun n => decide (-2 ^ 63 ≤ n ∧ n < 2 ^ 63) := by
  unfold atoi Web.parseNumber
  cases cs with
  | nil => rfl
  | cons c cs =>
    have hc := h c List.mem_cons_self
    have hplus : c ≠ '+' := by
      rintro rfl
      simp at hc
    have hminus : c ≠ '-' := by
      rintro rfl
      simp at hc
    split
    · rename_i heq
      exact absurd (List.cons.inj heq).1 hplus
    · rename_i heq
      exact absurd (List.cons.inj heq).1 hminus
    · rfl

/-- Only digits and signs make a number. -/
theorem atoi_chars {cs : List Char} {n : Int} (h : atoi cs = some n) :
    cs ≠ [] ∧ ∀ c ∈ cs, c.isDigit = true ∨ c = '+' ∨ c = '-' := by
  unfold atoi at h
  obtain ⟨hvalue, -⟩ := Option.filter_eq_some_iff.mp h
  split at hvalue
  · obtain ⟨v, hv, -⟩ := Option.map_eq_some_iff.mp hvalue
    obtain ⟨-, hdigits⟩ := digitsValue_isSome hv
    refine ⟨by simp, fun c hc => ?_⟩
    rcases List.mem_cons.mp hc with rfl | hc
    · exact .inr (.inl rfl)
    · exact .inl (hdigits c hc)
  · obtain ⟨v, hv, -⟩ := Option.map_eq_some_iff.mp hvalue
    obtain ⟨-, hdigits⟩ := digitsValue_isSome hv
    refine ⟨by simp, fun c hc => ?_⟩
    rcases List.mem_cons.mp hc with rfl | hc
    · exact .inr (.inr rfl)
    · exact .inl (hdigits c hc)
  · obtain ⟨v, hv, -⟩ := Option.map_eq_some_iff.mp hvalue
    obtain ⟨hne, hdigits⟩ := digitsValue_isSome hv
    exact ⟨hne, fun c hc => .inl (hdigits c hc)⟩

theorem parseNumber_chars {cs : List Char} {n : Int} (h : Web.parseNumber cs = some n) :
    cs ≠ [] ∧ ∀ c ∈ cs, c.isDigit = true := by
  obtain ⟨v, hv, -⟩ := Option.map_eq_some_iff.mp h
  exact digitsValue_isSome hv

/-! ## Tokens -/

/-- `parseHTTPStatusCodeToken` without white space. -/
def serverToken (t : List Char) : Option StatusCodeRange :=
  match t.splitOn '-' with
  | [a] => (atoi a).bind fun code => if code < 100 ∨ 599 < code then none else some ⟨code, code⟩
  | [a, b] =>
    (atoi a).bind fun start => (atoi b).bind fun stop =>
      if stop < start ∨ start < 100 ∨ 599 < stop then none else some ⟨start, stop⟩
  | _ => none

/-- `parseToken` without white space. -/
def formToken (t : List Char) : Option StatusCodeRange :=
  match t.splitOn '-' with
  | [] => none
  | [a] =>
    (Web.parseNumber a).bind fun code => if code < 100 ∨ 599 < code then none else some ⟨code, code⟩
  | a :: b :: _ =>
    (Web.parseNumber a).bind fun start => (Web.parseNumber b).bind fun stop =>
      if stop < start ∨ start < 100 ∨ 599 < stop then none else some ⟨start, stop⟩

theorem parseHTTPStatusCodeToken_eq (token : List Char) :
    (parseHTTPStatusCodeToken token).toOption =
      serverToken ((token.trimBy isSpace).filter (· ≠ ' ')) := by
  unfold parseHTTPStatusCodeToken serverToken
  generalize (token.trimBy isSpace).filter (· ≠ ' ') = t
  simp only
  by_cases hempty : t = []
  · subst hempty
    rfl
  rw [if_neg hempty]
  by_cases hdash : '-' ∈ t
  · rw [if_pos hdash]
    have hlength := List.length_splitOn (a := '-') t
    have hcount : 0 < t.count '-' := List.count_pos_iff.mpr hdash
    generalize t.splitOn '-' = parts at *
    match parts, hlength with
    | [], _ => rfl
    | [_], hlength => simp only [List.length_singleton] at hlength; omega
    | [a, b], _ =>
      simp only
      by_cases hsides : a = [] ∨ b = []
      · rw [if_pos hsides]
        rcases hsides with rfl | rfl
        · rfl
        · cases atoi a <;> rfl
      · rw [if_neg hsides]
        cases ha : atoi a with
        | none => rfl
        | some start =>
          cases hb : atoi b with
          | none => rfl
          | some stop =>
            simp only [Option.bind_some]
            by_cases horder : stop < start
            · rw [if_pos horder, if_pos (.inl horder)]
              rfl
            · by_cases hbounds : start < 100 ∨ 599 < stop
              · rw [if_neg horder, if_pos hbounds, if_pos (.inr hbounds)]
                rfl
              · rw [if_neg horder, if_neg hbounds, if_neg (not_or.mpr ⟨horder, hbounds⟩)]
                rfl
    | _ :: _ :: _ :: _, _ => rfl
  · rw [if_neg hdash, List.splitOn_eq_singleton hdash]
    simp only
    cases ha : atoi t with
    | none => rfl
    | some code =>
      simp only [Option.bind_some]
      split <;> rfl

theorem isValidCode_iff {code : Int} : Web.isValidCode code = true ↔ 100 ≤ code ∧ code ≤ 599 := by
  simp [Web.isValidCode]

theorem parseToken_eq (token : List Char) :
    Web.parseToken token = formToken (token.filter (!Web.isSpace ·)) := by
  unfold Web.parseToken formToken
  rw [List.filter_trimBy (by simp)]
  generalize token.filter (!Web.isSpace ·) = t
  simp only
  by_cases hempty : t = []
  · subst hempty
    rfl
  rw [if_neg hempty]
  by_cases hdash : '-' ∈ t
  · rw [if_pos hdash]
    have hlength := List.length_splitOn (a := '-') t
    have hcount : 0 < t.count '-' := List.count_pos_iff.mpr hdash
    generalize t.splitOn '-' = parts at *
    match parts, hlength with
    | [], _ => rfl
    | [_], hlength => simp only [List.length_singleton] at hlength; omega
    | a :: b :: _, _ =>
      simp only
      cases ha : Web.parseNumber a with
      | none => rfl
      | some start =>
        cases hb : Web.parseNumber b with
        | none => rfl
        | some stop =>
          simp only [Option.bind_some]
          have hcond : (!Web.isValidCode start || !Web.isValidCode stop || decide (stop < start)) =
              true ↔ stop < start ∨ start < 100 ∨ 599 < stop := by
            simp only [Bool.or_eq_true, Bool.not_eq_true', ← Bool.not_eq_true, isValidCode_iff,
              decide_eq_true_eq]
            omega
          by_cases h : stop < start ∨ start < 100 ∨ 599 < stop
          · rw [if_pos (hcond.mpr h), if_pos h]
          · rw [if_neg (mt hcond.mp h), if_neg h]
  · rw [if_neg hdash, List.splitOn_eq_singleton hdash]
    simp only
    cases ha : Web.parseNumber t with
    | none => rfl
    | some code =>
      simp only [Option.bind_some]
      have hcond : (!Web.isValidCode code) = true ↔ code < 100 ∨ 599 < code := by
        simp only [Bool.not_eq_true', ← Bool.not_eq_true, isValidCode_iff]
        omega
      by_cases h : code < 100 ∨ 599 < code
      · rw [if_pos (hcond.mpr h), if_pos h]
      · rw [if_neg (mt hcond.mp h), if_neg h]

/-- A token of the server has at most one dash, and besides only digits and plus signs. -/
theorem serverToken_chars {t : List Char} {r : StatusCodeRange} (h : serverToken t = some r) :
    t.count '-' ≤ 1 ∧ ∀ c ∈ t, c.isDigit = true ∨ c = '+' ∨ c = '-' := by
  have hlength := List.length_splitOn (a := '-') t
  have hparts : List.intercalate ['-'] (t.splitOn '-') = t := List.intercalate_splitOn '-'
  unfold serverToken at h
  generalize t.splitOn '-' = parts at *
  match parts, h with
  | [a], h =>
    obtain ⟨_, ha, -⟩ := Option.bind_eq_some_iff.mp h
    obtain ⟨-, hchars⟩ := atoi_chars ha
    refine ⟨by simp only [List.length_singleton] at hlength; omega, ?_⟩
    rw [← hparts]
    simpa using hchars
  | [a, b], h =>
    obtain ⟨_, ha, h⟩ := Option.bind_eq_some_iff.mp h
    obtain ⟨_, hb, -⟩ := Option.bind_eq_some_iff.mp h
    obtain ⟨-, hca⟩ := atoi_chars ha
    obtain ⟨-, hcb⟩ := atoi_chars hb
    refine ⟨by simp only [List.length_cons, List.length_nil] at hlength; omega, ?_⟩
    rw [← hparts]
    intro c hc
    simp only [List.intercalate_cons_cons, List.intercalate_singleton, List.mem_append,
      List.mem_singleton] at hc
    rcases hc with (hc | hc) | hc
    · exact hca c hc
    · exact .inr (.inr hc)
    · exact hcb c hc

/-- With at most one dash nothing of the token is ignored. -/
theorem formToken_chars {t : List Char} {r : StatusCodeRange} (h : formToken t = some r)
    (hdash : t.count '-' ≤ 1) : ∀ c ∈ t, c.isDigit = true ∨ c = '-' := by
  have hlength := List.length_splitOn (a := '-') t
  have hparts : List.intercalate ['-'] (t.splitOn '-') = t := List.intercalate_splitOn '-'
  unfold formToken at h
  generalize t.splitOn '-' = parts at *
  match parts, h, hlength with
  | [a], h, _ =>
    obtain ⟨_, ha, -⟩ := Option.bind_eq_some_iff.mp h
    obtain ⟨-, hchars⟩ := parseNumber_chars ha
    rw [← hparts]
    intro c hc
    exact .inl (hchars c (by simpa using hc))
  | [a, b], h, _ =>
    obtain ⟨_, ha, h⟩ := Option.bind_eq_some_iff.mp h
    obtain ⟨_, hb, -⟩ := Option.bind_eq_some_iff.mp h
    obtain ⟨-, hca⟩ := parseNumber_chars ha
    obtain ⟨-, hcb⟩ := parseNumber_chars hb
    rw [← hparts]
    intro c hc
    simp only [List.intercalate_cons_cons, List.intercalate_singleton, List.mem_append,
      List.mem_singleton] at hc
    rcases hc with (hc | hc) | hc
    · exact .inl (hca c hc)
    · exact .inr hc
    · exact .inl (hcb c hc)
  | _ :: _ :: _ :: _, _, hlength =>
    simp only [List.length_cons] at hlength
    omega

theorem atoi_bind {β : Type} {a : List Char} (hdigits : ∀ c ∈ a, c.isDigit = true)
    {f : Int → Option β} (hf : ∀ n, 2 ^ 63 ≤ n → f n = none) :
    (atoi a).bind f = (Web.parseNumber a).bind f := by
  rw [atoi_of_digits hdigits]
  cases hn : Web.parseNumber a with
  | none => rfl
  | some n =>
    obtain ⟨v, -, rfl⟩ := Option.map_eq_some_iff.mp hn
    by_cases hlarge : 2 ^ 63 ≤ Int.ofNat v
    · have hout : decide (-2 ^ 63 ≤ Int.ofNat v ∧ Int.ofNat v < 2 ^ 63) = false := by
        rw [decide_eq_false_iff_not]
        omega
      rw [Option.filter_some, hout, Option.bind_some, hf _ hlarge]
      rfl
    · have hin : decide (-2 ^ 63 ≤ Int.ofNat v ∧ Int.ofNat v < 2 ^ 63) = true := by
        rw [decide_eq_true_eq]
        exact ⟨by have := Int.natCast_nonneg v; simp only [Int.ofNat_eq_natCast]; omega, by omega⟩
      rw [Option.filter_some, hin, if_pos rfl]

/-- Digits with at most one dash are read alike. -/
theorem serverToken_eq_formToken {t : List Char} (hchars : ∀ c ∈ t, c.isDigit = true ∨ c = '-')
    (hdash : t.count '-' ≤ 1) : serverToken t = formToken t := by
  have hlength := List.length_splitOn (a := '-') t
  have hparts : List.intercalate ['-'] (t.splitOn '-') = t := List.intercalate_splitOn '-'
  have hnodash : ∀ s ∈ t.splitOn '-', '-' ∉ s := fun s hs => List.not_mem_of_mem_splitOn hs
  unfold serverToken formToken
  generalize t.splitOn '-' = parts at *
  match parts, hlength with
  | [], _ => rfl
  | [a], _ =>
    have ha : ∀ c ∈ a, c.isDigit = true := by
      intro c hc
      apply (hchars c ?_).resolve_right
      · rintro rfl
        exact hnodash a (by simp) hc
      · rw [← hparts]
        simpa using hc
    exact atoi_bind ha fun n hn => if_pos (by omega)
  | [a, b], _ =>
    have hmem : ∀ c, c ∈ a ∨ c ∈ b → c ∈ t := by
      intro c hc
      rw [← hparts]
      simp only [List.intercalate_cons_cons, List.intercalate_singleton, List.mem_append,
        List.mem_singleton]
      tauto
    have ha : ∀ c ∈ a, c.isDigit = true := by
      intro c hc
      apply (hchars c (hmem c (.inl hc))).resolve_right
      rintro rfl
      exact hnodash a (by simp) hc
    have hb : ∀ c ∈ b, c.isDigit = true := by
      intro c hc
      apply (hchars c (hmem c (.inr hc))).resolve_right
      rintro rfl
      exact hnodash b (by simp) hc
    have hstop : ∀ start : Int, ((atoi b).bind fun stop =>
        if stop < start ∨ start < 100 ∨ 599 < stop then none
        else some (⟨start, stop⟩ : StatusCodeRange)) =
        (Web.parseNumber b).bind fun stop =>
          if stop < start ∨ start < 100 ∨ 599 < stop then none else some ⟨start, stop⟩ :=
      fun start => atoi_bind hb fun n hn => if_pos (by omega)
    simp only [hstop]
    apply atoi_bind ha
    intro n hn
    cases Web.parseNumber b with
    | none => rfl
    | some stop => exact if_pos (by omega)
  | _ :: _ :: _ :: _, hlength =>
    simp only [List.length_cons] at hlength
    omega

/-! ## Parts between commas -/

/-- What the server makes of a part: `some none` is a blank one, `none` an invalid one. -/
def serverRead (part : List Char) : Option (Option StatusCodeRange) :=
  if part.trimBy isSpace = [] then some none
  else (parseHTTPStatusCodeToken (part.trimBy isSpace)).toOption.map some

/-- What the form makes of it. -/
def formRead (part : List Char) : Option (Option StatusCodeRange) :=
  if part.trimBy Web.isSpace = [] then some none
  else (Web.parseToken (part.trimBy Web.isSpace)).map some

/-- A sign, or the next-line character: the server takes them, the form does not. -/
def ServerOnly (part : List Char) : Prop := '+' ∈ part ∨ '\u0085' ∈ part

/-- A byte order mark, a second dash, or other white space than blanks inside: the form takes
    them, the server does not. -/
def FormOnly (part : List Char) : Prop :=
  '\ufeff' ∈ part ∨ 2 ≤ part.count '-' ∨
    ∃ c ∈ part.trimBy Web.isSpace, Web.isSpace c = true ∧ c ≠ ' '

theorem isSpace_eq {c : Char} (hnel : c ≠ '\u0085') (hbom : c ≠ '\ufeff') :
    isSpace c = Web.isSpace c := by
  have h₁ : (c.toNat == 0x85) = false := by
    rw [beq_eq_false_iff_ne]
    intro h
    exact hnel (Char.toNat_inj.mp h)
  have h₂ : (c.toNat == 0xFEFF) = false := by
    rw [beq_eq_false_iff_ne]
    intro h
    exact hbom (Char.toNat_inj.mp h)
  simp only [isSpace, Web.isSpace, h₁, h₂, Bool.or_false]

theorem not_isSpace_of_digit {c : Char} (h : c.isDigit = true ∨ c = '+' ∨ c = '-') :
    isSpace c = false ∧ Web.isSpace c = false ∧ c ≠ ' ' ∧ c ≠ '\u0085' ∧ c ≠ '\ufeff' := by
  rcases h with h | rfl | rfl
  · have hrange : 48 ≤ c.toNat ∧ c.toNat ≤ 57 := by
      simp only [Char.isDigit, Bool.and_eq_true, decide_eq_true_eq] at h
      exact h
    have hne : ∀ d : Char, d.toNat < 48 ∨ 57 < d.toNat → c ≠ d := by
      rintro d hd rfl
      omega
    refine ⟨?_, ?_, hne _ (by decide), hne _ (by decide), hne _ (by decide)⟩
    · simp only [isSpace, Bool.or_eq_false_iff, Bool.and_eq_false_iff, decide_eq_false_iff_not,
        beq_eq_false_iff_ne]
      omega
    · simp only [Web.isSpace, Bool.or_eq_false_iff, Bool.and_eq_false_iff, decide_eq_false_iff_not,
        beq_eq_false_iff_ne]
      omega
  · decide
  · decide

theorem trimBy_isSpace_eq {part : List Char} (hnel : '\u0085' ∉ part) (hbom : '\ufeff' ∉ part) :
    part.trimBy isSpace = part.trimBy Web.isSpace :=
  List.trimBy_congr fun _ hc =>
    isSpace_eq (fun h => hnel (h ▸ hc)) fun h => hbom (h ▸ hc)

theorem serverRead_eq (part : List Char) :
    serverRead part = if part.trimBy isSpace = [] then some none
      else (serverToken ((part.trimBy isSpace).filter (· ≠ ' '))).map some := by
  rw [serverRead, parseHTTPStatusCodeToken_eq, List.trimBy_trimBy]

theorem formRead_eq (part : List Char) :
    formRead part = if part.trimBy Web.isSpace = [] then some none
      else (formToken (part.filter (!Web.isSpace ·))).map some := by
  rw [formRead, parseToken_eq, List.filter_trimBy (by simp)]

/-- What the server reads, but for blank parts, has a token behind it. -/
theorem serverRead_cases {part : List Char} {a : Option StatusCodeRange}
    (h : serverRead part = some a) :
    a = none ∧ (∀ c ∈ part, isSpace c = true) ∨
      ∃ r, a = some r ∧ part.trimBy isSpace ≠ [] ∧
        serverToken ((part.trimBy isSpace).filter (· ≠ ' ')) = some r := by
  rw [serverRead_eq] at h
  split at h
  · rename_i hblank
    exact .inl ⟨(Option.some.inj h).symm, List.trimBy_eq_nil_iff.mp hblank⟩
  · obtain ⟨r, hr, rfl⟩ := Option.map_eq_some_iff.mp h
    exact .inr ⟨r, rfl, ‹_›, hr⟩

theorem formRead_cases {part : List Char} {a : Option StatusCodeRange}
    (h : formRead part = some a) :
    a = none ∧ (∀ c ∈ part, Web.isSpace c = true) ∨
      ∃ r, a = some r ∧ part.trimBy Web.isSpace ≠ [] ∧
        formToken (part.filter (!Web.isSpace ·)) = some r := by
  rw [formRead_eq] at h
  split at h
  · rename_i hblank
    exact .inl ⟨(Option.some.inj h).symm, List.trimBy_eq_nil_iff.mp hblank⟩
  · obtain ⟨r, hr, rfl⟩ := Option.map_eq_some_iff.mp h
    exact .inr ⟨r, rfl, ‹_›, hr⟩

/-- What stands in a part that the server reads. -/
theorem serverRead_chars {part : List Char} {a : Option StatusCodeRange}
    (h : serverRead part = some a) :
    part.count '-' ≤ 1 ∧
      ∀ c ∈ part, isSpace c = true ∨ c.isDigit = true ∨ c = '+' ∨ c = '-' := by
  rcases serverRead_cases h with ⟨-, hblank⟩ | ⟨r, -, -, hr⟩
  · refine ⟨?_, fun c hc => .inl (hblank c hc)⟩
    have hdash : '-' ∉ part := fun hc => absurd (hblank _ hc) (by decide)
    rw [List.count_eq_zero_of_not_mem hdash]
    omega
  · obtain ⟨hcount, hchars⟩ := serverToken_chars hr
    rw [List.count_filter (by decide), List.count_trimBy (by decide)] at hcount
    refine ⟨hcount, fun c hc => ?_⟩
    by_cases hspace : isSpace c = true
    · exact .inl hspace
    · have hne : c ≠ ' ' := by
        rintro rfl
        exact hspace (by decide)
      right
      apply hchars
      rw [List.mem_filter, List.mem_trimBy (by simpa using hspace)]
      exact ⟨hc, by simpa using hne⟩

theorem not_bom_of_serverRead {part : List Char} {a : Option StatusCodeRange}
    (h : serverRead part = some a) : '\ufeff' ∉ part := by
  intro hbom
  rcases (serverRead_chars h).2 _ hbom with h | h
  · exact absurd h (by decide)
  · exact absurd rfl (not_isSpace_of_digit h).2.2.2.2

/-- What the server reads, the form reads alike if it can read it. -/
theorem formRead_of_serverRead {part : List Char} {a : Option StatusCodeRange}
    (h : serverRead part = some a) (honly : ¬ServerOnly part) : formRead part = some a := by
  simp only [ServerOnly, not_or] at honly
  obtain ⟨hplus, hnel⟩ := honly
  have htrim := trimBy_isSpace_eq hnel (not_bom_of_serverRead h)
  rw [formRead_eq, ← htrim]
  rcases serverRead_cases h with ⟨rfl, hblank⟩ | ⟨r, rfl, hne, hr⟩
  · rw [if_pos (List.trimBy_eq_nil_iff.mpr hblank)]
  · rw [if_neg hne]
    obtain ⟨hcount, hchars⟩ := serverToken_chars hr
    have hfilter : part.filter (!Web.isSpace ·) = (part.trimBy isSpace).filter (· ≠ ' ') := by
      rw [← List.filter_trimBy (p := Web.isSpace) (by simp), ← htrim]
      apply List.filter_congr
      intro c hc
      by_cases hblank : c = ' '
      · subst hblank
        decide
      · have hchar := hchars c (List.mem_filter.mpr ⟨hc, by simpa using hblank⟩)
        simp [(not_isSpace_of_digit hchar).2.1, hblank]
    have hdigits : ∀ c ∈ (part.trimBy isSpace).filter (· ≠ ' '), c.isDigit = true ∨ c = '-' := by
      intro c hc
      rcases hchars c hc with h | rfl | h
      · exact .inl h
      · exact absurd (List.trimBy_subset part (List.mem_filter.mp hc).1) hplus
      · exact .inr h
    rw [hfilter, ← serverToken_eq_formToken hdigits hcount, hr]
    rfl

theorem formRead_of_serverOnly {part : List Char} {a : Option StatusCodeRange}
    (h : serverRead part = some a) (honly : ServerOnly part) : formRead part = none := by
  have hcount := (serverRead_chars h).1
  obtain ⟨c, hc, hspace, hdigit, hdash⟩ : ∃ c ∈ part, Web.isSpace c = false ∧
      c.isDigit = false ∧ c ≠ '-' := by
    rcases honly with hc | hc
    · exact ⟨_, hc, by decide⟩
    · exact ⟨_, hc, by decide⟩
  rw [Option.eq_none_iff_forall_ne_some]
  intro b hb
  rcases formRead_cases hb with ⟨-, hblank⟩ | ⟨r, -, -, hr⟩
  · rw [hblank c hc] at hspace
    cases hspace
  · have hdashes : (part.filter (!Web.isSpace ·)).count '-' ≤ 1 := by
      rwa [List.count_filter (by decide)]
    rcases formToken_chars hr hdashes c (List.mem_filter.mpr ⟨hc, by simp [hspace]⟩) with h | h
    · rw [h] at hdigit
      cases hdigit
    · exact hdash h

/-- What the form reads, the server reads alike if it can read it. -/
theorem serverRead_of_formRead {part : List Char} {a : Option StatusCodeRange}
    (h : formRead part = some a) (honly : ¬FormOnly part) : serverRead part = some a := by
  simp only [FormOnly, not_or, not_exists, not_and, not_not] at honly
  obtain ⟨hbom, hcount, hinner⟩ := honly
  rcases formRead_cases h with ⟨rfl, hblank⟩ | ⟨r, rfl, hne, hr⟩
  · have hnel : '\u0085' ∉ part := fun hc => absurd (hblank _ hc) (by decide)
    rw [serverRead_eq, trimBy_isSpace_eq hnel hbom, if_pos (List.trimBy_eq_nil_iff.mpr hblank)]
  · have hdashes : (part.filter (!Web.isSpace ·)).count '-' ≤ 1 := by
      rw [List.count_filter (by decide)]
      omega
    have hdigits := formToken_chars hr hdashes
    have hnel : '\u0085' ∉ part := by
      intro hc
      rcases hdigits _ (List.mem_filter.mpr ⟨hc, by decide⟩) with h | h
      · exact absurd h (by decide)
      · exact absurd h (by decide)
    have hfilter : (part.trimBy Web.isSpace).filter (· ≠ ' ') = part.filter (!Web.isSpace ·) := by
      rw [← List.filter_trimBy (p := Web.isSpace) (q := (!Web.isSpace ·)) (by simp)]
      apply List.filter_congr
      intro c hc
      by_cases hspace : Web.isSpace c = true
      · simp [hinner c hc hspace, show Web.isSpace ' ' = true by decide]
      · have hblank : c ≠ ' ' := by
          rintro rfl
          exact hspace (by decide)
        simp [hspace, hblank]
    rw [serverRead_eq, trimBy_isSpace_eq hnel hbom, if_neg hne, hfilter,
      serverToken_eq_formToken hdigits hdashes, hr]
    rfl

theorem serverRead_of_formOnly {part : List Char} {a : Option StatusCodeRange}
    (h : formRead part = some a) (honly : FormOnly part) : serverRead part = none := by
  rw [Option.eq_none_iff_forall_ne_some]
  intro b hb
  obtain ⟨hcount, hchars⟩ := serverRead_chars hb
  have hbom := not_bom_of_serverRead hb
  have hnel : '\u0085' ∉ part := by
    intro hc
    rw [formRead_of_serverOnly hb (.inr hc)] at h
    cases h
  rcases honly with hc | hc | ⟨c, hc, hspace, hne⟩
  · exact hbom hc
  · omega
  · -- white space that both trim away does not stand inside
    rw [← trimBy_isSpace_eq hnel hbom] at hc
    rcases serverRead_cases hb with ⟨-, hblank⟩ | ⟨r, -, -, hr⟩
    · rw [List.trimBy_eq_nil_iff.mpr hblank] at hc
      cases hc
    · have hchar := (serverToken_chars hr).2 c (List.mem_filter.mpr ⟨hc, by simpa using hne⟩)
      rw [(not_isSpace_of_digit hchar).2.1] at hspace
      cases hspace

/-! ## Whole inputs -/

/-- The parts of an input, between commas. -/
def ruleParts (input : String) : List (List Char) := (input.toList.map replaceComma).splitOn ','

/-- Trimming the input first changes no part once it is trimmed. -/
theorem ruleParts_trim {p : Char → Bool} (hcomma : p ',' = false) (hwide : p '，' = false)
    (input : String) :
    (((input.toList.trimBy p).map replaceComma).splitOn ',').map (·.trimBy p) =
      (ruleParts input).map (·.trimBy p) := by
  have hreplace : ∀ c, p (replaceComma c) = p c := by
    intro c
    unfold replaceComma
    split
    · rename_i hc
      rw [hc, hcomma, hwide]
    · rfl
  rw [← List.trimBy_map hreplace]
  exact List.map_trimBy_splitOn hcomma _

/-- A list of parts is read part by part. -/
theorem filterMap_segments {p : Char → Bool} {f : List Char → Option StatusCodeRange}
    {read : List Char → Option (Option StatusCodeRange)}
    (hread : ∀ part, read part =
      if part.trimBy p = [] then some none else (f (part.trimBy p)).map some)
    (parts : List (List Char)) :
    (((parts.map (·.trimBy p)).filter (· ≠ [])).filter fun seg => (f seg).isNone) = [] ↔
        ∀ part ∈ parts, read part ≠ none := by
  rw [List.filter_eq_nil_iff]
  constructor
  · intro h part hpart hnone
    rw [hread] at hnone
    split at hnone
    · cases hnone
    · rename_i hne
      refine h (part.trimBy p) ?_ ?_
      · exact List.mem_filter.mpr ⟨List.mem_map_of_mem hpart, by simpa using hne⟩
      · rw [Option.isNone_iff_eq_none]
        exact Option.map_eq_none_iff.mp hnone
  · intro h seg hseg hnone
    obtain ⟨hmem, hne⟩ := List.mem_filter.mp hseg
    obtain ⟨part, hpart, rfl⟩ := List.mem_map.mp hmem
    apply h part hpart
    rw [hread, if_neg (by simpa using hne), Option.isNone_iff_eq_none.mp hnone]
    rfl

theorem filterMap_read {p : Char → Bool} {f : List Char → Option StatusCodeRange}
    {read : List Char → Option (Option StatusCodeRange)}
    (hread : ∀ part, read part =
      if part.trimBy p = [] then some none else (f (part.trimBy p)).map some)
    (parts : List (List Char)) :
    ((parts.map (·.trimBy p)).filter (· ≠ [])).filterMap f =
      parts.filterMap fun part => (read part).join := by
  induction parts with
  | nil => rfl
  | cons part parts ih =>
    rw [List.map_cons, List.filterMap_cons, hread part]
    by_cases hblank : part.trimBy p = []
    · rw [List.filter_cons_of_neg (by simpa using hblank), if_pos hblank, ih]
      rfl
    · rw [List.filter_cons_of_pos (by simpa using hblank), if_neg hblank, List.filterMap_cons, ih]
      cases f (part.trimBy p) <;> rfl

/-- The server accepts an input if it can read every part. -/
theorem parseHTTPStatusCodeRanges_ok_iff {input : String} {ranges : List StatusCodeRange} :
    parseHTTPStatusCodeRanges input = .ok ranges ↔
      (∀ part ∈ ruleParts input, serverRead part ≠ none) ∧
        ranges = mergeRanges
          (((ruleParts input).filterMap fun part => (serverRead part).join).mergeSort
            StatusCodeRange.le) := by
  have hread : ∀ part, serverRead part = if part.trimBy isSpace = [] then some none else
      ((fun seg => (parseHTTPStatusCodeToken seg).toOption) (part.trimBy isSpace)).map some :=
    fun part => rfl
  have hinvalid := filterMap_segments (f := fun seg => (parseHTTPStatusCodeToken seg).toOption)
    hread (ruleParts input)
  have hranges := filterMap_read (f := fun seg => (parseHTTPStatusCodeToken seg).toOption)
    hread (ruleParts input)
  have hparts := ruleParts_trim (p := isSpace) (by decide) (by decide) input
  have hok : ∀ seg : List Char, (!(parseHTTPStatusCodeToken seg).isOk) =
      (parseHTTPStatusCodeToken seg).toOption.isNone := by
    intro seg
    cases parseHTTPStatusCodeToken seg <;> rfl
  unfold parseHTTPStatusCodeRanges
  simp only [hok]
  by_cases hempty : input.toList.trimBy isSpace = []
  · rw [if_pos hempty]
    rw [hempty] at hparts
    rw [← hparts] at hinvalid hranges
    have hall := hinvalid.mp (by decide)
    have hnothing : mergeRanges (((ruleParts input).filterMap fun part =>
        (serverRead part).join).mergeSort StatusCodeRange.le) = [] := by
      rw [← hranges, List.filterMap_eq_nil_iff.mpr (by decide), List.mergeSort_nil]
      rfl
    rw [hnothing]
    constructor
    · intro h
      exact ⟨hall, (Except.ok.inj h).symm⟩
    · rintro ⟨-, rfl⟩
      rfl
  · rw [if_neg hempty, hparts]
    by_cases hreadable : ∀ part ∈ ruleParts input, serverRead part ≠ none
    · rw [if_neg (not_not.mpr (hinvalid.mpr hreadable)), hranges]
      constructor
      · intro h
        exact ⟨hreadable, (Except.ok.inj h).symm⟩
      · rintro ⟨-, rfl⟩
        rfl
    · rw [if_pos (mt hinvalid.mp hreadable)]
      constructor
      · intro h
        cases h
      · rintro ⟨h, -⟩
        exact absurd h hreadable

theorem compareLe_eq : Web.compareLe = StatusCodeRange.le := by
  funext a b
  simp only [Web.compareLe, StatusCodeRange.le]
  by_cases h : a.start = b.start
  · simp [h]
  · simp only [ne_eq, h, not_false_eq_true, if_true, if_false, decide_eq_decide]
    omega

theorem webMergeInto_eq (last : StatusCodeRange) (rest : List StatusCodeRange) :
    Web.mergeInto last rest = mergeInto last rest := by
  induction rest generalizing last with
  | nil => rfl
  | cons r rest ih =>
    rw [Web.mergeInto, mergeInto]
    by_cases h : last.stop + 1 < r.start
    · rw [if_pos h, if_neg (by omega), ih]
    · rw [if_neg h, if_pos (by omega), ih]
      congr 1
      by_cases hstop : last.stop < r.stop
      · rw [if_pos hstop, max_eq_right hstop.le]
      · rw [if_neg hstop, max_eq_left (by omega)]

theorem webMergeRanges_eq (ranges : List StatusCodeRange) :
    Web.mergeRanges ranges = mergeRanges (ranges.mergeSort StatusCodeRange.le) := by
  unfold Web.mergeRanges mergeRanges
  rw [compareLe_eq]
  cases ranges.mergeSort StatusCodeRange.le with
  | nil => rfl
  | cons r rest => exact webMergeInto_eq r rest

/-- The form accepts an input if it can read every part. -/
theorem parseHttpStatusCodeRules_ok_iff {input : String} :
    ((Web.parseHttpStatusCodeRules input).ok = true ↔
        ∀ part ∈ ruleParts input, formRead part ≠ none) ∧
      ((∀ part ∈ ruleParts input, formRead part ≠ none) →
        (Web.parseHttpStatusCodeRules input).ranges = mergeRanges
            (((ruleParts input).filterMap fun part => (formRead part).join).mergeSort
              StatusCodeRange.le) ∧
          (Web.parseHttpStatusCodeRules input).normalized = String.intercalate ","
            ((Web.parseHttpStatusCodeRules input).ranges.map Web.rangeToken)) := by
  have hread : ∀ part, formRead part = if part.trimBy Web.isSpace = [] then some none else
      (Web.parseToken (part.trimBy Web.isSpace)).map some := fun part => rfl
  have hinvalid := filterMap_segments hread (ruleParts input)
  have hranges := filterMap_read hread (ruleParts input)
  have hparts := ruleParts_trim (p := Web.isSpace) (by decide) (by decide) input
  unfold Web.parseHttpStatusCodeRules
  by_cases hempty : input.toList.trimBy Web.isSpace = []
  · rw [hempty] at hparts ⊢
    rw [← hparts] at hinvalid hranges
    rw [← hranges]
    refine ⟨⟨fun _ => hinvalid.mp (by decide), fun _ => rfl⟩, fun _ => ⟨?_, rfl⟩⟩
    rw [if_pos rfl, List.filterMap_eq_nil_iff.mpr (by decide), List.mergeSort_nil]
    rfl
  · simp only [if_neg hempty, hparts]
    by_cases hreadable : ∀ part ∈ ruleParts input, formRead part ≠ none
    · rw [if_neg (not_not.mpr (hinvalid.mpr hreadable)), hranges]
      exact ⟨⟨fun _ => hreadable, fun _ => rfl⟩, fun _ => ⟨webMergeRanges_eq _, rfl⟩⟩
    · rw [if_pos (mt hinvalid.mp hreadable)]
      exact ⟨⟨fun h => (by cases h), fun h => absurd h hreadable⟩, fun h => absurd h hreadable⟩

/-! ## Matching codes -/

/-- The search stops early because the ranges are sorted. -/
theorem search_iff {ranges : List StatusCodeRange} {code : Int}
    (hsorted : ranges.Pairwise fun a b => a.start ≤ b.start) :
    shouldMatchStatusCodeRanges.search code ranges = true ↔
      ∃ r ∈ ranges, r.start ≤ code ∧ code ≤ r.stop := by
  induction ranges with
  | nil => simp [shouldMatchStatusCodeRanges.search]
  | cons r rest ih =>
    obtain ⟨hr, hrest⟩ := List.pairwise_cons.mp hsorted
    rw [shouldMatchStatusCodeRanges.search, List.exists_mem_cons_iff]
    by_cases hbelow : code < r.start
    · rw [if_pos hbelow]
      constructor
      · intro h
        cases h
      · rintro (⟨h, -⟩ | ⟨r', hr', h, -⟩)
        · omega
        · have := hr r' hr'
          omega
    · rw [if_neg hbelow]
      by_cases hin : code ≤ r.stop
      · rw [if_pos hin]
        exact ⟨fun _ => .inl ⟨by omega, hin⟩, fun _ => rfl⟩
      · rw [if_neg hin, ih hrest]
        constructor
        · exact .inr
        · rintro (⟨-, h⟩ | h)
          · exact absurd h hin
          · exact h

/-- A range of status codes. -/
def StatusCodeRange.Valid (r : StatusCodeRange) : Prop :=
  100 ≤ r.start ∧ r.start ≤ r.stop ∧ r.stop ≤ 599

theorem mergeInto_sorted {last : StatusCodeRange} {rest : List StatusCodeRange}
    (hlast : last.Valid) (hrest : ∀ r ∈ rest, r.Valid)
    (hsorted : (last :: rest).Pairwise fun a b => a.start ≤ b.start) :
    ((mergeInto last rest).Pairwise fun a b => a.stop + 1 < b.start) ∧
      ∀ r ∈ mergeInto last rest, r.Valid ∧ last.start ≤ r.start := by
  induction rest generalizing last with
  | nil => simpa [mergeInto] using hlast
  | cons r rest ih =>
    obtain ⟨hle, htail⟩ := List.pairwise_cons.mp hsorted
    have hr := hrest r List.mem_cons_self
    have hrest' : ∀ r' ∈ rest, r'.Valid := fun r' h => hrest r' (List.mem_cons_of_mem r h)
    rw [mergeInto]
    by_cases hmerge : r.start ≤ last.stop + 1
    · rw [if_pos hmerge]
      obtain ⟨last', hlast'⟩ : ∃ last', last' = if last.stop < r.stop then
          { last with stop := r.stop } else last := ⟨_, rfl⟩
      have hstart : last'.start = last.start := by
        rw [hlast']
        split <;> rfl
      have hvalid : last'.Valid := by
        unfold StatusCodeRange.Valid at *
        rw [hlast']
        split
        · exact ⟨hlast.1, by simp only; omega, hr.2.2⟩
        · exact hlast
      rw [← hlast', ← hstart]
      apply ih hvalid hrest'
      refine List.pairwise_cons.mpr ⟨fun r' hr' => ?_, (List.pairwise_cons.mp htail).2⟩
      rw [hstart]
      exact hle r' (List.mem_cons_of_mem r hr')
    · rw [if_neg hmerge]
      obtain ⟨hpair, hall⟩ := ih hr hrest' htail
      constructor
      · refine List.pairwise_cons.mpr ⟨fun r' hr' => ?_, hpair⟩
        have := (hall r' hr').2
        omega
      · intro r' hr'
        rcases List.mem_cons.mp hr' with rfl | hr'
        · exact ⟨hlast, le_rfl⟩
        · have := hle r List.mem_cons_self
          exact ⟨(hall r' hr').1, this.trans (hall r' hr').2⟩

theorem sort_start (ranges : List StatusCodeRange) :
    (ranges.mergeSort StatusCodeRange.le).Pairwise fun a b => a.start ≤ b.start := by
  have hpair := @List.pairwise_mergeSort _ StatusCodeRange.le
    (by
      intro a b c hab hbc
      simp only [StatusCodeRange.le] at *
      grind)
    (by
      intro a b
      simp only [StatusCodeRange.le]
      grind)
    ranges
  apply hpair.imp
  intro a b hab
  simp only [StatusCodeRange.le] at hab
  grind

/-- Merged ranges are apart. -/
theorem mergeRanges_apart {ranges : List StatusCodeRange} (hvalid : ∀ r ∈ ranges, r.Valid) :
    ((mergeRanges (ranges.mergeSort StatusCodeRange.le)).Pairwise fun a b =>
        a.stop + 1 < b.start) ∧
      ∀ r ∈ mergeRanges (ranges.mergeSort StatusCodeRange.le), r.Valid := by
  have hsorted := sort_start ranges
  have hmem : ∀ r ∈ ranges.mergeSort StatusCodeRange.le, r.Valid := fun r hr =>
    hvalid r (List.mem_mergeSort.mp hr)
  unfold mergeRanges
  cases hsort : ranges.mergeSort StatusCodeRange.le with
  | nil => simp
  | cons last rest =>
    rw [hsort] at hsorted hmem
    obtain ⟨hapart, hall⟩ := mergeInto_sorted (hmem last List.mem_cons_self)
      (fun r hr => hmem r (List.mem_cons_of_mem last hr)) hsorted
    exact ⟨hapart, fun r hr => (hall r hr).1⟩

theorem shouldMatch_iff {ranges : List StatusCodeRange} {code : Int}
    (hapart : ranges.Pairwise fun a b => a.stop + 1 < b.start) (hvalid : ∀ r ∈ ranges, r.Valid) :
    shouldMatchStatusCodeRanges ranges code = true ↔
      ∃ r ∈ ranges, r.start ≤ code ∧ code ≤ r.stop := by
  have hsorted : ranges.Pairwise fun a b => a.start ≤ b.start := by
    apply hapart.imp_of_mem
    intro a b ha _ hab
    have := (hvalid a ha).2.1
    omega
  rw [shouldMatchStatusCodeRanges, ← search_iff hsorted]
  by_cases hbounds : code < 100 ∨ 599 < code
  · rw [if_pos hbounds]
    constructor
    · intro h
      cases h
    · intro h
      obtain ⟨r, hr, hstart, hstop⟩ := (search_iff hsorted).mp h
      have := hvalid r hr
      unfold StatusCodeRange.Valid at this
      omega
  · rw [if_neg hbounds]

theorem serverToken_valid {t : List Char} {r : StatusCodeRange} (h : serverToken t = some r) :
    r.Valid := by
  unfold serverToken at h
  unfold StatusCodeRange.Valid
  split at h
  · obtain ⟨code, -, h⟩ := Option.bind_eq_some_iff.mp h
    split at h
    · cases h
    · cases h
      simp only
      omega
  · obtain ⟨start, -, h⟩ := Option.bind_eq_some_iff.mp h
    obtain ⟨stop, -, h⟩ := Option.bind_eq_some_iff.mp h
    split at h
    · cases h
    · cases h
      simp only
      omega
  · cases h

/-- What the server has read is apart and in bounds. -/
theorem ranges_apart {input : String} {ranges : List StatusCodeRange}
    (h : parseHTTPStatusCodeRanges input = .ok ranges) :
    (ranges.Pairwise fun a b => a.stop + 1 < b.start) ∧ ∀ r ∈ ranges, r.Valid := by
  obtain ⟨-, rfl⟩ := parseHTTPStatusCodeRanges_ok_iff.mp h
  apply mergeRanges_apart
  intro r hr
  obtain ⟨part, -, hpart⟩ := List.mem_filterMap.mp hr
  rw [Option.join_eq_some_iff] at hpart
  rcases serverRead_cases hpart with ⟨h, -⟩ | ⟨r', h, -, hr'⟩
  · cases h
  · cases h
    exact serverToken_valid hr'

/-! ## The normalized text -/

/-- A code that the rules name. -/
def Denotes (rules : String) (code : Int) : Prop :=
  ∃ part ∈ ruleParts rules, ∃ r, serverRead part = some (some r) ∧
    r.start ≤ code ∧ code ≤ r.stop

theorem atoi_toString {n : Int} (h₀ : 100 ≤ n) (h₁ : n ≤ 599) :
    atoi (toString n).toList = some n ∧
      ∀ c ∈ (toString n).toList, c.isDigit = true := by
  have hall : ∀ k : Fin 600, atoi (toString (k.val : Int)).toList = some (k.val : Int) ∧
      (toString (k.val : Int)).toList.all Char.isDigit = true := by
    decide +kernel
  obtain ⟨hatoi, hdigits⟩ := hall ⟨n.toNat, by omega⟩
  have hn : (n.toNat : Int) = n := by omega
  simp only [hn] at hatoi hdigits
  exact ⟨hatoi, fun c hc => List.all_eq_true.mp hdigits c hc⟩

theorem serverToken_rangeToken {r : StatusCodeRange} (h : r.Valid) :
    serverToken (Web.rangeToken r).toList = some r ∧
      ∀ c ∈ (Web.rangeToken r).toList, c.isDigit = true ∨ c = '-' := by
  obtain ⟨h₁, h₂, h₃⟩ := h
  obtain ⟨hstart, hstartDigits⟩ := atoi_toString h₁ (h₂.trans h₃)
  obtain ⟨hstop, hstopDigits⟩ := atoi_toString (h₁.trans h₂) h₃
  have hnodash : ∀ cs : List Char, (∀ c ∈ cs, c.isDigit = true) → '-' ∉ cs := fun cs hcs hmem =>
    absurd (hcs _ hmem) (by decide)
  unfold serverToken Web.rangeToken
  by_cases heq : r.start = r.stop
  · rw [if_pos heq, List.splitOn_eq_singleton (hnodash _ hstartDigits)]
    simp only [hstart, Option.bind_some]
    rw [if_neg (by omega)]
    refine ⟨?_, fun c hc => .inl (hstartDigits c hc)⟩
    rw [heq]
    cases r
    simp only at heq
    rw [heq]
  · have hsplit : (toString r.start ++ "-" ++ toString r.stop).toList.splitOn '-' =
        [(toString r.start).toList, (toString r.stop).toList] := by
      have hdash : "-".toList = ['-'] := rfl
      rw [String.toList_append, String.toList_append, hdash, List.append_assoc,
        List.singleton_append, List.splitOn_append_cons_self_of_not_mem (hnodash _ hstartDigits),
        List.splitOn_eq_singleton (hnodash _ hstopDigits)]
    rw [if_neg heq, hsplit]
    simp only [hstart, hstop, Option.bind_some]
    rw [if_neg (by omega)]
    refine ⟨rfl, fun c hc => ?_⟩
    simp only [String.toList_append, List.mem_append] at hc
    rcases hc with (hc | hc) | hc
    · exact .inl (hstartDigits c hc)
    · exact .inr (by simpa using hc)
    · exact .inl (hstopDigits c hc)

theorem serverRead_rangeToken {r : StatusCodeRange} (h : r.Valid) :
    serverRead (Web.rangeToken r).toList = some (some r) := by
  obtain ⟨hread, hchars⟩ := serverToken_rangeToken h
  have hspace : ∀ c ∈ (Web.rangeToken r).toList, isSpace c = false ∧ c ≠ ' ' := by
    intro c hc
    have hc' : c.isDigit = true ∨ c = '+' ∨ c = '-' := (hchars c hc).imp_right .inr
    exact ⟨(not_isSpace_of_digit hc').1, (not_isSpace_of_digit hc').2.2.1⟩
  have htrim := List.trimBy_eq_self fun c hc => (hspace c hc).1
  have hfilter : (Web.rangeToken r).toList.filter (· ≠ ' ') = (Web.rangeToken r).toList := by
    rw [List.filter_eq_self]
    intro c hc
    simpa using (hspace c hc).2
  have hne : (Web.rangeToken r).toList ≠ [] := by
    intro hnil
    rw [hnil] at hread
    cases hread
  rw [serverRead_eq, htrim, if_neg hne, hfilter, hread]
  rfl

/-- The parts of a normalized text are its tokens. -/
theorem ruleParts_normalized {ranges : List StatusCodeRange} (hvalid : ∀ r ∈ ranges, r.Valid)
    (hne : ranges ≠ []) :
    ruleParts (String.intercalate "," (ranges.map Web.rangeToken)) =
      ranges.map fun r => (Web.rangeToken r).toList := by
  have hchars : ∀ cs ∈ ranges.map fun r => (Web.rangeToken r).toList,
      ∀ c ∈ cs, c.isDigit = true ∨ c = '-' := by
    intro cs hcs
    obtain ⟨r, hr, rfl⟩ := List.mem_map.mp hcs
    exact (serverToken_rangeToken (hvalid r hr)).2
  have hcomma : ∀ cs ∈ ranges.map fun r => (Web.rangeToken r).toList, ',' ∉ cs := by
    intro cs hcs hmem
    rcases hchars cs hcs _ hmem with h | h
    · exact absurd h (by decide)
    · exact absurd h (by decide)
  have hwide : ∀ c ∈ [','].intercalate (ranges.map fun r => (Web.rangeToken r).toList),
      replaceComma c = c := by
    intro c hc
    have hne' : c ≠ '，' := by
      rintro rfl
      rcases List.mem_of_mem_intercalate hc with h | ⟨cs, hcs, hmem⟩
      · exact absurd h (by decide)
      · rcases hchars cs hcs _ hmem with h | h
        · exact absurd h (by decide)
        · exact absurd h (by decide)
    exact if_neg hne'
  have hsep : ",".toList = [','] := rfl
  rw [ruleParts, String.toList_intercalate, hsep, List.map_map]
  have hmap : (String.toList ∘ Web.rangeToken) = fun r => (Web.rangeToken r).toList := rfl
  rw [hmap, List.map_congr_left hwide, List.map_id', List.splitOn_intercalate _ hcomma (by simpa)]

/-- The text of merged ranges names the codes in them. -/
theorem denotes_normalized {ranges : List StatusCodeRange} (hvalid : ∀ r ∈ ranges, r.Valid)
    (code : Int) :
    Denotes (String.intercalate "," (ranges.map Web.rangeToken)) code ↔
      ∃ r ∈ ranges, r.start ≤ code ∧ code ≤ r.stop := by
  unfold Denotes
  by_cases hne : ranges = []
  · subst hne
    have hparts : ruleParts (String.intercalate "" []) = [[]] := by decide
    constructor
    · rintro ⟨part, hpart, r, hr, -⟩
      have hnil : part = [] := by simpa [ruleParts] using hpart
      subst hnil
      cases hr
    · rintro ⟨r, hr, -⟩
      cases hr
  · rw [ruleParts_normalized hvalid hne]
    constructor
    · rintro ⟨part, hpart, r, hr, hcode⟩
      obtain ⟨r', hr', rfl⟩ := List.mem_map.mp hpart
      rw [serverRead_rangeToken (hvalid r' hr')] at hr
      obtain rfl : r' = r := by simpa using hr
      exact ⟨r', hr', hcode⟩
    · rintro ⟨r, hr, hcode⟩
      exact ⟨_, List.mem_map_of_mem hr, r, serverRead_rangeToken (hvalid r hr), hcode⟩

/-! ## Reading alike -/

/-- Where the server can read every part, none is for the server only; where the form can read
    every part, none is for the form only. -/
def ReadAlike (input : String) : Prop :=
  ((∀ part ∈ ruleParts input, serverRead part ≠ none) →
      ∀ part ∈ ruleParts input, ¬ServerOnly part) ∧
    ((∀ part ∈ ruleParts input, formRead part ≠ none) →
      ∀ part ∈ ruleParts input, ¬FormOnly part)

theorem formReads_of_serverReads {input : String}
    (hserver : ∀ part ∈ ruleParts input, serverRead part ≠ none) :
    (∀ part ∈ ruleParts input, formRead part ≠ none) ↔
      ∀ part ∈ ruleParts input, ¬ServerOnly part := by
  constructor
  · intro hform part hpart honly
    obtain ⟨a, ha⟩ := Option.ne_none_iff_exists'.mp (hserver part hpart)
    exact hform part hpart (formRead_of_serverOnly ha honly)
  · intro honly part hpart
    obtain ⟨a, ha⟩ := Option.ne_none_iff_exists'.mp (hserver part hpart)
    rw [formRead_of_serverRead ha (honly part hpart)]
    simp

theorem serverReads_of_formReads {input : String}
    (hform : ∀ part ∈ ruleParts input, formRead part ≠ none) :
    (∀ part ∈ ruleParts input, serverRead part ≠ none) ↔
      ∀ part ∈ ruleParts input, ¬FormOnly part := by
  constructor
  · intro hserver part hpart honly
    obtain ⟨a, ha⟩ := Option.ne_none_iff_exists'.mp (hform part hpart)
    exact hserver part hpart (serverRead_of_formOnly ha honly)
  · intro honly part hpart
    obtain ⟨a, ha⟩ := Option.ne_none_iff_exists'.mp (hform part hpart)
    rw [serverRead_of_formRead ha (honly part hpart)]
    simp

/-- What both accept they read as the same ranges. -/
theorem ranges_eq {input : String} {ranges : List StatusCodeRange}
    (hserver : parseHTTPStatusCodeRanges input = .ok ranges)
    (hform : (Web.parseHttpStatusCodeRules input).ok = true) :
    (Web.parseHttpStatusCodeRules input).ranges = ranges := by
  obtain ⟨hreads, rfl⟩ := parseHTTPStatusCodeRanges_ok_iff.mp hserver
  have hformReads := parseHttpStatusCodeRules_ok_iff.1.mp hform
  rw [(parseHttpStatusCodeRules_ok_iff.2 hformReads).1]
  have hsame : ∀ part ∈ ruleParts input, (formRead part).join = (serverRead part).join := by
    intro part hpart
    obtain ⟨a, ha⟩ := Option.ne_none_iff_exists'.mp (hreads part hpart)
    have honly := (formReads_of_serverReads hreads).mp hformReads part hpart
    rw [ha, formRead_of_serverRead ha honly]
  rw [List.filterMap_congr hsame]

/-- The form and the server accept the same inputs, and read them as the same ranges, exactly
    for the inputs that they read alike; and the codes of the text that the form shows are those
    that match on the server. -/
theorem statusCodeRules_agree_iff (input : String) :
    ((((Web.parseHttpStatusCodeRules input).ok = true ↔
          ∃ ranges, parseHTTPStatusCodeRanges input = .ok ranges) ∧
        ∀ ranges, parseHTTPStatusCodeRanges input = .ok ranges →
          (Web.parseHttpStatusCodeRules input).ranges = ranges) ↔ ReadAlike input) ∧
    ∀ ranges, parseHTTPStatusCodeRanges input = .ok ranges →
      (Web.parseHttpStatusCodeRules input).ok = true →
      ∀ (setting : ChannelMonitorSetting) (rules : RelayLoop.RetryRules) (code : Int),
        (shouldDisableByStatusCode { setting with disableStatusCodeRanges := ranges } code = true ↔
          Denotes (Web.parseHttpStatusCodeRules input).normalized code) ∧
        (RelayLoop.shouldRetryByStatusCode
            { rules with retryStatusCodeRanges := ranges } code = true ↔
          Denotes (Web.parseHttpStatusCodeRules input).normalized code ∧
            code ≠ 504 ∧ code ≠ 524) := by
  have hserver_iff : (∃ ranges, parseHTTPStatusCodeRanges input = .ok ranges) ↔
      ∀ part ∈ ruleParts input, serverRead part ≠ none := by
    simp only [parseHTTPStatusCodeRanges_ok_iff, exists_and_left, exists_eq, and_true]
  have hform_iff := (@parseHttpStatusCodeRules_ok_iff input).1
  constructor
  · rw [hserver_iff, hform_iff]
    constructor
    · rintro ⟨hiff, -⟩
      exact ⟨fun hserver => (formReads_of_serverReads hserver).mp (hiff.mpr hserver),
        fun hform => (serverReads_of_formReads hform).mp (hiff.mp hform)⟩
    · rintro ⟨hserverOnly, hformOnly⟩
      have hiff : (∀ part ∈ ruleParts input, formRead part ≠ none) ↔
          ∀ part ∈ ruleParts input, serverRead part ≠ none :=
        ⟨fun hform => (serverReads_of_formReads hform).mpr (hformOnly hform),
          fun hserver => (formReads_of_serverReads hserver).mpr (hserverOnly hserver)⟩
      refine ⟨hiff, fun ranges hranges => ranges_eq hranges ?_⟩
      rw [hform_iff, hiff]
      exact (parseHTTPStatusCodeRanges_ok_iff.mp hranges).1
  · intro ranges hranges hform setting rules code
    obtain ⟨hapart, hvalid⟩ := ranges_apart hranges
    have hnormalized := (parseHttpStatusCodeRules_ok_iff.2 (hform_iff.mp hform)).2
    rw [ranges_eq hranges hform] at hnormalized
    rw [hnormalized, denotes_normalized hvalid, ← shouldMatch_iff hapart hvalid]
    refine ⟨Iff.rfl, ?_⟩
    simp only [RelayLoop.shouldRetryByStatusCode, Bool.and_eq_true, Bool.not_eq_true', Bool.or_eq_false_iff,
      decide_eq_false_iff_not]
    tauto

/-- A plus sign is taken by the server alone, a second dash by the form alone. -/
theorem statusCodeRules_disagree :
    (Web.parseHttpStatusCodeRules "+401").ok = false ∧
      parseHTTPStatusCodeRanges "+401" = .ok [⟨401, 401⟩] ∧
      (Web.parseHttpStatusCodeRules "500-503-").ok = true ∧
      (Web.parseHttpStatusCodeRules "500-503-").normalized = "500-503" ∧
      parseHTTPStatusCodeRanges "500-503-" =
        .error "invalid http status code rules: 500-503-" := by
  decide +kernel

end TokenRouter

/-! ## Status code rules as the union of their tokens

The matcher stops at the first range above a code, which is right only for sorted ranges that are
apart. The loop that merges the sorted ranges of an input gives such a list, and neither adds nor
loses a code.
-/

namespace TokenRouter

/-- A range has a code. -/
def StatusCodeRange.Covers (r : StatusCodeRange) (code : Int) : Prop :=
  r.start ≤ code ∧ code ≤ r.stop

/-- Merging neither adds a code nor loses one. -/
theorem mergeInto_covers {last : StatusCodeRange} {rest : List StatusCodeRange}
    (hlast : last.Valid) (hrest : ∀ r ∈ rest, r.Valid)
    (hsorted : (last :: rest).Pairwise fun a b => a.start ≤ b.start) (code : Int) :
    (∃ r ∈ mergeInto last rest, r.Covers code) ↔ ∃ r ∈ last :: rest, r.Covers code := by
  induction rest generalizing last with
  | nil => rfl
  | cons r rest ih =>
    obtain ⟨hle, htail⟩ := List.pairwise_cons.mp hsorted
    obtain ⟨hr, hrest'⟩ := List.forall_mem_cons.mp hrest
    have hstart := hle r List.mem_cons_self
    rw [mergeInto]
    by_cases hmerge : r.start ≤ last.stop + 1
    · rw [if_pos hmerge]
      -- both ranges touch, so the longer one of their ends has the codes of both
      have hboth : ∀ stop, stop = max last.stop r.stop →
          (({ last with stop := stop } : StatusCodeRange).Covers code ↔
            last.Covers code ∨ r.Covers code) := by
        intro stop hstop
        unfold StatusCodeRange.Covers StatusCodeRange.Valid at *
        simp only
        omega
      have hmerged : ∀ merged : StatusCodeRange, merged.start = last.start →
          merged.stop = max last.stop r.stop →
          ((∃ r' ∈ mergeInto merged rest, r'.Covers code) ↔
            ∃ r' ∈ last :: r :: rest, r'.Covers code) := by
        intro merged hs he
        have hvalid : merged.Valid := by
          unfold StatusCodeRange.Valid at *
          omega
        have hpair : (merged :: rest).Pairwise fun a b => a.start ≤ b.start := by
          refine List.pairwise_cons.mpr ⟨fun r' hr' => ?_, (List.pairwise_cons.mp htail).2⟩
          rw [hs]
          exact hle r' (List.mem_cons_of_mem r hr')
        have hcovers : merged.Covers code ↔ last.Covers code ∨ r.Covers code := by
          rw [← hboth merged.stop he]
          unfold StatusCodeRange.Covers
          rw [hs]
        rw [ih hvalid hrest' hpair]
        simp only [List.exists_mem_cons_iff, hcovers, or_assoc]
      by_cases hlonger : last.stop < r.stop
      · rw [if_pos hlonger]
        exact hmerged _ rfl (by simp only; omega)
      · rw [if_neg hlonger]
        exact hmerged _ rfl (by omega)
    · rw [if_neg hmerge]
      simp only [List.exists_mem_cons_iff, ih hr hrest' htail]

theorem mergeRanges_covers {ranges : List StatusCodeRange} (hvalid : ∀ r ∈ ranges, r.Valid)
    (code : Int) :
    (∃ r ∈ mergeRanges (ranges.mergeSort StatusCodeRange.le), r.Covers code) ↔
      ∃ r ∈ ranges, r.Covers code := by
  have hmem : (∃ r ∈ ranges.mergeSort StatusCodeRange.le, r.Covers code) ↔
      ∃ r ∈ ranges, r.Covers code := by
    simp only [List.mem_mergeSort]
  have hsorted := sort_start ranges
  have hall : ∀ r ∈ ranges.mergeSort StatusCodeRange.le, r.Valid := fun r hr =>
    hvalid r (List.mem_mergeSort.mp hr)
  rw [← hmem]
  unfold mergeRanges
  cases hsort : ranges.mergeSort StatusCodeRange.le with
  | nil => rfl
  | cons last rest =>
    rw [hsort] at hsorted hall
    obtain ⟨hlast, hrest⟩ := List.forall_mem_cons.mp hall
    exact mergeInto_covers hlast hrest hsorted code

/-- The matcher is true of the codes that a token of the input has. -/
theorem shouldMatch_denotes_iff {input : String} {ranges : List StatusCodeRange}
    (h : parseHTTPStatusCodeRanges input = .ok ranges) (code : Int) :
    shouldMatchStatusCodeRanges ranges code = true ↔ Denotes input code := by
  obtain ⟨hapart, hvalid⟩ := ranges_apart h
  obtain ⟨-, hranges⟩ := parseHTTPStatusCodeRanges_ok_iff.mp h
  have htokens : ∀ r ∈ (ruleParts input).filterMap fun part => (serverRead part).join, r.Valid := by
    intro r hr
    obtain ⟨part, -, hpart⟩ := List.mem_filterMap.mp hr
    rw [Option.join_eq_some_iff] at hpart
    rcases serverRead_cases hpart with ⟨h, -⟩ | ⟨r', h, -, hr'⟩
    · cases h
    · cases h
      exact serverToken_valid hr'
  have hcovers := mergeRanges_covers htokens code
  rw [← hranges] at hcovers
  rw [shouldMatch_iff hapart hvalid]
  refine hcovers.trans ⟨?_, ?_⟩
  · rintro ⟨r, hr, hcode⟩
    obtain ⟨part, hpart, hread⟩ := List.mem_filterMap.mp hr
    exact ⟨part, hpart, r, Option.join_eq_some_iff.mp hread, hcode⟩
  · rintro ⟨part, hpart, r, hread, hcode⟩
    exact ⟨r, List.mem_filterMap.mpr ⟨part, hpart, Option.join_eq_some_iff.mpr hread⟩, hcode⟩

/-! ### Printing and reading again -/

theorem mergeInto_of_apart {last : StatusCodeRange} {rest : List StatusCodeRange}
    (hapart : (last :: rest).Pairwise fun a b => a.stop + 1 < b.start) :
    mergeInto last rest = last :: rest := by
  induction rest generalizing last with
  | nil => rfl
  | cons r rest ih =>
    obtain ⟨hlast, hrest⟩ := List.pairwise_cons.mp hapart
    have hgap := hlast r List.mem_cons_self
    rw [mergeInto, if_neg (by omega), ih hrest]

/-- Ranges that are apart stay as they are. -/
theorem mergeRanges_of_apart {ranges : List StatusCodeRange}
    (hapart : ranges.Pairwise fun a b => a.stop + 1 < b.start) (hvalid : ∀ r ∈ ranges, r.Valid) :
    mergeRanges (ranges.mergeSort StatusCodeRange.le) = ranges := by
  have hle : ranges.Pairwise fun a b => StatusCodeRange.le a b = true := by
    apply hapart.imp_of_mem
    intro a b ha _ hab
    have hstop := (hvalid a ha).2.1
    unfold StatusCodeRange.le
    rw [if_neg (by omega)]
    exact decide_eq_true (by omega)
  rw [List.mergeSort_of_pairwise hle]
  unfold mergeRanges
  cases ranges with
  | nil => rfl
  | cons last rest => exact mergeInto_of_apart hapart

theorem parse_toString {ranges : List StatusCodeRange}
    (hapart : ranges.Pairwise fun a b => a.stop + 1 < b.start) (hvalid : ∀ r ∈ ranges, r.Valid) :
    parseHTTPStatusCodeRanges (statusCodeRangesToString ranges) = .ok ranges := by
  have htext : statusCodeRangesToString ranges =
      String.intercalate "," (ranges.map Web.rangeToken) := rfl
  by_cases hne : ranges = []
  · rw [hne]
    rfl
  rw [htext, parseHTTPStatusCodeRanges_ok_iff, ruleParts_normalized hvalid hne]
  constructor
  · intro part hpart
    obtain ⟨r, hr, rfl⟩ := List.mem_map.mp hpart
    rw [serverRead_rangeToken (hvalid r hr)]
    exact Option.some_ne_none _
  · have hread : (ranges.map fun r => (Web.rangeToken r).toList).filterMap
        (fun part => (serverRead part).join) = ranges := by
      rw [List.filterMap_map]
      refine (List.filterMap_congr fun r hr => ?_).trans List.filterMap_some
      show (serverRead (Web.rangeToken r).toList).join = some r
      rw [serverRead_rangeToken (hvalid r hr)]
      rfl
    rw [hread, mergeRanges_of_apart hapart hvalid]

/-! ### The rules in force -/

/-- An accepted input is sorted into ranges with a gap between them that match the codes of its
tokens and are read back from their own text; a rejected input leaves the rules as they are. -/
theorem statusCodeRules_union (rules : StatusCodeRules) (input : String) :
    (∀ ranges, parseHTTPStatusCodeRanges input = .ok ranges →
      (ranges.Pairwise fun a b => a.start < b.start ∧ a.stop + 1 < b.start) ∧
      (∀ r ∈ ranges, 100 ≤ r.start ∧ r.start ≤ r.stop ∧ r.stop ≤ 599) ∧
      (∀ code, 100 ≤ code → code ≤ 599 →
        (shouldMatchStatusCodeRanges ranges code = true ↔ Denotes input code)) ∧
      parseHTTPStatusCodeRanges (statusCodeRangesToString ranges) = .ok ranges) ∧
    ∀ err, parseHTTPStatusCodeRanges input = .error err →
      rules.disableFromString input = (rules, some err) ∧
        rules.retryFromString input = (rules, some err) := by
  constructor
  · intro ranges h
    obtain ⟨hapart, hvalid⟩ := ranges_apart h
    refine ⟨?_, hvalid, fun code _ _ => shouldMatch_denotes_iff h code,
      parse_toString hapart hvalid⟩
    apply hapart.imp_of_mem
    intro a b ha _ hab
    have hstop := (hvalid a ha).2.1
    omega
  · intro err h
    unfold StatusCodeRules.disableFromString StatusCodeRules.retryFromString
    rw [h]
    exact ⟨rfl, rfl⟩

end TokenRouter
