import TokenRouter.Common.SsrfProtection

/-!
# Spellings of a destination

The filter of outgoing requests sees an address through its 16 bytes, a port through its number and
a domain through its lower case, so that these spellings cannot be told apart. A root dot at the end
of a domain is another text for the list of domains.

## Key results

- `hostPort_spelled`: the host and the port of a spelled URL
- `isOk_checkDomain_iff`: when a domain passes
- `spelling_blind`: when two spellings of one destination are treated alike
-/

namespace TokenRouter.Ssrf

variable {lib : Lib} {p : SSRFProtection}

/-! ## Spellings -/

/-- A domain without its root dot. -/
def rootless (host : Text) : Text := if host.getLast? = some '.' then host.dropLast else host

/-- A text that is no address and needs no brackets. -/
def IsDomain (host : Text) : Prop := parseIP host = none ∧ ':' ∉ host

/-- Two texts for one host: domains that differ in case or in a root dot, or two texts of one
address. -/
inductive SameHost (lib : Lib) : Text → Text → Prop
  | domain {host host' : Text} (h : IsDomain host) (h' : IsDomain host')
      (hsame : (rootless host).map lib.lower = (rootless host').map lib.lower) :
      SameHost lib host host'
  | address {host host' : Text} (ip : IP) (h : parseIP host = some ip)
      (h' : parseIP host' = some ip) : SameHost lib host host'

/-- The host of a URL: in brackets if there is a colon in it, and with the port if it is written. -/
def hostText (host : Text) (port : Option Text) : Text :=
  (if ':' ∈ host then '[' :: host ++ [']'] else host) ++ port.elim [] fun port => ':' :: port

/-- A URL to a host and a port, which may be left out if it is the default one. -/
structure Spelled (lib : Lib) (url : Text) (host port : Text) : Prop where
  digits : ∀ c ∈ port, c.isDigit = true
  noBrackets : '[' ∉ host ∧ ']' ∉ host
  parsed : ∃ scheme ∈ ["http".toList, "https".toList], ∃ written : Option Text,
    lib.parse url = some { scheme, host := hostText host written } ∧
      written.getD (defaultPort scheme) = port

/-- The resolver answers the same for one domain. -/
def ResolvesAlike (lib : Lib) : Prop :=
  ∀ host host', IsDomain host → IsDomain host' →
    (rootless host).map lib.lower = (rootless host').map lib.lower →
      lib.lookupIP host = lib.lookupIP host'

/-! ## Host and port -/

theorem takeWhile_reverse_append_colon {host port : Text} (hport : ':' ∉ port) :
    ((host ++ ':' :: port).reverse.takeWhile (· ≠ ':')).reverse = port := by
  have hne : ∀ c ∈ port.reverse, decide (c ≠ ':') = true := by
    intro c hc
    rw [decide_eq_true_iff]
    rintro rfl
    exact hport (List.mem_reverse.mp hc)
  rw [List.reverse_append, List.reverse_cons, List.append_assoc,
    List.takeWhile_append_of_pos hne]
  simp

theorem take_beforeColon (host port : Text) :
    (host ++ ':' :: port).take ((host ++ ':' :: port).length - port.length - 1) = host := by
  have hlen : (host ++ ':' :: port).length - port.length - 1 = host.length := by
    rw [List.length_append, List.length_cons]
    omega
  rw [hlen, List.take_left]

theorem takeWhile_bracket {host rest : Text} (hhost : ']' ∉ host) :
    (host ++ ']' :: rest).takeWhile (· ≠ ']') = host := by
  have hne : ∀ c ∈ host, decide (c ≠ ']') = true := by
    intro c hc
    rw [decide_eq_true_iff]
    rintro rfl
    exact hhost hc
  rw [List.takeWhile_append_of_pos hne]
  simp

theorem notMem_of_digits {port : Text} (hport : ∀ c ∈ port, c.isDigit = true) {c : Char}
    (hc : c.isDigit = false) : c ∉ port := by
  intro hmem
  rw [hport c hmem] at hc
  cases hc

/-- A text that starts with a bracket is split at the bracket that closes it. -/
theorem splitHostPort_open {rest : Text} (hmem : ':' ∈ rest) {port beforeColon : Text}
    (hport : (('[' :: rest).reverse.takeWhile (· ≠ ':')).reverse = port)
    (hbefore : ('[' :: rest).take (('[' :: rest).length - port.length - 1) = beforeColon) :
    splitHostPort ('[' :: rest) =
      if ¬ '[' :: rest.takeWhile (· ≠ ']') ++ [']'] = beforeColon then none
      else if '[' ∈ rest ∨ ']' ∈ port then none
      else some (rest.takeWhile (· ≠ ']'), port) := by
  subst hport hbefore
  unfold splitHostPort
  rw [if_neg (not_not_intro (List.mem_cons_of_mem _ hmem))]
  rfl

/-- A port behind a host in brackets. -/
theorem splitHostPort_brackets {host port : Text} (hhost : '[' ∉ host ∧ ']' ∉ host)
    (hport : ∀ c ∈ port, c.isDigit = true) :
    splitHostPort (('[' :: host ++ [']']) ++ ':' :: port) = some (host, port) := by
  have hopen : '[' ∉ port := notMem_of_digits hport (by decide)
  have hclose : ']' ∉ port := notMem_of_digits hport (by decide)
  have htext : ('[' :: host ++ [']']) ++ ':' :: port = '[' :: (host ++ ']' :: ':' :: port) := by
    simp
  have hcolon : ':' ∉ port := notMem_of_digits hport (by decide)
  have hlast := @takeWhile_reverse_append_colon ('[' :: host ++ [']']) port hcolon
  have hbefore := take_beforeColon ('[' :: host ++ [']']) port
  rw [htext] at hlast hbefore ⊢
  rw [splitHostPort_open (by simp) hlast hbefore, takeWhile_bracket hhost.2,
    if_neg (not_not_intro rfl), if_neg]
  simp [hhost.1, hopen, hclose]

/-- A port behind a host without brackets. -/
theorem splitHostPort_plain {host port : Text} (hhost : '[' ∉ host ∧ ']' ∉ host)
    (hcolon : ':' ∉ host) (hport : ∀ c ∈ port, c.isDigit = true) :
    splitHostPort (host ++ ':' :: port) = some (host, port) := by
  have hmem : ':' ∈ host ++ ':' :: port := by simp
  have hopen : '[' ∉ port := notMem_of_digits hport (by decide)
  have hclose : ']' ∉ port := notMem_of_digits hport (by decide)
  have hfirst : ∀ rest, host ++ ':' :: port ≠ '[' :: rest := by
    intro rest heq
    cases host with
    | nil => simp at heq
    | cons c host =>
      have hc : c = '[' := (List.cons.inj heq).1
      exact hhost.1 (hc ▸ List.mem_cons_self)
  unfold splitHostPort
  rw [if_neg (not_not_intro hmem)]
  dsimp only
  rw [takeWhile_reverse_append_colon (notMem_of_digits hport (by decide)), take_beforeColon]
  split
  · next rest heq => exact absurd heq (hfirst rest)
  · rw [if_neg]
    simp [hcolon, hhost.1, hhost.2, hopen, hclose]

/-- Behind the last colon of a host in brackets stands the closing bracket. -/
theorem mem_port_brackets (host : Text) :
    ']' ∈ (('[' :: host ++ [']']).reverse.takeWhile (· ≠ ':')).reverse := by
  rw [List.reverse_append, List.reverse_singleton, List.singleton_append,
    List.takeWhile_cons_of_pos (by decide)]
  simp

/-- Without a port the host in brackets is the name of the URL. -/
theorem splitHostPort_brackets_none {host : Text} (hhost : ']' ∉ host) (hcolon : ':' ∈ host) :
    splitHostPort ('[' :: host ++ [']']) = none := by
  show splitHostPort ('[' :: (host ++ [']'])) = none
  rw [splitHostPort_open (by simp [hcolon]) rfl rfl, takeWhile_bracket hhost, if_pos]
  intro heq
  have hlen := congrArg List.length heq
  simp only [List.length_take, List.length_append, List.length_cons] at hlen
  omega

theorem hostname_brackets (host : Text) : hostname ('[' :: host ++ [']']) = host := by
  have hport : validOptionalPort
      (':' :: (('[' :: host ++ [']']).reverse.takeWhile (· ≠ ':')).reverse) = false := by
    unfold validOptionalPort
    rw [List.drop_one, List.tail_cons, List.all_eq_false]
    exact ⟨']', mem_port_brackets host, by decide⟩
  have hlast : ('[' :: host ++ [']']).getLast? = some ']' := by
    rw [List.getLast?_append]
    rfl
  unfold hostname
  dsimp only
  simp only [hport, Bool.false_eq_true, and_false, if_false]
  rw [if_pos ⟨rfl, hlast⟩]
  show (host ++ [']']).dropLast = host
  exact List.dropLast_concat

theorem splitHostPort_plain_none {host : Text} (hcolon : ':' ∉ host) :
    splitHostPort host = none := if_pos hcolon

theorem hostname_plain {host : Text} (hhost : '[' ∉ host) (hcolon : ':' ∉ host) :
    hostname host = host := by
  unfold hostname
  simp only [hcolon, false_and, if_false]
  rw [if_neg]
  rintro ⟨hhead, -⟩
  exact hhost (List.mem_of_head? hhead)

/-- The host and the port of a spelled URL, whichever way they are written. -/
theorem hostPort_spelled {scheme host : Text} {written : Option Text}
    (hhost : '[' ∉ host ∧ ']' ∉ host)
    (hport : ∀ c ∈ written.getD (defaultPort scheme), c.isDigit = true) :
    hostPort { scheme, host := hostText host written } =
      (host, written.getD (defaultPort scheme)) := by
  unfold hostPort hostText
  dsimp only
  cases written with
  | none =>
    rw [Option.elim_none, List.append_nil]
    by_cases hcolon : ':' ∈ host
    · rw [if_pos hcolon, splitHostPort_brackets_none hhost.2 hcolon, hostname_brackets]
      rfl
    · rw [if_neg hcolon, splitHostPort_plain_none hcolon, hostname_plain hhost.1 hcolon]
      rfl
  | some port =>
    rw [Option.getD_some] at hport ⊢
    rw [Option.elim_some]
    by_cases hcolon : ':' ∈ host
    · rw [if_pos hcolon, splitHostPort_brackets hhost hport]
      rfl
    · rw [if_neg hcolon, splitHostPort_plain hhost hcolon hport]
      rfl

/-- A spelled URL is decided by its host and its port alone. -/
theorem validateURL_spelled {url host port : Text} (h : Spelled lib url host port) :
    validateURL lib p url = checkHost lib p host port := by
  obtain ⟨scheme, hscheme, written, hparse, hport⟩ := h.parsed
  unfold validateURL
  rw [hparse]
  dsimp only
  rw [if_neg, hostPort_spelled h.noBrackets (hport ▸ h.digits), hport]
  rintro ⟨hhttp, hhttps⟩
  rcases List.mem_cons.mp hscheme with heq | hmem
  · exact hhttp heq
  · exact hhttps (List.mem_singleton.mp hmem)

/-! ## Domains -/

theorem isOk_checkResolved_iff (host : Text) (ips : List IP) :
    (checkResolved p host ips).isOk = true ↔ ∀ ip ∈ ips, isIPAccessAllowed p ip = true := by
  induction ips with
  | nil => simp [checkResolved, Except.isOk, Except.toBool]
  | cons ip ips ih =>
    unfold checkResolved
    by_cases hip : isIPAccessAllowed p ip
    · rw [if_pos hip, ih, List.forall_mem_cons]
      exact (and_iff_right hip).symm
    · rw [if_neg hip]
      constructor
      · intro h
        split at h
        · cases h
        · split at h
          · cases h
          · cases h
      · intro h
        exact absurd (h ip List.mem_cons_self) hip

/-- Whether the addresses of a domain let it pass. -/
def Resolves (lib : Lib) (p : SSRFProtection) (host : Text) : Prop :=
  p.applyIPFilterForDomain = true →
    ∃ ips, lib.lookupIP host = some ips ∧ ∀ ip ∈ ips, isIPAccessAllowed p ip = true

/-- A domain passes if the list of domains and its addresses let it pass. -/
theorem isOk_checkDomain_iff (host : Text) :
    (checkDomain lib p host).isOk = true ↔
      isDomainAllowed lib p host = true ∧ Resolves lib p host := by
  unfold checkDomain Resolves
  cases isDomainAllowed lib p host with
  | false =>
    simp only [Bool.not_false, if_true, Bool.false_eq_true, false_and, iff_false]
    split
    · exact Bool.false_ne_true
    · exact Bool.false_ne_true
  | true =>
    simp only [Bool.not_true, Bool.false_eq_true, if_false, true_and]
    cases p.applyIPFilterForDomain with
    | false => simp [Except.isOk, Except.toBool]
    | true =>
      simp only [Bool.not_true, Bool.false_eq_true, if_false, forall_const]
      cases lib.lookupIP host with
      | none => simp [Except.isOk, Except.toBool]
      | some ips =>
        rw [isOk_checkResolved_iff]
        simp

/-! ## Spellings are treated alike -/

/-- The URL is accepted. -/
def Accepts (lib : Lib) (p : SSRFProtection) (url : Text) : Prop :=
  (validateURL lib p url).isOk = true

def PortPasses (p : SSRFProtection) (portStr : Text) : Prop :=
  ∃ port, atoi portStr = some port ∧ isAllowedPort p port = true

theorem isOk_checkLiteral_iff (ip : IP) :
    (checkLiteral p ip).isOk = true ↔ isIPAccessAllowed p ip = true := by
  unfold checkLiteral
  cases isIPAccessAllowed p ip with
  | true => simp [Except.isOk, Except.toBool]
  | false =>
    simp only [Bool.false_eq_true, if_false, iff_false]
    split
    · exact Bool.false_ne_true
    · split
      · exact Bool.false_ne_true
      · exact Bool.false_ne_true

/-- A host passes if its port does, and then its address or its domain. -/
theorem isOk_checkHost_iff (host portStr : Text) :
    (checkHost lib p host portStr).isOk = true ↔
      PortPasses p portStr ∧
        match parseIP host with
        | some ip => isIPAccessAllowed p ip = true
        | none => isDomainAllowed lib p host = true ∧ Resolves lib p host := by
  unfold checkHost PortPasses
  cases atoi portStr with
  | none => simp [Except.isOk, Except.toBool]
  | some port =>
    have hexists : (∃ n, some port = some n ∧ isAllowedPort p n = true) ↔
        isAllowedPort p port = true := by simp
    rw [hexists]
    dsimp only
    cases hport : isAllowedPort p port with
    | false => simp [Except.isOk, Except.toBool]
    | true =>
      rw [if_neg (by simp)]
      simp only [true_and]
      cases parseIP host with
      | some ip => exact isOk_checkLiteral_iff ip
      | none => exact isOk_checkDomain_iff host

/-- The list of domains does not tell two domains apart, or the URL is refused for another
reason. -/
def ListedAlike (lib : Lib) (p : SSRFProtection) (host host' port : Text) : Prop :=
  parseIP host = none →
    isDomainListed lib host p.domainList = isDomainListed lib host' p.domainList ∨
      ¬ PortPasses p port ∨ ¬ Resolves lib p host

/-- An address of the tables of private networks of its family. -/
def InPrivateTables (ip : IP) : Prop :=
  match to4 ip with
  | some _ => ∃ network ∈ privateIPv4Nets, network.contains ip = true
  | none => ∃ network ∈ privateIPv6Nets, network.contains ip = true

/-- An address to which a URL leads. -/
def LeadsTo (lib : Lib) (url : Text) (ip : IP) : Prop :=
  ∃ u, lib.parse url = some u ∧
    (parseIP (hostPort u).1 = some ip ∨
      parseIP (hostPort u).1 = none ∧ ∃ ips, lib.lookupIP (hostPort u).1 = some ips ∧ ip ∈ ips)

theorem isPrivateIP_of_inPrivateTables {ip : IP} (h : InPrivateTables ip) :
    isPrivateIP ip = true := by
  unfold InPrivateTables at h
  unfold isPrivateIP
  rw [Bool.or_eq_true]
  right
  cases hto4 : to4 ip with
  | some addr =>
    rw [hto4] at h
    exact List.any_eq_true.mpr h
  | none =>
    rw [hto4] at h
    rw [Bool.or_eq_true]
    exact Or.inl (List.any_eq_true.mpr h)

theorem not_isPrivateIP_of_allowed (hprivate : p.allowPrivateIp = false) {ip : IP}
    (h : isIPAccessAllowed p ip = true) : isPrivateIP ip = false := by
  unfold isIPAccessAllowed at h
  rw [hprivate, Bool.not_false, Bool.and_true] at h
  split at h
  · cases h
  · next hnot => exact Bool.eq_false_iff.mpr hnot

/-- The domains of one destination are allowed alike exactly when they are listed alike. -/
theorem isDomainAllowed_iff (host host' : Text) :
    (isDomainAllowed lib p host = true ↔ isDomainAllowed lib p host' = true) ↔
      isDomainListed lib host p.domainList = isDomainListed lib host' p.domainList := by
  unfold isDomainAllowed
  cases isDomainListed lib host p.domainList <;>
    cases isDomainListed lib host' p.domainList <;> cases p.domainFilterMode <;> simp

/-- Two URLs to one destination are both accepted or both refused exactly when the list of domains
does not tell their hosts apart, or another check refuses them; and with the filter of addresses on,
no accepted URL leads to an address of the tables of private networks. -/
theorem spelling_blind (lib : Lib) (hresolver : ResolvesAlike lib) (p : SSRFProtection) :
    (∀ url url' host host' port, Spelled lib url host port → Spelled lib url' host' port →
        SameHost lib host host' →
          ((Accepts lib p url ↔ Accepts lib p url') ↔ ListedAlike lib p host host' port)) ∧
      (p.allowPrivateIp = false → p.applyIPFilterForDomain = true →
        ∀ url, Accepts lib p url → ∀ ip, LeadsTo lib url ip → ¬ InPrivateTables ip) := by
  constructor
  · intro url url' host host' port hurl hurl' hsame
    unfold Accepts
    rw [validateURL_spelled hurl, validateURL_spelled hurl', isOk_checkHost_iff,
      isOk_checkHost_iff]
    cases hsame with
    | address ip h h' =>
      rw [h, h']
      exact iff_of_true Iff.rfl fun hnone => by rw [h] at hnone; cases hnone
    | domain h h' hfold =>
      have hresolves : Resolves lib p host' ↔ Resolves lib p host := by
        unfold Resolves
        rw [hresolver host host' h h' hfold]
      unfold ListedAlike
      rw [h.1, h'.1, hresolves, ← isDomainAllowed_iff]
      by_cases hport : PortPasses p port
      · by_cases haddr : Resolves lib p host
        · simp [hport, haddr]
        · simp [haddr]
      · simp [hport]
  · intro hprivate hfilter url haccepts ip hleads hin
    obtain ⟨u, hparse, hleads⟩ := hleads
    have hallowed : isIPAccessAllowed p ip = true := by
      unfold Accepts validateURL at haccepts
      rw [hparse] at haccepts
      dsimp only at haccepts
      split at haccepts
      · cases haccepts
      · obtain ⟨-, hhost⟩ := isOk_checkHost_iff _ _ |>.mp haccepts
        rcases hleads with hliteral | ⟨hname, ips, hlookup, hmem⟩
        · rwa [hliteral] at hhost
        · rw [hname] at hhost
          obtain ⟨ips', hlookup', hall⟩ := hhost.2 hfilter
          rw [hlookup] at hlookup'
          obtain rfl := Option.some.inj hlookup'
          exact hall ip hmem
    have hnot := not_isPrivateIP_of_allowed hprivate hallowed
    rw [isPrivateIP_of_inPrivateTables hin] at hnot
    cases hnot

/-! ## A root dot -/

/-- Two URLs to one destination, and a third one that writes the root dot. -/
def exampleLib : Lib where
  parse url :=
    if url = "http://example.com/".toList then some ⟨"http".toList, "example.com".toList⟩
    else if url = "http://EXAMPLE.com:80/".toList then
      some ⟨"http".toList, "EXAMPLE.com:80".toList⟩
    else if url = "http://example.com./".toList then
      some ⟨"http".toList, "example.com.".toList⟩
    else none
  lookupIP _ := some [mapped (ipv4 93 184 216 34)]
  lower := Char.toLower

theorem spelled_example :
    Spelled exampleLib "http://example.com/".toList "example.com".toList "80".toList where
  digits := List.all_eq_true.mp (by decide)
  noBrackets := by decide
  parsed := ⟨"http".toList, by decide, none, rfl, rfl⟩

theorem spelled_upper :
    Spelled exampleLib "http://EXAMPLE.com:80/".toList "EXAMPLE.com".toList "80".toList where
  digits := List.all_eq_true.mp (by decide)
  noBrackets := by decide
  parsed := ⟨"http".toList, by decide, some "80".toList, rfl, rfl⟩

theorem spelled_root :
    Spelled exampleLib "http://example.com./".toList "example.com.".toList "80".toList where
  digits := List.all_eq_true.mp (by decide)
  noBrackets := by decide
  parsed := ⟨"http".toList, by decide, none, rfl, rfl⟩

/-- Only `example.com` is allowed. -/
def onlyExample : SSRFProtection :=
  { domainFilterMode := true, domainList := ["example.com".toList], applyIPFilterForDomain := true }

/-- A domain in capitals with its port passes a list with the domain. -/
theorem spelling_blind_upper :
    (Accepts exampleLib onlyExample "http://example.com/".toList ↔
        Accepts exampleLib onlyExample "http://EXAMPLE.com:80/".toList) ∧
      ∀ ip, LeadsTo exampleLib "http://example.com/".toList ip → ¬ InPrivateTables ip := by
  obtain ⟨halike, hprivate⟩ := spelling_blind exampleLib (fun _ _ _ _ _ => rfl) onlyExample
  constructor
  · refine (halike _ _ _ _ _ spelled_example spelled_upper ?_).mpr fun _ => Or.inl ?_
    · exact .domain ⟨by decide, by decide⟩ ⟨by decide, by decide⟩ (by decide)
    · decide
  · refine hprivate rfl rfl _ ?_
    unfold Accepts
    decide

/-- A domain on the list of refused ones is accepted with its root dot. -/
theorem accepts_root_dot :
    ¬ ∀ (lib : Lib) (p : SSRFProtection), ResolvesAlike lib → ∀ url url' host host' port,
      Spelled lib url host port → Spelled lib url' host' port → SameHost lib host host' →
        (Accepts lib p url ↔ Accepts lib p url') := by
  intro h
  have hsame : SameHost exampleLib "example.com".toList "example.com.".toList :=
    .domain ⟨by decide, by decide⟩ ⟨by decide, by decide⟩ (by decide)
  have halike := h exampleLib { domainList := ["example.com".toList] } (fun _ _ _ _ _ => rfl) _ _ _
    _ _ spelled_example spelled_root hsame
  have hrefused : ¬ Accepts exampleLib { domainList := ["example.com".toList] }
      "http://example.com/".toList := by
    unfold Accepts
    decide
  apply hrefused
  rw [halike]
  unfold Accepts
  decide

end TokenRouter.Ssrf
