import TokenRouter.Setting.StatusCodeRanges

/-!
# Protection of outgoing requests (`common/ssrf_protection.go`, `common/ip.go`)

`ValidateURL` decides on a URL by its port, its domain and the addresses that it resolves to. An
address is kept in the 16 bytes of `net.IP`, where an IPv4 address is the mapped one; texts are
lists of characters. `url.Parse`, the resolver and the lower case of a rune are parameters.
-/

namespace TokenRouter.Ssrf

abbrev Text := List Char

/-- `net.IP` -/
abbrev IP := BitVec 128

/-- `IP.To4` -/
def to4 (ip : IP) : Option (BitVec 32) :=
  if ip >>> 32 = 0xffff then some (ip.setWidth 32) else none

/-- An IPv4 address in 16 bytes. -/
def mapped (addr : BitVec 32) : IP := 0xffff00000000 ||| addr.setWidth 128

/-! ## Addresses -/

/-- One number of an IPv4 address. -/
def parseOctet (digits : Text) : Option (BitVec 32) :=
  if 1 < digits.length ∧ digits.head? = some '0' then none
  else ((digitsValue digits).filter (· ≤ 255)).map (BitVec.ofNat 32)

/-- `parseIPv4Fields` -/
def parseIPv4 (text : Text) : Option (BitVec 32) :=
  match (text.splitOn '.').mapM parseOctet with
  | some [a, b, c, d] => some (a <<< 24 ||| b <<< 16 ||| c <<< 8 ||| d)
  | _ => none

def hexValue (c : Char) : Option Nat :=
  if c.isDigit then some (c.toNat - '0'.toNat)
  else if 'a' ≤ c ∧ c ≤ 'f' then some (c.toNat - 'a'.toNat + 10)
  else if 'A' ≤ c ∧ c ≤ 'F' then some (c.toNat - 'A'.toNat + 10)
  else none

def isHex (c : Char) : Bool := (hexValue c).isSome

/-- One group of an IPv6 address. -/
def hexGroup (digits : Text) : Nat :=
  digits.foldl (fun n c => 16 * n + (hexValue c).getD 0) 0

/-- The loop of `parseIPv6`: `left` groups are missing, `groups` are read, and `ellipsis` of them
    stand before the `::`. -/
def parseIPv6Groups : Nat → Text → List Nat → Option Nat → Option (List Nat × Option Nat)
  | 0, text, groups, ellipsis => if text = [] then some (groups, ellipsis) else none
  | left + 1, text, groups, ellipsis =>
    let digits := text.takeWhile isHex
    if digits = [] ∨ 4 < digits.length then none
    else
      match text.dropWhile isHex with
      | [] => some (groups ++ [hexGroup digits], ellipsis)
      | '.' :: _ =>
        -- a trailing IPv4 address takes the place of two groups
        if ellipsis = none ∧ left ≠ 1 ∨ left = 0 then none
        else (parseIPv4 text).map fun addr : BitVec 32 =>
          (groups ++ [(addr >>> 16).toNat, (addr.setWidth 16).toNat], ellipsis)
      | ':' :: ':' :: rest =>
        if ellipsis.isSome then none
        else if rest = [] then
          some (groups ++ [hexGroup digits], some (groups.length + 1))
        else parseIPv6Groups left rest (groups ++ [hexGroup digits]) (some (groups.length + 1))
      | ':' :: rest =>
        if rest = [] then none
        else parseIPv6Groups left rest (groups ++ [hexGroup digits]) ellipsis
      | _ => none

/-- The address of eight groups. -/
def ofGroups (groups : List Nat) : IP :=
  groups.foldl (fun addr group => addr <<< 16 ||| BitVec.ofNat 128 group) 0

/-- `parseIPv6`. A zone is refused by the callers. -/
def parseIPv6 (text : Text) : Option IP :=
  if '%' ∈ text then none
  else
    let parsed := match text with
      | ':' :: ':' :: rest =>
        if rest = [] then some ([], some 0) else parseIPv6Groups 8 rest [] (some 0)
      | _ => parseIPv6Groups 8 text [] none
    parsed.bind fun (groups, ellipsis) =>
      match ellipsis with
      | none => if groups.length = 8 then some (ofGroups groups) else none
      | some n =>
        if groups.length < 8 then
          some (ofGroups (groups.take n ++ List.replicate (8 - groups.length) 0 ++ groups.drop n))
        else none

inductive Addr where
  | v4 (addr : BitVec 32)
  | v6 (addr : IP)

/-- `netip.ParseAddr`, without zones -/
def parseAddr (text : Text) : Option Addr :=
  match text.find? fun c => c = '.' ∨ c = ':' ∨ c = '%' with
  | some '.' => (parseIPv4 text).map .v4
  | some ':' => (parseIPv6 text).map .v6
  | _ => none

/-- `net.ParseIP` -/
def parseIP (text : Text) : Option IP :=
  (parseAddr text).map fun
    | .v4 addr => mapped addr
    | .v6 addr => addr

/-! ## Networks -/

/-- `net.IPNet`, with the family of its number and mask -/
inductive IPNet where
  | v4 (number : BitVec 32) (bits : Nat)
  | v6 (number : BitVec 128) (bits : Nat)

/-- `IPNet.Contains` -/
def IPNet.contains (network : IPNet) (ip : IP) : Bool :=
  match network, to4 ip with
  | .v4 number bits, some addr => addr >>> (32 - bits) = number >>> (32 - bits)
  | .v6 number bits, none => ip >>> (128 - bits) = number >>> (128 - bits)
  | _, _ => false

/-- `net.ParseCIDR`. A network of mapped addresses has the number and mask of an IPv4 one. -/
def parseCIDR (text : Text) : Option IPNet :=
  match text.dropWhile (· ≠ '/') with
  | [] => none
  | _ :: mask =>
    match parseAddr (text.takeWhile (· ≠ '/')), digitsValue mask with
    | some (.v4 addr), some bits => if bits ≤ 32 then some (.v4 addr bits) else none
    | some (.v6 addr), some bits =>
      if 128 < bits then none
      else match to4 addr with
        | some number => if 96 ≤ bits then some (.v4 number (bits - 96)) else some (.v6 addr bits)
        | none => some (.v6 addr bits)
    | _, _ => none

/-- `IsIpInCIDRList` -/
def isIpInCIDRList (ip : IP) (cidrList : List Text) : Bool :=
  cidrList.any fun cidr =>
    match parseCIDR cidr with
    | none => parseIP cidr = some ip
    | some network => network.contains ip

def ipv4 (a b c d : BitVec 8) : BitVec 32 :=
  a.setWidth 32 <<< 24 ||| b.setWidth 32 <<< 16 ||| c.setWidth 32 <<< 8 ||| d.setWidth 32

def privateIPv4Nets : List IPNet :=
  [.v4 (ipv4 0 0 0 0) 8, .v4 (ipv4 10 0 0 0) 8, .v4 (ipv4 100 64 0 0) 10, .v4 (ipv4 127 0 0 0) 8,
    .v4 (ipv4 169 254 0 0) 16, .v4 (ipv4 172 16 0 0) 12, .v4 (ipv4 192 0 0 0) 24,
    .v4 (ipv4 192 0 2 0) 24, .v4 (ipv4 192 168 0 0) 16, .v4 (ipv4 198 18 0 0) 15,
    .v4 (ipv4 198 51 100 0) 24, .v4 (ipv4 203 0 113 0) 24, .v4 (ipv4 224 0 0 0) 4,
    .v4 (ipv4 240 0 0 0) 4, .v4 (ipv4 255 255 255 255) 32]

def privateIPv6Nets : List IPNet :=
  ["::/128", "::1/128", "::ffff:0:0/96", "64:ff9b::/96", "100::/64", "2001::/23", "2001:db8::/32",
    "fc00::/7", "fe80::/10", "ff00::/8"].filterMap fun cidr => parseCIDR cidr.toList

def isUnspecified (ip : IP) : Bool := ip = mapped 0 ∨ ip = 0

def isLoopback (ip : IP) : Bool :=
  match to4 ip with
  | some addr => addr >>> 24 = 127
  | none => ip = 1

def isLinkLocalUnicast (ip : IP) : Bool :=
  match to4 ip with
  | some addr => addr >>> 16 = 0xa9fe
  | none => ip >>> 118 = 0x3fa

def isLinkLocalMulticast (ip : IP) : Bool :=
  match to4 ip with
  | some addr => addr >>> 8 = 0xe00000
  | none => ip >>> 120 = 0xff ∧ (ip >>> 112) &&& 0xf = 2

def isInterfaceLocalMulticast (ip : IP) : Bool := ip >>> 120 = 0xff ∧ (ip >>> 112) &&& 0xf = 1

/-- `IP.IsPrivate` -/
def isPrivate (ip : IP) : Bool :=
  match to4 ip with
  | some addr => addr >>> 24 = 10 ∨ addr >>> 20 = 0xac1 ∨ addr >>> 16 = 0xc0a8
  | none => ip >>> 121 = 0x7e

def isPrivateIP (ip : IP) : Bool :=
  isUnspecified ip ||
    (isLoopback ip || isLinkLocalUnicast ip || isLinkLocalMulticast ip) ||
    isInterfaceLocalMulticast ip ||
    match to4 ip with
    | some _ => privateIPv4Nets.any fun network => network.contains ip
    | none => privateIPv6Nets.any (fun network => network.contains ip) || isPrivate ip

/-! ## The filter -/

structure SSRFProtection where
  allowPrivateIp : Bool := false
  domainFilterMode : Bool := false
  domainList : List Text := []
  ipFilterMode : Bool := false
  ipList : List Text := []
  allowedPorts : List Int := []
  applyIPFilterForDomain : Bool := false

/-- What the filter reads of a parsed URL. -/
structure URL where
  scheme : Text
  host : Text

structure Lib where
  parse : Text → Option URL
  lookupIP : Text → Option (List IP)
  lower : Char → Char

variable (lib : Lib) (p : SSRFProtection)

def isAllowedPort (port : Int) : Bool := p.allowedPorts = [] ∨ port ∈ p.allowedPorts

/-- Whether one item of a list of domains is the domain, or a wildcard for it. -/
def itemMatches (domain item : Text) : Bool :=
  item ≠ [] ∧
    (domain = item ∨
      "*.".toList <+: item ∧ ('.' :: item.drop 2 <:+ domain ∨ domain = item.drop 2))

def isDomainListed (domain : Text) (list : List Text) : Bool :=
  list.any fun item =>
    itemMatches (domain.map lib.lower) ((item.trimBy isSpace).map lib.lower)

def isDomainAllowed (domain : Text) : Bool :=
  if p.domainFilterMode then isDomainListed lib domain p.domainList
  else !isDomainListed lib domain p.domainList

def isIPListed (ip : IP) (list : List Text) : Bool := isIpInCIDRList ip list

def isIPAccessAllowed (ip : IP) : Bool :=
  if isPrivateIP ip && !p.allowPrivateIp then false
  else if p.ipFilterMode then isIPListed ip p.ipList
  else !isIPListed ip p.ipList

/-- `net.SplitHostPort` -/
def splitHostPort (hostport : Text) : Option (Text × Text) :=
  if ':' ∉ hostport then none
  else
    let port := (hostport.reverse.takeWhile (· ≠ ':')).reverse
    let beforeColon := hostport.take (hostport.length - port.length - 1)
    match hostport with
    | '[' :: rest =>
      let host := rest.takeWhile (· ≠ ']')
      -- the last colon stands right behind the first closing bracket
      if '[' :: host ++ [']'] ≠ beforeColon then none
      else if '[' ∈ rest ∨ ']' ∈ port then none
      else some (host, port)
    | _ =>
      if ':' ∈ beforeColon ∨ '[' ∈ hostport ∨ ']' ∈ hostport then none
      else some (beforeColon, port)

/-- `validOptionalPort`, of a text that starts with a colon -/
def validOptionalPort (port : Text) : Bool := (port.drop 1).all Char.isDigit

/-- `URL.Hostname` -/
def hostname (host : Text) : Text :=
  let port := (host.reverse.takeWhile (· ≠ ':')).reverse
  let bare :=
    if ':' ∈ host ∧ validOptionalPort (':' :: port) then host.take (host.length - port.length - 1)
    else host
  if bare.head? = some '[' ∧ bare.getLast? = some ']' then (bare.drop 1).dropLast else bare

inductive ValidateError where
  | invalidFormat
  | unsupportedProtocol (scheme : Text)
  | invalidPort (port : Text)
  | portNotAllowed (port : Int)
  | privateIP (ip : IP)
  | ipNotInWhitelist (ip : IP)
  | ipInBlacklist (ip : IP)
  | domainNotInWhitelist (host : Text)
  | domainInBlacklist (host : Text)
  | resolutionFailed (host : Text)
  | resolvesToPrivateIP (host : Text) (ip : IP)
  | resolvesOutsideWhitelist (host : Text) (ip : IP)
  | resolvesIntoBlacklist (host : Text) (ip : IP)

def defaultPort (scheme : Text) : Text :=
  if scheme = "https".toList then "443".toList else "80".toList

/-- The host and the port of a URL. -/
def hostPort (u : URL) : Text × Text :=
  (splitHostPort u.host).getD (hostname u.host, defaultPort u.scheme)

/-- The check of a literal address. -/
def checkLiteral (ip : IP) : Except ValidateError Unit :=
  if isIPAccessAllowed p ip then .ok ()
  else if isPrivateIP ip then .error (.privateIP ip)
  else if p.ipFilterMode then .error (.ipNotInWhitelist ip)
  else .error (.ipInBlacklist ip)

/-- The check of the addresses of a domain, up to the first that is refused. -/
def checkResolved (host : Text) : List IP → Except ValidateError Unit
  | [] => .ok ()
  | ip :: ips =>
    if isIPAccessAllowed p ip then checkResolved host ips
    else if isPrivateIP ip && !p.allowPrivateIp then .error (.resolvesToPrivateIP host ip)
    else if p.ipFilterMode then .error (.resolvesOutsideWhitelist host ip)
    else .error (.resolvesIntoBlacklist host ip)

/-- The check of a domain. -/
def checkDomain (host : Text) : Except ValidateError Unit :=
  if !isDomainAllowed lib p host then
    if p.domainFilterMode then .error (.domainNotInWhitelist host)
    else .error (.domainInBlacklist host)
  else if !p.applyIPFilterForDomain then .ok ()
  else
    match lib.lookupIP host with
    | none => .error (.resolutionFailed host)
    | some ips => checkResolved p host ips

/-- The check of a host with its port. -/
def checkHost (host portStr : Text) : Except ValidateError Unit :=
  match atoi portStr with
  | none => .error (.invalidPort portStr)
  | some port =>
    if !isAllowedPort p port then .error (.portNotAllowed port)
    else
      match parseIP host with
      | some ip => checkLiteral p ip
      | none => checkDomain lib p host

/-- `ValidateURL` -/
def validateURL (urlStr : Text) : Except ValidateError Unit :=
  match lib.parse urlStr with
  | none => .error .invalidFormat
  | some u =>
    if u.scheme ≠ "http".toList ∧ u.scheme ≠ "https".toList then
      .error (.unsupportedProtocol u.scheme)
    else checkHost lib p (hostPort u).1 (hostPort u).2

end TokenRouter.Ssrf
