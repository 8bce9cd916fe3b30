import DshOrbit.Protocol
import Mathlib.Tactic.IntervalCases

/-!
# Host authorities

Which authority a Host header names under the configured route domain
(`registry/route-proxy.mjs`): a node, the apex of the domain, some other name of its namespace,
or an unrelated one.

## Main definitions

- `classifyHostAuthority` — the class of a Host header
- `InNamespace` — the hostname of a Host header lies in the namespace of the route domain
- `RoundTrips` — what node authorities and Host headers have in common

## Main results

- `authorities_round_trip` — a node authority is read back as its node
-/

namespace DshOrbit.RouteProxy

open DshOrbit.Lib DshOrbit.Protocol

inductive HostClass
  | nodeRoute (nodeId routeAuthority : String)
  | selectorApex (authority : String)
  | invalidRouteDomain (reason : String)
  | unrelated (authority : Option String)
  deriving DecidableEq, Repr

/-- `s.split(":")` of a text with at most one colon: its hostname and its port. -/
def splitPort (chars : List Char) : List Char × Option (List Char) :=
  match chars.dropWhile (· ≠ ':') with
  | [] => (chars, none)
  | _ :: port => (chars.takeWhile (· ≠ ':'), some port)

def dropTrailingDots (chars : List Char) : List Char := chars.rdropWhile (· == '.')

/-- `s.replace(/\.(:\d+)?$/, "$1")`. -/
def dropRootDot (chars : List Char) : List Char :=
  let digits := chars.rtakeWhile isDigitChar
  let rest := chars.rdropWhile isDigitChar
  if digits.isEmpty then
    if chars.getLast? = some '.' then chars.dropLast else chars
  else if rest.getLast? = some ':' ∧ rest.dropLast.getLast? = some '.' then
    rest.dropLast.dropLast ++ ':' :: digits
  else chars

/-- `hostname.match(/^n-([0-9a-f]{32})\.(.+)$/i)` of a hostname in lower case. -/
def matchNodeHost (hostname : List Char) : Option (List Char × List Char) :=
  match hostname with
  | 'n' :: '-' :: rest =>
    match rest.drop 32 with
    | '.' :: domain =>
      if (rest.take 32).length = 32 ∧ (rest.take 32).all isLowerHexChar ∧ domain ≠ [] then
        some (rest.take 32, domain)
      else none
    | _ => none
  | _ => none

/-- The class of a Host header in the namespace of a route domain. -/
def classifyInNamespace (cleanHost cleanDomain : List Char) (configuredRouteDomain : String) :
    Except String HostClass :=
  let domain := splitPort cleanDomain
  let rawHostname := cleanHost.takeWhile (· ≠ ':')
  if 1 < (rawHostname.rtakeWhile (· == '.')).length then
    .ok (.invalidRouteDomain "multiple-trailing-dots")
  else
    let normalizedHost := dropRootDot cleanHost
    if !isDomainText normalizedHost then
      .ok (.invalidRouteDomain "malformed-authority-grammar")
    else
      let host := splitPort normalizedHost
      if domain.2.isSome ∧ host.2 ≠ domain.2 then .ok (.invalidRouteDomain "port-mismatch")
      else if domain.2 = none ∧ host.2 ≠ none then .ok (.invalidRouteDomain "unexpected-port")
      else if host.1 = domain.1 then .ok (.selectorApex (String.ofList cleanDomain))
      else
        match matchNodeHost host.1 with
        | none => .ok (.invalidRouteDomain "non-node-subdomain")
        | some (hex, domainPart) =>
          if domainPart ≠ domain.1 then .ok (.invalidRouteDomain "domain-suffix-mismatch")
          else
            let nodeId := "node_" ++ String.ofList hex
            match computeRouteAuthority nodeId configuredRouteDomain with
            | .error e => .error e
            | .ok routeAuthority => .ok (.nodeRoute nodeId routeAuthority)

def classifyHostAuthority (hostHeader configuredRouteDomain : Option String) :
    Except String HostClass :=
  match hostHeader with
  | none | some "" => .ok (.unrelated none)
  | some hostHeader =>
    let cleanHost := (toLowerCase (trim hostHeader)).toList
    let unrelated := Except.ok (HostClass.unrelated (some (String.ofList cleanHost)))
    match configuredRouteDomain with
    | none | some "" => unrelated
    | some configuredRouteDomain =>
      match validateRouteDomain configuredRouteDomain with
      | .error _ => unrelated
      | .ok cleanDomain =>
        let domainHostname := (splitPort cleanDomain.toList).1
        -- A bracketed IPv6 authority is left to the Registry.
        if cleanHost.head? = some '[' then unrelated
        else
          let namespaceHostname := dropTrailingDots (cleanHost.takeWhile (· ≠ ':'))
          if namespaceHostname ≠ domainHostname ∧ !('.' :: domainHostname).isSuffixOf namespaceHostname
          then unrelated
          else classifyInNamespace cleanHost cleanDomain.toList configuredRouteDomain

/-! ### What is promised -/

/-- The hostname of an authority, before its port. -/
def hostnameOf (authority : String) : List Char := (splitPort authority.toList).1

/-- The hostname part of a Host header lies in the namespace of a route domain, whatever its
letter case, the blanks around it and its trailing dots. -/
def InNamespace (host cleanDomain : String) : Prop :=
  let hostname := dropTrailingDots ((toLowerCase (trim host)).toList.takeWhile (· ≠ ':'))
  hostname = hostnameOf cleanDomain ∨ ∃ sub, hostname = sub ++ '.' :: hostnameOf cleanDomain

/-- Node authorities are read back, differ from node to node, and no Host header of the namespace
is unrelated. -/
structure RoundTrips (domains hosts : String → Prop) : Prop where
  nodeRoute : ∀ nodeId routeDomain cleanDomain, isNodeId nodeId = true →
    validateRouteDomain routeDomain = .ok cleanDomain → domains cleanDomain →
    ∃ authority, computeRouteAuthority nodeId routeDomain = .ok authority ∧
      classifyHostAuthority (some authority) (some routeDomain) = .ok (.nodeRoute nodeId authority)
  distinct : ∀ nodeId nodeId' routeDomain authority,
    computeRouteAuthority nodeId routeDomain = .ok authority →
    computeRouteAuthority nodeId' routeDomain = .ok authority → nodeId = nodeId'
  related : ∀ host routeDomain cleanDomain, validateRouteDomain routeDomain = .ok cleanDomain →
    hosts host → InNamespace host cleanDomain →
    ∀ authority, classifyHostAuthority (some host) (some routeDomain) ≠ .ok (.unrelated authority)

/-- The hostname of a domain does not end with a dot. -/
def Undotted (cleanDomain : String) : Prop := (hostnameOf cleanDomain).getLast? ≠ some '.'

/-- A Host header does not begin like a bracketed IPv6 authority. -/
def Unbracketed (host : String) : Prop := (trim host).toList.head? ≠ some '['

/-! ### Domains -/

/-- The port of an authority, with its colon. -/
def portText : Option (List Char) → List Char
  | none => []
  | some port => ':' :: port

/-- A hostname of domain characters, and a port of digits. -/
structure DomainParts (name : List Char) (port : Option (List Char)) : Prop where
  nonempty : name ≠ []
  chars : ∀ c ∈ name, isDomainChar c = true
  port_nonempty : ∀ digits ∈ port, digits ≠ []
  digits : ∀ digits ∈ port, ∀ c ∈ digits, isDigitChar c = true

variable {name : List Char} {port : Option (List Char)}

theorem colon_not_mem (h : ∀ c ∈ name, isDomainChar c = true) : ':' ∉ name := by
  intro hmem
  exact absurd (h _ hmem) (by decide)

theorem splitPort_append (h : ':' ∉ name) : splitPort (name ++ portText port) = (name, port) := by
  have hall : ∀ c ∈ name, decide (c ≠ ':') = true := by
    intro c hc
    refine decide_eq_true ?_
    rintro rfl
    exact h hc
  cases port with
  | none =>
    rw [portText, List.append_nil, splitPort, List.dropWhile_eq_nil_iff.mpr hall]
  | some digits =>
    rw [portText, splitPort, List.dropWhile_append_of_pos hall, List.takeWhile_append_of_pos hall,
      List.dropWhile_cons_of_neg (by simp), List.takeWhile_cons_of_neg (by simp), List.append_nil]

theorem takeWhile_colon (h : ':' ∉ name) :
    (name ++ portText port).takeWhile (· ≠ ':') = name := by
  have hall : ∀ c ∈ name, decide (c ≠ ':') = true := by
    intro c hc
    refine decide_eq_true ?_
    rintro rfl
    exact h hc
  rw [List.takeWhile_append_of_pos hall]
  cases port with
  | none => exact List.append_nil _
  | some digits => rw [portText, List.takeWhile_cons_of_neg (by simp), List.append_nil]

theorem isDomainText_iff {chars : List Char} : isDomainText chars = true ↔
    ∃ name port, DomainParts name port ∧ chars = name ++ portText port := by
  constructor
  · intro h
    have hchars := List.takeWhile_append_dropWhile (p := isDomainChar) (l := chars)
    have hname : ∀ c ∈ chars.takeWhile isDomainChar, isDomainChar c = true :=
      fun c hc => List.mem_takeWhile_imp hc
    simp only [isDomainText] at h
    cases hrest : chars.dropWhile isDomainChar with
    | nil =>
      rw [hrest] at h hchars
      refine ⟨_, none, ⟨?_, hname, nofun, nofun⟩, hchars.symm⟩
      simpa using h
    | cons c port =>
      rw [hrest] at h hchars
      simp only [Bool.and_eq_true, Bool.not_eq_true', List.isEmpty_eq_false_iff, beq_iff_eq,
        List.all_eq_true] at h
      obtain ⟨⟨⟨hne, rfl⟩, hport⟩, hdigits⟩ := h
      refine ⟨_, some port, ⟨hne, hname, ?_, ?_⟩, hchars.symm⟩
      · rintro digits ⟨⟩
        exact hport
      · rintro digits ⟨⟩
        exact hdigits
  · rintro ⟨name, port, hparts, rfl⟩
    have hcolon : isDomainChar ':' = false := by decide
    cases port with
    | none =>
      rw [portText, List.append_nil, isDomainText, List.takeWhile_eq_self_iff.mpr hparts.chars,
        List.dropWhile_eq_nil_iff.mpr hparts.chars]
      simpa using hparts.nonempty
    | some digits =>
      simp only [portText, isDomainText, List.takeWhile_append_of_pos hparts.chars,
        List.dropWhile_append_of_pos hparts.chars, List.takeWhile_cons, List.dropWhile_cons, hcolon]
      simp [hparts.nonempty, hparts.port_nonempty digits rfl]
      exact hparts.digits digits rfl

theorem validateRouteDomain_parts {routeDomain cleanDomain : String}
    (h : validateRouteDomain routeDomain = .ok cleanDomain) :
    ∃ name port, DomainParts name port ∧ cleanDomain.toList = name ++ portText port := by
  simp only [validateRouteDomain, Bool.not_eq_true'] at h
  split_ifs at h with hblank hscheme htext
  rw [Bool.not_eq_false] at htext
  obtain ⟨name, port, hparts, hchars⟩ := isDomainText_iff.mp htext
  refine ⟨name, port, hparts, ?_⟩
  rw [← Except.ok.inj h, String.toList_ofList, hchars]

/-! ### Node authorities -/

theorem isNodeId_iff {nodeId : String} : isNodeId nodeId = true ↔
    ∃ hex : List Char, nodeId.toList = 'n' :: 'o' :: 'd' :: 'e' :: '_' :: hex ∧ hex.length = 32 ∧
      hex.all isLowerHexChar = true := by
  constructor
  · intro h
    have hprefixed : "node_".toList <+: nodeId.toList := by
      rw [isNodeId, Bool.and_eq_true, List.isPrefixOf_iff_prefix] at h
      exact h.1
    obtain ⟨hex, hhex⟩ := hprefixed
    have hid : nodeId = String.ofList ('n' :: 'o' :: 'd' :: 'e' :: '_' :: hex) := by
      rw [← String.ofList_toList (s := nodeId), ← hhex]
      rfl
    rw [hid, isNodeId_ofList, Bool.and_eq_true, beq_iff_eq] at h
    exact ⟨hex, hhex.symm, h⟩
  · rintro ⟨hex, hid, hlength, hall⟩
    rw [← String.ofList_toList (s := nodeId), hid, isNodeId_ofList, hlength, hall]
    rfl

theorem computeRouteAuthority_eq_ok {nodeId routeDomain authority : String} :
    computeRouteAuthority nodeId routeDomain = .ok authority ↔
      isNodeId nodeId = true ∧ ∃ cleanDomain, validateRouteDomain routeDomain = .ok cleanDomain ∧
        authority.toList = 'n' :: '-' :: (nodeId.toList.drop 5 ++ '.' :: cleanDomain.toList) := by
  rw [computeRouteAuthority]
  by_cases hid : isNodeId nodeId = true
  · rw [hid, Bool.not_true, if_neg Bool.false_ne_true, and_iff_right rfl]
    cases validateRouteDomain routeDomain with
    | error e => exact iff_of_false nofun fun ⟨_, h, _⟩ => by cases h
    | ok cleanDomain =>
      have htext : ("n-" ++ String.ofList (nodeId.toList.drop 5) ++ "." ++ cleanDomain).toList =
          'n' :: '-' :: (nodeId.toList.drop 5 ++ '.' :: cleanDomain.toList) := by
        simp only [String.toList_append, String.toList_ofList, List.append_assoc]
        rfl
      constructor
      · intro h
        exact ⟨cleanDomain, rfl, by rw [← Except.ok.inj h, htext]⟩
      · rintro ⟨_, hclean, hauthority⟩
        rw [← Except.ok.inj hclean, ← htext] at hauthority
        rw [String.toList_inj.mp hauthority]
        rfl
  · rw [Bool.not_eq_true] at hid
    rw [hid]
    exact iff_of_false nofun fun h => absurd h.1 Bool.false_ne_true

theorem computeRouteAuthority_injective {nodeId nodeId' routeDomain authority : String}
    (h : computeRouteAuthority nodeId routeDomain = .ok authority)
    (h' : computeRouteAuthority nodeId' routeDomain = .ok authority) : nodeId = nodeId' := by
  obtain ⟨hid, cleanDomain, hclean, hauthority⟩ := computeRouteAuthority_eq_ok.mp h
  obtain ⟨hid', cleanDomain', hclean', hauthority'⟩ := computeRouteAuthority_eq_ok.mp h'
  obtain ⟨hex, hchars, hlength, -⟩ := isNodeId_iff.mp hid
  obtain ⟨hex', hchars', hlength', -⟩ := isNodeId_iff.mp hid'
  rw [hchars] at hauthority
  rw [hauthority, hchars'] at hauthority'
  injection hauthority' with _ htail
  injection htail with _ htexts
  have hhex : hex = hex' := (List.append_inj htexts (hlength.trans hlength'.symm)).1
  rw [← String.toList_inj, hchars, hchars', hhex]

/-- The hostname of a node under a domain. -/
def nodeHost (hex name : List Char) : List Char := 'n' :: '-' :: (hex ++ '.' :: name)

theorem isDomainChar_hex {hex : List Char} (h : hex.all isLowerHexChar = true) :
    ∀ c ∈ hex, isDomainChar c = true := by
  intro c hc
  have hlower := List.all_eq_true.mp h c hc
  rw [isLowerHexChar, Bool.or_eq_true, Bool.and_eq_true, decide_eq_true_iff, decide_eq_true_iff]
    at hlower
  rw [isDomainChar]
  rcases hlower with hdigit | ⟨hfrom, hto⟩
  · rw [hdigit, Bool.or_true]
    rfl
  · have hz : c ≤ 'z' := Char.le_trans hto (by decide)
    rw [decide_eq_true hfrom, decide_eq_true hz]
    rfl

theorem nodeHost_parts {hex : List Char} (hhex : hex.all isLowerHexChar = true)
    (hparts : DomainParts name port) : DomainParts (nodeHost hex name) port where
  nonempty := List.cons_ne_nil _ _
  chars := by
    intro c hc
    rcases List.mem_cons.mp hc with rfl | hc
    · decide
    · rcases List.mem_cons.mp hc with rfl | hc
      · decide
      · rcases List.mem_append.mp hc with hc | hc
        · exact isDomainChar_hex hhex c hc
        · rcases List.mem_cons.mp hc with rfl | hc
          · decide
          · exact hparts.chars c hc
  port_nonempty := hparts.port_nonempty
  digits := hparts.digits

theorem getLast_nodeHost (hex : List Char) (hne : name ≠ []) :
    (nodeHost hex name).getLast? = name.getLast? := by
  obtain ⟨c, rest, rfl⟩ := List.exists_cons_of_ne_nil hne
  have hsplit : nodeHost hex (c :: rest) = ('n' :: '-' :: (hex ++ ['.'])) ++ (c :: rest) := by
    simp [nodeHost]
  rw [hsplit, List.getLast?_append_of_ne_nil _ (List.cons_ne_nil _ _)]

theorem matchNodeHost_nodeHost {hex : List Char} (hlength : hex.length = 32)
    (hhex : hex.all isLowerHexChar = true) (hne : name ≠ []) :
    matchNodeHost (nodeHost hex name) = some (hex, name) := by
  have htake : (hex ++ '.' :: name).take 32 = hex := by
    rw [← hlength, List.take_left]
  have hdrop : (hex ++ '.' :: name).drop 32 = '.' :: name := by
    rw [← hlength, List.drop_left]
  simp only [nodeHost, matchNodeHost, htake, hdrop]
  rw [if_pos ⟨hlength, hhex, hne⟩]

/-! ### Texts in lower case -/

/-- The characters of an authority are ASCII, and none of them is a blank or a capital. -/
theorem toNat_of_domain {c : Char} (h : isDomainChar c = true ∨ c = ':') :
    (97 ≤ c.toNat ∧ c.toNat ≤ 122) ∨ (45 ≤ c.toNat ∧ c.toNat ≤ 58) := by
  rcases h with h | rfl
  · simp only [isDomainChar, isDigitChar, Bool.or_eq_true, Bool.and_eq_true, decide_eq_true_iff,
      Char.le_def, UInt32.le_iff_toNat_le, beq_iff_eq] at h
    rcases h with ((⟨hfrom, hto⟩ | ⟨hfrom, hto⟩) | rfl) | rfl
    · exact .inl ⟨hfrom, hto⟩
    · exact .inr ⟨le_trans (by decide) hfrom, le_trans hto (by decide)⟩
    · decide
    · decide
  · decide

theorem lowerChar_of_domain {c : Char} (h : isDomainChar c = true ∨ c = ':') : lowerChar c = c := by
  have hrange := toNat_of_domain h
  simp only [lowerChar]
  rw [if_neg (by simp; omega), if_neg (by simp; omega), if_neg (by simp; omega)]

theorem not_blank_of_domain {c : Char} (h : isDomainChar c = true ∨ c = ':') :
    isJsWhitespace c = false := by
  have hrange := toNat_of_domain h
  simp only [isJsWhitespace, Bool.or_eq_false_iff, Bool.and_eq_false_iff, decide_eq_false_iff_not,
    beq_eq_false_iff_ne]
  omega

theorem isDomainChar_of_digit {c : Char} (h : isDigitChar c = true) : isDomainChar c = true := by
  rw [isDomainChar, h, Bool.or_true]
  rfl

theorem DomainParts.mem (hparts : DomainParts name port) {c : Char} (hc : c ∈ name ++ portText port) :
    isDomainChar c = true ∨ c = ':' := by
  rcases List.mem_append.mp hc with hc | hc
  · exact .inl (hparts.chars c hc)
  · cases port with
    | none => cases hc
    | some digits =>
      rcases List.mem_cons.mp hc with rfl | hc
      · exact .inr rfl
      · exact .inl (isDomainChar_of_digit (hparts.digits digits rfl c hc))

/-- An authority is not changed when it is cleaned. -/
theorem clean_authority (hparts : DomainParts name port) :
    (toLowerCase (trim (String.ofList (name ++ portText port)))).toList = name ++ portText port := by
  rw [trim_ofList, toLowerCase_ofList, String.toList_ofList,
    trimChars_eq_self fun c hc => not_blank_of_domain (hparts.mem hc)]
  exact (List.map_congr_left fun c hc => lowerChar_of_domain (hparts.mem hc)).trans (List.map_id _)

theorem getLast_ne_dot {chars : List Char} (h : chars.getLast? ≠ some '.') (hne : chars ≠ []) :
    ¬((chars.getLast hne == '.') = true) := by
  intro hdot
  rw [List.getLast?_eq_some_getLast hne, beq_iff_eq.mp hdot] at h
  exact h rfl

/-- The only dot that is dropped is the last one of the hostname. -/
theorem dropRootDot_eq_self (hparts : DomainParts name port) (hlast : name.getLast? ≠ some '.') :
    dropRootDot (name ++ portText port) = name ++ portText port := by
  simp only [dropRootDot]
  cases port with
  | none =>
    rw [portText, List.append_nil, if_neg hlast]
    have hrest : ¬((name.rdropWhile isDigitChar).getLast? = some ':' ∧
        (name.rdropWhile isDigitChar).dropLast.getLast? = some '.') := by
      rintro ⟨hcolon, -⟩
      have hmem := (List.rdropWhile_prefix isDigitChar name).subset (List.mem_of_getLast? hcolon)
      exact colon_not_mem hparts.chars hmem
    rw [if_neg hrest, ite_self]
  | some digits =>
    have hall : ∀ c ∈ digits.reverse, isDigitChar c = true :=
      fun c hc => hparts.digits digits rfl c (List.mem_reverse.mp hc)
    have hreverse : (name ++ portText (some digits)).reverse =
        digits.reverse ++ ':' :: name.reverse := by
      simp [portText]
    have hdigits : (name ++ portText (some digits)).rtakeWhile isDigitChar = digits := by
      rw [List.rtakeWhile, hreverse, List.takeWhile_append_of_pos hall,
        List.takeWhile_cons_of_neg (by decide), List.append_nil, List.reverse_reverse]
    have hrest : (name ++ portText (some digits)).rdropWhile isDigitChar = name ++ [':'] := by
      rw [List.rdropWhile, hreverse, List.dropWhile_append_of_pos hall,
        List.dropWhile_cons_of_neg (by decide), List.reverse_cons, List.reverse_reverse]
    have hnonempty : ¬digits.isEmpty = true := by
      rw [List.isEmpty_iff]
      exact hparts.port_nonempty digits rfl
    rw [hdigits, hrest, List.dropLast_concat, if_neg hnonempty, if_neg fun h => hlast h.2]

/-! ### The round trip -/

/-- A node authority is classified as its node. -/
theorem classify_nodeHost {hex : List Char} {routeDomain authority : String}
    (hlength : hex.length = 32) (hhex : hex.all isLowerHexChar = true)
    (hparts : DomainParts name port) (hlast : name.getLast? ≠ some '.')
    (hauthority : computeRouteAuthority ("node_" ++ String.ofList hex) routeDomain = .ok authority) :
    classifyInNamespace (nodeHost hex name ++ portText port) (name ++ portText port) routeDomain =
      .ok (.nodeRoute ("node_" ++ String.ofList hex) authority) := by
  have hhost := nodeHost_parts hhex hparts
  have hcolon := colon_not_mem hhost.chars
  have hlast' : (nodeHost hex name).getLast? ≠ some '.' := by
    rw [getLast_nodeHost hex hparts.nonempty]
    exact hlast
  have hdots : (nodeHost hex name).rtakeWhile (· == '.') = [] :=
    List.rtakeWhile_eq_nil_iff.mpr (getLast_ne_dot hlast')
  have htext : isDomainText (nodeHost hex name ++ portText port) = true :=
    isDomainText_iff.mpr ⟨_, _, hhost, rfl⟩
  have happarent : nodeHost hex name ≠ name := by
    intro heq
    have hlen := congrArg List.length heq
    simp only [nodeHost, List.length_cons, List.length_append] at hlen
    omega
  simp only [classifyInNamespace, takeWhile_colon hcolon, hdots, dropRootDot_eq_self hhost hlast',
    htext, splitPort_append (colon_not_mem hparts.chars), splitPort_append hcolon,
    matchNodeHost_nodeHost hlength hhex hparts.nonempty, hauthority]
  rw [if_neg (by decide), if_neg (by decide), if_neg fun h => h.2 rfl, if_neg fun h => h.2 h.1,
    if_neg happarent, if_neg fun h => h rfl]

theorem ne_empty_of_toList {s : String} (h : s.toList ≠ []) : s ≠ "" := by
  rintro rfl
  exact h rfl

theorem ne_empty_of_valid {routeDomain cleanDomain : String}
    (h : validateRouteDomain routeDomain = .ok cleanDomain) : routeDomain ≠ "" := by
  rintro rfl
  cases h

/-- The class of a Host header that is not empty. -/
theorem classifyHostAuthority_eq {host routeDomain cleanDomain : String} (hhost : host ≠ "")
    (hvalid : validateRouteDomain routeDomain = .ok cleanDomain)
    (hbracket : (toLowerCase (trim host)).toList.head? ≠ some '[')
    (hnamespace : InNamespace host cleanDomain) :
    classifyHostAuthority (some host) (some routeDomain) =
      classifyInNamespace (toLowerCase (trim host)).toList cleanDomain.toList routeDomain := by
  have htargets : ¬(dropTrailingDots ((toLowerCase (trim host)).toList.takeWhile (· ≠ ':')) ≠
      (splitPort cleanDomain.toList).1 ∧
      !('.' :: (splitPort cleanDomain.toList).1).isSuffixOf
        (dropTrailingDots ((toLowerCase (trim host)).toList.takeWhile (· ≠ ':')))) := by
    rintro ⟨hapex, hsub⟩
    rcases hnamespace with heq | ⟨sub, hsuffix⟩
    · exact hapex heq
    · have hyes : ('.' :: (splitPort cleanDomain.toList).1).isSuffixOf
          (dropTrailingDots ((toLowerCase (trim host)).toList.takeWhile (· ≠ ':'))) = true :=
        List.isSuffixOf_iff_suffix.mpr ⟨sub, hsuffix.symm⟩
      rw [hyes] at hsub
      cases hsub
  unfold classifyHostAuthority
  split
  · rename_i h
    cases h
  · rename_i h
    exact absurd (Option.some.inj h) hhost
  · rename_i h
    obtain rfl := Option.some.inj h
    dsimp only
    split
    · rename_i h
      cases h
    · rename_i h
      exact absurd (Option.some.inj h) (ne_empty_of_valid hvalid)
    · rename_i h
      obtain rfl := Option.some.inj h
      rw [hvalid]
      dsimp only
      rw [if_neg hbracket, if_neg htargets]

/-- In the namespace nothing is unrelated. -/
theorem classifyInNamespace_ne_unrelated (cleanHost cleanDomain : List Char) (routeDomain : String)
    (authority : Option String) :
    classifyInNamespace cleanHost cleanDomain routeDomain ≠ .ok (.unrelated authority) := by
  intro h
  simp only [classifyInNamespace] at h
  split_ifs at h
  · cases h
  · cases h
  · cases h
  · cases h
  · cases h
  · split at h
    · cases h
    · split_ifs at h
      · cases h
      · split at h <;> cases h

theorem head_lower {chars : List Char} (h : (chars.map lowerChar).head? = some '[') :
    chars.head? = some '[' := by
  cases chars with
  | nil => cases h
  | cons c rest =>
    rw [lowerChar_eq (Option.some.inj h) (by decide)]
    rfl

/-- Node authorities round trip for domains whose hostname does not end with a dot, and Host
headers of the namespace that do not begin with a bracket are not unrelated. -/
theorem authorities_round_trip : RoundTrips Undotted Unbracketed where
  nodeRoute nodeId routeDomain cleanDomain hid hvalid hundotted := by
    obtain ⟨hex, hchars, hlength, hhex⟩ := isNodeId_iff.mp hid
    obtain ⟨name, port, hparts, hclean⟩ := validateRouteDomain_parts hvalid
    have hlast : name.getLast? ≠ some '.' := by
      rw [Undotted, hostnameOf, hclean, splitPort_append (colon_not_mem hparts.chars)] at hundotted
      exact hundotted
    have hid' : nodeId = "node_" ++ String.ofList hex := by
      simp only [← String.toList_inj, hchars, String.toList_append, String.toList_ofList]
      rfl
    have htext : nodeHost hex name ++ portText port =
        'n' :: '-' :: (nodeId.toList.drop 5 ++ '.' :: cleanDomain.toList) := by
      rw [hchars, hclean]
      simp [nodeHost]
    have hauthority : computeRouteAuthority nodeId routeDomain =
        .ok (String.ofList (nodeHost hex name ++ portText port)) :=
      computeRouteAuthority_eq_ok.mpr
        ⟨hid, cleanDomain, hvalid, by rw [← htext, String.toList_ofList]⟩
    have hhost := nodeHost_parts hhex hparts
    have hcleanHost := clean_authority hhost
    refine ⟨_, hauthority, ?_⟩
    rw [classifyHostAuthority_eq _ hvalid, hcleanHost, hclean]
    · rw [hid'] at hauthority ⊢
      exact classify_nodeHost hlength hhex hparts hlast hauthority
    · rw [hcleanHost]
      exact nofun
    · have hlast' : (nodeHost hex name).getLast? ≠ some '.' := by
        rw [getLast_nodeHost hex hparts.nonempty]
        exact hlast
      right
      refine ⟨'n' :: '-' :: hex, ?_⟩
      rw [hcleanHost, takeWhile_colon (colon_not_mem hhost.chars), dropTrailingDots,
        List.rdropWhile_eq_self_iff.mpr (getLast_ne_dot hlast'), hostnameOf, hclean,
        splitPort_append (colon_not_mem hparts.chars)]
      rfl
    · exact ne_empty_of_toList (by rw [String.toList_ofList]; exact List.cons_ne_nil _ _)
  distinct _ _ _ _ h h' := computeRouteAuthority_injective h h'
  related host routeDomain cleanDomain hvalid hhost hnamespace authority := by
    have hbracket : (toLowerCase (trim host)).toList.head? ≠ some '[' := by
      intro hhead
      rw [toLowerCase, String.toList_ofList] at hhead
      exact hhost (head_lower hhead)
    have hne : host ≠ "" := by
      rintro rfl
      obtain ⟨name, port, hparts, hclean⟩ := validateRouteDomain_parts hvalid
      rw [InNamespace, hostnameOf, hclean, splitPort_append (colon_not_mem hparts.chars)] at hnamespace
      rcases hnamespace with heq | ⟨sub, hsub⟩
      · exact hparts.nonempty heq.symm
      · exact absurd hsub (by simp [dropTrailingDots, trim, trimChars, toLowerCase])
    rw [classifyHostAuthority_eq hne hvalid hbracket hnamespace]
    exact classifyInNamespace_ne_unrelated _ _ _ _

/-- A bracketed name of the namespace is left to the Registry, as an IPv6 authority is. -/
theorem bracketed_host_unrelated : ¬RoundTrips (fun _ => True) fun _ => True := by
  intro h
  have hvalid : validateRouteDomain "example.com" = .ok "example.com" := by decide
  refine h.related "[x.example.com" "example.com" "example.com" hvalid trivial
    (.inr ⟨"[x".toList, by decide⟩) (some "[x.example.com") (by decide +kernel)

end DshOrbit.RouteProxy
