import DshOrbit.Lib.Json
import DshOrbit.Lib.JsString
import DshOrbit.Lib.Occurrences
import DshOrbit.Lib.Outcome
import DshOrbit.Registry.Capabilities

/-!
# The patch of a client connection

The patch writes the public host, the file of the proxy secret and a call of the proxy check into
the server source of a client connection, and the host into its client source
(`remote-settings-patch.mjs`). What is already there is found by markers in the text.

## Main definitions

- `patchConnectionRoot`, `verifyConnectionRoot` — the functions of those names
- `Embeds` — the server source has one host, one secret file and one call of the check
- `Fits` — the server source before the patch

## Main results

- `patch_agreement_iff` — when a patch does what the verification and a second patch expect
-/

namespace DshOrbit.RemoteSettingsPatch

open DshOrbit.Lib

abbrev Text := List Char

def serverMarker : Text :=
  spell ["const DSH_ORBIT_PROXY_HEADER = \"x-dsh-orbit-authenticated-proxy\";"]

def legacyServerMarker : Text :=
  spell ["const REMOTE_PROXY_AUTH_HEADER = \"x-dsh-authenticated-proxy\";"]

/-- `JSON.stringify` of a string. -/
def quoted (s : String) : Text := (quoteJson s).toList

/-- `source.includes(needle)`. -/
def includes (source needle : Text) : Bool := includesChars needle source

def replaceExactlyOnce (source needle replacement : Text) (label : String) :
    Except String Text :=
  match source.dropInfix? needle with
  | none => throw ("DSH Orbit patch failed: missing " ++ label)
  | some (before, after) =>
    if includes after needle then
      throw ("DSH Orbit patch failed: " ++ label ++ " is not unique")
    else pure (before ++ replacement ++ after)

def validateHost (publicHost : String) : Except String Unit :=
  if publicHost = "" then throw "DSH_PUBLIC_HOST is required"
  else if includes publicHost.toList "://".toList || includes publicHost.toList "/".toList ||
      publicHost.toList.any isJsWhitespace then
    throw "DSH_PUBLIC_HOST must be a bare hostname"
  else pure ()

/-! ### The server source -/

def hostDeclaration : Text := spell ["\nconst DSH_ORBIT_PROXY_HOST = "]

def secretRead : Text := spell ["\tdshOrbitProxySecret = readFileSync("]

def protoLines : Text :=
  spell [";\nconst DSH_ORBIT_PROXY_PROTO = \"https\";\n",
    "let dshOrbitProxySecret = \"\";\ntry \x7b\n"]

/-- The block before the host. -/
def authBlockStart : Text := '\n' :: serverMarker ++ hostDeclaration

/-- The block between the host and the file of the secret. -/
def authBlockMiddle : Text := protoLines ++ secretRead

/-- The block after the file of the secret. -/
def authBlockEnd : Text :=
  spell [
    ", \"utf8\").trim();",
    "\n\x7d catch \x7b\n\tdshOrbitProxySecret = \"\";\n\x7d\n",
    "function isDshOrbitAuthenticatedProxyRequest(request, hostUrl) \x7b\n",
    "\tif (dshOrbitProxySecret === \"\") return false;\n",
    "\tif (hostUrl.hostname !== DSH_ORBIT_PROXY_HOST) return false;\n",
    "\tif (header(request.headers, \"x-forwarded-proto\") !== DSH_ORBIT_PROXY_PROTO) ",
    "return false;\n",
    "\tif (header(request.headers, DSH_ORBIT_PROXY_HEADER) !== dshOrbitProxySecret) ",
    "return false;\n",
    "\tif (header(request.headers, \"sec-fetch-site\") === \"cross-site\") return false;\n",
    "\tconst origin = header(request.headers, \"origin\");\n",
    "\tif (origin === void 0) return true;\n\ttry \x7b\n",
    "\t\treturn new URL(origin).host === hostUrl.host;\n\t\x7d catch \x7b\n",
    "\t\treturn false;\n\t\x7d\n\x7d\n"]

def authBlock (publicHost proxyAuthFile : String) : Text :=
  authBlockStart ++ quoted publicHost ++ authBlockMiddle ++ quoted proxyAuthFile ++ authBlockEnd

def trustedDeclaration : Text :=
  spell ["function isTrustedApiRequest(request, trustedHosts) \x7b"]

def cryptoImport : Text := spell ["import \x7b randomUUID \x7d from \"node:crypto\";\n"]

def fsImport : Text := spell ["import \x7b readFileSync \x7d from \"node:fs\";\n"]

/-- The call of the proxy check, without the end of its line. -/
def gateCall : Text :=
  spell ["\tif (isDshOrbitAuthenticatedProxyRequest(request, hostUrl)) return true;"]

def legacyGate : Text :=
  spell ["\tif (isAuthenticatedReverseProxyRequest(request, hostUrl)) return true;\n"]

def authorityGate : Text :=
  spell ["\tif (!isLoopbackHostname(hostUrl.hostname) && ",
    "!isTrustedAuthority(hostUrl, trustedHosts)) return false;\n"]

/-- The server source before the legacy marker, and from the declaration of `isTrustedApiRequest`
after the marker on. -/
def legacyParts (source : Text) : Option (Text × Option Text) :=
  (source.dropInfix? legacyServerMarker).map fun (before, after) =>
    (before, ((legacyServerMarker ++ after).dropInfix? trustedDeclaration).map fun parts =>
      trustedDeclaration ++ parts.2)

structure Patched where
  source : Text
  changed : Bool
  deriving DecidableEq

def patchServer (source : Text) (publicHost proxyAuthFile : String) : Except String Patched :=
  if includes source serverMarker then pure ⟨source, false⟩
  else
    let block := authBlock publicHost proxyAuthFile
    match source.dropInfix? legacyServerMarker with
    | some (before, after) =>
      match (legacyServerMarker ++ after).dropInfix? trustedDeclaration with
      | none => throw "DSH Orbit patch failed: legacy proxy block is missing isTrustedApiRequest"
      | some (_, rest) =>
        if includes after legacyServerMarker then
          throw "DSH Orbit patch failed: legacy proxy marker is not unique"
        else do
          let source ← replaceExactlyOnce (before ++ block ++ '\n' :: trustedDeclaration ++ rest)
            legacyGate (gateCall ++ ['\n']) "legacy authenticated proxy gate"
          return ⟨source, true⟩
    | none => do
      let source ← replaceExactlyOnce source cryptoImport (cryptoImport ++ fsImport)
        "client-connection crypto import"
      let source ← replaceExactlyOnce source trustedDeclaration
        (block ++ '\n' :: trustedDeclaration) "isTrustedApiRequest declaration"
      let source ← replaceExactlyOnce source authorityGate (gateCall ++ '\n' :: authorityGate)
        "trusted authority gate"
      return ⟨source, true⟩

/-! ### The client source -/

def hostNeedle (publicHost : String) : Text := spell ["hostname === "] ++ quoted publicHost

def loopbackStart : Text := spell ["if (hostname === \"localhost\" || hostname === \"[::1]\""]

def loopbackEnd : Text := spell [") return true;"]

def patchClient (source : Text) (publicHost : String) : Except String Patched :=
  if includes source (hostNeedle publicHost) then pure ⟨source, false⟩
  else do
    let source ← replaceExactlyOnce source (loopbackStart ++ loopbackEnd)
      (loopbackStart ++ spell [" || "] ++ hostNeedle publicHost ++ loopbackEnd)
      "loopback hostname check"
    return ⟨source, true⟩

/-! ### The two files -/

/-- The two sources under a root. -/
structure Root where
  root : String
  server : Text
  client : Text
  deriving DecidableEq

structure Options where
  dshVersion : String
  publicHost : String
  proxyAuthFile : String

structure PatchReport where
  root : String
  server : String
  client : String
  deriving DecidableEq

def compatibilityFor (version : String) : Except String Unit :=
  if Registry.isDshVersionSupported version then pure ()
  else throw ("Unsupported DeepSeek Harness version " ++ quoteJson version ++
    ". Tested versions: 0.1.1-rc.2.")

/-- What the patch makes of the two sources. -/
def patchSources (root : Root) (options : Options) : Except String (Patched × Patched) := do
  validateHost options.publicHost
  compatibilityFor options.dshVersion
  let server ← patchServer root.server options.publicHost options.proxyAuthFile
  let client ← patchClient root.client options.publicHost
  return (server, client)

def patchConnectionRoot (root : Root) (options : Options) : Except String PatchReport × Root :=
  match patchSources root options with
  | .error message => (.error message, root)
  | .ok (server, client) =>
    (.ok ⟨root.root, if server.changed then "patched" else "ok",
        if client.changed then "patched" else "ok"⟩,
      ⟨root.root, if server.changed then server.source else root.server,
        if client.changed then client.source else root.client⟩)

def verifyConnectionRoot (root : Root) (publicHost : String) : Except String Unit := do
  validateHost publicHost
  let problems :=
    (if includes root.server serverMarker then [] else ["server proxy marker missing"]) ++
    (if includes root.server
        (spell ["const DSH_ORBIT_PROXY_HOST = "] ++ quoted publicHost ++ [';']) then []
      else ["server public host mismatch"]) ++
    (if includes root.client (hostNeedle publicHost) then [] else ["client public host missing"])
  if problems ≠ [] then
    throw ("DSH Orbit verification failed for " ++ root.root ++ ": " ++
      String.intercalate ", " problems)

/-! ### What the server source embeds -/

/-- The texts that the patch writes once: the declaration of the host, the read of the secret and
the call of the check. -/
def patchLines : List Text := [hostDeclaration, secretRead, gateCall]

/-- The source has one host, one secret file and one call of the check, the host and the file being
the given ones. -/
structure Embeds (source : Text) (publicHost proxyAuthFile : String) : Prop where
  once : ∀ line ∈ patchLines, occurrences line source = 1
  host : hostDeclaration ++ quoted publicHost ++ [';'] <:+: source
  secret : secretRead ++ quoted proxyAuthFile ++ spell [", \"utf8\").trim();"] <:+: source

/-- The source has none of them. -/
def Bare (source : Text) : Prop := ∀ line ∈ patchLines, occurrences line source = 0

/-- The parts of an unpatched source that the patch keeps: all of it, or all but the legacy
block. -/
def keptParts (source : Text) : List Text :=
  match legacyParts source with
  | some (before, some rest) => [before, rest]
  | _ => [source]

/-- A source that has the marker embeds the given host, file and call already; any other has none of
its own in what the patch keeps. -/
def Fits (source : Text) (publicHost proxyAuthFile : String) : Prop :=
  if includes source serverMarker then Embeds source publicHost proxyAuthFile
  else ∀ part ∈ keptParts source, Bare part

/-! ### Quoted texts -/

theorem toNat_escapeChar (c : Char) : ∀ d ∈ escapeChar c, 0x20 ≤ d.toNat := by
  have hhex : ∀ n < 16, 0x20 ≤ (hexDigit n).toNat := by decide
  have hpair {second d : Char} (hsecond : 0x20 ≤ second.toNat) (hd : d ∈ ['\\', second]) :
      0x20 ≤ d.toNat := by
    rcases List.mem_pair.mp hd with rfl | rfl
    · decide
    · exact hsecond
  intro d hd
  simp only [escapeChar] at hd
  split_ifs at hd with h1 h2 h3 h4 h5 h6 h7 hsmall
  · exact hpair (by decide) hd
  · exact hpair (by decide) hd
  · exact hpair (by decide) hd
  · exact hpair (by decide) hd
  · exact hpair (by decide) hd
  · exact hpair (by decide) hd
  · exact hpair (by decide) hd
  · simp only [List.mem_cons, List.not_mem_nil, or_false] at hd
    rcases hd with rfl | rfl | rfl | rfl | rfl | rfl
    · decide
    · decide
    · decide
    · decide
    · exact hhex _ (by omega)
    · exact hhex _ (by omega)
  · obtain rfl := List.mem_singleton.mp hd
    omega

theorem quoted_eq (s : String) : quoted s = '"' :: (s.toList.flatMap escapeChar ++ ['"']) := by
  rw [quoted, quoteJson, String.toList_ofList]
  rfl

theorem not_mem_quoted (s : String) {c : Char} (h : c.toNat < 0x20) : c ∉ quoted s := by
  rw [quoted_eq]
  simp only [List.mem_cons, List.mem_append, List.mem_flatMap, List.not_mem_nil, or_false, not_or]
  refine ⟨?_, ?_, ?_⟩
  · rintro rfl
    exact absurd h (by decide)
  · rintro ⟨d, -, hmem⟩
    have hlarge := toNat_escapeChar d c hmem
    omega
  · rintro rfl
    exact absurd h (by decide)

/-! ### The lines of the patch in a text -/

/-- A text that begins with a control character, which no quoted text has, and of which the pieces
of the patch have exactly one. -/
structure PatchLine (line : Text) : Prop where
  start : ∃ c rest, line = c :: rest ∧ c.toNat < 0x20
  newline : '\n' ∉ line.tail
  tab : '\t' ∉ line.tail
  quote : '"' ∉ line.tail
  declaration : Apart line trustedDeclaration
  pieces : occurrences line authBlockStart + occurrences line authBlockMiddle +
    occurrences line (authBlockEnd ++ ['\n']) + occurrences line gateCall = 1
  imported : occurrences line ('\n' :: fsImport.dropLast) = 0
  legacy : occurrences line legacyGate.dropLast = 0
  longer : occurrences line ['\n'] = 0

/-- The facts about literals behind `PatchLine`, on lists of characters. -/
theorem pieces_spelled : ∃ host secret gate marker middle blockEnd declaration fs legacy,
    hostDeclaration = host ∧ secretRead = secret ∧ gateCall = gate ∧ serverMarker = marker ∧
    protoLines = middle ∧ authBlockEnd = blockEnd ∧ trustedDeclaration = declaration ∧
    fsImport = fs ∧ legacyGate = legacy ∧ ∀ line ∈ [host, secret, gate],
      (line.head?.any fun c => c.toNat < 0x20) ∧ '\n' ∉ line.tail ∧ '\t' ∉ line.tail ∧
      '"' ∉ line.tail ∧ Apart line declaration ∧
      occurrences line ('\n' :: marker ++ host) + occurrences line (middle ++ secret) +
        occurrences line (blockEnd ++ ['\n']) + occurrences line gate = 1 ∧
      occurrences line ('\n' :: fs.dropLast) = 0 ∧ occurrences line legacy.dropLast = 0 ∧
      occurrences line ['\n'] = 0 :=
  ⟨_, _, _, _, _, _, _, _, _, spell_singleton rfl, spell_singleton rfl, spell_singleton rfl,
    spell_singleton rfl, spell_cons rfl <| spell_singleton rfl,
    spell_cons rfl <| spell_cons rfl <| spell_cons rfl <| spell_cons rfl <| spell_cons rfl <|
      spell_cons rfl <| spell_cons rfl <| spell_cons rfl <| spell_cons rfl <| spell_cons rfl <|
      spell_cons rfl <| spell_cons rfl <| spell_cons rfl <| spell_singleton rfl,
    spell_singleton rfl, spell_singleton rfl, spell_singleton rfl, by decide +kernel⟩

theorem patchLine_of_mem : ∀ line ∈ patchLines, PatchLine line := by
  obtain ⟨_, _, _, _, _, _, _, _, _, rfl, rfl, rfl, rfl, rfl, rfl, rfl, rfl, rfl, h⟩ :=
    pieces_spelled
  intro line hline
  obtain ⟨hstart, hnewline, htab, hquote, hapart, hpieces, himported, hlegacy, hlonger⟩ :=
    h line hline
  refine ⟨?_, hnewline, htab, hquote, hapart, hpieces, himported, hlegacy, hlonger⟩
  cases line with
  | nil => cases hstart
  | cons c rest => exact ⟨c, rest, rfl, of_decide_eq_true hstart⟩

/-! ### Counting through a patch -/

variable {line before after rest source : Text} {publicHost proxyAuthFile : String}

theorem PatchLine.append_newline (h : PatchLine line) (before after : Text) :
    occurrences line (before ++ '\n' :: after) =
      occurrences line before + occurrences line ('\n' :: after) :=
  occurrences_append (apart_singleton h.newline) before after

theorem PatchLine.append_tab (h : PatchLine line) (before after : Text) :
    occurrences line (before ++ '\t' :: after) =
      occurrences line before + occurrences line ('\t' :: after) :=
  occurrences_append (apart_singleton h.tab) before after

theorem PatchLine.append_quoted (h : PatchLine line) (before : Text) (s : String) (after : Text) :
    occurrences line (before ++ (quoted s ++ after)) =
      occurrences line before + occurrences line after := by
  obtain ⟨c, rest, rfl, hc⟩ := h.start
  have hquoted : occurrences (c :: rest) (before ++ (quoted s ++ after)) =
      occurrences (c :: rest) before + occurrences (c :: rest) (quoted s ++ after) := by
    rw [quoted_eq]
    exact occurrences_append (apart_singleton h.quote) before _
  rw [hquoted, occurrences_append_of_not_mem (not_mem_quoted s hc)]

/-- The pieces of the block each keep their occurrences. -/
theorem PatchLine.append_authBlock (h : PatchLine line) (before : Text)
    (publicHost proxyAuthFile : String) (rest : Text) :
    occurrences line (before ++
        (authBlock publicHost proxyAuthFile ++ '\n' :: (trustedDeclaration ++ rest))) =
      occurrences line before + (occurrences line authBlockStart +
        occurrences line authBlockMiddle + occurrences line (authBlockEnd ++ ['\n'])) +
        occurrences line (trustedDeclaration ++ rest) := by
  have hparts : authBlock publicHost proxyAuthFile ++ '\n' :: (trustedDeclaration ++ rest) =
      authBlockStart ++ (quoted publicHost ++ (authBlockMiddle ++ (quoted proxyAuthFile ++
        ((authBlockEnd ++ ['\n']) ++ (trustedDeclaration ++ rest))))) := by
    simp [authBlock]
  have hstart : occurrences line (before ++ (authBlock publicHost proxyAuthFile ++
        '\n' :: (trustedDeclaration ++ rest))) =
      occurrences line before + occurrences line (authBlock publicHost proxyAuthFile ++
        '\n' :: (trustedDeclaration ++ rest)) := h.append_newline before _
  rw [hstart, hparts, h.append_quoted, h.append_quoted, occurrences_append h.declaration]
  omega

theorem fsImport_eq : fsImport = fsImport.dropLast ++ ['\n'] := by
  obtain ⟨_, rfl, h⟩ : ∃ chars, fsImport = chars ∧ chars = chars.dropLast ++ ['\n'] :=
    ⟨_, spell_singleton rfl, by decide⟩
  exact h

theorem cryptoImport_eq : cryptoImport = cryptoImport.dropLast ++ ['\n'] := by
  obtain ⟨_, rfl, h⟩ : ∃ chars, cryptoImport = chars ∧ chars = chars.dropLast ++ ['\n'] :=
    ⟨_, spell_singleton rfl, by decide⟩
  exact h

/-- The import is one more line. -/
theorem PatchLine.append_fsImport (h : PatchLine line) (before after : Text) :
    occurrences line (before ++ (cryptoImport ++ (fsImport ++ after))) =
      occurrences line (before ++ (cryptoImport ++ after)) := by
  have himport (next : Text) : before ++ (cryptoImport ++ next) =
      (before ++ cryptoImport.dropLast) ++ '\n' :: next := by
    rw [cryptoImport_eq]
    simp
  have hfs : '\n' :: (fsImport ++ after) = ('\n' :: fsImport.dropLast) ++ '\n' :: after := by
    rw [fsImport_eq]
    simp
  rw [himport, himport, h.append_newline, h.append_newline, hfs, h.append_newline, h.imported,
    Nat.zero_add]

theorem gateCall_eq : ∃ call, gateCall = '\t' :: call := ⟨_, spell_singleton rfl⟩

theorem authorityGate_eq : ∃ gate, authorityGate = '\t' :: gate :=
  ⟨_, spell_cons rfl (spell_singleton rfl)⟩

theorem legacyGate_eq : ∃ gate, legacyGate = '\t' :: (gate ++ ['\n']) ∧
    legacyGate.dropLast = '\t' :: gate ∧ '"' ∉ gate := by
  obtain ⟨_, rfl, h⟩ : ∃ chars, legacyGate = chars ∧
      chars = '\t' :: (chars.tail.dropLast ++ ['\n']) ∧
      chars.dropLast = '\t' :: chars.tail.dropLast ∧ '"' ∉ chars.tail.dropLast :=
    ⟨_, spell_singleton rfl, by decide⟩
  exact ⟨_, h⟩

/-- The call of the check comes before the gate of the trusted authorities. -/
theorem PatchLine.append_authorityGate (h : PatchLine line) (before after : Text) :
    occurrences line (before ++ (gateCall ++ '\n' :: (authorityGate ++ after))) =
      occurrences line (before ++ (authorityGate ++ after)) + occurrences line gateCall := by
  obtain ⟨call, hcall⟩ := gateCall_eq
  obtain ⟨gate, hgate⟩ := authorityGate_eq
  have hnext : '\n' :: '\t' :: (gate ++ after) = ['\n'] ++ '\t' :: (gate ++ after) := rfl
  rw [hgate, List.cons_append, h.append_tab before (gate ++ after), hcall, List.cons_append,
    h.append_tab before, ← List.cons_append, h.append_newline, hnext, h.append_tab, h.longer]
  omega

/-- The call of the check takes the place of the legacy gate. -/
theorem PatchLine.append_legacyGate (h : PatchLine line) (before after : Text) :
    occurrences line (before ++ (gateCall ++ '\n' :: after)) =
      occurrences line (before ++ (legacyGate ++ after)) + occurrences line gateCall := by
  obtain ⟨call, hcall⟩ := gateCall_eq
  obtain ⟨gate, hlegacy, hlast, -⟩ := legacyGate_eq
  have hzero := h.legacy
  rw [hlast] at hzero
  have hshape : legacyGate ++ after = '\t' :: (gate ++ '\n' :: after) := by
    rw [hlegacy]
    simp
  rw [hshape, h.append_tab, hcall, List.cons_append, h.append_tab, ← List.cons_append,
    ← List.cons_append, h.append_newline, h.append_newline, hzero]
  omega

/-! ### Texts that stay through a patch -/

/-- A text with a quotation mark, and with no line end or tab behind its first symbol. -/
structure Written (text : Text) : Prop where
  newline : '\n' ∉ text.tail
  tab : '\t' ∉ text.tail
  quote : '"' ∈ text

variable {text : Text}

theorem Written.infix_authorityGate (h : Written text)
    (hin : text <:+: before ++ (authorityGate ++ after)) :
    text <:+: before ++ (gateCall ++ '\n' :: (authorityGate ++ after)) := by
  obtain ⟨gate, hgate⟩ := authorityGate_eq
  have hcases : text <:+: before ∨ text <:+: authorityGate ++ after := by
    rw [hgate] at hin ⊢
    exact infix_append (apart_singleton h.tab) hin
  rcases hcases with hleft | hright
  · exact hleft.trans (List.prefix_append ..).isInfix
  · refine hright.trans (List.IsSuffix.isInfix ⟨before ++ (gateCall ++ ['\n']), ?_⟩)
    simp

theorem Written.infix_legacyGate (h : Written text)
    (hin : text <:+: before ++ (legacyGate ++ after)) :
    text <:+: before ++ (gateCall ++ '\n' :: after) := by
  obtain ⟨gate, hlegacy, -, hquote⟩ := legacyGate_eq
  have hshape : legacyGate ++ after = ['\t'] ++ (gate ++ '\n' :: after) := by
    rw [hlegacy]
    simp
  rw [hshape] at hin
  rcases infix_append (apart_singleton h.tab) hin with hleft | hright
  · exact hleft.trans (List.prefix_append ..).isInfix
  · rw [← List.append_assoc] at hright
    rcases infix_append (apart_singleton h.newline) hright with hgate | hlast
    · refine absurd (hgate.subset h.quote) ?_
      simp [hquote]
    · refine hlast.trans (List.IsSuffix.isInfix ⟨before ++ gateCall, ?_⟩)
      simp

theorem written_serverMarker : Written serverMarker := by
  obtain ⟨_, rfl, h⟩ : ∃ chars, serverMarker = chars ∧
      '\n' ∉ chars.tail ∧ '\t' ∉ chars.tail ∧ '"' ∈ chars :=
    ⟨_, spell_singleton rfl, by decide⟩
  exact ⟨h.1, h.2.1, h.2.2⟩

/-- A line of the patch, a quoted text and what follows it. -/
theorem written_quoted (hline : PatchLine line) {ending : Text} (hnewline : '\n' ∉ ending)
    (htab : '\t' ∉ ending) (s : String) : Written (line ++ quoted s ++ ending) := by
  have hquoted {c : Char} (hc : c.toNat < 0x20) (hmem : c ∉ ending) (hfirst : c ∉ line.tail) :
      c ∉ (line ++ quoted s ++ ending).tail := by
    obtain ⟨d, rest, rfl, -⟩ := hline.start
    simp only [List.cons_append, List.tail_cons, List.mem_append, not_or]
    exact ⟨⟨hfirst, not_mem_quoted s hc⟩, hmem⟩
  refine ⟨hquoted (by decide) hnewline hline.newline, hquoted (by decide) htab hline.tab, ?_⟩
  rw [quoted_eq]
  simp

/-! ### A patch of the server source -/

theorem includesChars_iff {part : Text} : includesChars part source = true ↔ part <:+: source := by
  induction source with
  | nil => simp [includesChars]
  | cons c source ih =>
    rw [includesChars, Bool.or_eq_true, ih, List.infix_cons_iff, List.isPrefixOf_iff_prefix]

theorem includes_iff {needle : Text} : includes source needle = true ↔ needle <:+: source :=
  includesChars_iff

theorem dropInfix?_eq {needle : Text} (h : source.dropInfix? needle = some (before, after)) :
    source = before ++ (needle ++ after) := by
  obtain ⟨⟨_, heq, hsame⟩, -⟩ := List.dropInfix?_eq_some_iff.mp h
  rw [heq, List.append_assoc, eq_of_beq hsame]

theorem replaceExactlyOnce_ok {needle replacement result : Text} {label : String}
    (h : replaceExactlyOnce source needle replacement label = .ok result) :
    ∃ before after, source = before ++ (needle ++ after) ∧
      result = before ++ (replacement ++ after) := by
  rw [replaceExactlyOnce] at h
  split at h
  case h_1 => cases h
  case h_2 before after hfound =>
    split_ifs at h
    obtain rfl := Except.ok.inj h
    exact ⟨before, after, dropInfix?_eq hfound, List.append_assoc ..⟩

/-- A patch of a source with a legacy block. -/
def LegacyPatch (publicHost proxyAuthFile : String) (source result : Text) : Prop :=
  ∃ before rest start ending, keptParts source = [before, trustedDeclaration ++ rest] ∧
    before ++ (authBlock publicHost proxyAuthFile ++ '\n' :: (trustedDeclaration ++ rest)) =
      start ++ (legacyGate ++ ending) ∧
    result = start ++ (gateCall ++ '\n' :: ending)

/-- A patch of a source without one. -/
def PlainPatch (publicHost proxyAuthFile : String) (source result : Text) : Prop :=
  keptParts source = [source] ∧ ∃ first imports middle declared start ending,
    source = first ++ (cryptoImport ++ imports) ∧
    first ++ (cryptoImport ++ (fsImport ++ imports)) =
      middle ++ (trustedDeclaration ++ declared) ∧
    middle ++ (authBlock publicHost proxyAuthFile ++ '\n' :: (trustedDeclaration ++ declared)) =
      start ++ (authorityGate ++ ending) ∧
    result = start ++ (gateCall ++ '\n' :: (authorityGate ++ ending))

theorem patchServer_ok {patched : Patched}
    (h : patchServer source publicHost proxyAuthFile = .ok patched) :
    (includes source serverMarker = true ∧ patched = ⟨source, false⟩) ∨
      (includes source serverMarker = false ∧ patched.changed = true ∧
        (LegacyPatch publicHost proxyAuthFile source patched.source ∨
          PlainPatch publicHost proxyAuthFile source patched.source)) := by
  rw [patchServer] at h
  cases hmarker : includes source serverMarker with
  | true =>
    rw [hmarker, if_pos rfl] at h
    exact .inl ⟨rfl, (Except.ok.inj h).symm⟩
  | false =>
    refine .inr ⟨rfl, ?_⟩
    rw [hmarker] at h
    simp only [Bool.false_eq_true, if_false] at h
    split at h
    case h_1 before after hlegacy =>
      split at h
      case h_1 => cases h
      case h_2 between rest htrusted =>
        split_ifs at h
        obtain ⟨result, hresult, hpatched⟩ := bind_eq_ok.mp h
        obtain rfl := Except.ok.inj hpatched
        obtain ⟨start, ending, hstart, rfl⟩ := replaceExactlyOnce_ok hresult
        refine ⟨rfl, .inl ⟨before, rest, start, ending, ?_, ?_, ?_⟩⟩
        · simp [keptParts, legacyParts, hlegacy, htrusted]
        · simpa using hstart
        · simp
    case h_2 hlegacy =>
      obtain ⟨imported, himported, h⟩ := bind_eq_ok.mp h
      obtain ⟨declared, hdeclared, h⟩ := bind_eq_ok.mp h
      obtain ⟨result, hresult, hpatched⟩ := bind_eq_ok.mp h
      obtain rfl := Except.ok.inj hpatched
      obtain ⟨first, imports, rfl, rfl⟩ := replaceExactlyOnce_ok himported
      obtain ⟨middle, rest, hmiddle, rfl⟩ := replaceExactlyOnce_ok hdeclared
      obtain ⟨start, ending, hstart, rfl⟩ := replaceExactlyOnce_ok hresult
      refine ⟨rfl, .inr ⟨?_, first, imports, middle, rest, start, ending, rfl, ?_, ?_, ?_⟩⟩
      · simp [keptParts, legacyParts, hlegacy]
      · simpa using hmiddle
      · simpa using hstart
      · simp

variable {result : Text}

/-- Whatever way a source is patched, each line of the patch comes once to what is kept. -/
theorem occurrences_patched (hline : PatchLine line)
    (h : LegacyPatch publicHost proxyAuthFile source result ∨
      PlainPatch publicHost proxyAuthFile source result) :
    occurrences line result = ((keptParts source).map (occurrences line)).sum + 1 := by
  have hpieces := hline.pieces
  rcases h with ⟨before, rest, start, ending, hkept, hstart, rfl⟩ |
    ⟨hkept, first, imports, middle, declared, start, ending, hsource, hmiddle, hstart, rfl⟩
  · have hblock := hline.append_authBlock before publicHost proxyAuthFile rest
    rw [hline.append_legacyGate, ← hstart, hblock, hkept]
    simp only [List.map_cons, List.map_nil, List.sum_cons, List.sum_nil]
    omega
  · have hblock := hline.append_authBlock middle publicHost proxyAuthFile declared
    have himport := hline.append_fsImport first imports
    rw [hmiddle, ← hsource, occurrences_append hline.declaration] at himport
    rw [hline.append_authorityGate, ← hstart, hblock, hkept]
    simp only [List.map_cons, List.map_nil, List.sum_cons, List.sum_nil]
    omega

/-- What the block holds is in the patched source. -/
theorem Written.infix_patched (h : Written text)
    (hin : text <:+: authBlock publicHost proxyAuthFile)
    (hpatch : LegacyPatch publicHost proxyAuthFile source result ∨
      PlainPatch publicHost proxyAuthFile source result) : text <:+: result := by
  have hblock (before after : Text) :
      text <:+: before ++ (authBlock publicHost proxyAuthFile ++ after) := by
    rw [← List.append_assoc]
    exact hin.trans ((List.infix_append before _ after))
  rcases hpatch with ⟨before, rest, start, ending, -, hstart, rfl⟩ |
    ⟨-, first, imports, middle, declared, start, ending, -, -, hstart, rfl⟩
  · exact h.infix_legacyGate (hstart ▸ hblock ..)
  · exact h.infix_authorityGate (hstart ▸ hblock ..)

theorem infix_authBlock (publicHost proxyAuthFile : String) :
    serverMarker <:+: authBlock publicHost proxyAuthFile ∧
      hostDeclaration ++ quoted publicHost ++ [';'] <:+: authBlock publicHost proxyAuthFile ∧
      secretRead ++ quoted proxyAuthFile ++ spell [", \"utf8\").trim();"] <:+:
        authBlock publicHost proxyAuthFile := by
  obtain ⟨proto, hproto⟩ : ∃ proto, protoLines = ';' :: proto :=
    ⟨_, spell_cons rfl (spell_singleton rfl)⟩
  obtain ⟨ending, hending⟩ : ∃ ending, authBlockEnd = spell [", \"utf8\").trim();"] ++ ending :=
    ⟨_, spell_append [_] _⟩
  refine ⟨⟨['\n'], hostDeclaration ++ quoted publicHost ++ authBlockMiddle ++
    quoted proxyAuthFile ++ authBlockEnd, ?_⟩, ⟨'\n' :: serverMarker, proto ++ secretRead ++
      quoted proxyAuthFile ++ authBlockEnd, ?_⟩, ⟨authBlockStart ++ quoted publicHost ++ protoLines,
        ending, ?_⟩⟩
  · simp [authBlock, authBlockStart]
  · simp [authBlock, authBlockStart, authBlockMiddle, hproto]
  · simp [authBlock, authBlockMiddle, hending]

/-- A patched source embeds the host, the file and one call exactly if what it kept has none. -/
theorem embeds_patched_iff
    (h : LegacyPatch publicHost proxyAuthFile source result ∨
      PlainPatch publicHost proxyAuthFile source result) :
    Embeds result publicHost proxyAuthFile ↔ ∀ part ∈ keptParts source, Bare part := by
  have hcount {line : Text} (hmem : line ∈ patchLines) :
      occurrences line result = 1 ↔ ∀ part ∈ keptParts source, occurrences line part = 0 := by
    rw [occurrences_patched (patchLine_of_mem line hmem) h]
    simp [List.sum_eq_zero_iff_forall_eq_nat]
  obtain ⟨-, hhost, hsecret⟩ := infix_authBlock publicHost proxyAuthFile
  constructor
  · exact fun hembeds part hpart line hmem => (hcount hmem).mp (hembeds.once line hmem) part hpart
  · intro hbare
    refine ⟨fun line hmem => (hcount hmem).mpr fun part hpart => hbare part hpart line hmem, ?_, ?_⟩
    · have hwritten : Written (hostDeclaration ++ quoted publicHost ++ [';']) :=
        written_quoted (patchLine_of_mem _ (by simp [patchLines])) (by decide) (by decide) _
      exact hwritten.infix_patched hhost h
    · obtain ⟨_, hending, hnewline, htab⟩ : ∃ chars, spell [", \"utf8\").trim();"] = chars ∧
          '\n' ∉ chars ∧ '\t' ∉ chars := ⟨_, spell_singleton rfl, by decide⟩
      have hwritten : Written
          (secretRead ++ quoted proxyAuthFile ++ spell [", \"utf8\").trim();"]) :=
        written_quoted (patchLine_of_mem _ (by simp [patchLines])) (hending ▸ hnewline)
          (hending ▸ htab) _
      exact hwritten.infix_patched hsecret h

/-! ### The law of the patch -/

/-- After a patch the verification succeeds for the host, the server source embeds the host, the
file and one call, and a second patch changes nothing. -/
structure Agrees (root : Root) (options : Options) : Prop where
  verified : verifyConnectionRoot root options.publicHost = .ok ()
  embedded : Embeds root.server options.publicHost options.proxyAuthFile
  settled : patchConnectionRoot root options = (.ok ⟨root.root, "ok", "ok"⟩, root)

theorem patchClient_ok {patched : Patched} (h : patchClient source publicHost = .ok patched) :
    includes patched.source (hostNeedle publicHost) = true ∧
      (patched.changed = false → patched.source = source) := by
  rw [patchClient] at h
  split_ifs at h with hthere
  · obtain rfl := Except.ok.inj h
    exact ⟨hthere, fun _ => rfl⟩
  · obtain ⟨result, hresult, hpatched⟩ := bind_eq_ok.mp h
    obtain rfl := Except.ok.inj hpatched
    obtain ⟨before, after, -, rfl⟩ := replaceExactlyOnce_ok hresult
    refine ⟨includes_iff.mpr ⟨before ++ loopbackStart ++ spell [" || "], loopbackEnd ++ after, ?_⟩,
      nofun⟩
    simp

theorem hostLine_within (publicHost : String) :
    spell ["const DSH_ORBIT_PROXY_HOST = "] ++ quoted publicHost ++ [';'] <:+:
      hostDeclaration ++ quoted publicHost ++ [';'] := by
  have hstart : hostDeclaration = '\n' :: spell ["const DSH_ORBIT_PROXY_HOST = "] :=
    (spell_singleton rfl).trans (congrArg ('\n' :: ·) (spell_singleton rfl)).symm
  rw [hstart]
  exact (List.suffix_cons ..).isInfix

/-- The sources that agree with the options. -/
theorem patched_agrees_iff {root : Root} {options : Options}
    (hhost : validateHost options.publicHost = .ok ())
    (hversion : compatibilityFor options.dshVersion = .ok ())
    (hmarker : includes root.server serverMarker = true)
    (hclient : includes root.client (hostNeedle options.publicHost) = true) :
    Agrees root options ↔ Embeds root.server options.publicHost options.proxyAuthFile := by
  refine ⟨fun h => h.embedded, fun hembeds => ⟨?_, hembeds, ?_⟩⟩
  · have hline := includes_iff.mpr ((hostLine_within options.publicHost).trans hembeds.host)
    rw [verifyConnectionRoot, hhost, hmarker, hline, hclient]
    rfl
  · have hserver : patchServer root.server options.publicHost options.proxyAuthFile =
        .ok ⟨root.server, false⟩ := if_pos hmarker
    have hclient' : patchClient root.client options.publicHost = .ok ⟨root.client, false⟩ :=
      if_pos hclient
    rw [patchConnectionRoot, patchSources, hhost, hversion, hserver, hclient']
    rfl

/-- A patch that fails writes nothing. After one that succeeds the two sources agree with the
options exactly when the server source fitted them before. -/
theorem patch_agreement_iff (root : Root) (options : Options) :
    (∀ message root', patchConnectionRoot root options = (.error message, root') →
      root' = root) ∧
    ∀ report root', patchConnectionRoot root options = (.ok report, root') →
      (Agrees root' options ↔ Fits root.server options.publicHost options.proxyAuthFile) := by
  rw [patchConnectionRoot]
  cases hpatched : patchSources root options with
  | error message =>
    dsimp only
    exact ⟨fun _ _ h => (Prod.mk.inj h).2.symm, fun _ _ h => nomatch (Prod.mk.inj h).1⟩
  | ok sources =>
    dsimp only
    refine ⟨fun _ _ h => (nomatch (Prod.mk.inj h).1), ?_⟩
    rintro report root' h
    obtain rfl := (Prod.mk.inj h).2
    obtain ⟨server, client⟩ := sources
    obtain ⟨_, hhost, h⟩ := bind_eq_ok.mp hpatched
    obtain ⟨_, hversion, h⟩ := bind_eq_ok.mp h
    obtain ⟨server', hserver, h⟩ := bind_eq_ok.mp h
    obtain ⟨client', hclient, h⟩ := bind_eq_ok.mp h
    obtain ⟨rfl, rfl⟩ := Prod.mk.inj (Except.ok.inj h)
    obtain ⟨hneedle, hsame⟩ := patchClient_ok hclient
    have hclientSource : includes (if client'.changed then client'.source else root.client)
        (hostNeedle options.publicHost) = true := by
      split_ifs with hchanged
      · exact hneedle
      · rw [← hsame (Bool.eq_false_of_not_eq_true hchanged)]
        exact hneedle
    rcases patchServer_ok hserver with ⟨hmarker, rfl⟩ | ⟨hmarker, hchanged, hway⟩
    · have hfits : Fits root.server options.publicHost options.proxyAuthFile ↔
          Embeds root.server options.publicHost options.proxyAuthFile := by
        rw [Fits, if_pos hmarker]
      rw [hfits]
      exact patched_agrees_iff hhost hversion hmarker hclientSource
    · obtain ⟨hblock, -, -⟩ := infix_authBlock options.publicHost options.proxyAuthFile
      have hmarked : includes server'.source serverMarker = true :=
        includes_iff.mpr (written_serverMarker.infix_patched hblock hway)
      have hfits : Fits root.server options.publicHost options.proxyAuthFile ↔
          Embeds server'.source options.publicHost options.proxyAuthFile := by
        rw [embeds_patched_iff hway, Fits, hmarker, if_neg Bool.false_ne_true]
      rw [hfits]
      dsimp only
      rw [hchanged, if_pos rfl]
      exact patched_agrees_iff hhost hversion hmarked hclientSource

/-! ### A patch for another host -/

def otherHost : Options := ⟨"0.1.1-rc.2", "b.example", "/s"⟩

/-- Sources that are patched for the host `a.example`, the client for both. -/
def patchedRoot : Root :=
  ⟨"/r", serverMarker ++ hostDeclaration ++ quoted "a.example" ++ [';'], hostNeedle "b.example"⟩

/-- The patch reports success and leaves the old host, which the verification then refuses. -/
theorem patch_other_host : patchConnectionRoot patchedRoot otherHost =
      (.ok ⟨"/r", "ok", "ok"⟩, patchedRoot) ∧
    verifyConnectionRoot patchedRoot otherHost.publicHost ≠ .ok () := by
  have hhost : validateHost otherHost.publicHost = .ok () := by decide +kernel
  have hmarker : includes patchedRoot.server serverMarker = true :=
    includes_iff.mpr ⟨[], hostDeclaration ++ quoted "a.example" ++ [';'], by simp [patchedRoot]⟩
  have hclient : includes patchedRoot.client (hostNeedle otherHost.publicHost) = true :=
    includes_iff.mpr (List.infix_refl _)
  have hserver : patchServer patchedRoot.server otherHost.publicHost otherHost.proxyAuthFile =
      .ok ⟨patchedRoot.server, false⟩ := if_pos hmarker
  have hclient' : patchClient patchedRoot.client otherHost.publicHost =
      .ok ⟨patchedRoot.client, false⟩ := if_pos hclient
  constructor
  · rw [patchConnectionRoot, patchSources, hhost, hserver, hclient']
    rfl
  · decide +kernel

end DshOrbit.RemoteSettingsPatch
