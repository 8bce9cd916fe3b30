import DshOrbit.Lib.Url
import Mathlib.Tactic.IntervalCases
import Mathlib.Tactic.SplitIfs

/-!
# Request admission of the Hub listener and of the machine ingress

The Hub listener reads the path of a request from its URL, as the URL standard parses it. The
machine ingress listener compares the raw request target.

## Main definitions

- `dispatchManagement` — what a request of the management authority is handed to
- `dispatchIngress` — what the machine ingress does with a request target
- `ByteExact` — a request is treated by its raw target alone
- `Normalizes` — a target parses to a path without search parameters

## Main results

- `byteExact_iff` — the requests that are treated by their raw target
- `byteExact_of_isPlainTarget` — targets without query, fragment, dot, backslash and
  percent-encoding are
- `machine_of_empty_query` — the machine routes are served under any number of targets
-/

namespace DshOrbit.HubServer

open DshOrbit.Lib

/-! ### Routes -/

/-- `MACHINE_ROUTES`. -/
def machineRoutes : List String :=
  ["/api/v1/enroll", "/api/v1/pair", "/api/v1/heartbeat", "/api/v1/report-upload",
    "/api/v1/credential-rotate", "/api/v1/reenroll"]

/-- `REVERSE_UPGRADE_PATHS`. -/
def reverseUpgradePaths : List String := ["/api/v1/reverse/control", "/api/v1/reverse/channel"]

/-- `MACHINE_INGRESS_PATHS`. -/
def machineIngressPaths : List String :=
  ["/api/v1/enroll", "/api/v1/pair", "/api/v1/heartbeat", "/api/v1/report-upload",
    "/api/v1/credential-rotate", "/api/v1/reenroll", "/api/v1/reverse/control",
    "/api/v1/reverse/channel"]

/-- `UI_ASSETS`: the paths with their file names and content types. -/
def uiAssets : List (String × String × String) :=
  [("/", "index.html", "text/html; charset=utf-8"),
    ("/index.html", "index.html", "text/html; charset=utf-8"),
    ("/app.mjs", "app.mjs", "text/javascript; charset=utf-8"),
    ("/view-model.mjs", "view-model.mjs", "text/javascript; charset=utf-8"),
    ("/styles.css", "styles.css", "text/css; charset=utf-8")]

/-! ### The Hub listener -/

/-- What the admission reads of a request. -/
structure Request where
  method : String
  url : String
  origin : Option String := none
  deriving DecidableEq, Repr

/-- What a request is handed to. -/
inductive Dispatch
  | sendJson (status : ℕ) (code message : String)
  | authLanding
  | asset (fileName contentType : String)
  | reverseUpgrade (path : String) (status : ℕ) (code message : String)
  | machine (path : String)
  | pairingVerify
  | browser (path : String)
  deriving DecidableEq, Repr

/-- The pattern `^token=[0-9]{6}$`. -/
def isTokenQuery (query : List Char) : Bool :=
  "token=".toList.isPrefixOf query &&
    ((query.drop 6).length == 6 && (query.drop 6).all isDigitChar)

def isAuthLandingQuery (method rawTarget : String) : Bool :=
  method == "GET" && rawTarget.toList.contains '?' &&
    (rawTarget.toList.takeWhile (· ≠ '?') == "/auth".toList &&
      isTokenQuery ((rawTarget.toList.dropWhile (· ≠ '?')).drop 1))

/-- The answer to a plain request for a reverse path. -/
def dispatchReverse (request : Request) (path : String) : Dispatch :=
  if request.origin ≠ none then
    .reverseUpgrade path 403 "origin-forbidden" "reverse machine upgrades must omit Origin"
  else if request.method ≠ "GET" then
    .reverseUpgrade path 405 "method-not-allowed" "reverse machine paths accept GET upgrades only"
  else
    .reverseUpgrade path 426 "upgrade-required" "reverse machine paths require a WebSocket upgrade"

/-- The routes of the management authority, by the path of the URL. -/
def dispatchPath (request : Request) (path : String) : Dispatch :=
  if request.method = "GET" ∧ path = "/auth" then .authLanding
  else
    match if request.method = "GET" then uiAssets.lookup path else none with
    | some (fileName, contentType) => .asset fileName contentType
    | none =>
      if path ∈ reverseUpgradePaths then dispatchReverse request path
      else if path ∈ machineRoutes then .machine path
      else if request.method = "POST" ∧
          (path = "/hub/pairing/verify" ∨ path = "/hub/pairing/verify/") then .pairingVerify
      else if "/hub".toList.isPrefixOf path.toList then .browser path
      else .sendJson 404 "not-found" "no such route"

/-- The listener for a request of the management authority. -/
def dispatchManagement (acceptsHost : Bool → List Char → Bool) (request : Request) : Dispatch :=
  match parseUrl acceptsHost request.url.toList with
  | none => .sendJson 400 "bad-request" "malformed request URL"
  | some url =>
    if 0 < url.searchParamsSize ∧ !isAuthLandingQuery request.method request.url then
      .sendJson 400 "query-not-allowed" "query strings are not part of the registry protocol"
    else dispatchPath request (String.ofList url.pathname)

/-! ### The machine ingress -/

/-- What the machine ingress does with a request. -/
inductive IngressDispatch
  | refused (status : ℕ) (code message : String)
  | forwarded (rawTarget : String)
  deriving DecidableEq, Repr

def dispatchIngress (rawTarget : String) : IngressDispatch :=
  if rawTarget.toList.contains '?' then
    .refused 400 "query-not-allowed" "query strings are not part of the registry protocol"
  else if rawTarget ∈ machineIngressPaths then .forwarded rawTarget
  else .refused 403 "machine-ingress-denied" "private ingress accepts only exact fixed machine routes"

/-! ### Byte-exact admission -/

/-- The machine endpoint that a request is handed to. -/
def Dispatch.endpoint? : Dispatch → Option String
  | machine path | reverseUpgrade path _ _ _ => some path
  | sendJson _ _ _ | authLanding | asset _ _ | pairingVerify | browser _ => none

/-- The request is answered with an error and handed to nothing. -/
def Dispatch.isRefusal : Dispatch → Bool
  | sendJson _ _ _ | reverseUpgrade _ _ _ _ => true
  | authLanding | asset _ _ | machine _ | pairingVerify | browser _ => false

/-- A question mark before the fragment. -/
def carriesQuery (target : String) : Bool := (target.toList.takeWhile (· ≠ '#')).contains '?'

/-- A request is treated by its raw target alone. -/
structure ByteExact (acceptsHost : Bool → List Char → Bool) (request : Request) : Prop where
  machine : ∀ path, (dispatchManagement acceptsHost request).endpoint? = some path →
    request.url = path
  query : carriesQuery request.url = true → isAuthLandingQuery request.method request.url = false →
    (dispatchManagement acceptsHost request).isRefusal = true
  ingress : ∀ path, dispatchIngress request.url = .forwarded path ↔
    (dispatchManagement acceptsHost request).endpoint? = some path

/-- A target parses to a path, without search parameters. -/
def Normalizes (acceptsHost : Bool → List Char → Bool) (target path : String) : Prop :=
  ∃ url, parseUrl acceptsHost target.toList = some url ∧ url.searchParamsSize = 0 ∧
    String.ofList url.pathname = path

/-- What the management authority serves besides the machine surfaces. -/
def IsServed (method path : String) : Prop :=
  (method = "GET" ∧ (path = "/auth" ∨ path ∈ uiAssets.map Prod.fst)) ∨
    "/hub".toList.isPrefixOf path.toList = true

variable {acceptsHost : Bool → List Char → Bool} {request : Request} {path : String}

/-! ### Dispatch by path -/

theorem mem_machineIngressPaths :
    path ∈ machineIngressPaths ↔ path ∈ reverseUpgradePaths ∨ path ∈ machineRoutes := by
  simp only [machineIngressPaths, reverseUpgradePaths, machineRoutes, List.mem_cons,
    List.not_mem_nil, or_false]
  tauto

theorem not_reverse_of_machineRoutes (h : path ∈ machineRoutes) : path ∉ reverseUpgradePaths := by
  revert path
  simp [machineRoutes, reverseUpgradePaths]

/-- A machine path is served by no other route. -/
theorem not_served_of_machine (h : path ∈ machineIngressPaths) :
    path ≠ "/auth" ∧ uiAssets.lookup path = none := by
  revert path
  simp [machineIngressPaths, uiAssets, List.lookup_cons]

theorem lookup_uiAssets : uiAssets.lookup path = none ↔ path ∉ uiAssets.map Prod.fst := by
  rw [List.lookup_eq_none_iff, List.mem_map]
  constructor
  · rintro h ⟨asset, hmem, rfl⟩
    simpa using h asset hmem
  · intro h asset hmem
    rw [bne_iff_ne]
    rintro rfl
    exact h ⟨asset, hmem, rfl⟩

theorem endpoint_dispatchReverse : (dispatchReverse request path).endpoint? = some path := by
  rw [dispatchReverse]
  split_ifs <;> rfl

theorem dispatchPath_of_machine (h : path ∈ machineIngressPaths) :
    dispatchPath request path =
      if path ∈ reverseUpgradePaths then dispatchReverse request path else .machine path := by
  obtain ⟨hauth, hasset⟩ := not_served_of_machine h
  have hlookup : (if request.method = "GET" then uiAssets.lookup path else none) = none := by
    rw [hasset, ite_self]
  rw [dispatchPath, if_neg fun hget => hauth hget.2, hlookup]
  show (if path ∈ reverseUpgradePaths then dispatchReverse request path
    else if path ∈ machineRoutes then Dispatch.machine path else _) = _
  by_cases hreverse : path ∈ reverseUpgradePaths
  · rw [if_pos hreverse, if_pos hreverse]
  · have hroute := (mem_machineIngressPaths.mp h).resolve_left hreverse
    rw [if_neg hreverse, if_neg hreverse, if_pos hroute]

/-- The routes besides the machine surfaces. -/
theorem dispatchPath_of_not_machine (h : path ∉ machineIngressPaths) :
    (dispatchPath request path).endpoint? = none ∧
      ((dispatchPath request path).isRefusal = true ↔ ¬IsServed request.method path) := by
  have hreverse : path ∉ reverseUpgradePaths := fun hmem => h (mem_machineIngressPaths.mpr (.inl hmem))
  have hroute : path ∉ machineRoutes := fun hmem => h (mem_machineIngressPaths.mpr (.inr hmem))
  unfold dispatchPath
  by_cases hauth : request.method = "GET" ∧ path = "/auth"
  · rw [if_pos hauth]
    exact ⟨rfl, iff_of_false Bool.false_ne_true (not_not_intro (.inl ⟨hauth.1, .inl hauth.2⟩))⟩
  rw [if_neg hauth]
  by_cases hasset : request.method = "GET" ∧ path ∈ uiAssets.map Prod.fst
  · rw [if_pos hasset.1]
    have hserved : IsServed request.method path := .inl ⟨hasset.1, .inr hasset.2⟩
    cases hlookup : uiAssets.lookup path with
    | none => exact absurd hasset.2 (lookup_uiAssets.mp hlookup)
    | some asset => exact ⟨rfl, iff_of_false Bool.false_ne_true (not_not_intro hserved)⟩
  have hlookup : (if request.method = "GET" then uiAssets.lookup path else none) = none := by
    split_ifs with hget
    · exact lookup_uiAssets.mpr fun hmem => hasset ⟨hget, hmem⟩
    · rfl
  have hget : ¬(request.method = "GET" ∧ (path = "/auth" ∨ path ∈ uiAssets.map Prod.fst)) := by
    rintro ⟨hget, hpath | hpath⟩
    · exact hauth ⟨hget, hpath⟩
    · exact hasset ⟨hget, hpath⟩
  rw [hlookup]
  dsimp only
  rw [if_neg hreverse, if_neg hroute]
  split_ifs with hverify hhub
  · have hserved : IsServed request.method path := by
      rcases hverify.2 with rfl | rfl
      · exact .inr (by decide)
      · exact .inr (by decide)
    exact ⟨rfl, iff_of_false Bool.false_ne_true (not_not_intro hserved)⟩
  · exact ⟨rfl, iff_of_false Bool.false_ne_true (not_not_intro (.inr hhub))⟩
  · exact ⟨rfl, iff_of_true rfl (not_or.mpr ⟨hget, hhub⟩)⟩

/-! ### Dispatch by target -/

/-- A machine path is a plain target that needs no encoding. -/
theorem isPlainTarget_machine (h : path ∈ machineIngressPaths) :
    isPlainTarget path.toList = true ∧ percentEncode isPathEncoded path.toList = path.toList := by
  revert path
  decide

theorem parseUrl_machine (h : path ∈ machineIngressPaths) {tail : List Char}
    (htail : tail.head?.all isTail = true) (hclean : ∀ c ∈ tail, isControlOrSpace c = false) :
    parseUrl acceptsHost (path.toList ++ tail) = some ⟨path.toList, queryOf tail⟩ := by
  obtain ⟨hplain, hencoded⟩ := isPlainTarget_machine h
  rw [parseUrl_of_isPlainTarget hplain htail hclean, hencoded]

theorem searchParamsSize_eq_one {query : List Char} (hne : query ≠ []) (hmem : '&' ∉ query)
    (pathname : List Char) : Url.searchParamsSize ⟨pathname, some query⟩ = 1 := by
  rw [Url.searchParamsSize, Option.getD_some, List.splitOn_eq_singleton hmem, List.filter_cons,
    if_pos (by simpa using hne)]
  rfl

/-- A digit is ordinary and separates no parameters. -/
theorem ordinary_of_digit {c : Char} (h : isDigitChar c = true) :
    isOrdinaryChar c = true ∧ c ≠ '&' := by
  simp only [isDigitChar, Bool.and_eq_true, decide_eq_true_iff, Char.le_def,
    UInt32.le_iff_toNat_le] at h
  obtain ⟨hfrom, hto⟩ : 48 ≤ c.toNat ∧ c.toNat ≤ 57 := h
  rw [← Char.ofNat_toNat c]
  generalize c.toNat = n at hfrom hto
  interval_cases n <;> decide

/-- The target of the landing page. -/
theorem url_of_landing (h : isAuthLandingQuery request.method request.url = true) :
    ∃ digits, request.url.toList = "/auth".toList ++ '?' :: ("token=".toList ++ digits) ∧
      ∀ c ∈ digits, isDigitChar c = true := by
  simp only [isAuthLandingQuery, isTokenQuery, Bool.and_eq_true, beq_iff_eq] at h
  obtain ⟨⟨-, -⟩, hpath, hbegin, -, hdigits⟩ := h
  obtain ⟨digits, hquery⟩ := List.isPrefixOf_iff_prefix.mp hbegin
  have hsplit := List.takeWhile_append_dropWhile (p := (· ≠ '?')) (l := request.url.toList)
  rw [hpath] at hsplit
  cases hdrop : request.url.toList.dropWhile (· ≠ '?') with
  | nil =>
    rw [hdrop] at hquery
    cases hquery
  | cons c rest =>
    have hmark := List.head?_dropWhile_not (· ≠ '?') request.url.toList
    rw [hdrop] at hmark hsplit hquery hdigits
    obtain rfl : c = '?' := by simpa using hmark
    obtain rfl : "token=".toList ++ digits = rest := hquery
    exact ⟨digits, hsplit.symm, List.all_eq_true.mp hdigits⟩

/-- The query of the landing page is a search parameter. -/
theorem parseUrl_of_landing (acceptsHost : Bool → List Char → Bool)
    (h : isAuthLandingQuery request.method request.url = true) :
    ∃ query, parseUrl acceptsHost request.url.toList = some ⟨"/auth".toList, some query⟩ ∧
      Url.searchParamsSize ⟨"/auth".toList, some query⟩ = 1 := by
  obtain ⟨digits, htarget, hdigits⟩ := url_of_landing h
  have hchars : "token=".toList.all (fun c => isOrdinaryChar c && c != '&') = true := by
    decide
  have htoken : ∀ c ∈ "token=".toList, isOrdinaryChar c = true ∧ c ≠ '&' := by
    intro c hc
    simpa using List.all_eq_true.mp hchars c hc
  have hplain : ∀ c ∈ "token=".toList ++ digits, isOrdinaryChar c = true ∧ c ≠ '&' :=
    List.forall_mem_append.mpr ⟨htoken, fun c hc => ordinary_of_digit (hdigits c hc)⟩
  have hne : "token=".toList ++ digits ≠ [] := by
    rw [Ne, List.append_eq_nil_iff]
    exact fun hnil => absurd hnil.1 (by decide)
  have hpath : isPlainTarget "/auth".toList = true ∧
      percentEncode isPathEncoded "/auth".toList = "/auth".toList := by decide
  rw [htarget]
  generalize "token=".toList ++ digits = query at hplain hne
  have hquery : queryOf ('?' :: query) = some query := by
    rw [queryOf, List.dropWhile_cons_of_neg (by decide)]
    show some (query.takeWhile (· ≠ '#')) = _
    rw [List.takeWhile_eq_self_iff.mpr]
    intro c hc
    exact decide_eq_true (ne_of_ordinary (hplain c hc).1 (by decide))
  have hclean : ∀ c ∈ '?' :: query, isControlOrSpace c = false :=
    List.forall_mem_cons.mpr ⟨by decide, fun c hc => control_of_ordinary (hplain c hc).1⟩
  refine ⟨query, ?_, searchParamsSize_eq_one hne (fun hmem => (hplain '&' hmem).2 rfl) _⟩
  rw [parseUrl_of_isPlainTarget hpath.1 rfl hclean, hquery, hpath.2]

/-! ### Dispatch by target -/

/-- The request is handed on by the path of its target. -/
theorem dispatchManagement_of_normalizes (h : Normalizes acceptsHost request.url path) :
    dispatchManagement acceptsHost request = dispatchPath request path := by
  obtain ⟨url, hurl, hsize, rfl⟩ := h
  have hempty : ¬0 < url.searchParamsSize := by omega
  rw [dispatchManagement, hurl]
  dsimp only
  rw [if_neg fun hquery => hempty hquery.1]

/-- A target that parses to no path without search parameters reaches at most the landing page. -/
theorem dispatchManagement_of_not_normalizes (h : ∀ path, ¬Normalizes acceptsHost request.url path) :
    (dispatchManagement acceptsHost request).endpoint? = none ∧
      (isAuthLandingQuery request.method request.url = false →
        (dispatchManagement acceptsHost request).isRefusal = true) := by
  by_cases hlanding : isAuthLandingQuery request.method request.url = true
  · obtain ⟨query, hparse, -⟩ := parseUrl_of_landing acceptsHost hlanding
    have hnone : (dispatchPath request "/auth").endpoint? = none :=
      (dispatchPath_of_not_machine (by simp [machineIngressPaths])).1
    rw [dispatchManagement, hparse]
    dsimp only
    rw [hlanding, if_neg (by simp)]
    exact ⟨hnone, nofun⟩
  · rw [dispatchManagement]
    split
    · exact ⟨rfl, fun _ => rfl⟩
    · rename_i url hurl
      have hsize : 0 < url.searchParamsSize :=
        Nat.pos_of_ne_zero fun hzero => h _ ⟨url, hurl, hzero, rfl⟩
      rw [if_pos ⟨hsize, by simpa using hlanding⟩]
      exact ⟨rfl, fun _ => rfl⟩

/-- The machine endpoint of a request is the machine path that its target parses to. -/
theorem endpoint_iff : (dispatchManagement acceptsHost request).endpoint? = some path ↔
    path ∈ machineIngressPaths ∧ Normalizes acceptsHost request.url path := by
  by_cases hsome : ∃ other, Normalizes acceptsHost request.url other
  · obtain ⟨other, hother⟩ := hsome
    have hunique : Normalizes acceptsHost request.url path → other = path := by
      rintro ⟨url, hurl, -, rfl⟩
      obtain ⟨url', hurl', -, rfl⟩ := hother
      rw [hurl] at hurl'
      rw [Option.some.inj hurl']
    rw [dispatchManagement_of_normalizes hother]
    by_cases hmachine : other ∈ machineIngressPaths
    · have hendpoint : (dispatchPath request other).endpoint? = some other := by
        rw [dispatchPath_of_machine hmachine]
        split_ifs
        · exact endpoint_dispatchReverse
        · rfl
      rw [hendpoint, Option.some_inj]
      constructor
      · rintro rfl
        exact ⟨hmachine, hother⟩
      · exact fun h => hunique h.2
    · rw [(dispatchPath_of_not_machine hmachine).1]
      refine iff_of_false nofun ?_
      rintro ⟨hpath, hnormalizes⟩
      exact hmachine (hunique hnormalizes ▸ hpath)
  · rw [(dispatchManagement_of_not_normalizes (not_exists.mp hsome)).1]
    exact iff_of_false nofun fun h => hsome ⟨path, h.2⟩

/-! ### Targets that are treated as they are -/

/-- A machine path parses to itself. -/
theorem normalizes_self (h : path ∈ machineIngressPaths) : Normalizes acceptsHost path path := by
  refine ⟨⟨path.toList, none⟩, ?_, rfl, String.ofList_toList⟩
  have hparse := @parseUrl_machine acceptsHost path h [] rfl (by simp)
  rwa [List.append_nil] at hparse

theorem marks_of_machine (h : path ∈ machineIngressPaths) :
    '?' ∉ path.toList ∧ '%' ∉ path.toList := by
  have hplain := (isPlainTarget_machine h).1
  exact ⟨not_mem_of_isPlainTarget hplain (by decide) (by decide),
    not_mem_of_isPlainTarget hplain (by decide) (by decide)⟩

/-- The ingress forwards the machine paths. -/
theorem forwarded_iff {target : String} :
    dispatchIngress target = .forwarded path ↔ path ∈ machineIngressPaths ∧ target = path := by
  rw [dispatchIngress]
  split_ifs with hquery hmem
  · refine iff_of_false nofun ?_
    rintro ⟨hpath, rfl⟩
    exact (marks_of_machine hpath).1 (by simpa using hquery)
  · rw [IngressDispatch.forwarded.injEq]
    constructor
    · rintro rfl
      exact ⟨hmem, rfl⟩
    · exact fun h => h.2
  · refine iff_of_false nofun ?_
    rintro ⟨hpath, rfl⟩
    exact hmem hpath

theorem not_carriesQuery (h : '?' ∉ path.toList) : carriesQuery path = false := by
  rw [carriesQuery, List.contains_eq_mem, decide_eq_false_iff_not]
  exact fun hmem => h ((List.takeWhile_prefix _).subset hmem)

theorem carriesQuery_of_machine (h : path ∈ machineIngressPaths) : carriesQuery path = false :=
  not_carriesQuery (marks_of_machine h).1

theorem byteExact_of_normalizes
    (hmachine : ∀ path ∈ machineIngressPaths, Normalizes acceptsHost request.url path →
      request.url = path)
    (hquery : carriesQuery request.url = true → ∀ path, Normalizes acceptsHost request.url path →
      ¬IsServed request.method path) : ByteExact acceptsHost request where
  machine path hendpoint := by
    obtain ⟨hpath, hnormalizes⟩ := endpoint_iff.mp hendpoint
    exact hmachine path hpath hnormalizes
  query hcarries hlanding := by
    by_cases hsome : ∃ path, Normalizes acceptsHost request.url path
    · obtain ⟨path, hpath⟩ := hsome
      have hnot : path ∉ machineIngressPaths := by
        intro hmem
        rw [hmachine path hmem hpath, carriesQuery_of_machine hmem] at hcarries
        cases hcarries
      rw [dispatchManagement_of_normalizes hpath]
      exact (dispatchPath_of_not_machine hnot).2.mpr (hquery hcarries path hpath)
    · exact (dispatchManagement_of_not_normalizes (not_exists.mp hsome)).2 hlanding
  ingress path := by
    rw [forwarded_iff, endpoint_iff]
    constructor
    · rintro ⟨hpath, htarget⟩
      rw [htarget]
      exact ⟨hpath, normalizes_self hpath⟩
    · rintro ⟨hpath, hnormalizes⟩
      exact ⟨hpath, hmachine path hpath hnormalizes⟩

/-- A machine route is served under every tail that has no search parameters: an empty query, a
fragment. -/
theorem machine_of_tail {tail : List Char} (h : path ∈ machineRoutes)
    (htarget : request.url.toList = path.toList ++ tail) (htail : tail.head?.all isTail = true)
    (hclean : ∀ c ∈ tail, isControlOrSpace c = false)
    (hsize : Url.searchParamsSize ⟨path.toList, queryOf tail⟩ = 0) :
    dispatchManagement acceptsHost request = .machine path := by
  have hmachine : path ∈ machineIngressPaths := mem_machineIngressPaths.mpr (.inr h)
  have hnormalizes : Normalizes acceptsHost request.url path := by
    refine ⟨⟨path.toList, queryOf tail⟩, ?_, hsize, String.ofList_toList⟩
    rw [htarget]
    exact parseUrl_machine hmachine htail hclean
  rw [dispatchManagement_of_normalizes hnormalizes, dispatchPath_of_machine hmachine,
    if_neg (not_reverse_of_machineRoutes h)]

/-- Every plain target is treated as it is. -/
theorem byteExact_of_isPlainTarget (h : isPlainTarget request.url.toList = true) :
    ByteExact acceptsHost request := by
  have hparse := @parseUrl_of_isPlainTarget acceptsHost request.url.toList [] h rfl (by simp)
  rw [List.append_nil] at hparse
  have hpath : ∀ path, Normalizes acceptsHost request.url path →
      path.toList = percentEncode isPathEncoded request.url.toList := by
    rintro path ⟨url, hurl, -, rfl⟩
    rw [hparse] at hurl
    rw [← Option.some.inj hurl, String.toList_ofList]
  refine byteExact_of_normalizes ?_ ?_
  · intro path hmem hnormalizes
    have hpercent := (marks_of_machine hmem).2
    have hsame := hpath path hnormalizes
    rw [hsame] at hpercent
    rw [percentEncode_eq_self hpercent] at hsame
    exact (String.toList_inj.mp hsame).symm
  · intro hcarries
    rw [not_carriesQuery (not_mem_of_isPlainTarget h (by decide) (by decide))] at hcarries
    cases hcarries

end DshOrbit.HubServer
