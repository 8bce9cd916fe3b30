import DshOrbit.Registry.RouteKeySets

/-!
# Tokens

An enrollment token is used once. Its first use records a result under the content
of the request; from then on a request with that token writes nothing, and is
answered with that result if its content is the same and the result is on record,
else refused. Maintenance removes the result ninety days after the first use.

## Main definitions

- `TokenRequest.content` — what a request asks for
- `TokensSound` — what the tokens and results satisfy in every run
- `Spent` — a token that has been used, with its result
- `SingleUse` — what follows a first use

## Main results

- `submit_of_spent`, `submit_repeat` — requests with a used token
- `token_used_once`
-/

namespace DshOrbit.Registry

open DshOrbit.Lib DshOrbit.Protocol

variable {env : Env} {entropy : Entropy} {clock : Clock} {db db' : Db}
  {Rotates : NodeKeyRow → Prop} {Purges : Prop}

/-! ### Contents -/

/-- What a request asks for, apart from its token and its proofs. -/
structure Content where
  kind : Purpose
  requestId : String
  nodeId : Option String
  publicKey : String
  deriving DecidableEq

namespace TokenRequest

def content : TokenRequest → Content
  | .enroll req => ⟨.enroll, req.fields.requestId, none, req.fields.publicKey⟩
  | .pair req => ⟨.pair, req.fields.requestId, none, req.fields.publicKey⟩
  | .reenroll req => ⟨.reenroll, req.fields.requestId, req.fields.nodeId, req.fields.newPublicKey⟩

/-- The form of a request, and of a re-enrollment the timestamp as well. -/
def Checked (clock : Clock) : TokenRequest → Prop
  | .enroll req => req.fields.WellFormed
  | .pair req => req.fields.WellFormed
  | .reenroll req => ∃ fields, checkReenrollFields clock req = .ok fields

theorem checked_of_submit {req : TokenRequest} {result : EnrollmentResult}
    (h : req.submit env entropy clock db = .ok (result, db')) : req.Checked clock := by
  cases req with
  | enroll req =>
    obtain ⟨fields, hfields, -⟩ := bind_eq_ok.mp h
    obtain ⟨rfl, hwellFormed⟩ := checkEnrollFields_eq_ok.mp hfields
    exact hwellFormed
  | pair req =>
    obtain ⟨fields, hfields, -⟩ := bind_eq_ok.mp h
    obtain ⟨rfl, hwellFormed⟩ := checkEnrollFields_eq_ok.mp hfields
    exact hwellFormed
  | reenroll req =>
    obtain ⟨fields, hfields, -⟩ := bind_eq_ok.mp h
    exact ⟨fields, hfields⟩

end TokenRequest

/-- Texts of equal length are equal where they begin equal texts. -/
theorem append_inj_of_length {a b c d : String} (h : a ++ b = c ++ d)
    (hlength : a.toList.length = c.toList.length) : a = c ∧ b = d := by
  have hlist : a.toList ++ b.toList = c.toList ++ d.toList := by
    rw [← String.toList_append, ← String.toList_append, h]
  obtain ⟨hac, hbd⟩ := List.append_inj hlist hlength
  exact ⟨String.toList_inj.mp hac, String.toList_inj.mp hbd⟩

theorem enrollContent_inj {digest : String} {a b : EnrollFields} (ha : a.WellFormed)
    (hb : b.WellFormed) (h : enrollContent digest a = enrollContent digest b) :
    a.requestId = b.requestId ∧ a.publicKey = b.publicKey := by
  simp only [enrollContent, String.append_assoc] at h
  have h := (append_inj_of_length h rfl).2
  have h := (append_inj_of_length h rfl).2
  have hlength : a.requestId.toList.length = b.requestId.toList.length := by
    rw [matchesHex_length ha.requestId, matchesHex_length hb.requestId]
  obtain ⟨hid, h⟩ := append_inj_of_length h hlength
  exact ⟨hid, (append_inj_of_length h rfl).2⟩

theorem length_of_isNodeId {nodeId : String} (h : isNodeId nodeId = true) :
    nodeId.toList.length = 37 := by
  have hlength := matchesHex_length (Bool.and_eq_true_iff.mp h).2
  rw [String.toList_ofList, List.length_drop] at hlength
  omega

theorem reenrollContent_inj {digest : String} {clock clock' : Clock} {a b : ReenrollRequest}
    {fields fields' : ReenrollFields} (ha : checkReenrollFields clock a = .ok fields)
    (hb : checkReenrollFields clock' b = .ok fields')
    (h : reenrollContent digest a.fields = reenrollContent digest b.fields) :
    a.fields.requestId = b.fields.requestId ∧ a.fields.nodeId = b.fields.nodeId ∧
      a.fields.newPublicKey = b.fields.newPublicKey := by
  obtain ⟨rfl, hid, -, hnode, -⟩ := checkReenrollFields_ok ha
  obtain ⟨rfl, hid', -, hnode', -⟩ := checkReenrollFields_ok hb
  simp only [reenrollContent, String.append_assoc] at h
  have h := (append_inj_of_length h rfl).2
  have h := (append_inj_of_length h rfl).2
  have hlength : a.fields.requestId.toList.length = b.fields.requestId.toList.length := by
    rw [matchesHex_length hid, matchesHex_length hid']
  obtain ⟨hrequestId, h⟩ := append_inj_of_length h hlength
  have h := (append_inj_of_length h rfl).2
  have hlength : a.fields.nodeId.toList.length = b.fields.nodeId.toList.length := by
    rw [length_of_isNodeId hnode, length_of_isNodeId hnode']
  obtain ⟨hnodeId, h⟩ := append_inj_of_length h hlength
  exact ⟨hrequestId, hnodeId, (append_inj_of_length h rfl).2⟩

/-- Under one token, requests that are recorded under one key ask for the same. -/
theorem content_of_idempotencyKey {clock clock' : Clock} {a b : TokenRequest} (ha : a.Checked clock)
    (hb : b.Checked clock') (hkind : a.kind = b.kind)
    (hdigest : a.tokenDigest env = b.tokenDigest env)
    (h : a.idempotencyKey env = b.idempotencyKey env) : a.content = b.content := by
  cases a with
  | enroll a =>
    cases b with
    | enroll b =>
      have hdigest : tokenDigestOf env (a.token.getD "") = tokenDigestOf env (b.token.getD "") :=
        hdigest
      change enrollContent (tokenDigestOf env _) _ = enrollContent (tokenDigestOf env _) _ at h
      rw [hdigest] at h
      obtain ⟨hid, hkey⟩ := enrollContent_inj ha hb h
      simp only [TokenRequest.content, hid, hkey]
    | pair b => cases hkind
    | reenroll b => cases hkind
  | pair a =>
    cases b with
    | enroll b => cases hkind
    | pair b =>
      have hdigest : tokenDigestOf env (a.token.getD "") = tokenDigestOf env (b.token.getD "") :=
        hdigest
      change enrollContent (tokenDigestOf env _) _ = enrollContent (tokenDigestOf env _) _ at h
      rw [hdigest] at h
      obtain ⟨hid, hkey⟩ := enrollContent_inj ha hb h
      simp only [TokenRequest.content, hid, hkey]
    | reenroll b => cases hkind
  | reenroll a =>
    cases b with
    | enroll b => cases hkind
    | pair b => cases hkind
    | reenroll b =>
      obtain ⟨fields, ha⟩ := ha
      obtain ⟨fields', hb⟩ := hb
      have hdigest : tokenDigestOf env (a.token.getD "") = tokenDigestOf env (b.token.getD "") :=
        hdigest
      change reenrollContent (tokenDigestOf env _) _ = reenrollContent (tokenDigestOf env _) _ at h
      rw [hdigest] at h
      obtain ⟨hid, hnode, hkey⟩ := reenrollContent_inj ha hb h
      simp only [TokenRequest.content, hid, hnode, hkey]

/-- Requests with one token that ask for the same are recorded under one key. -/
theorem idempotencyKey_of_content {a b : TokenRequest} (hcontent : a.content = b.content)
    (hdigest : a.tokenDigest env = b.tokenDigest env) :
    a.kind = b.kind ∧ a.idempotencyKey env = b.idempotencyKey env := by
  cases a <;> cases b <;>
    simp_all [TokenRequest.content, TokenRequest.kind, TokenRequest.idempotencyKey,
      TokenRequest.tokenDigest, TokenRequest.token, enrollContent, reenrollContent]

/-! ### Tokens and results -/

/-- Tokens and results are distinct, and a result is that of a consumed token. -/
structure TokensSound (l : Ledger) : Prop where
  digests_hex : ∀ entry ∈ l.tokens, matchesHex 64 entry.tokenDigest = true
  ids_nodup : (l.tokens.map TokenRow.tokenId).Nodup
  digests_nodup : (l.tokens.map TokenRow.tokenDigest).Nodup
  results_nodup : (l.results.map ResultRow.idempotencyKey).Nodup
  consumed : ∀ row ∈ l.results, ∃ entry ∈ l.tokens, entry.tokenDigest = row.tokenDigest ∧
    entry.consumedAt.isSome = true
  keyed : ∀ row ∈ l.results, ∃ rest, row.idempotencyKey = row.tokenDigest ++ rest

theorem tokensSound_empty : TokensSound ({} : Db).ledger where
  digests_hex _ h := (List.not_mem_nil h).elim
  ids_nodup := List.nodup_nil
  digests_nodup := List.nodup_nil
  results_nodup := List.nodup_nil
  consumed _ h := (List.not_mem_nil h).elim
  keyed _ h := (List.not_mem_nil h).elim

/-- A consumed token is not the one that a first use consumes, and stays as it is. -/
theorem mem_tokens_of_consumed {l : Ledger} (h : TokensSound l) (use : TokenUse l)
    {entry : TokenRow} (hentry : entry ∈ l.tokens) (hconsumed : entry.consumedAt.isSome = true) :
    entry ∈ use.tokens := by
  refine mem_updateWhere.mpr (.inl ⟨hentry, decide_eq_false fun hid => ?_⟩)
  obtain rfl : entry = use.entry := eq_of_nodup_key h.ids_nodup hentry use.entry_mem hid
  simp [use.unconsumed] at hconsumed

/-- The token of a first use, after it. -/
theorem consumed_mem_tokens {l : Ledger} (use : TokenUse l) :
    { use.entry with consumedAt := some use.result.createdAt, consumedBy := some use.key.nodeId } ∈
      use.tokens :=
  mem_updateWhere.mpr (.inr ⟨use.entry, use.entry_mem, by simp, rfl⟩)

theorem map_tokens {l : Ledger} (use : TokenUse l) {column : TokenRow → String}
    (hcolumn : ∀ (row : TokenRow) consumedAt consumedBy, column { row with consumedAt, consumedBy } =
      column row) : use.tokens.map column = l.tokens.map column := by
  refine map_updateWhere _ ?_ _
  exact fun row => hcolumn row _ _

theorem TokensSound.use {l l' : Ledger} (h : TokensSound l) (use : TokenUse l)
    (htokens : l'.tokens = use.tokens) (hresults : l'.results = l.results ++ [use.result]) :
    TokensSound l' where
  digests_hex entry hentry := by
    rw [htokens] at hentry
    rcases mem_updateWhere.mp hentry with ⟨hmem, -⟩ | ⟨old, hmem, -, rfl⟩
    · exact h.digests_hex entry hmem
    · exact h.digests_hex old hmem
  ids_nodup := by
    rw [htokens, map_tokens use (fun _ _ _ => rfl)]
    exact h.ids_nodup
  digests_nodup := by
    rw [htokens, map_tokens use (fun _ _ _ => rfl)]
    exact h.digests_nodup
  results_nodup := by
    rw [hresults, List.map_append, List.nodup_append]
    refine ⟨h.results_nodup, by simp, ?_⟩
    intro a ha b hb
    obtain ⟨other, hother, rfl⟩ := List.mem_map.mp ha
    obtain rfl : b = use.result.idempotencyKey := by simpa using hb
    exact use.result_new other hother
  consumed row hrow := by
    rw [htokens]
    rw [hresults] at hrow
    rcases List.mem_append.mp hrow with hmem | hmem
    · obtain ⟨entry, hentry, hdigest, hconsumed⟩ := h.consumed row hmem
      exact ⟨entry, mem_tokens_of_consumed h use hentry hconsumed, hdigest, hconsumed⟩
    · obtain rfl := List.mem_singleton.mp hmem
      exact ⟨_, consumed_mem_tokens use, use.result_tokenDigest.symm, rfl⟩
  keyed row hrow := by
    rw [hresults] at hrow
    rcases List.mem_append.mp hrow with hmem | hmem
    · exact h.keyed row hmem
    · exact List.mem_singleton.mp hmem ▸ use.result_key

theorem change_tokensSound (l l' : Ledger) (h : Ledger.Change env clock Rotates Purges l l')
    (hl : TokensSound l) : TokensSound l' := by
  cases h with
  | mint row hnew hunconsumed hdigest =>
    have hnodup : ∀ {key : TokenRow → String}, (l.tokens.map key).Nodup →
        (∀ other ∈ l.tokens, key other ≠ key row) → ((l.tokens ++ [row]).map key).Nodup := by
      intro key hkeys hne
      rw [List.map_append, List.nodup_append]
      refine ⟨hkeys, by simp, ?_⟩
      intro a ha b hb
      obtain ⟨other, hother, rfl⟩ := List.mem_map.mp ha
      obtain rfl : b = key row := by simpa using hb
      exact hne other hother
    refine ⟨List.forall_mem_append.mpr ⟨hl.digests_hex, by simpa using hdigest⟩,
      hnodup hl.ids_nodup fun other hother => (hnew other hother).1,
      hnodup hl.digests_nodup fun other hother => (hnew other hother).2, hl.results_nodup,
      fun result hresult => ?_, hl.keyed⟩
    obtain ⟨entry, hentry, hrest⟩ := hl.consumed result hresult
    exact ⟨entry, List.mem_append_left _ hentry, hrest⟩
  | enter use => exact hl.use use rfl rfl
  | restore use => exact hl.use use rfl rfl
  | purge =>
    exact ⟨hl.digests_hex, hl.ids_nodup, hl.digests_nodup, nodup_deleteWhere _ hl.results_nodup,
      fun row hrow => hl.consumed row (mem_deleteWhere.mp hrow).1,
      fun row hrow => hl.keyed row (mem_deleteWhere.mp hrow).1⟩
  | _ => exact ⟨hl.digests_hex, hl.ids_nodup, hl.digests_nodup, hl.results_nodup, hl.consumed, hl.keyed⟩

/-! ### A used token -/

/-- A token that has been used, and the only result that can be on record for it. -/
structure Spent (entry : TokenRow) (row : ResultRow) (l : Ledger) : Prop extends TokensSound l where
  spent : ∃ used ∈ l.tokens, used.tokenDigest = entry.tokenDigest ∧ used.purpose = entry.purpose ∧
    used.boundNodeId = entry.boundNodeId ∧ used.consumedAt.isSome = true
  only : ∀ other ∈ l.results, other.tokenDigest = entry.tokenDigest → other = row

/-- A first use is not that of a consumed token. -/
theorem tokenDigest_ne_of_consumed {l : Ledger} (h : TokensSound l) (use : TokenUse l)
    {used : TokenRow} (hused : used ∈ l.tokens) (hconsumed : used.consumedAt.isSome = true) :
    use.result.tokenDigest ≠ used.tokenDigest := by
  intro hdigest
  obtain rfl : use.entry = used := eq_of_nodup_key h.digests_nodup use.entry_mem hused
    (use.result_tokenDigest.symm.trans hdigest)
  simp [use.unconsumed] at hconsumed

theorem change_spent {entry : TokenRow} {row : ResultRow} (l l' : Ledger)
    (h : Ledger.Change env clock Rotates Purges l l') (hl : Spent entry row l) :
    Spent entry row l' := by
  have hsound : TokensSound l' := change_tokensSound l l' h hl.toTokensSound
  obtain ⟨used, hused, hdigest, hpurpose, hbound, hconsumed⟩ := hl.spent
  -- another first use adds a result of another token
  have huse : ∀ use : TokenUse l, l'.tokens = use.tokens → l'.results = l.results ++ [use.result] →
      Spent entry row l' := by
    intro use htokens hresults
    refine ⟨hsound, ⟨used, ?_, hdigest, hpurpose, hbound, hconsumed⟩, fun other hother hsame => ?_⟩
    · rw [htokens]
      exact mem_tokens_of_consumed hl.toTokensSound use hused hconsumed
    · rw [hresults] at hother
      rcases List.mem_append.mp hother with hmem | hmem
      · exact hl.only other hmem hsame
      · obtain rfl := List.mem_singleton.mp hmem
        exact absurd (hsame.trans hdigest.symm)
          (tokenDigest_ne_of_consumed hl.toTokensSound use hused hconsumed)
  cases h with
  | mint new hnew hunconsumed =>
    exact ⟨hsound, ⟨used, List.mem_append_left _ hused, hdigest, hpurpose, hbound, hconsumed⟩, hl.only⟩
  | enter use => exact huse use rfl rfl
  | restore use => exact huse use rfl rfl
  | purge =>
    exact ⟨hsound, ⟨used, hused, hdigest, hpurpose, hbound, hconsumed⟩,
      fun other hother => hl.only other (mem_deleteWhere.mp hother).1⟩
  | _ => exact ⟨hsound, ⟨used, hused, hdigest, hpurpose, hbound, hconsumed⟩, hl.only⟩

/-- A result on record stays until a purge comes after its retention. -/
theorem change_recorded {l l' : Ledger} (h : Ledger.Change env clock Rotates Purges l l')
    {row : ResultRow}
    (hrow : row ∈ l.results ∨ Purges ∧ row.createdAt ≤ clock 0 - enrollmentResultRetentionMs) :
    row ∈ l'.results ∨ Purges ∧ row.createdAt ≤ clock 0 - enrollmentResultRetentionMs := by
  refine hrow.elim (fun hmem => ?_) .inr
  cases h with
  | enter use => exact .inl (List.mem_append_left _ hmem)
  | restore use => exact .inl (List.mem_append_left _ hmem)
  | purge hpurges =>
    by_cases hold : row.createdAt ≤ clock 0 - enrollmentResultRetentionMs
    · exact .inr ⟨hpurges, hold⟩
    · exact .inl (mem_deleteWhere.mpr ⟨hmem, by simpa using hold⟩)
  | _ => exact .inl hmem

/-- A result of a used token that is off the record stays off it. -/
theorem change_unrecorded {entry : TokenRow} {row : ResultRow} {l l' : Ledger}
    (h : Ledger.Change env clock Rotates Purges l l') (hl : Spent entry row l)
    (hentry : row.tokenDigest = entry.tokenDigest) (hrow : row ∉ l.results) : row ∉ l'.results := by
  obtain ⟨used, hused, hdigest, -, -, hconsumed⟩ := hl.spent
  have huse : ∀ use : TokenUse l, row ∉ l.results ++ [use.result] := by
    intro use hmem
    rcases List.mem_append.mp hmem with hmem | hmem
    · exact hrow hmem
    · refine tokenDigest_ne_of_consumed hl.toTokensSound use hused hconsumed ?_
      rw [← List.mem_singleton.mp hmem, hentry, hdigest]
  cases h with
  | enter use => exact huse use
  | restore use => exact huse use
  | purge => exact fun hmem => hrow (mem_deleteWhere.mp hmem).1
  | _ => exact hrow

/-- After its first use a token is used, with the result on record. -/
theorem spent_of_firstUse {l : Ledger} {use : TokenUse l} {entry : TokenRow} {content : String}
    {kind : Purpose} {stamp : ℤ} {result : EnrollmentResult} (hl : TokensSound db.ledger)
    (hfirst : FirstUse db db' use entry content kind stamp result) :
    Spent entry use.result db'.ledger ∧ use.result ∈ db'.results := by
  have hsound : TokensSound l := by
    refine ⟨?_, ?_, ?_, ?_, ?_, ?_⟩
    · rw [hfirst.tokens_before]
      exact hl.digests_hex
    · rw [hfirst.tokens_before]
      exact hl.ids_nodup
    · rw [hfirst.tokens_before]
      exact hl.digests_nodup
    · rw [hfirst.results_before]
      exact hl.results_nodup
    · rw [hfirst.tokens_before, hfirst.results_before]
      exact hl.consumed
    · rw [hfirst.results_before]
      exact hl.keyed
  have hused : { use.entry with
      consumedAt := some use.result.createdAt
      consumedBy := some use.key.nodeId } ∈ db'.tokens :=
    hfirst.tokens ▸ consumed_mem_tokens use
  refine ⟨⟨hsound.use use hfirst.tokens hfirst.results, ⟨_, hused, ?_⟩, ?_⟩, ?_⟩
  · simp [hfirst.entry_eq]
  · intro other hother hdigest
    change other ∈ db'.results at hother
    rw [hfirst.results] at hother
    rcases List.mem_append.mp hother with hmem | hmem
    · obtain ⟨consumed, hconsumed, hsame, hisSome⟩ := hsound.consumed other hmem
      rw [← hfirst.entry_eq] at hdigest
      exact absurd (use.result_tokenDigest.trans (hdigest.symm.trans hsame.symm))
        (tokenDigest_ne_of_consumed hsound use hconsumed hisSome)
    · exact List.mem_singleton.mp hmem
  · rw [hfirst.results]
    exact List.mem_append_right _ List.mem_cons_self

/-! ### Requests with a used token -/

theorem getToken_of_spent {entry : TokenRow} {row : ResultRow} (h : Spent entry row db.ledger)
    {digest : String} (hdigest : digest = entry.tokenDigest) :
    ∃ used, db.getToken digest = some used ∧ used.tokenDigest = entry.tokenDigest ∧
      used.purpose = entry.purpose ∧ used.boundNodeId = entry.boundNodeId ∧
      used.consumedAt.isSome = true := by
  obtain ⟨used, hused, hsame, hrest⟩ := h.spent
  refine ⟨used, ?_, hsame, hrest⟩
  exact find?_of_nodup h.digests_nodup hused (hsame.trans hdigest.symm)

/-- An accepted request with a used token was answered from the record. -/
theorem submit_of_spent {entry : TokenRow} {row : ResultRow} (hspent : Spent entry row db.ledger)
    {req : TokenRequest} (hdigest : req.tokenDigest env = entry.tokenDigest)
    {result : EnrollmentResult} (h : req.submit env entropy clock db = .ok (result, db')) :
    db' = db ∧ row ∈ db.results ∧ row.idempotencyKey = req.idempotencyKey env ∧
      row.kind = req.kind ∧ row.result = result := by
  obtain ⟨used, hused, hsame, -, -, hconsumed⟩ := getToken_of_spent hspent hdigest
  obtain ⟨found, hfound, -, haccepted⟩ : ∃ found, db.getToken (req.tokenDigest env) = some found ∧
      req.Fits found ∧ Accepted env clock (fun _ => True) True db db' req found result :=
    submit_ok h
  obtain rfl : used = found := Option.some.inj (hused.symm.trans hfound)
  cases haccepted with
  | first hunconsumed => simp [hunconsumed] at hconsumed
  | recorded other hother htoken hresult hdb =>
    have hmem : other ∈ db.results := List.mem_of_find?_eq_some hother
    obtain ⟨hkey, hkind⟩ : other.idempotencyKey = req.idempotencyKey env ∧ other.kind = req.kind := by
      simpa using List.find?_some hother
    obtain rfl := hspent.only other hmem ((htoken hconsumed).trans hsame)
    exact ⟨hdb, hmem, hkey, hkind, hresult⟩

/-- A request of the recorded content is answered with the recorded result. -/
theorem submit_repeat {entry : TokenRow} {row : ResultRow} (hspent : Spent entry row db.ledger)
    (hrow : row ∈ db.results) (hrowDigest : row.tokenDigest = entry.tokenDigest)
    {req : TokenRequest} (hdigest : req.tokenDigest env = entry.tokenDigest)
    (hfits : req.Fits entry) (hchecked : req.Checked clock)
    (hpairs : req.kind = .pair → env.config.pairingHubBaseUrl ≠ none)
    (hkey : row.idempotencyKey = req.idempotencyKey env) (hkind : row.kind = req.kind) :
    req.submit env entropy clock db = .ok (row.result, db) := by
  obtain ⟨used, hused, hsame, hpurpose, hbound, hconsumed⟩ := getToken_of_spent hspent hdigest
  have hresult : db.getResult (req.idempotencyKey env) req.kind = some row := by
    cases hfind : db.getResult (req.idempotencyKey env) req.kind with
    | none =>
      have := List.find?_eq_none.mp hfind row hrow
      simp [hkey, hkind] at this
    | some other =>
      have hother : other.idempotencyKey = req.idempotencyKey env ∧ other.kind = req.kind := by
        simpa using List.find?_some hfind
      rw [eq_of_nodup_key hspent.results_nodup (List.mem_of_find?_eq_some hfind) hrow
        (hother.1.trans hkey.symm)]
  have hreplay : replayOrDeny db used req.kind (req.idempotencyKey env) = .ok row.result := by
    simp only [replayOrDeny, hresult, hrowDigest, hsame, if_true]
  have hstored : used.tokenDigest = req.tokenDigest env := hsame.trans hdigest.symm
  cases req with
  | enroll req =>
    have hcheck : checkEnrollFields req "enrollmentRequestId" = .ok req.fields :=
      checkEnrollFields_eq_ok.mpr ⟨rfl, hchecked⟩
    have hused : db.getToken (tokenDigestOf env req.fields.token) = some used := hused
    have hreplay : replayOrDeny db used .enroll (enrollContent used.tokenDigest req.fields) =
        .ok row.result := by
      rw [hstored]
      exact hreplay
    have hpurpose : used.purpose = .enroll := hpurpose.trans hfits
    simp only [TokenRequest.submit, enroll, hcheck, bind, Except.bind, hused, hpurpose, ne_eq,
      not_true, if_false, hconsumed, if_true, hreplay]
    rfl
  | pair req =>
    obtain ⟨hpair, hunbound⟩ := hfits
    obtain ⟨url, hurl⟩ := Option.ne_none_iff_exists'.mp (hpairs rfl)
    have hcheck : checkEnrollFields req "pairingRequestId" = .ok req.fields :=
      checkEnrollFields_eq_ok.mpr ⟨rfl, hchecked⟩
    have hused : db.getToken (tokenDigestOf env req.fields.token) = some used := hused
    have hreplay : replayOrDeny db used .pair (enrollContent used.tokenDigest req.fields) =
        .ok row.result := by
      rw [hstored]
      exact hreplay
    have hpurpose : used.purpose = .pair := hpurpose.trans hpair
    have hbound : used.boundNodeId = none := hbound.trans hunbound
    simp only [TokenRequest.submit, pair, hcheck, bind, Except.bind, hurl, hused, hpurpose, ne_eq,
      not_true, if_false, hbound, Option.isSome_none, Bool.false_eq_true, hconsumed, if_true,
      hreplay]
    rfl
  | reenroll req =>
    obtain ⟨hreenroll, hnode⟩ := hfits
    obtain ⟨fields, hcheck⟩ := hchecked
    obtain ⟨rfl, -⟩ := checkReenrollFields_ok hcheck
    have hused : db.getToken (tokenDigestOf env req.fields.token) = some used := hused
    have hreplay : replayOrDeny db used .reenroll (reenrollContent used.tokenDigest req.fields) =
        .ok row.result := by
      rw [hstored]
      exact hreplay
    have hpurpose : used.purpose = .reenroll := hpurpose.trans hreenroll
    have hbound : used.boundNodeId = some req.fields.nodeId := hbound.trans hnode
    simp only [TokenRequest.submit, reenroll, hcheck, bind, Except.bind, hused, hpurpose, ne_eq,
      not_true, if_false, hbound, hconsumed, if_true, hreplay]
    rfl

/-! ### Runs -/

/-- A maintenance of the calls has come after the retention of a result. -/
def PurgedBy (createdAt : ℤ) (calls : List Call) : Prop :=
  ∃ call ∈ calls, call.operation = .maintenance ∧
    createdAt ≤ call.clock 0 - enrollmentResultRetentionMs

theorem results_maintenance (config : Config) (clock : Clock) (db : Db) :
    (maintenance config clock db).2.ledger.results =
      deleteWhere (fun row => row.createdAt ≤ clock 0 - enrollmentResultRetentionMs)
        (expireRouteKeys (expireNodeKeys (db, clock.drop 1))).1.results := by
  rw [maintenance, ledger_ageRecords]
  rfl

/-- What a step does to the result of a used token. -/
theorem step_recorded {s : RegistryState} (call : Call) {entry : TokenRow} {row : ResultRow}
    (hspent : Spent entry row s.db.ledger) (hdigest : row.tokenDigest = entry.tokenDigest) :
    Spent entry row (step env s call).db.ledger ∧
      (row ∈ (step env s call).db.ledger.results ↔
        row ∈ s.db.ledger.results ∧ ¬PurgedBy row.createdAt [call]) := by
  have hchanges : Ledger.Changes env call.clock (fun _ => True) (call.operation = .maintenance)
      s.db.ledger (step env s call).db.ledger :=
    step_changes (fun _ _ => trivial) id
  refine ⟨hchanges.invariant change_spent hspent, fun hrow => ⟨?_, ?_⟩, fun ⟨hrow, hkept⟩ => ?_⟩
  · by_contra hgone
    have hnone := hchanges.invariant (I := fun l => Spent entry row l ∧ row ∉ l.results)
      (fun l l' hchange hl => ⟨change_spent l l' hchange hl.1,
        change_unrecorded hchange hl.1 hdigest hl.2⟩) ⟨hspent, hgone⟩
    exact hnone.2 hrow
  · rintro ⟨other, hother, hmaintenance, hold⟩
    obtain rfl := List.mem_singleton.mp hother
    rw [step, hmaintenance] at hrow
    dsimp only at hrow
    rw [results_maintenance] at hrow
    have := (mem_deleteWhere.mp hrow).2
    simp [hold] at this
  · have := hchanges.invariant (I := fun l => row ∈ l.results ∨ call.operation = .maintenance ∧
        row.createdAt ≤ call.clock 0 - enrollmentResultRetentionMs)
      (fun l l' hchange hl => change_recorded hchange hl) (.inl hrow)
    exact this.resolve_right fun hpurged => hkept ⟨call, List.mem_cons_self, hpurged⟩

/-- The result of a used token is on record until a maintenance comes after its
retention, and never again. -/
theorem run_recorded {s : RegistryState} (calls : List Call) {entry : TokenRow} {row : ResultRow}
    (hspent : Spent entry row s.db.ledger) (hdigest : row.tokenDigest = entry.tokenDigest) :
    Spent entry row (run env s calls).db.ledger ∧
      (row ∈ (run env s calls).db.ledger.results ↔
        row ∈ s.db.ledger.results ∧ ¬PurgedBy row.createdAt calls) := by
  induction calls generalizing s with
  | nil => exact ⟨hspent, by simp [run, PurgedBy]⟩
  | cons call rest ih =>
    obtain ⟨hspent', hstep⟩ := step_recorded call hspent hdigest
    obtain ⟨hrun, hrest⟩ := ih hspent'
    refine ⟨hrun, hrest.trans ?_⟩
    rw [hstep]
    simp [PurgedBy, and_assoc]

theorem run_tokensSound (env : Env) (calls : List Call) :
    TokensSound (run env {} calls).db.ledger :=
  run_invariant (fun _ => change_tokensSound) calls tokensSound_empty

/-- What follows a first use of a token, with the calls after it: the state it is in
before, the call, its request and its result. -/
structure SingleUse (env : Env) (s : RegistryState) (first : Call) (after : List Call)
    (req : TokenRequest) (result : EnrollmentResult) : Prop where
  /-- The first use mints or restores one node. -/
  one_node : OneNode s.db.ledger.members (step env s first).db.ledger.members s.db.nodeKeys
    (step env s first).db.nodeKeys result.nodeId
  /-- An accepted request with the token asks for the same, gets the same result and
  writes nothing, and the result has not been purged. -/
  same : ∀ (again : TokenRequest) entropy clock result' db', again.tokenDigest env = req.tokenDigest env →
    again.submit env entropy clock (run env s (first :: after)).db = .ok (result', db') →
    again.content = req.content ∧ result' = result ∧ db' = (run env s (first :: after)).db ∧
      ¬PurgedBy (req.stamp first.clock) after
  /-- Until a purge a well-formed repeat is accepted. -/
  repeats : ¬PurgedBy (req.stamp first.clock) after → ∀ (again : TokenRequest) entropy clock,
    again.tokenDigest env = req.tokenDigest env → again.content = req.content →
    again.Checked clock → again.submit env entropy clock (run env s (first :: after)).db =
      .ok (result, (run env s (first :: after)).db)
  /-- A refused request leaves the state as it was. -/
  refused : ∀ (call : Call) (again : TokenRequest) fault, call.operation = .useToken again →
    again.submit env call.entropy call.clock (run env s (first :: after)).db = .error fault →
    step env (run env s (first :: after)) call = run env s (first :: after)

theorem idempotencyKey_prefix (env : Env) (req : TokenRequest) :
    ∃ rest, req.idempotencyKey env = req.tokenDigest env ++ rest := by
  cases req with
  | enroll req =>
    refine ⟨":" ++ req.fields.requestId ++ ":" ++ req.fields.publicKey, ?_⟩
    simp [TokenRequest.idempotencyKey, enrollContent, TokenRequest.tokenDigest, TokenRequest.token,
      String.append_assoc]
  | pair req =>
    refine ⟨":" ++ req.fields.requestId ++ ":" ++ req.fields.publicKey, ?_⟩
    simp [TokenRequest.idempotencyKey, enrollContent, TokenRequest.tokenDigest, TokenRequest.token,
      String.append_assoc]
  | reenroll req =>
    refine ⟨":" ++ req.fields.requestId ++ ":" ++ req.fields.nodeId ++ ":" ++
      req.fields.newPublicKey, ?_⟩
    simp [TokenRequest.idempotencyKey, reenrollContent, TokenRequest.tokenDigest,
      TokenRequest.token, String.append_assoc]

/-- An accepted request with an unconsumed token is its first use. -/
theorem firstUse_of_submit {req : TokenRequest} {entry : TokenRow} {result : EnrollmentResult}
    (hsound : TokensSound db.ledger) (hentry : db.getToken (req.tokenDigest env) = some entry)
    (hunconsumed : entry.consumedAt = none)
    (h : Accepted env clock Rotates Purges db db' req entry result) :
    ∃ (l : Ledger) (use : TokenUse l),
      FirstUse db db' use entry (req.idempotencyKey env) req.kind (req.stamp clock) result := by
  cases h with
  | first _ _ l use hfirst => exact ⟨l, use, hfirst⟩
  | recorded row hrow =>
    -- a result is on record under its own token, which is consumed
    exfalso
    have hmem : row ∈ db.results := List.mem_of_find?_eq_some hrow
    have hkey : row.idempotencyKey = req.idempotencyKey env :=
      (by simpa using List.find?_some hrow : _ ∧ _).1
    obtain ⟨hentryMem, hentryDigest⟩ := getToken_some hentry
    obtain ⟨used, hused, hsame, hconsumed⟩ := hsound.consumed row hmem
    obtain ⟨rest, hrest⟩ := hsound.keyed row hmem
    obtain ⟨rest', hrest'⟩ := idempotencyKey_prefix env req
    have hlength : row.tokenDigest.toList.length = (req.tokenDigest env).toList.length := by
      rw [← hsame, ← hentryDigest, matchesHex_length (hsound.digests_hex used hused),
        matchesHex_length (hsound.digests_hex entry hentryMem)]
    obtain ⟨hdigest, -⟩ := append_inj_of_length (hrest.symm.trans (hkey.trans hrest')) hlength
    obtain rfl : used = entry := eq_of_nodup_key hsound.digests_nodup hused hentryMem
      (hsame.trans (hdigest.trans hentryDigest.symm))
    simp [hunconsumed] at hconsumed

theorem fits_of_content {a b : TokenRequest} {entry : TokenRow} (h : a.content = b.content)
    (hfits : b.Fits entry) : a.Fits entry := by
  cases a <;> cases b <;>
    simp_all [TokenRequest.content, TokenRequest.Fits, ReenrollRequest.fields]

theorem pairing_of_submit {req : TokenRequest} {result : EnrollmentResult}
    (h : req.submit env entropy clock db = .ok (result, db')) (hpairs : req.kind = .pair) :
    env.config.pairingHubBaseUrl ≠ none := by
  cases req with
  | pair req =>
    obtain ⟨fields, -, h⟩ := bind_eq_ok.mp h
    intro hnone
    rw [hnone] at h
    cases h
  | enroll req => cases hpairs
  | reenroll req => cases hpairs

/-- A token that was not consumed is used up by the first request it is accepted with,
whatever calls follow. -/
theorem token_used_once (env : Env) (before after : List Call) (first : Call) (req : TokenRequest)
    (result : EnrollmentResult) (db' : Db) (hoperation : first.operation = .useToken req)
    (hunconsumed : ∀ entry ∈ (run env {} before).db.tokens,
      entry.tokenDigest = req.tokenDigest env → entry.consumedAt = none)
    (haccepted : req.submit env first.entropy first.clock (run env {} before).db =
      .ok (result, db')) :
    SingleUse env (run env {} before) first after req result := by
  have hsound := run_tokensSound env before
  generalize run env {} before = s at *
  have hstep : (step env s first).db = db' := by
    rw [step, hoperation]
    dsimp only
    rw [haccepted]
    rfl
  obtain ⟨entry, hentry, hfits, hcases⟩ : ∃ entry, s.db.getToken (req.tokenDigest env) = some entry ∧
      req.Fits entry ∧ Accepted env first.clock (fun _ => True) True s.db db' req entry result :=
    submit_ok haccepted
  obtain ⟨hentryMem, hentryDigest⟩ := getToken_some hentry
  obtain ⟨l, use, hfirst⟩ :=
    firstUse_of_submit hsound hentry (hunconsumed entry hentryMem hentryDigest) hcases
  obtain ⟨hspent, hrow⟩ := spent_of_firstUse hsound hfirst
  have huse := hfirst.result_eq
  rw [← hstep] at hspent hrow
  have hrowDigest : use.result.tokenDigest = entry.tokenDigest :=
    use.result_tokenDigest.trans (congrArg TokenRow.tokenDigest hfirst.entry_eq)
  have hstamp : use.result.createdAt = req.stamp first.clock := congrArg ResultRow.createdAt huse
  have hkey : use.result.idempotencyKey = req.idempotencyKey env :=
    congrArg ResultRow.idempotencyKey huse
  have hkind : use.result.kind = req.kind := congrArg ResultRow.kind huse
  have hresult : use.result.result = result := congrArg ResultRow.result huse
  obtain ⟨hlater, hrecorded⟩ := @run_recorded env _ after _ _ hspent hrowDigest
  rw [hstamp] at hrecorded
  have hrun : run env s (first :: after) = run env (step env s first) after := rfl
  refine ⟨?_, ?_, ?_, ?_⟩
  · rw [hstep]
    exact hfirst.oneNode
  · intro again entropy clock result' db'' hdigest hagain
    rw [hrun] at hagain ⊢
    obtain ⟨hdb, hmem, hkey', hkind', hresult'⟩ :=
      submit_of_spent hlater (hdigest.trans hentryDigest.symm) hagain
    refine ⟨?_, hresult'.symm.trans hresult, hdb, (hrecorded.mp hmem).2⟩
    exact content_of_idempotencyKey (TokenRequest.checked_of_submit hagain)
      (TokenRequest.checked_of_submit haccepted) (hkind'.symm.trans hkind) hdigest
      (hkey'.symm.trans hkey)
  · intro hkept again entropy clock hdigest hcontent hchecked
    rw [hrun]
    obtain ⟨hkind', hkey'⟩ := idempotencyKey_of_content hcontent hdigest
    rw [← hresult]
    refine submit_repeat hlater (hrecorded.mpr ⟨hrow, hkept⟩) hrowDigest
      (hdigest.trans hentryDigest.symm) (fits_of_content hcontent hfits) hchecked
      (fun hpair => pairing_of_submit haccepted (hkind'.symm.trans hpair)) (hkey.trans hkey'.symm)
      (hkind.trans hkind'.symm)
  · intro call again fault hcall hrefused
    rw [step, hcall]
    dsimp only
    rw [hrefused]
    rfl

/-! ### The sample node enrolls -/

/-- The enrollment of the sample node uses its token up. -/
theorem token_used_once_enroll : SingleUse sampleEnv (run sampleEnv {} [sampleMint]) sampleEnroll []
    (.enroll sampleEnrollRequest) enrolledResult := by
  have hrun : run sampleEnv {} [sampleMint] = ⟨mintedDb, []⟩ := step_sampleMint
  refine token_used_once sampleEnv [sampleMint] [] sampleEnroll _ enrolledResult enrolledDb rfl ?_ ?_
  · rw [hrun]
    intro entry hentry _
    obtain rfl := List.mem_singleton.mp hentry
    rfl
  · rw [hrun]
    exact enroll_sample

/-! ### It re-enrolls -/

def sampleDeletion : Call :=
  { operation := .deleteNode
      { actor := "operator", nodeId := some sampleNodeId
        requestId := some "d2d2d2d2d2d2d2d2d2d2d2d2d2d2d2d2", reason := some "decommissioned" }
    clock := clockAt 1700000000000
    entropy := sampleEntropy 0 }

def deletedDb : Db :=
  tombstoneNode (clockAt 1700000000000) enrolledDb sampleNode "operator"
    "d2d2d2d2d2d2d2d2d2d2d2d2d2d2d2d2" "decommissioned"

/-- The deletion of the sample node, where it is active. -/
theorem step_deletion {db : Db} {node : NodeRow} (hnode : db.getNodeRow sampleNodeId = some node)
    (hstate : node.state ≠ .tombstoned)
    (hprior : priorDeletion db "d2d2d2d2d2d2d2d2d2d2d2d2d2d2d2d2" = none) :
    step sampleEnv ⟨db, []⟩ sampleDeletion = ⟨tombstoneNode (clockAt 1700000000000) db node "operator"
      "d2d2d2d2d2d2d2d2d2d2d2d2d2d2d2d2" "decommissioned", []⟩ := by
  have hnodeId : requireString (some sampleNodeId) "nodeId" = .ok sampleNodeId :=
    requireString_eq_ok.mpr ⟨rfl, by simp [sampleNodeId]⟩
  have hrequestId : isRequestId "d2d2d2d2d2d2d2d2d2d2d2d2d2d2d2d2" = true :=
    (matchesHex_ofList 32 _).trans rfl
  have hrequest : requireString (some "d2d2d2d2d2d2d2d2d2d2d2d2d2d2d2d2") "requestId" = .ok _ :=
    requireString_eq_ok.mpr ⟨rfl, ne_empty_of_matchesHex hrequestId⟩
  have hdelete : deleteNode (clockAt 1700000000000) ⟨db, []⟩
      { actor := "operator", nodeId := some sampleNodeId
        requestId := some "d2d2d2d2d2d2d2d2d2d2d2d2d2d2d2d2", reason := some "decommissioned" } =
      .ok (⟨sampleNodeId, false⟩, ⟨tombstoneNode (clockAt 1700000000000) db node "operator"
        "d2d2d2d2d2d2d2d2d2d2d2d2d2d2d2d2" "decommissioned", []⟩) := by
    refine bind_eq_ok.mpr ⟨_, hnodeId, bind_eq_ok.mpr ⟨_, hrequest, bind_eq_ok.mpr
      ⟨"decommissioned", requireString_eq_ok.mpr ⟨rfl, by simp⟩, ?_⟩⟩⟩
    rw [hrequestId, hnode]
    dsimp only
    rw [hprior]
    exact if_neg hstate
  rw [step, sampleDeletion]
  dsimp only
  rw [hdelete]
  rfl

def reenrollToken : String := "71717171717171717171717171717171"

def reenrollMint : Call :=
  { operation := .mintEnrollmentToken
      { actor := "operator", purpose := .reenroll, boundNodeId := some sampleNodeId }
    clock := clockAt 1700000000000
    entropy := sampleEntropy 0x71 }

def reenrollTokenRow : TokenRow :=
  { tokenId := "etok_7171717171717171"
    tokenDigest := tokenDigestOf sampleEnv reenrollToken
    purpose := .reenroll
    boundNodeId := some sampleNodeId
    createdAt := 1700000000000
    expiresAt := 1700000000000 + tokenTtlSecondsDefault * 1000 }

def remintedDb : Db :=
  ({ deletedDb with tokens := deletedDb.tokens ++ [reenrollTokenRow] } : Db).recordAudit
    1700000000000 "operator" "hub.tokens.create"
    (.obj [("tokenId", .str reenrollTokenRow.tokenId), ("purpose", .str "reenroll"),
      ("boundNodeId", .str sampleNodeId), ("expiresAt", .str (toIsoString reenrollTokenRow.expiresAt))])

theorem tokenDigestOf_sampleToken : tokenDigestOf sampleEnv sampleToken =
    "cd9fd3bd6b3c42459948fa49a5a4012a8c7f59697453f5893b9593d382ea8137" := by
  decide

theorem tokenDigestOf_reenrollToken : tokenDigestOf sampleEnv reenrollToken =
    "cad0e26a5865c86de0622b0e0229b0f49eec472a773717ee18fbe0277cad14cd" := by
  decide

/-- A token for the re-enrollment of the sample node, in a registry that has minted one other. -/
def remint (db : Db) : Db :=
  ({ db with tokens := db.tokens ++ [reenrollTokenRow] } : Db).recordAudit
    1700000000000 "operator" "hub.tokens.create"
    (.obj [("tokenId", .str reenrollTokenRow.tokenId), ("purpose", .str "reenroll"),
      ("boundNodeId", .str sampleNodeId), ("expiresAt", .str (toIsoString reenrollTokenRow.expiresAt))])

theorem step_reenrollMint {db : Db} {node : NodeRow} (hnode : db.getNodeRow sampleNodeId = some node)
    (hstate : node.state = .tombstoned) (htokens : db.tokens = enrolledDb.tokens) :
    step sampleEnv ⟨db, []⟩ reenrollMint = ⟨remint db, []⟩ := by
  have hnodeId : requireString (some sampleNodeId) "boundNodeId" = .ok sampleNodeId :=
    requireString_eq_ok.mpr ⟨rfl, by simp [sampleNodeId]⟩
  have hbinding : checkTokenBinding db
      { actor := "operator", purpose := .reenroll, boundNodeId := some sampleNodeId } = .ok () := by
    refine bind_eq_ok.mpr ⟨_, hnodeId, if_pos ?_⟩
    rw [hnode]
    exact decide_eq_true hstate
  have hinsert : db.insertToken reenrollTokenRow =
      .ok { db with tokens := db.tokens ++ [reenrollTokenRow] } := by
    refine Db.insertToken_of_new ?_ ?_
    · simp [htokens, enrolledDb, Db.recordAudit, sampleTokenRow, reenrollTokenRow]
    · simp [htokens, enrolledDb, Db.recordAudit, sampleTokenRow, reenrollTokenRow,
        tokenDigestOf_sampleToken, tokenDigestOf_reenrollToken]
  have hmint : mintEnrollmentToken sampleEnv (sampleEntropy 0x71) (clockAt 1700000000000) db
      { actor := "operator", purpose := .reenroll, boundNodeId := some sampleNodeId } =
      .ok (_, remint db) :=
    bind_eq_ok.mpr ⟨(), hbinding, bind_eq_ok.mpr ⟨_, hinsert, rfl⟩⟩
  rw [step, reenrollMint]
  dsimp only
  rw [hmint]
  rfl

def reenrollSignature : String :=
  "d77766ee7b5e32ece3b93e56b73c38ff4f8fcd29d7385ca9e30d30d45e4a6a15ac5b594981e8b822c85035337b0edc894c54dc9947a07ad36ce63e9d9f929504"

set_option maxRecDepth 2000 in
theorem isSignature_reenroll : isSignature reenrollSignature = true :=
  (matchesHex_ofList 128 _).trans rfl

def sampleReenrollRequest : ReenrollRequest :=
  { token := some reenrollToken
    reenrollmentRequestId := some "d1d1d1d1d1d1d1d1d1d1d1d1d1d1d1d1"
    newPublicKey := some secondPublicKey
    nodeId := some sampleNodeId
    keyId := some sampleKeyId
    method := "POST"
    path := "/api/v1/reenroll"
    timestamp := some "1700000000"
    nonce := some "c1c1c1c1c1c1c1c1c1c1c1c1c1c1c1c1"
    bodyHash := "6137332ca078f31735fe26ffcf46dcae87e5c2f7f29f0cac60d387a57a8f678e"
    signature := some reenrollSignature }

/-- On a request of the right form only the timestamp is left to check. -/
theorem checkReenrollFields_of_form {now : Clock} {req : ReenrollRequest} {timestamp : ℤ}
    {token requestId newPublicKey nodeId keyId nonce signature : String}
    (htoken : matchesHex 32 token = true) (hrequestId : matchesHex 32 requestId = true)
    (hpublicKey : isPublicKey newPublicKey = true) (hnodeId : isNodeId nodeId = true)
    (hnode : nodeId ≠ "") (hkeyId : keyId ≠ "") (hnonce : matchesHex 32 nonce = true)
    (hsignature : isSignature signature = true)
    (htimestamp : parseTimestamp req.timestamp = some timestamp) :
    checkReenrollFields now { req with
        token := token, reenrollmentRequestId := requestId, newPublicKey, nodeId, keyId, nonce
        signature } =
      if InMachineSkew (now 0) timestamp then
        .ok ⟨token, requestId, newPublicKey, nodeId, keyId, nonce, signature⟩
      else denied 401 "timestamp-out-of-skew" "timestamp is outside the 30s skew window" := by
  have hstring {text label : String} (h : text ≠ "") : requireString (some text) label = .ok text :=
    requireString_eq_ok.mpr ⟨rfl, h⟩
  have hwire {n : ℕ} {text label : String} (h : matchesHex n text = true) :
      requireWire (some text) n label = .ok () := requireWire_eq_ok.mpr ⟨_, rfl, h⟩
  simp only [checkReenrollFields, hstring (ne_empty_of_matchesHex htoken),
    hstring (ne_empty_of_matchesHex hrequestId), hstring (ne_empty_of_matchesHex hpublicKey),
    hstring hnode, hstring hkeyId, hwire htoken, hwire hrequestId,
    hwire hpublicKey, hwire hnonce, hwire hsignature, bind, Except.bind, hnodeId, htimestamp,
    Bool.not_true, Bool.false_eq_true, if_false]
  by_cases hskew : InMachineSkew (now 0) timestamp
  · simp only [hskew, not_true, if_false, if_true]
    rfl
  · simp only [hskew, not_false_eq_true, if_true, if_false]

theorem checkReenrollFields_sample (now : ℤ) :
    checkReenrollFields (clockAt now) sampleReenrollRequest =
      if InMachineSkew now 1700000000 then .ok sampleReenrollRequest.fields
      else denied 401 "timestamp-out-of-skew" "timestamp is outside the 30s skew window" :=
  have htoken : matchesHex 32 reenrollToken = true := (matchesHex_ofList 32 _).trans rfl
  have hrequestId : matchesHex 32 "d1d1d1d1d1d1d1d1d1d1d1d1d1d1d1d1" = true :=
    (matchesHex_ofList 32 _).trans rfl
  have hnonce : matchesHex 32 "c1c1c1c1c1c1c1c1c1c1c1c1c1c1c1c1" = true :=
    (matchesHex_ofList 32 _).trans rfl
  @checkReenrollFields_of_form (clockAt now) sampleReenrollRequest 1700000000 _ _ _ _ _ _ _ htoken
    hrequestId isPublicKey_second isNodeId_sample (by simp [sampleNodeId]) (by simp [sampleKeyId])
    hnonce isSignature_reenroll parseTimestamp_sample

theorem getToken_reenroll {db : Db} (htokens : db.tokens = remintedDb.tokens) :
    db.getToken (tokenDigestOf sampleEnv reenrollToken) = some reenrollTokenRow := by
  have hreminted : remintedDb.tokens = [{ sampleTokenRow with
      consumedAt := some 1700000000000
      consumedBy := some sampleNodeId }, reenrollTokenRow] := rfl
  rw [Db.getToken, htokens, hreminted]
  simp [sampleTokenRow, reenrollTokenRow, tokenDigestOf_sampleToken, tokenDigestOf_reenrollToken]

/-- The key of the sample node, once it has been deleted. -/
def deletedKey : NodeKeyRow :=
  { sampleNodeKey with
    state := .revoked
    revokedAt := some 1700000000000
    revocationReason := some "node-delete" }

/-- The sample node proves the possession of its deleted key. -/
theorem checkPossession_sample {db : Db} {node : NodeRow}
    (hnode : db.getNodeRow sampleNodeId = some node) (hstate : node.state = .tombstoned)
    (hkeys : db.nodeKeys = [deletedKey]) : checkPossession sampleEnv db sampleReenrollRequest
      sampleReenrollRequest.fields = .ok deletedKey := by
  have hkeyId : requireWire (some sampleKeyId) 32 "X-Orbit-Key" = .ok () :=
    requireWire_eq_ok.mpr ⟨_, rfl, (matchesHex_ofList 32 _).trans rfl⟩
  have hverified (signingString : String) : verifySigningString sampleCrypto samplePublicKey
      signingString reenrollSignature = .ok true :=
    (verifySigningString_eq isPublicKey_sample isSignature_reenroll).trans rfl
  have hnode' : db.getNodeRow sampleReenrollRequest.fields.nodeId = some node := hnode
  have hhistorical : historicalKey db sampleReenrollRequest.fields.nodeId = some deletedKey := by
    rw [historicalKey, hkeys]
    rfl
  rw [checkPossession, hnode']
  dsimp only
  rw [if_neg (not_not.mpr hstate), hhistorical]
  exact bind_eq_ok.mpr ⟨(), hkeyId, bind_eq_ok.mpr ⟨true, congrArg orThrow (hverified _), rfl⟩⟩

/-- A node without a route key gets one. -/
theorem ensureHubRouteKey_sample {db db' : Db} (hnone : db.unrevokedRouteKeys sampleNodeId = [])
    (hinsert : db.insertHubRouteKey firstRouteKey = .ok db') :
    db.ensureHubRouteKey sampleEnv (sampleEntropy 0) 1700000000000 1700000000000 sampleNodeId =
      .ok (firstRouteKey, db'.recordAudit 1700000000000 ("system:" ++ sampleNodeId)
        "hub.route-keys.provision"
        (.obj [("nodeId", .str sampleNodeId), ("keyId", .str firstRouteKey.keyId)])) := by
  have hprovision : db.provisionHubRouteKey sampleEnv (sampleEntropy 0) 1700000000000 sampleNodeId =
      .ok (firstRouteKey, db') :=
    bind_eq_ok.mpr ⟨_, congrArg orThrow deriveKeyId_firstRouteKey,
      bind_eq_ok.mpr ⟨_, hinsert, rfl⟩⟩
  rw [Db.ensureHubRouteKey, hnone]
  exact bind_eq_ok.mpr ⟨_, hprovision, rfl⟩

/-- The sample re-enrollment succeeds where its transaction does. -/
theorem reenroll_of_restoreNode {db db' : Db} {entropy : Entropy} {now : ℤ} {node : NodeRow}
    {result : EnrollmentResult} (hskew : InMachineSkew now 1700000000)
    (hexpiry : now < reenrollTokenRow.expiresAt) (htokens : db.tokens = remintedDb.tokens)
    (hnode : db.getNodeRow sampleNodeId = some node) (hstate : node.state = .tombstoned)
    (hkeys : db.nodeKeys = [deletedKey])
    (hresult : db.getResult
      (reenrollContent reenrollTokenRow.tokenDigest sampleReenrollRequest.fields) .reenroll = none)
    (hrestore : restoreNode sampleEnv entropy (clockAt now) db reenrollTokenRow
      sampleReenrollRequest.fields "system" deletedKey secondKeyId = .ok (result, db')) :
    reenroll sampleEnv entropy (clockAt now) db sampleReenrollRequest = .ok (result, db') := by
  have hcheck : checkReenrollFields (clockAt now) sampleReenrollRequest =
      .ok sampleReenrollRequest.fields := by
    rw [checkReenrollFields_sample, if_pos hskew]
  refine bind_eq_ok.mpr ⟨_, hcheck, ?_⟩
  have htoken : db.getToken (tokenDigestOf sampleEnv sampleReenrollRequest.fields.token) =
    some reenrollTokenRow := getToken_reenroll htokens
  rw [htoken]
  dsimp only
  have hvalid : ¬reenrollTokenRow.expiresAt ≤ clockAt now 1 := not_le.mpr hexpiry
  rw [if_neg (by decide), if_neg (by decide), if_neg (by decide), if_neg hvalid]
  refine bind_eq_ok.mpr ⟨_, checkPossession_sample hnode hstate hkeys, ?_⟩
  rw [hresult]
  exact bind_eq_ok.mpr ⟨secondKeyId, congrArg orThrow deriveKeyId_second, hrestore⟩

theorem run_reminted : run sampleEnv {} (sampleEnrollment ++ [sampleDeletion, reenrollMint]) =
    ⟨remintedDb, []⟩ := by
  have hdeletion : step sampleEnv ⟨enrolledDb, []⟩ sampleDeletion = ⟨deletedDb, []⟩ :=
    step_deletion rfl (by decide) rfl
  have hmint : step sampleEnv ⟨deletedDb, []⟩ reenrollMint = ⟨remintedDb, []⟩ :=
    step_reenrollMint rfl rfl rfl
  rw [run_append, run_sampleEnrollment, run, runFrom_cons, hdeletion, runFrom_cons, hmint,
    runFrom_nil]

theorem reenroll_sample : ∃ result db', reenroll sampleEnv (sampleEntropy 0)
    (clockAt 1700000000000) remintedDb sampleReenrollRequest = .ok (result, db') := by
  have hrestore : ∃ result db', restoreNode sampleEnv (sampleEntropy 0) (clockAt 1700000000000)
      remintedDb reenrollTokenRow sampleReenrollRequest.fields "system" deletedKey secondKeyId =
        .ok (result, db') := by
    refine ⟨_, _, bind_eq_ok.mpr ⟨_, rfl, bind_eq_ok.mpr ⟨_, rfl, bind_eq_ok.mpr ⟨_, rfl,
      bind_eq_ok.mpr ⟨_, ensureHubRouteKey_sample rfl rfl, rfl⟩⟩⟩⟩⟩
  obtain ⟨result, db', hrestore⟩ := hrestore
  exact ⟨result, db', reenroll_of_restoreNode (by decide) (by decide) rfl rfl rfl rfl rfl hrestore⟩

def sampleReenroll : Call :=
  { operation := .useToken (.reenroll sampleReenrollRequest)
    clock := clockAt 1700000000000
    entropy := sampleEntropy 0 }

/-- The re-enrollment of the sample node is accepted, and half a minute later the same
request is refused. -/
theorem stale_repeat_refused :
    ∃ before result db',
      before = run sampleEnv {} (sampleEnrollment ++ [sampleDeletion, reenrollMint]) ∧
      (TokenRequest.reenroll sampleReenrollRequest).submit sampleEnv (sampleEntropy 0)
        (clockAt 1700000000000) before.db = .ok (result, db') ∧
      (step sampleEnv before sampleReenroll).db = db' ∧
      (TokenRequest.reenroll sampleReenrollRequest).submit sampleEnv (sampleEntropy 0)
        (clockAt 1700000031000) db' =
          denied 401 "timestamp-out-of-skew" "timestamp is outside the 30s skew window" := by
  obtain ⟨result, db', hreenroll⟩ := reenroll_sample
  refine ⟨_, result, db', run_reminted.symm, hreenroll, ?_, ?_⟩
  · rw [step, sampleReenroll]
    dsimp only [TokenRequest.submit]
    rw [hreenroll]
    rfl
  · rw [TokenRequest.submit, reenroll, checkReenrollFields_sample, if_neg (by decide)]
    rfl

end DshOrbit.Registry
