import Data360.SalesforceOAuthProvider.Model

/-!
# The two parsers of a token response

`ParseOAuthTokenResponse` and `ParseData360Response` are two copies of one parser,
each with its own helpers, its own limits and its own error.

* `tokenMembers` is what both take out of the members of a document.
  `readTokenResponse_eq` and `readData360Response_eq` say so for each of them.
* `Unreadable` is a body that neither of them looks into; of every other body
  `parse_of_not_unreadable` gives the members.
* `parseData360Response_cases` is what the exchange needs to know of the second one.
* `tokenParsers_agree` compares the two on every body.
-/

namespace Data360.SalesforceOAuthProvider

open Lib Lib.ByteString

/-! ## The members of a token response -/

/-- A string that is not empty and not too long. -/
def boundedString (value : Option Json.Value) (maximum : Nat) : Option Bytes :=
  match value with
  | some (.string text) => if text.length = 0 ∨ text.length > maximum then none else some text
  | _ => none

/-- A bounded string is a string of the document. -/
theorem boundedString_eq_some {value : Option Json.Value} {maximum : Nat} {text : Bytes} :
    boundedString value maximum = some text ↔
      value = some (.string text) ∧ text ≠ [] ∧ text.length ≤ maximum := by
  unfold boundedString
  split
  · rename_i found
    simp only [Option.some.injEq, Json.Value.string.injEq]
    split
    · rename_i hbad
      refine iff_of_false (by simp) ?_
      rintro ⟨rfl, hne, hshort⟩
      rcases hbad with h | h
      · exact hne (List.length_eq_zero_iff.mp h)
      · omega
    · rename_i hgood
      obtain ⟨hpos, hshort⟩ := not_or.mp hgood
      constructor
      · intro h
        obtain rfl := Option.some.inj h
        exact ⟨rfl, fun hnil => hpos (by rw [hnil]; rfl), not_lt.mp hshort⟩
      · rintro ⟨rfl, -, -⟩
        rfl
  · rename_i hother
    exact iff_of_false (by simp) fun h => hother text h.1

/-- The string, as `BoundedJsonString` reads it. -/
theorem boundedJsonString_eq (value : Option Json.Value) (maximum : Nat) :
    boundedJsonString value maximum = match boundedString value maximum with
      | none => .error invalidTokenResponse
      | some text => .ok text := by
  unfold boundedJsonString boundedString
  cases value with
  | none => rfl
  | some value =>
      cases value with
      | string text =>
          dsimp only
          split <;> rfl
      | null | bool | number | array | object => rfl

/-- The string, as `JsonString` reads it. -/
theorem jsonString_eq (members : List (Bytes × Json.Value)) (name : Bytes) (maximum : Nat) :
    jsonString members name maximum = match boundedString (members.lookup name) maximum with
      | none => .error .data360ExchangeFailed
      | some text => .ok text := by
  unfold jsonString boundedString
  cases members.lookup name with
  | none => rfl
  | some value =>
      cases value with
      | string text =>
          dsimp only
          split <;> rfl
      | null | bool | number | array | object => rfl

/-- A number of seconds that is positive and not too large. -/
def boundedExpiry (value : Json.Value) : Option UInt64 :=
  match value.uint with
  | none => none
  | some seconds => if seconds = 0 ∨ seconds > maxExpirySeconds then none else some seconds

/-- The type of a token, if it is given, has to be `Bearer`. -/
def bearer (members : List (Bytes × Json.Value)) : Option Unit :=
  match members.lookup (ascii "token_type") with
  | none => some ()
  | some tokenType => do
      let tokenType ← boundedString (some tokenType) 16
      if tokenType ≠ ascii "Bearer" then none else some ()

/-- The life of a token, if it is given; `none` is a life that is refused. -/
def givenExpiry (members : List (Bytes × Json.Value)) : Option (Option UInt64) :=
  match members.lookup (ascii "expires_in") with
  | none => some none
  | some expiresIn => (boundedExpiry expiresIn).map some

/-- The token, the URL and the life that a token response grants. -/
structure TokenMembers where
  token : Bytes
  url : Bytes
  expiry : Option UInt64

/-- What both parsers take out of the members of a document. -/
def tokenMembers (members : List (Bytes × Json.Value)) : Option TokenMembers := do
  let token ← boundedString (members.lookup (ascii "access_token")) maxTokenBytes
  let url ← boundedString (members.lookup (ascii "instance_url")) maxUrlBytes
  bearer members
  let expiry ← givenExpiry members
  pure { token, url, expiry }

/-- How a parser with its own error ends: it reads the life of the token and makes its
response of it. -/
theorem readExpiry {ε α : Type} (refusal : ε) (token url : Bytes) (accept : TokenMembers → α)
    (members : List (Bytes × Json.Value)) :
    (match members.lookup (ascii "expires_in") with
      | none => pure (accept { token, url, expiry := none })
      | some expiresIn =>
          match expiresIn.uint with
          | none => .error refusal
          | some seconds =>
              if seconds = 0 ∨ seconds > maxExpirySeconds then .error refusal
              else pure (accept { token, url, expiry := some seconds }) : Except ε α)
    = match (do
        let expiry ← givenExpiry members
        pure { token, url, expiry } : Option TokenMembers) with
      | none => .error refusal
      | some parsed => .ok (accept parsed) := by
  unfold givenExpiry
  cases members.lookup (ascii "expires_in") with
  | none => rfl
  | some expiresIn =>
      unfold boundedExpiry
      dsimp only
      cases expiresIn.uint with
      | none => rfl
      | some seconds =>
          dsimp only
          split <;> rfl

/-- The members, as `ParseOAuthTokenResponse` reads them. -/
theorem readTokenResponse_eq (members : List (Bytes × Json.Value)) :
    readTokenResponse members = match tokenMembers members with
      | none => .error invalidTokenResponse
      | some parsed => .ok ⟨parsed.token, parsed.url, parsed.expiry.getD 0⟩ := by
  unfold readTokenResponse tokenMembers bearer maxTokenBytes maxUrlBytes
  simp only [boundedJsonString_eq]
  cases boundedString (members.lookup (ascii "access_token")) (16 * 1024) with
  | none => rfl
  | some token =>
  cases boundedString (members.lookup (ascii "instance_url")) 2048 with
  | none => rfl
  | some url =>
  have hexpiry := readExpiry invalidTokenResponse token url
    (fun parsed => OAuthTokenResponse.mk parsed.token parsed.url (parsed.expiry.getD 0)) members
  cases members.lookup (ascii "token_type") with
  | none => exact hexpiry
  | some tokenType =>
      dsimp only
      cases boundedString (some tokenType) 16 with
      | none => rfl
      | some text =>
          by_cases htext : text = ascii "Bearer"
          · subst htext
            exact hexpiry
          · simp only [Option.bind_eq_bind, Option.bind_some, if_pos htext, Option.bind_none]
            exact if_pos htext

/-- The members, as `ParseData360Response` reads them. -/
theorem readData360Response_eq (members : List (Bytes × Json.Value)) (defaultTtlSeconds : UInt64) :
    readData360Response members defaultTtlSeconds = match tokenMembers members with
      | none => .error .data360ExchangeFailed
      | some parsed => .ok ⟨parsed.token, parsed.url, parsed.expiry.getD defaultTtlSeconds⟩ := by
  unfold readData360Response tokenMembers bearer
  simp only [jsonString_eq]
  cases boundedString (members.lookup (ascii "access_token")) maxTokenBytes with
  | none => rfl
  | some token =>
  cases boundedString (members.lookup (ascii "instance_url")) maxUrlBytes with
  | none => rfl
  | some url =>
  have hexpiry := readExpiry AuthFault.data360ExchangeFailed token url
    (fun parsed => Data360Response.mk parsed.token parsed.url
      (parsed.expiry.getD defaultTtlSeconds)) members
  cases members.lookup (ascii "token_type") with
  | none => exact hexpiry
  | some tokenType =>
      dsimp only
      cases boundedString (some tokenType) 16 with
      | none => rfl
      | some text =>
          by_cases htext : text = ascii "Bearer"
          · subst htext
            exact hexpiry
          · simp only [Option.bind_eq_bind, Option.bind_some, if_pos htext, Option.bind_none]
            exact if_pos htext

/-! ## The bodies -/

/-- A body that is empty or too long, that is not a JSON object, or that has two members of
one name. -/
inductive Unreadable (readJson : JsonReader) (body : Bytes) : Prop
  | empty (h : body = [])
  | long (h : 64 * 1024 < body.length)
  | other (h : ∀ members, readJson body ≠ some (.object members))
  | duplicate {members : List (Bytes × Json.Value)} (h : readJson body = some (.object members))
      (hduplicate : ¬ (members.map Prod.fst).Nodup)

/-- Every name at the top level of a body has at most 128 bytes. -/
def ShortNames (readJson : JsonReader) (body : Bytes) : Prop :=
  ∀ members, readJson body = some (.object members) → ∀ member ∈ members, member.1.length ≤ 128

section

variable {readJson : JsonReader} {body : Bytes}

/-- An unreadable body is refused twice. -/
theorem parse_of_unreadable (h : Unreadable readJson body) (defaultTtlSeconds : UInt64) :
    parseOAuthTokenResponse readJson body = .error invalidTokenResponse ∧
      parseData360Response readJson body defaultTtlSeconds = .error .data360ExchangeFailed := by
  unfold parseOAuthTokenResponse parseData360Response maxJsonBytes
  by_cases hsize : body = [] ∨ body.length > 64 * 1024
  · exact ⟨if_pos hsize, if_pos hsize⟩
  rw [if_neg hsize, if_neg hsize]
  cases h with
  | empty hempty => exact absurd (.inl hempty) hsize
  | long hlong => exact absurd (.inr hlong) hsize
  | other hother =>
      cases hread : readJson body with
      | none => exact ⟨rfl, rfl⟩
      | some root =>
          cases root with
          | object members => exact absurd hread (hother members)
          | _ => exact ⟨rfl, rfl⟩
  | duplicate hread hduplicate =>
      rw [hread]
      exact ⟨if_pos hduplicate, if_pos (.inr hduplicate)⟩

/-- Of every other body both read the members. -/
theorem parse_of_not_unreadable (h : ¬ Unreadable readJson body) :
    ∃ members, readJson body = some (.object members) ∧
      parseOAuthTokenResponse readJson body = readTokenResponse members ∧
      ∀ defaultTtlSeconds, parseData360Response readJson body defaultTtlSeconds =
        if members.any fun member => member.1.length > 128 then .error .data360ExchangeFailed
        else readData360Response members defaultTtlSeconds := by
  have hsize : ¬ (body = [] ∨ body.length > 64 * 1024) := by
    rintro (hempty | hlong)
    · exact h (.empty hempty)
    · exact h (.long hlong)
  have hobject : ∃ members, readJson body = some (.object members) := by
    by_contra hother
    exact h (.other fun members hread => hother ⟨members, hread⟩)
  obtain ⟨members, hread⟩ := hobject
  have hnodup : (members.map Prod.fst).Nodup := by
    by_contra hduplicate
    exact h (.duplicate hread hduplicate)
  refine ⟨members, hread, ?_, fun defaultTtlSeconds => ?_⟩
  · unfold parseOAuthTokenResponse
    rw [if_neg hsize, hread]
    exact if_neg (not_not.mpr hnodup)
  · unfold parseData360Response maxJsonBytes
    rw [if_neg hsize, hread]
    simp only [hnodup, not_true_eq_false, or_false]

/-- A Data 360 response is refused with one fault, or read from the members of its document. -/
theorem parseData360Response_cases (readJson : JsonReader) (body : Bytes)
    (defaultTtlSeconds : UInt64) :
    parseData360Response readJson body defaultTtlSeconds = .error .data360ExchangeFailed ∨
      ∃ members parsed, readJson body = some (.object members) ∧
        tokenMembers members = some parsed ∧
        parseData360Response readJson body defaultTtlSeconds
          = .ok ⟨parsed.token, parsed.url, parsed.expiry.getD defaultTtlSeconds⟩ := by
  by_cases hreadable : Unreadable readJson body
  · exact .inl (parse_of_unreadable hreadable _).2
  obtain ⟨members, hread, -, hparse⟩ := parse_of_not_unreadable hreadable
  rw [hparse, readData360Response_eq]
  split
  · exact .inl rfl
  cases hmembers : tokenMembers members with
  | none => exact .inl rfl
  | some parsed => exact .inr ⟨members, parsed, hread, hmembers, rfl⟩

/-- The token of an accepted Data 360 response is a string of its document. -/
theorem parseData360Response_token {defaultTtlSeconds : UInt64} {response : Data360Response}
    (h : parseData360Response readJson body defaultTtlSeconds = .ok response) :
    ∃ members, readJson body = some (.object members) ∧
      members.lookup (ascii "access_token") = some (.string response.token) ∧
      response.token ≠ [] := by
  rcases parseData360Response_cases readJson body defaultTtlSeconds with
    hrefused | ⟨members, parsed, hread, hmembers, hparse⟩
  · cases h.symm.trans hrefused
  · obtain rfl := Except.ok.inj (h.symm.trans hparse)
    simp only [tokenMembers, Option.bind_eq_bind, Option.bind_eq_some_iff] at hmembers
    obtain ⟨token, htoken, url, -, -, -, expiry, -, hparsed⟩ := hmembers
    obtain rfl := Option.some.inj hparsed
    obtain ⟨hlookup, hne, -⟩ := boundedString_eq_some.mp htoken
    exact ⟨members, hread, hlookup, hne⟩

/-- A Data 360 response that is refused is refused with one fault. -/
theorem parseData360Response_error {defaultTtlSeconds : UInt64} {fault : AuthFault}
    (h : parseData360Response readJson body defaultTtlSeconds = .error fault) :
    fault = .data360ExchangeFailed := by
  rcases parseData360Response_cases readJson body defaultTtlSeconds with
    hrefused | ⟨_, _, -, -, hparse⟩
  · exact Except.error.inj (h.symm.trans hrefused)
  · cases h.symm.trans hparse

end

/-! ## The comparison -/

/-- The life that is read is that of the document. -/
theorem expiry_of_tokenMembers {members : List (Bytes × Json.Value)} {parsed : TokenMembers}
    (h : tokenMembers members = some parsed) :
    match members.lookup (ascii "expires_in") with
    | none => parsed.expiry = none
    | some value => ∃ seconds, parsed.expiry = some seconds ∧ value.uint = some seconds := by
  simp only [tokenMembers, Option.bind_eq_bind, Option.bind_eq_some_iff] at h
  obtain ⟨token, -, url, -, -, -, expiry, hexpiry, hparsed⟩ := h
  obtain rfl := Option.some.inj hparsed
  unfold givenExpiry at hexpiry
  cases hfound : members.lookup (ascii "expires_in") with
  | none =>
      rw [hfound] at hexpiry
      exact (Option.some.inj hexpiry).symm
  | some value =>
      rw [hfound] at hexpiry
      obtain ⟨seconds, hseconds, rfl⟩ := Option.map_eq_some_iff.mp hexpiry
      refine ⟨seconds, rfl, ?_⟩
      unfold boundedExpiry at hseconds
      cases huint : value.uint with
      | none =>
          rw [huint] at hseconds
          cases hseconds
      | some given =>
          rw [huint] at hseconds
          dsimp only at hseconds
          split at hseconds
          · cases hseconds
          · exact hseconds

/-- Two responses that were read from one document grant the same: the token, the URL, and
the life if the document gives one. -/
structure SameGrant (members : List (Bytes × Json.Value)) (defaultTtlSeconds : UInt64)
    (salesforce : OAuthTokenResponse) (data360 : Data360Response) : Prop where
  token : data360.token = salesforce.accessToken
  url : data360.tenantUrl = salesforce.instanceUrl
  given : ∀ value, members.lookup (ascii "expires_in") = some value →
    value.uint = some salesforce.expiresInSeconds ∧
      data360.ttlSeconds = salesforce.expiresInSeconds
  absent : members.lookup (ascii "expires_in") = none →
    salesforce.expiresInSeconds = 0 ∧ data360.ttlSeconds = defaultTtlSeconds

/-- The members that both accept grant the same. -/
theorem sameGrant_of_tokenMembers {members : List (Bytes × Json.Value)} {parsed : TokenMembers}
    (h : tokenMembers members = some parsed) (defaultTtlSeconds : UInt64) :
    SameGrant members defaultTtlSeconds
      ⟨parsed.token, parsed.url, parsed.expiry.getD 0⟩
      ⟨parsed.token, parsed.url, parsed.expiry.getD defaultTtlSeconds⟩ := by
  have hexpiry := expiry_of_tokenMembers h
  refine ⟨rfl, rfl, fun value hvalue => ?_, fun hnone => ?_⟩
  · rw [hvalue] at hexpiry
    obtain ⟨seconds, hgiven, huint⟩ := hexpiry
    rw [hgiven]
    exact ⟨huint, rfl⟩
  · rw [hnone] at hexpiry
    rw [hexpiry]
    exact ⟨rfl, rfl⟩

/-- The two parsers of a token response do not drift apart: of a body with short names they
accept the same, and read the same out of it, and an unreadable body both refuse. -/
theorem tokenParsers_agree (readJson : JsonReader) (body : Bytes) (defaultTtlSeconds : UInt64) :
    (ShortNames readJson body →
      ((∃ salesforce, parseOAuthTokenResponse readJson body = .ok salesforce) ↔
        ∃ data360, parseData360Response readJson body defaultTtlSeconds = .ok data360) ∧
      ∀ salesforce data360, parseOAuthTokenResponse readJson body = .ok salesforce →
        parseData360Response readJson body defaultTtlSeconds = .ok data360 →
        ∃ members, readJson body = some (.object members) ∧
          SameGrant members defaultTtlSeconds salesforce data360) ∧
    (Unreadable readJson body →
      parseOAuthTokenResponse readJson body = .error invalidTokenResponse ∧
        parseData360Response readJson body defaultTtlSeconds = .error .data360ExchangeFailed) := by
  refine ⟨fun hshort => ?_, fun h => parse_of_unreadable h _⟩
  by_cases hreadable : Unreadable readJson body
  · obtain ⟨hsalesforce, hdata360⟩ := parse_of_unreadable hreadable defaultTtlSeconds
    simp [hsalesforce, hdata360]
  obtain ⟨members, hread, hsalesforce, hdata360⟩ := parse_of_not_unreadable hreadable
  have hnames : ¬ (members.any fun member => member.1.length > 128) = true := by
    intro hany
    obtain ⟨member, hmem, hlong⟩ := List.any_eq_true.mp hany
    have := hshort members hread member hmem
    simp only [gt_iff_lt, decide_eq_true_eq] at hlong
    omega
  rw [hsalesforce, hdata360, if_neg hnames, readTokenResponse_eq, readData360Response_eq]
  cases hmembers : tokenMembers members with
  | none => simp
  | some parsed =>
      refine ⟨⟨fun _ => ⟨_, rfl⟩, fun _ => ⟨_, rfl⟩⟩, fun salesforce data360 hs hd => ?_⟩
      obtain rfl := Except.ok.inj hs
      obtain rfl := Except.ok.inj hd
      exact ⟨members, hread, sameGrant_of_tokenMembers hmembers _⟩

/-- A token response as it comes from the server. -/
def grantBody : Bytes :=
  ascii "\x7b\"access_token\":\"t\",\"instance_url\":\"u\",\"expires_in\":60\x7d"

/-- The members of `grantBody`. -/
def grantMembers : List (Bytes × Json.Value) :=
  [(ascii "access_token", .string (ascii "t")), (ascii "instance_url", .string (ascii "u")),
    (ascii "expires_in", .number (ascii "60"))]

/-- Both parsers accept `grantBody`, and both read that the token lives for a minute; an
empty body both refuse. -/
theorem tokenParsers_agree_grantBody :
    let readJson : JsonReader := fun body =>
      if body = grantBody then some (.object grantMembers) else none
    ((∃ data360, parseData360Response readJson grantBody 900 = .ok data360) ∧
      ∃ members, readJson grantBody = some (.object members) ∧
        SameGrant members 900 ⟨ascii "t", ascii "u", 60⟩ ⟨ascii "t", ascii "u", 60⟩) ∧
    parseOAuthTokenResponse readJson [] = .error invalidTokenResponse := by
  intro readJson
  have hread : readJson grantBody = some (.object grantMembers) := if_pos rfl
  have hshort : ShortNames readJson grantBody := by
    intro members hmembers
    obtain rfl : grantMembers = members := by
      rw [hread] at hmembers
      exact Json.Value.object.inj (Option.some.inj hmembers)
    decide
  have hagree := (tokenParsers_agree readJson grantBody 900).1 hshort
  have hsalesforce :
      parseOAuthTokenResponse readJson grantBody = .ok ⟨ascii "t", ascii "u", 60⟩ := by
    decide +kernel
  have hdata360 : parseData360Response readJson grantBody 900 = .ok ⟨ascii "t", ascii "u", 60⟩ := by
    decide +kernel
  exact ⟨⟨hagree.1.mp ⟨_, hsalesforce⟩, hagree.2 _ _ hsalesforce hdata360⟩,
    ((tokenParsers_agree readJson [] 900).2 (.empty rfl)).1⟩

end Data360.SalesforceOAuthProvider
