import Data360.Origins
import Data360.QueryApi.Cursor

/-!
# What the transport refuses

The checks with which `LibcurlTransport::Send` of `src/libcurl_transport.cpp`
begins.  A request that fails one is refused before there is a connection; what
follows is the curl library.

* `checkRequest_submit` says which submissions of a query pass.  Of the credentials, that
  depends on the tenant URL and on the size and the bytes of the token.
-/

namespace Data360

open Lib Lib.ByteString

namespace LibcurlTransport

/-! ## The checks -/

/-- `ContainsForbidden`. -/
def containsForbidden (value : Bytes) : Bool :=
  (find [13] value).isSome || (find [10] value).isSome || (find [0] value).isSome

/-- `LONG_MAX`, of a 64-bit `long`. -/
def longMax : Nat := 0x7fffffffffffffff

/-- The `std::invalid_argument` of a request that is refused. -/
def invalidRequest : String := "Data 360 HTTPS request configuration is invalid"

/-- The loop over the sizes of the headers. -/
def checkHeaderSizes : List (Bytes × Bytes) → Nat → Except String Unit
  | [], _ => .ok ()
  | header :: rest, requestHeaderBytes =>
      let bytes := header.1.length + header.2.length + 4
      if bytes > 8192 ∨ bytes > 64 * 1024 - min requestHeaderBytes (64 * 1024) then
        .error invalidRequest
      else checkHeaderSizes rest (requestHeaderBytes + bytes)

/-- The checks of `LibcurlTransport::Send`. -/
def checkRequest (request : HttpRequest) : Except String Unit :=
  if request.followRedirects = true ∨ request.timeoutMs = 0 ∨ request.timeoutMs.toNat > longMax ∨
      request.maxResponseBytes = 0 ∨ request.body.length > 1024 * 1024 ∨
      ¬ (ascii "https://").isPrefixOf request.url ∨ containsForbidden request.url ∨
      (request.method ≠ ascii "GET" ∧ request.method ≠ ascii "POST" ∧
        request.method ≠ ascii "DELETE") then .error invalidRequest
  else if request.headers.toList.any fun header => header.1 = [] || containsForbidden header.1 ||
      containsForbidden header.2 || (find [58] header.1).isSome then .error invalidRequest
  else if request.headers.size > 64 then .error invalidRequest
  else checkHeaderSizes request.headers.toList 0

/-! ## A submission -/

/-- A bearer token that fits into a header: no byte that could end the header, and short
enough for its line. -/
structure BearerFits (token : Bytes) : Prop where
  clean : ∀ c ∈ token, c ≠ 13 ∧ c ≠ 10 ∧ c ≠ 0
  short : token.length ≤ 8168

theorem containsForbidden_eq_false {value : Bytes} :
    containsForbidden value = false ↔ ∀ c ∈ value, c ≠ 13 ∧ c ≠ 10 ∧ c ≠ 0 := by
  simp only [containsForbidden, Bool.or_eq_false_iff, Option.isSome_eq_false_iff,
    Option.isNone_iff_eq_none, find_byte_eq_none]
  constructor
  · rintro ⟨⟨hcr, hlf⟩, hnul⟩ c hc
    exact ⟨fun h => hcr (h ▸ hc), fun h => hlf (h ▸ hc), fun h => hnul (h ▸ hc)⟩
  · intro h
    exact ⟨⟨fun hmem => (h 13 hmem).1 rfl, fun hmem => (h 10 hmem).2.1 rfl⟩,
      fun hmem => (h 0 hmem).2.2 rfl⟩

/-- The headers of a submission, in the order of the map. -/
theorem toList_submitHeaders (sql : Bytes) (credentials : QueryCredentials) (metadataOnly : Bool)
    (options : QueryOptions) :
    (QueryApiV3Client.submitRequest sql credentials metadataOnly options).headers.toList = [
      (ascii "Accept", ascii "application/json"),
      (ascii "Authorization", ascii "Bearer " ++ credentials.accessToken),
      (ascii "Content-Type", ascii "application/json")] := rfl

theorem size_submitHeaders (sql : Bytes) (credentials : QueryCredentials) (metadataOnly : Bool)
    (options : QueryOptions) :
    (QueryApiV3Client.submitRequest sql credentials metadataOnly options).headers.size = 3 := rfl

/-- The sizes of the headers of a submission depend on the token. -/
theorem checkHeaderSizes_submit (token : Bytes) :
    checkHeaderSizes [
      (ascii "Accept", ascii "application/json"),
      (ascii "Authorization", ascii "Bearer " ++ token),
      (ascii "Content-Type", ascii "application/json")] 0 = .ok () ↔ token.length ≤ 8168 := by
  have haccept : (ascii "Accept").length = 6 ∧ (ascii "application/json").length = 16 ∧
      (ascii "Authorization").length = 13 ∧ (ascii "Bearer ").length = 7 ∧
      (ascii "Content-Type").length = 12 := by decide
  simp only [checkHeaderSizes, List.length_append, haccept]
  by_cases hshort : token.length ≤ 8168
  · rw [if_neg (by omega), if_neg (by omega), if_neg (by omega)]
    exact iff_of_true rfl hshort
  · rw [if_neg (by omega), if_pos (by omega)]
    exact iff_of_false nofun hshort

/-- A character of a host is a dot or a character of a label. -/
theorem host_character {host : Bytes} (h : TenantHost host) {c : UInt8} (hc : c ∈ host) :
    c ≠ 13 ∧ c ≠ 10 ∧ c ≠ 0 := by
  by_cases hdot : c = 46
  · rw [hdot]
    decide
  · obtain ⟨label, hlabel, hmem⟩ := mem_label hc hdot
    have hchar := (h.origin.labels label hlabel).characters c hmem
    refine ⟨?_, ?_, ?_⟩
    all_goals
      rintro rfl
      exact absurd hchar (by decide)

/-- The address of a submission holds no byte that the transport refuses. -/
theorem submitUrl_clean {instanceUrl : Bytes} (h : isTrustedTenantUrl instanceUrl = true) :
    (ascii "https://").isPrefixOf (trimTrailingSlash instanceUrl ++ ascii "/api/v3/query") = true ∧
      containsForbidden (trimTrailingSlash instanceUrl ++ ascii "/api/v3/query") = false := by
  obtain ⟨host, hhost, -, htrim⟩ := tenantHost_of_isTrustedTenantUrl h
  have hscheme :=
    containsForbidden_eq_false.mp (show containsForbidden (ascii "https://") = false by decide)
  have hpath :=
    containsForbidden_eq_false.mp (show containsForbidden (ascii "/api/v3/query") = false by decide)
  rw [htrim]
  refine ⟨?_, containsForbidden_eq_false.mpr fun c hc => ?_⟩
  · rw [List.isPrefixOf_iff_prefix, List.append_assoc]
    exact List.prefix_append _ _
  · simp only [List.mem_append] at hc
    rcases hc with (hc | hc) | hc
    · exact hscheme c hc
    · exact host_character hhost hc
    · exact hpath c hc

/-- A submission within its limits passes the checks exactly when its timeout is not zero
and its token fits. -/
theorem checkRequest_submit {sql : Bytes} {credentials : QueryCredentials} {metadataOnly : Bool}
    {options : QueryOptions} (hurl : isTrustedTenantUrl credentials.instanceUrl = true)
    (hbody : (QueryApiV3Client.submitBody sql metadataOnly options).length ≤ 1024 * 1024)
    {timeoutMs maxResponseBytes : UInt64} (htimeout : timeoutMs.toNat ≤ longMax)
    (hresponse : maxResponseBytes ≠ 0) :
    checkRequest { QueryApiV3Client.submitRequest sql credentials metadataOnly options with
      timeoutMs, maxResponseBytes } = .ok () ↔
      timeoutMs ≠ 0 ∧ BearerFits credentials.accessToken := by
  obtain ⟨hscheme, hclean⟩ := submitUrl_clean hurl
  have hmethod : ¬ (ascii "POST" ≠ ascii "GET" ∧ ascii "POST" ≠ ascii "POST" ∧
      ascii "POST" ≠ ascii "DELETE") := fun h => h.2.1 rfl
  have hnames : containsForbidden (ascii "Accept") = false ∧
      containsForbidden (ascii "application/json") = false ∧
      containsForbidden (ascii "Authorization") = false ∧
      containsForbidden (ascii "Content-Type") = false ∧
      (find [58] (ascii "Accept")).isSome = false ∧
      (find [58] (ascii "Authorization")).isSome = false ∧
      (find [58] (ascii "Content-Type")).isSome = false ∧ ascii "Accept" ≠ [] ∧
      ascii "Authorization" ≠ [] ∧ ascii "Content-Type" ≠ [] := by decide
  have hbearer : containsForbidden (ascii "Bearer " ++ credentials.accessToken) = false ↔
      ∀ c ∈ credentials.accessToken, c ≠ 13 ∧ c ≠ 10 ∧ c ≠ 0 := by
    have hfixed :=
      containsForbidden_eq_false.mp (show containsForbidden (ascii "Bearer ") = false by decide)
    rw [containsForbidden_eq_false]
    exact ⟨fun h c hc => h c (List.mem_append_right _ hc),
      fun h c hc => (List.mem_append.mp hc).elim (hfixed c) (h c)⟩
  have hrefused : (List.any [(ascii "Accept", ascii "application/json"),
      (ascii "Authorization", ascii "Bearer " ++ credentials.accessToken),
      (ascii "Content-Type", ascii "application/json")] fun header => header.1 = [] ||
        containsForbidden header.1 || containsForbidden header.2 || (find [58] header.1).isSome)
      = containsForbidden (ascii "Bearer " ++ credentials.accessToken) := by
    simp [hnames]
  unfold checkRequest
  simp only [toList_submitHeaders, hrefused]
  by_cases hzero : timeoutMs = 0
  · rw [if_pos (.inr (.inl hzero))]
    exact iff_of_false nofun fun h => h.1 hzero
  rw [if_neg ?_]
  · by_cases hbytes : containsForbidden (ascii "Bearer " ++ credentials.accessToken) = true
    · rw [if_pos hbytes]
      refine iff_of_false nofun fun h => ?_
      rw [hbearer.mpr h.2.clean] at hbytes
      cases hbytes
    · rw [if_neg hbytes, if_neg (by rw [size_submitHeaders]; decide), checkHeaderSizes_submit]
      rw [Bool.not_eq_true, hbearer] at hbytes
      exact ⟨fun hshort => ⟨hzero, hbytes, hshort⟩, fun h => h.2.short⟩
  · rintro (h | h | h | h | h | h | h | h)
    · cases h
    · exact hzero h
    · omega
    · exact hresponse h
    · exact absurd hbody (not_le.mpr h)
    · exact h hscheme
    · cases hclean.symm.trans h
    · exact hmethod h

end LibcurlTransport

end Data360
