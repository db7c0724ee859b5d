import Data360.QueryApi.Model
import Data360.TypeMapping

/-!
# The validators of the query client

The free functions at the top of `src/query_api.cpp`.  Every string that
reaches a URL of the client goes through one of three validators: the tenant
URL, the query id, the chunk path.

* `tenantHost_of_isTrustedTenantUrl` says what a trusted tenant URL is, and
  `trimTrailingSlash_tenant` what is left of it without its slash.
* `isSafeChunkPath_iff` says what the safe chunk paths are, and that the id of one
  is what `queryIdFromChunkPath` cuts out.
-/

namespace Data360

open Lib.ByteString

/-! ## The functions of the source -/

/-- `TrimTrailingSlash`. -/
def trimTrailingSlash (value : Bytes) : Bytes := trimBack 47 value

/-- What the loop of `IsTrustedTenantUrl` asks of one label. -/
def acceptsLabel (label : Bytes) : Bool :=
  label.length ≠ 0 && label.length ≤ 63 && label.head?.any isAlnum && label.getLast?.any isAlnum &&
    label.all fun c => isAlnum c || c = 45

/-- The loop of `IsTrustedTenantUrl` over the labels of the host.  It stops at
the end of the host, so it does not see an empty label after a last dot. -/
def acceptsLabels : List Bytes → Bool
  | [] => true
  | [label] => label = [] || acceptsLabel label
  | label :: rest => acceptsLabel label && acceptsLabels rest

/-- The domain of the tenants. -/
def tenantSuffix : Bytes := ascii ".c360a.salesforce.com"

/-- `IsTrustedTenantUrl`. -/
def isTrustedTenantUrl (value : Bytes) : Bool :=
  match afterLiteral (ascii "https://") value with
  | none => false
  | some rest =>
      let host := if rest.getLast? = some 47 then rest.dropLast else rest
      if host = [] ∨ containsAny (ascii "/?#@:\\%") host then false
      else if host.any fun c => c > 127 || isCntrl c || isUpper c then false
      else if host.length ≤ tenantSuffix.length ∨ ¬ endsWith tenantSuffix host then false
      else acceptsLabels (host.splitOn 46)

/-- `IsSafeQueryId`. -/
def isSafeQueryId (value : Bytes) : Bool :=
  if value = [] ∨ value.length > 128 then false
  else value.all fun c => isAlnum c || c = 45 || c = 95

/-- The fixed parts of a chunk path. -/
def queryPath : Bytes := ascii "/api/v3/query/"

/-- The separator of a chunk path. -/
def chunksSeparator : Bytes := ascii "/chunks/"

/-- `IsSafeChunkPath`. -/
def isSafeChunkPath (value : Bytes) : Bool :=
  match afterLiteral queryPath value with
  | none => false
  | some rest =>
      if value.length > 256 ∨ containsAny (ascii "\\?#%") value ∨
          (find (ascii "..") value).isSome then false
      else
        match find chunksSeparator rest with
        | none => false
        | some separatorAt =>
            if (findFrom chunksSeparator rest (separatorAt + 1)).isSome ∨
                ¬ isSafeQueryId (substr rest 0 separatorAt) then false
            else
              let chunkId := rest.drop (separatorAt + chunksSeparator.length)
              if chunkId = [] ∨ chunkId.length > 20 then false else chunkId.all isDigit

/-- `QueryIdFromChunkPath`. -/
def queryIdFromChunkPath (value : Bytes) : Bytes :=
  let start := queryPath.length
  match findFrom chunksSeparator value start with
  | some stop => substr value start (stop - start)
  | none => value.drop start

/-- One character of `JsonEscape`. -/
def jsonEscapeCharacter (character : UInt8) : Bytes :=
  let hex := ascii "0123456789abcdef"
  if character = 92 then ascii "\\\\"
  else if character = 34 then ascii "\\\""
  else if character = 8 then ascii "\\b"
  else if character = 12 then ascii "\\f"
  else if character = 10 then ascii "\\n"
  else if character = 13 then ascii "\\r"
  else if character = 9 then ascii "\\t"
  else if character < 32 then
    ascii "\\u00" ++ [hex.getD (character >>> 4 &&& 15).toNat 0,
      hex.getD (character &&& 15).toNat 0]
  else [character]

/-- `JsonEscape`. -/
def jsonEscape (value : Bytes) : Bytes := value.flatMap jsonEscapeCharacter

/-- `SameMetadata`. -/
def sameMetadata (left right : List ColumnMetadata) : Bool :=
  left.length = right.length &&
    (left.zip right).all fun (l, r) =>
      l.name = r.name && l.type = r.type && l.nullable = r.nullable &&
        l.hasPrecision = r.hasPrecision && l.hasScale = r.hasScale &&
        l.precision = r.precision && l.scale = r.scale

/-! ## Tenant URLs -/

/-- A DNS label: 1 to 63 bytes of `[a-z0-9-]`, with no `-` at either end. -/
structure HostLabel (label : Bytes) : Prop where
  nonempty : label ≠ []
  short : label.length ≤ 63
  characters : ∀ c ∈ label, isDigit c = true ∨ isLower c = true ∨ c = 45
  first : label.head? ≠ some 45
  last : label.getLast? ≠ some 45

/-- A host of the tenant domain: labels with dots between them, and at least
one of them before the domain. -/
structure TenantHost (host : Bytes) : Prop where
  labels : ∃ labels : List Bytes, host = [46].intercalate labels ∧
    ∀ label ∈ labels, HostLabel label
  domain : ∃ tenant, tenant ≠ [] ∧ host = tenant ++ tenantSuffix

theorem hostLabel_of_acceptsLabel {label : Bytes} (h : acceptsLabel label = true)
    (hlower : ∀ c ∈ label, isUpper c = false) : HostLabel label := by
  have hdash : ∀ c, isAlnum c = true → c ≠ 45 := by
    intro c hc heq
    rw [heq] at hc
    exact absurd hc (by decide)
  simp only [acceptsLabel, Bool.and_eq_true, decide_eq_true_eq, List.all_eq_true,
    Bool.or_eq_true] at h
  obtain ⟨⟨⟨⟨hne, hshort⟩, hfirst⟩, hlast⟩, hall⟩ := h
  refine ⟨fun hnil => hne (hnil ▸ rfl), hshort, fun c hc => ?_, fun heq => ?_, fun heq => ?_⟩
  · rcases hall c hc with halnum | hdash
    · simp only [isAlnum, hlower c hc, Bool.or_false, Bool.or_eq_true] at halnum
      rcases halnum with hdigit | hlow
      · exact .inl hdigit
      · exact .inr (.inl hlow)
    · exact .inr (.inr hdash)
  · rw [heq] at hfirst
    exact hdash 45 hfirst rfl
  · rw [heq] at hlast
    exact hdash 45 hlast rfl

/-- When the host does not end with a dot, the loop sees every label. -/
theorem acceptsLabel_of_mem {labels : List Bytes} (h : acceptsLabels labels = true)
    (hlast : labels.getLast? ≠ some []) : ∀ label ∈ labels, acceptsLabel label = true := by
  induction labels with
  | nil => simp
  | cons label rest ih =>
      cases rest with
      | nil =>
          have hne : label ≠ [] := fun hnil => hlast (by rw [hnil]; rfl)
          simpa [acceptsLabels, hne] using h
      | cons next rest =>
          simp only [acceptsLabels, Bool.and_eq_true] at h
          rw [List.getLast?_cons_cons] at hlast
          exact List.forall_mem_cons.mpr ⟨h.1, ih h.2 hlast⟩

/-- The last labels of a host in the domain are the labels of the domain. -/
theorem splitOn_tenantSuffix (tenant : Bytes) :
    (tenant ++ tenantSuffix).splitOn 46
      = tenant.splitOn 46 ++ [ascii "c360a", ascii "salesforce", ascii "com"] := by
  have hsuffix : tenantSuffix = 46 :: ascii "c360a.salesforce.com" := by decide
  rw [hsuffix, List.splitOn_append_cons_self]
  congr 1

/-- The characters of a joined part are in the whole. -/
theorem mem_intercalate {separator part : Bytes} {parts : List Bytes} {c : UInt8}
    (hpart : part ∈ parts) (hc : c ∈ part) : c ∈ separator.intercalate parts := by
  induction parts with
  | nil => cases hpart
  | cons head rest ih =>
      by_cases hrest : rest = []
      · subst hrest
        rw [List.mem_singleton] at hpart
        rw [List.intercalate_singleton, ← hpart]
        exact hc
      · rw [List.intercalate_cons_of_ne_nil hrest]
        rcases List.mem_cons.mp hpart with heq | hmem
        · exact List.mem_append_left _ (List.mem_append_left _ (heq ▸ hc))
        · exact List.mem_append_right _ (ih hmem)

/-- The host checks of `IsTrustedTenantUrl`. -/
theorem tenantHost_of_checks {host : Bytes} (hlower : ∀ c ∈ host, isUpper c = false)
    (hlong : tenantSuffix.length < host.length) (hends : endsWith tenantSuffix host = true)
    (hlabels : acceptsLabels (host.splitOn 46) = true) : TenantHost host := by
  obtain ⟨tenant, htenant⟩ := List.isSuffixOf_iff_suffix.mp hends
  have htenantne : tenant ≠ [] := by
    intro hnil
    rw [← htenant, hnil, List.nil_append] at hlong
    exact absurd hlong (Nat.lt_irrefl _)
  have hlast : (host.splitOn 46).getLast? ≠ some [] := by
    rw [← htenant, splitOn_tenantSuffix, List.getLast?_append]
    simp [ascii]
  have hjoin : [46].intercalate (host.splitOn 46) = host := List.intercalate_splitOn 46
  refine ⟨⟨host.splitOn 46, hjoin.symm, fun label hlabel => ?_⟩, tenant, htenantne, htenant.symm⟩
  refine hostLabel_of_acceptsLabel (acceptsLabel_of_mem hlabels hlast label hlabel) fun c hc => ?_
  refine hlower c ?_
  rw [← hjoin]
  exact mem_intercalate hlabel hc

/-- A trusted tenant URL names a host of the tenant domain, with at most one
slash after it, and without the slash it is the origin of that host. -/
theorem tenantHost_of_isTrustedTenantUrl {url : Bytes} (h : isTrustedTenantUrl url = true) :
    ∃ host, TenantHost host ∧
      (url = ascii "https://" ++ host ∨ url = ascii "https://" ++ host ++ [47]) ∧
      trimTrailingSlash url = ascii "https://" ++ host := by
  unfold isTrustedTenantUrl at h
  split at h
  · cases h
  · rename_i rest hrest
    have hurl := afterLiteral_eq_some.mp hrest
    generalize hhost : (if rest.getLast? = some 47 then rest.dropLast else rest) = host at h
    simp only at h
    split_ifs at h with hempty hchars hsuffix
    simp only [not_or, Bool.not_eq_true, not_le, Bool.not_eq_false] at hempty hchars hsuffix
    obtain ⟨hne, hclean⟩ := hempty
    have hlower : ∀ c ∈ host, isUpper c = false := fun c hc => by
      have := List.any_eq_false.mp hchars c hc
      simp only [Bool.or_eq_true, not_or, Bool.not_eq_true] at this
      exact this.2
    have hslash : (ascii "https://" ++ host).getLast? ≠ some 47 := by
      intro hlast
      rw [List.getLast?_append_of_ne_nil _ hne] at hlast
      have := List.any_eq_false.mp hclean 47 (List.mem_of_getLast? hlast)
      exact this (by decide)
    have htrim := trimBack_of_getLast hslash
    refine ⟨host, tenantHost_of_checks hlower hsuffix.1 hsuffix.2 h, ?_⟩
    split at hhost
    · rename_i hlast
      have hback : rest = host ++ [47] := by
        rw [← hhost, List.dropLast_append_getLast? 47 hlast]
      rw [hurl, hback, ← List.append_assoc]
      exact ⟨.inr rfl, (trimBack_append_self 47 _).trans htrim⟩
    · rw [hurl, hhost]
      exact ⟨.inl rfl, htrim⟩

/-! ## Chunk paths -/

/-- A query id: 1 to 128 bytes of `[A-Za-z0-9_-]`. -/
structure QueryId (id : Bytes) : Prop where
  nonempty : id ≠ []
  short : id.length ≤ 128
  characters : ∀ c ∈ id, isAlnum c = true ∨ c = 45 ∨ c = 95

theorem queryId_of_isSafeQueryId {id : Bytes} (h : isSafeQueryId id = true) : QueryId id := by
  unfold isSafeQueryId at h
  split at h
  · cases h
  · rename_i hlength
    simp only [not_or, not_lt] at hlength
    refine ⟨hlength.1, hlength.2, fun c hc => ?_⟩
    simpa [or_assoc] using List.all_eq_true.mp h c hc

theorem ne_nil_of_isSafeQueryId {id : Bytes} (h : isSafeQueryId id = true) : id ≠ [] := by
  intro hnil
  rw [hnil] at h
  exact absurd h (by decide)

/-- What a safe chunk path is: the id that the client cuts out of it is safe,
and the path is built from it and at most 20 digits. -/
theorem chunkPath_form {path : Bytes} (h : isSafeChunkPath path = true) :
    ∃ digits, isSafeQueryId (queryIdFromChunkPath path) = true ∧ digits ≠ [] ∧
      digits.length ≤ 20 ∧ (∀ c ∈ digits, isDigit c = true) ∧
      path = queryPath ++ queryIdFromChunkPath path ++ chunksSeparator ++ digits := by
  unfold isSafeChunkPath at h
  split at h
  · cases h
  · rename_i rest hrest
    have hpath := afterLiteral_eq_some.mp hrest
    split_ifs at h with hlong
    split at h
    · cases h
    · rename_i separatorAt hfind
      simp only at h
      split_ifs at h with hid hdigits
      simp only [not_or, Bool.not_eq_true, Bool.not_eq_false, not_lt] at hid hdigits
      have hcut : queryIdFromChunkPath path = substr rest 0 separatorAt := by
        rw [queryIdFromChunkPath, findFrom, hpath, List.drop_left, hfind]
        simp [substr]
      have hsplit := find_spec hfind
      refine ⟨rest.drop (separatorAt + chunksSeparator.length), hcut ▸ hid.2, hdigits.1, by omega,
        List.all_eq_true.mp h, ?_⟩
      rw [List.append_assoc] at hsplit
      rw [hcut, hpath, List.append_assoc, List.append_assoc]
      exact congrArg (queryPath ++ ·) hsplit

/-- A chunk path: the id of a query, and one to twenty digits. -/
structure ChunkPath (path id digits : Bytes) : Prop where
  named : QueryId id
  nonempty : digits ≠ []
  few : digits.length ≤ 20
  decimal : ∀ c ∈ digits, isDigit c = true
  built : path = ascii "/api/v3/query/" ++ id ++ ascii "/chunks/" ++ digits

theorem isSafeQueryId_of_queryId {id : Bytes} (h : QueryId id) : isSafeQueryId id = true := by
  have hlength : ¬ (id = [] ∨ id.length > 128) := not_or.mpr ⟨h.nonempty, not_lt.mpr h.short⟩
  rw [isSafeQueryId, if_neg hlength, List.all_eq_true]
  intro c hc
  simpa [or_assoc] using h.characters c hc

/-- The characters of a chunk path. -/
theorem ChunkPath.characters {path id digits : Bytes} (h : ChunkPath path id digits) :
    ∀ c ∈ path, isAlnum c = true ∨ c = 45 ∨ c = 95 ∨ c = 47 := by
  have hfixed : ∀ c ∈ ascii "/api/v3/query/" ++ ascii "/chunks/", isAlnum c = true ∨ c = 47 := by
    decide +kernel
  intro c hc
  rw [h.built] at hc
  simp only [List.mem_append] at hc
  rcases hc with ((hc | hc) | hc) | hc
  · exact (hfixed c (List.mem_append_left _ hc)).imp_right fun h => .inr (.inr h)
  · rcases h.named.characters c hc with halnum | hdash | hline
    · exact .inl halnum
    · exact .inr (.inl hdash)
    · exact .inr (.inr (.inl hline))
  · exact (hfixed c (List.mem_append_right _ hc)).imp_right fun h => .inr (.inr h)
  · have hdigit := h.decimal c hc
    exact .inl (by simp [isAlnum, hdigit])

/-- Behind the first separator there is no other. -/
theorem separator_once {digits : Bytes} (h : ∀ c ∈ digits, isDigit c = true) :
    find chunksSeparator (ascii "chunks/" ++ digits) = none := by
  have hslash : digits.count 47 = 0 :=
    List.count_eq_zero.mpr fun hmem => absurd (h 47 hmem) (by decide)
  refine find_eq_none_iff.mpr fun hinside => ?_
  have hcount := hinside.sublist.count_le 47
  have htwo : chunksSeparator.count 47 = 2 := by decide
  have hone : (ascii "chunks/").count 47 = 1 := by decide
  rw [List.count_append] at hcount
  omega

/-- The separator of a chunk path is where its id ends. -/
theorem find_separator {id digits : Bytes} (h : QueryId id) :
    find chunksSeparator (id ++ chunksSeparator ++ digits) = some id.length := by
  have hslash : (47 : UInt8) ∉ id := by
    intro hmem
    rcases h.characters 47 hmem with halnum | hdash | hline
    · exact absurd halnum (by decide)
    · exact absurd hdash (by decide)
    · exact absurd hline (by decide)
  exact find_append_of_notMem hslash

theorem ChunkPath.queryId {path id digits : Bytes} (h : ChunkPath path id digits) :
    queryIdFromChunkPath path = id := by
  have hpath : path = queryPath ++ (id ++ chunksSeparator ++ digits) := by
    rw [h.built, ← List.append_assoc, ← List.append_assoc]
    rfl
  have hfind :
      findFrom chunksSeparator path queryPath.length = some (id.length + queryPath.length) := by
    rw [findFrom, hpath, List.drop_left, find_separator h.named]
    rfl
  simp only [queryIdFromChunkPath, hfind]
  rw [Nat.add_sub_cancel, substr, hpath, List.drop_left, List.append_assoc, List.take_left]

/-- `IsSafeChunkPath` accepts what is built like a chunk path. -/
theorem ChunkPath.isSafe {path id digits : Bytes} (h : ChunkPath path id digits) :
    isSafeChunkPath path = true := by
  have hpath : path = queryPath ++ (id ++ chunksSeparator ++ digits) := by
    rw [h.built, ← List.append_assoc, ← List.append_assoc]
    rfl
  have hcharacters := h.characters
  have hlength : path.length ≤ 256 := by
    have hfixed : queryPath.length = 14 ∧ chunksSeparator.length = 8 := by decide
    have hid := h.named.short
    have hdigits := h.few
    rw [hpath, List.length_append, List.length_append, List.length_append]
    omega
  have hclean : containsAny (ascii "\\?#%") path = false := by
    refine List.any_eq_false.mpr fun c hc hbad => ?_
    have hsafe : ∀ c : UInt8, isAlnum c = true ∨ c = 45 ∨ c = 95 ∨ c = 47 →
        (ascii "\\?#%").contains c = false := forall_byte (by decide +kernel)
    rw [hsafe c (hcharacters c hc)] at hbad
    cases hbad
  have hdots : find (ascii "..") path = none := by
    refine find_of_notMem fun hdot => ?_
    exact absurd (hcharacters 46 hdot) (by decide)
  have hsecond :
      findFrom chunksSeparator (id ++ chunksSeparator ++ digits) (id.length + 1) = none := by
    have hbehind : (id ++ chunksSeparator ++ digits).drop (id.length + 1)
        = ascii "chunks/" ++ digits := by
      have hseparator : chunksSeparator = 47 :: ascii "chunks/" := by decide
      rw [hseparator, List.append_assoc, List.cons_append, drop_separator]
    rw [findFrom, hbehind, separator_once h.decimal]
    rfl
  have hid : substr (id ++ chunksSeparator ++ digits) 0 id.length = id := by
    rw [substr, List.drop_zero, List.append_assoc, List.take_left]
  have hdigits : (id ++ chunksSeparator ++ digits).drop (id.length + chunksSeparator.length)
      = digits := by
    rw [← List.length_append, List.drop_left]
  have hshort : ¬ (digits = [] ∨ digits.length > 20) := not_or.mpr ⟨h.nonempty, not_lt.mpr h.few⟩
  have hafter : afterLiteral queryPath path = some (id ++ chunksSeparator ++ digits) :=
    afterLiteral_eq_some.mpr hpath
  unfold isSafeChunkPath
  simp only [hafter, hclean, hdots, find_separator h.named, hsecond, hid,
    isSafeQueryId_of_queryId h.named,
    hdigits, if_neg hshort, List.all_eq_true.mpr h.decimal, Option.isSome_none]
  rw [if_neg (by simp [hlength]), if_neg (by simp)]

/-- `IsSafeChunkPath` accepts the chunk paths, and no others.  From a chunk path,
`QueryIdFromChunkPath` cuts its id, which `IsSafeQueryId` accepts and which is the only
one that the path can be built from. -/
theorem isSafeChunkPath_iff :
    (∀ path, isSafeChunkPath path = true ↔ ∃ id digits, ChunkPath path id digits) ∧
    (∀ path, isSafeChunkPath path = true → isSafeQueryId (queryIdFromChunkPath path) = true ∧
      ∃ digits, ChunkPath path (queryIdFromChunkPath path) digits) ∧
    ∀ path id digits, ChunkPath path id digits → queryIdFromChunkPath path = id := by
  have hbuilt {path : Bytes} (h : isSafeChunkPath path = true) :
      isSafeQueryId (queryIdFromChunkPath path) = true ∧
        ∃ digits, ChunkPath path (queryIdFromChunkPath path) digits := by
    obtain ⟨digits, hid, hne, hfew, hdecimal, hpath⟩ := chunkPath_form h
    exact ⟨hid, digits, queryId_of_isSafeQueryId hid, hne, hfew, hdecimal, hpath⟩
  refine ⟨fun path => ⟨fun h => ?_, fun ⟨id, digits, h⟩ => h.isSafe⟩, fun path => hbuilt,
    fun path id digits h => h.queryId⟩
  obtain ⟨-, digits, hdigits⟩ := hbuilt h
  exact ⟨_, digits, hdigits⟩

theorem isSafeChunkPath_iff_first :
    isSafeQueryId (queryIdFromChunkPath (ascii "/api/v3/query/q-1/chunks/07")) = true ∧
      queryIdFromChunkPath (ascii "/api/v3/query/q-1/chunks/07") = ascii "q-1" := by
  refine ⟨(isSafeChunkPath_iff.2.1 _ (by decide +kernel)).1,
    isSafeChunkPath_iff.2.2 _ (ascii "q-1") (ascii "07") ?_⟩
  exact ⟨⟨by decide, by decide, by decide +kernel⟩, by decide, by decide, by decide +kernel,
    by decide⟩

example : isTrustedTenantUrl (ascii "https://tenant.c360a.salesforce.com/") = true := by decide

end Data360
