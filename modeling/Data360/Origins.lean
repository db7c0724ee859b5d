import Data360.QueryApi.Validators

/-!
# The origin validators

Three functions decide whether the program talks to a host:
`ValidateSalesforceLoginOrigin` of `src/oauth_pkce.cpp` for the login,
`ValidDnsOrigin` of `src/salesforce_oauth_provider.cpp` for what the provider
answers, and `IsTrustedTenantUrl` of `src/query_api.cpp` for the queries.

* `OriginHost` says once what they ask of a host: DNS labels with dots between
  them, below a given domain.
* `validMyDomainHost_iff` reads it off the function that streams characters,
  `validDnsOrigin_iff` off the one that cuts labels, and `isTrustedTenantUrl_iff`
  off the one of the query client.
* `origin_validators_agree` compares them.
-/

namespace Data360

open Lib.ByteString

/-! ## The functions of the source -/

/-- `OAuthError`. -/
structure OAuthError where
  message : String
  deriving DecidableEq, Repr

/-- `IsDnsLabelChar`. -/
def isDnsLabelChar (value : UInt8) : Bool := isLower value || isDigit value || value = 45

/-- The domain of the hosts that an organisation chooses itself. -/
def myDomainSuffix : Bytes := ascii ".my.salesforce.com"

/-- What the loop of `ValidMyDomainHost` carries. -/
structure LabelState where
  labelStart : Bool := true
  labelLength : Nat := 0
  previous : UInt8 := 0
  deriving DecidableEq, Repr

/-- One character of the loop of `ValidMyDomainHost`. -/
def myDomainStep (state : LabelState) (c : UInt8) : Option LabelState :=
  if c = 46 then
    if state.labelStart ∨ state.labelLength > 63 ∨ state.previous = 45 then none
    else some { labelStart := true, labelLength := 0, previous := c }
  else if ¬ isDnsLabelChar c ∨ (state.labelStart ∧ c = 45) then none
  else some { labelStart := false, labelLength := state.labelLength + 1, previous := c }

/-- `ValidMyDomainHost`. -/
def validMyDomainHost (host : Bytes) : Bool :=
  if host.length > 253 ∨ host.length ≤ myDomainSuffix.length ∨ ¬ endsWith myDomainSuffix host then
    false
  else
    let front := substr host 0 (host.length - myDomainSuffix.length)
    match front.foldlM myDomainStep {} with
    | none => false
    | some state => !state.labelStart && state.labelLength ≤ 63 && front.getLast? != some 45

/-- `ValidateSalesforceLoginOrigin`. -/
def validateSalesforceLoginOrigin (origin : Bytes) : Except OAuthError Bytes :=
  let scheme := ascii "https://"
  if ¬ scheme.isPrefixOf origin then .error ⟨"invalid Salesforce login origin"⟩
  else
    let host := origin.drop scheme.length
    let host := if host.getLast? = some 47 then host.dropLast else host
    if host = [] ∨ containsAny (ascii "/@:?#\\") host ∨
        (host ≠ ascii "login.salesforce.com" ∧ host ≠ ascii "test.salesforce.com" ∧
          ¬ validMyDomainHost host) then
      .error ⟨"invalid Salesforce login origin"⟩
    else .ok (scheme ++ host)

/-- The loop of `ValidDnsOrigin`, from the position `start` on.  A turn goes on
behind the next dot, so the length of the host is fuel enough. -/
def dnsLabelsFrom (host : Bytes) : Nat → Nat → Bool
  | 0, _ => true
  | fuel + 1, start =>
      if start < host.length then
        let stop := findFrom [46] host start
        let length := stop.getD host.length - start
        if length = 0 ∨ length > 63 ∨ host.getD start 0 = 45 ∨
            host.getD (start + length - 1) 0 = 45 then false
        else if ¬ (substr host start length).all isDnsLabelChar then false
        else
          match stop with
          | none => true
          | some stop => dnsLabelsFrom host fuel (stop + 1)
      else true

/-- `ValidDnsOrigin`. -/
def validDnsOrigin (value suffix : Bytes) : Bool :=
  if ¬ (ascii "https://").isPrefixOf value ∨ value.length > 2048 then false
  else
    let host := value.drop 8
    if host = [] ∨ host.length > 253 ∨ containsAny (ascii "/?#@:\\%") host ∨
        host.length ≤ suffix.length ∨ ¬ endsWith suffix host then false
    else dnsLabelsFrom host host.length 0

/-! ## Hosts -/

/-- A host below a domain: DNS labels with dots between them, and something in
front of the domain. -/
structure OriginHost (suffix host : Bytes) : Prop where
  labels : ∀ label ∈ host.splitOn 46, HostLabel label
  domain : ∃ front, front ≠ [] ∧ host = front ++ suffix

theorem isDnsLabelChar_iff {c : UInt8} :
    isDnsLabelChar c = true ↔ isDigit c = true ∨ isLower c = true ∨ c = 45 := by
  simp only [isDnsLabelChar, Bool.or_eq_true, decide_eq_true_eq]
  tauto

/-- A label holds none of the characters that would end the host of a URL. -/
theorem HostLabel.clean {label : Bytes} (h : HostLabel label) {c : UInt8} (hc : c ∈ label) :
    c ∉ ascii "./?#@:\\%" := by
  have hchar := h.characters c hc
  intro hmem
  have hall :
      (ascii "./?#@:\\%").all (fun d => !(isDigit d || isLower d || d == 45)) = true := by decide
  have hnot := List.all_eq_true.mp hall c hmem
  simp only [Bool.not_eq_true', Bool.or_eq_false_iff, beq_eq_false_iff_ne] at hnot
  rcases hchar with h | h | h
  · rw [hnot.1.1] at h
    cases h
  · rw [hnot.1.2] at h
    cases h
  · exact hnot.2 h

/-- The characters of a string are dots or lie in one of its labels. -/
theorem mem_label {host : Bytes} {c : UInt8} (hc : c ∈ host) (hdot : c ≠ 46) :
    ∃ label ∈ host.splitOn 46, c ∈ label := by
  have hjoin : [46].intercalate (host.splitOn 46) = host := List.intercalate_splitOn 46
  rw [← hjoin] at hc
  clear hjoin
  generalize host.splitOn 46 = labels at hc
  induction labels with
  | nil => simp at hc
  | cons label rest ih =>
      by_cases hrest : rest = []
      · subst hrest
        rw [List.intercalate_singleton] at hc
        exact ⟨label, List.mem_cons_self, hc⟩
      · rw [List.intercalate_cons_of_ne_nil hrest] at hc
        rcases List.mem_append.mp hc with hc | hc
        · rcases List.mem_append.mp hc with hc | hc
          · exact ⟨label, List.mem_cons_self, hc⟩
          · exact absurd (List.mem_singleton.mp hc) hdot
        · obtain ⟨label', hlabel, hc⟩ := ih hc
          exact ⟨label', List.mem_cons_of_mem _ hlabel, hc⟩

/-- A host holds none of the characters that would end it. -/
theorem not_mem_of_labels {host : Bytes} (h : ∀ label ∈ host.splitOn 46, HostLabel label)
    {c : UInt8} (hc : c ∈ host) : c ∉ ascii "/?#@:\\%" := by
  by_cases hdot : c = 46
  · subst hdot
    decide
  · obtain ⟨label, hlabel, hmem⟩ := mem_label hc hdot
    intro hbad
    exact (h label hlabel).clean hmem (List.mem_cons_of_mem _ hbad)

/-- The characters in front of the first dot belong to the first label. -/
theorem splitOn_append_of_not_mem {front : Bytes} (hfront : 46 ∉ front) (rest : Bytes) :
    (front ++ rest).splitOn 46 = (rest.splitOn 46).modifyHead (front ++ ·) := by
  rw [splitOn_eq_find 46 rest]
  cases h : find [46] rest with
  | none =>
      refine List.splitOn_eq_singleton fun hmem => ?_
      exact (List.mem_append.mp hmem).elim hfront (find_byte_eq_none.mp h)
  | some i =>
      obtain ⟨-, hrest, hfirst⟩ := find_byte_eq_some.mp h
      conv => lhs; rw [hrest, ← List.append_assoc]
      exact List.splitOn_append_cons_self_of_not_mem
        (fun hmem => (List.mem_append.mp hmem).elim hfront hfirst) _

/-- A string with a first label. -/
theorem splitOn_first {front : Bytes} (hfront : 46 ∉ front) (rest : Bytes) :
    ∃ tail more, (front ++ rest).splitOn 46 = (front ++ tail) :: more ∧
    rest.splitOn 46 = tail :: more := by
  cases h : rest.splitOn 46 with
  | nil => exact absurd h (List.splitOn_ne_nil 46 rest)
  | cons tail more => exact ⟨tail, more, by rw [splitOn_append_of_not_mem hfront, h]; rfl, rfl⟩

/-- A domain is a dot and labels. -/
structure DomainSuffix (suffix : Bytes) : Prop where
  dotted : ∃ domain, suffix = 46 :: domain ∧ ∀ label ∈ domain.splitOn 46, HostLabel label

/-- A concrete string of labels, by evaluation. -/
theorem hostLabels_of_check (host : Bytes)
    (h : (host.splitOn 46).all (fun label => acceptsLabel label && label.all (!isUpper ·)) = true) :
    ∀ label ∈ host.splitOn 46, HostLabel label := by
  intro label hlabel
  have hcheck := List.all_eq_true.mp h label hlabel
  rw [Bool.and_eq_true] at hcheck
  exact hostLabel_of_acceptsLabel hcheck.1 fun c hc => by
    simpa using List.all_eq_true.mp hcheck.2 c hc

theorem DomainSuffix.ne_nil {suffix : Bytes} (h : DomainSuffix suffix) : suffix ≠ [] := by
  obtain ⟨domain, rfl, -⟩ := h.dotted
  exact List.cons_ne_nil 46 domain

/-- A domain does not end with a dot. -/
theorem DomainSuffix.last {suffix : Bytes} (h : DomainSuffix suffix) :
    suffix.getLast? ≠ some 46 := by
  obtain ⟨domain, rfl, hdomain⟩ := h.dotted
  intro hdot
  have hempty : [] ∈ domain.splitOn 46 := by
    rcases List.eq_nil_or_concat domain with rfl | ⟨most, c, rfl⟩
    · simp
    · rw [List.concat_eq_append] at hdot ⊢
      rw [← List.cons_append, List.getLast?_concat] at hdot
      rw [Option.some.inj hdot, List.splitOn_append_cons_self]
      simp
  exact (hdomain [] hempty).nonempty rfl

/-- The labels of a host below a domain are those in front of the domain. -/
theorem labels_iff {suffix : Bytes} (hsuffix : DomainSuffix suffix) (front : Bytes) :
    (∀ label ∈ (front ++ suffix).splitOn 46, HostLabel label) ↔
      ∀ label ∈ front.splitOn 46, HostLabel label := by
  obtain ⟨domain, rfl, hdomain⟩ := hsuffix.dotted
  rw [List.splitOn_append_cons_self]
  simp only [List.mem_append]
  exact ⟨fun h label hlabel => h label (.inl hlabel), fun h label hlabel =>
    hlabel.elim (h label) (hdomain label)⟩

/-- A host that ends with a suffix and is longer. -/
theorem endsWith_iff {suffix host : Bytes} :
    suffix.length < host.length ∧ endsWith suffix host = true ↔
      ∃ front, front ≠ [] ∧ host = front ++ suffix := by
  rw [endsWith, List.isSuffixOf_iff_suffix]
  constructor
  · rintro ⟨hlong, front, rfl⟩
    refine ⟨front, ?_, rfl⟩
    rintro rfl
    simp at hlong
  · rintro ⟨front, hne, rfl⟩
    have hpos := List.length_pos_iff.mpr hne
    exact ⟨by rw [List.length_append]; omega, List.suffix_append _ _⟩

/-! ## The host of a My Domain login -/

/-- What the loop of `ValidMyDomainHost` knows after the characters `label`
since the last dot. -/
structure Streams (state : LabelState) (label : Bytes) : Prop where
  start : state.labelStart = true ↔ label = []
  length : state.labelLength = label.length
  previous : label ≠ [] → label.getLast? = some state.previous
  characters : ∀ c ∈ label, isDnsLabelChar c = true
  first : label.head? ≠ some 45

theorem streams_init (previous : UInt8) : Streams { previous } [] := by
  constructor <;> simp

/-- What the loop accepts at its end. -/
def LabelState.Accepts (state : LabelState) : Prop :=
  state.labelStart = false ∧ state.labelLength ≤ 63 ∧ state.previous ≠ 45

theorem Streams.accepts_iff {state : LabelState} {label : Bytes} (h : Streams state label) :
    state.Accepts ↔ HostLabel label := by
  constructor
  · rintro ⟨hstart, hlength, hprevious⟩
    have hne : label ≠ [] := fun hnil => by simp [h.start.mpr hnil] at hstart
    refine ⟨hne, h.length ▸ hlength, fun c hc => isDnsLabelChar_iff.mp (h.characters c hc),
      h.first, ?_⟩
    rw [h.previous hne]
    exact fun heq => hprevious (Option.some.inj heq)
  · rintro ⟨hne, hlength, -, -, hlast⟩
    refine ⟨Bool.eq_false_iff.mpr fun hstart => hne (h.start.mp hstart), h.length ▸ hlength, ?_⟩
    rintro heq
    exact hlast (heq ▸ h.previous hne)

theorem not_dot_of_label {c : UInt8} (h : isDnsLabelChar c = true) : c ≠ 46 := by
  rintro rfl
  exact absurd h (by decide)

/-- The loop accepts the labels of a string. -/
theorem stream_iff (rest : Bytes) {state : LabelState} {label : Bytes} (h : Streams state label) :
    (∃ final, rest.foldlM myDomainStep state = some final ∧ final.Accepts) ↔
      ∀ part ∈ (label ++ rest).splitOn 46, HostLabel part := by
  have hdot : 46 ∉ label := fun hmem => not_dot_of_label (h.characters 46 hmem) rfl
  induction rest generalizing state label with
  | nil =>
      rw [List.append_nil, List.splitOn_eq_singleton hdot]
      simp [h.accepts_iff]
  | cons c rest ih =>
      rw [List.foldlM_cons]
      by_cases hc : c = 46
      · subst hc
        rw [List.splitOn_append_cons_self_of_not_mem hdot]
        -- a dot: the label that it ends must be complete
        have hends : (state.labelStart = true ∨ state.labelLength > 63 ∨ state.previous = 45) ↔
            ¬ HostLabel label := by
          rw [← h.accepts_iff, LabelState.Accepts]
          cases state.labelStart <;> by_cases hlast : state.previous = 45 <;> simp [hlast]
        by_cases hlabel : HostLabel label
        · rw [myDomainStep, if_pos rfl, if_neg fun hbad => hends.mp hbad hlabel]
          have hrest := ih (streams_init 46) (by simp)
          rw [List.nil_append] at hrest
          simp only [Option.bind_eq_bind, Option.bind_some, List.forall_mem_cons, hlabel, true_and]
          exact hrest
        · rw [myDomainStep, if_pos rfl, if_pos (hends.mpr hlabel)]
          simp [hlabel]
      · have hdot' : 46 ∉ label ++ [c] := fun hmem =>
          (List.mem_append.mp hmem).elim hdot fun hmem => hc (List.mem_singleton.mp hmem).symm
        by_cases hbad : ¬ isDnsLabelChar c = true ∨ (state.labelStart = true ∧ c = 45)
        · -- a character that no label can have here
          rw [myDomainStep, if_neg hc, if_pos hbad]
          refine iff_of_false (by simp) fun hall => ?_
          obtain ⟨tail, more, hsplit, -⟩ := splitOn_first hdot' rest
          rw [← List.append_cons] at hsplit
          have hlabel := hall _ (hsplit ▸ List.mem_cons_self)
          rcases hbad with hchar | ⟨hstart, rfl⟩
          · exact hchar (isDnsLabelChar_iff.mpr (hlabel.characters c (by simp)))
          · obtain rfl := h.start.mp hstart
            exact hlabel.first rfl
        · rw [myDomainStep, if_neg hc, if_neg hbad]
          obtain ⟨hchar, hfirst⟩ := not_or.mp hbad
          have hchar := not_not.mp hchar
          have hnext :
              Streams { labelStart := false, labelLength := state.labelLength + 1, previous := c }
              (label ++ [c]) := by
            refine ⟨by simp, by simp [h.length], fun _ => by simp, fun d hd => ?_, ?_⟩
            · rcases List.mem_append.mp hd with hd | hd
              · exact h.characters d hd
              · exact List.mem_singleton.mp hd ▸ hchar
            · cases label with
              | nil =>
                  intro heq
                  exact hfirst ⟨h.start.mpr rfl, Option.some.inj heq⟩
              | cons d label => exact h.first
          have hrest := ih hnext hdot'
          rw [← List.append_cons] at hrest
          exact hrest

theorem previous_of_step {state next : LabelState} {c : UInt8}
    (h : myDomainStep state c = some next) : next.previous = c := by
  unfold myDomainStep at h
  split_ifs at h <;> cases h <;> rfl

/-- The loop ends with the last character in its hand. -/
theorem previous_of_loop {front : Bytes} {state final : LabelState} (hne : front ≠ [])
    (h : front.foldlM myDomainStep state = some final) : front.getLast? = some final.previous := by
  obtain ⟨most, c, rfl⟩ := (List.eq_nil_or_concat front).resolve_left hne
  rw [List.concat_eq_append, List.foldlM_append] at h
  obtain ⟨middle, -, hlast⟩ := Option.bind_eq_some_iff.mp h
  obtain ⟨next, hstep, hnext⟩ := Option.bind_eq_some_iff.mp hlast
  obtain rfl := Option.some.inj hnext
  rw [List.concat_eq_append, List.getLast?_concat, previous_of_step hstep]

theorem domain_myDomain : DomainSuffix myDomainSuffix :=
  ⟨_, rfl, hostLabels_of_check (ascii "my.salesforce.com") (by decide)⟩

/-- `ValidMyDomainHost` accepts the short hosts below its domain. -/
theorem validMyDomainHost_iff (host : Bytes) :
    validMyDomainHost host = true ↔ host.length ≤ 253 ∧ OriginHost myDomainSuffix host := by
  unfold validMyDomainHost
  split
  · rename_i hrefused
    refine iff_of_false (by simp) fun ⟨hshort, hhost⟩ => ?_
    obtain ⟨hlong, hends⟩ := endsWith_iff.mpr hhost.domain
    rcases hrefused with h | h | h
    · omega
    · omega
    · exact h hends
  · rename_i hchecked
    simp only [not_or, not_lt, not_le, not_not] at hchecked
    obtain ⟨hshort, hlong, hends⟩ := hchecked
    obtain ⟨front, hne, rfl⟩ := endsWith_iff.mp ⟨hlong, hends⟩
    have hfront : substr (front ++ myDomainSuffix) 0
        ((front ++ myDomainSuffix).length - myDomainSuffix.length) = front := by
      simp [substr]
    have hstream := stream_iff front (streams_init 0)
    rw [List.nil_append, ← labels_iff domain_myDomain] at hstream
    have hlabels : OriginHost myDomainSuffix (front ++ myDomainSuffix) ↔
        ∀ label ∈ (front ++ myDomainSuffix).splitOn 46, HostLabel label :=
      ⟨fun h => h.labels, fun h => ⟨h, front, hne, rfl⟩⟩
    rw [and_iff_right hshort, hlabels, ← hstream]
    dsimp only
    rw [hfront]
    cases hloop : front.foldlM myDomainStep {} with
    | none => simp
    | some final =>
        have hlast := previous_of_loop hne hloop
        simp [LabelState.Accepts, hlast, and_assoc]

/-! ## The host of an origin -/

/-- One turn of the loop of `ValidDnsOrigin` looks at a label. -/
theorem labelChecks_iff {host : Bytes} {start length : Nat} (h : start + length ≤ host.length) :
    (¬ (length = 0 ∨ length > 63 ∨ host.getD start 0 = 45 ∨
        host.getD (start + length - 1) 0 = 45) ∧
      (substr host start length).all isDnsLabelChar = true) ↔
    HostLabel (substr host start length) := by
  have hlength : (substr host start length).length = length := by
    rw [substr, List.length_take, List.length_drop]
    omega
  by_cases hzero : length = 0
  · subst hzero
    refine iff_of_false (fun h => h.1 (.inl rfl)) fun h => h.nonempty ?_
    rw [substr, List.take_zero]
  · have hhead : (substr host start length).head? = some (host.getD start 0) := by
      rw [substr, List.head?_take, if_neg hzero, List.head?_drop, List.getD_eq_getElem?_getD,
        List.getElem?_eq_getElem (by omega)]
      rfl
    have hlast : (substr host start length).getLast? = some (host.getD (start + length - 1) 0) := by
      rw [List.getLast?_eq_getElem?, hlength, substr, List.getElem?_take, if_pos (by omega),
        List.getElem?_drop, List.getD_eq_getElem?_getD,
        show start + (length - 1) = start + length - 1
          from by omega, List.getElem?_eq_getElem (by omega)]
      rfl
    simp only [not_or, List.all_eq_true, isDnsLabelChar_iff]
    constructor
    · rintro ⟨⟨-, hshort, hfirst, hend⟩, hall⟩
      refine ⟨fun hnil => hzero ?_, by omega, hall, ?_, ?_⟩
      · rw [← hlength, hnil]
        rfl
      · rw [hhead]
        exact fun heq => hfirst (Option.some.inj heq)
      · rw [hlast]
        exact fun heq => hend (Option.some.inj heq)
    · rintro ⟨-, hshort, hall, hfirst, hend⟩
      rw [hhead] at hfirst
      rw [hlast] at hend
      exact ⟨⟨hzero, by omega, fun heq => hfirst (heq ▸ rfl), fun heq => hend (heq ▸ rfl)⟩, hall⟩

/-- The loop of `ValidDnsOrigin` sees all labels of a host that does not end
with a dot. -/
theorem dnsLabelsFrom_iff {host : Bytes} (hlast : host.getLast? ≠ some 46) {fuel start : Nat}
    (hstart : start < host.length) (hfuel : host.length - start ≤ fuel) :
    dnsLabelsFrom host fuel start = true ↔
      ∀ label ∈ (host.drop start).splitOn 46, HostLabel label := by
  induction fuel generalizing start with
  | zero => omega
  | succ fuel ih =>
      rw [dnsLabelsFrom, if_pos hstart, splitOn_eq_find, findFrom]
      dsimp only
      cases hfind : find [46] (host.drop start) with
      | none =>
          have hchecks := @labelChecks_iff host start (host.length - start) (by omega)
          have hall : substr host start (host.length - start) = host.drop start := by
            rw [substr, List.take_of_length_le (by rw [List.length_drop])]
          rw [hall] at hchecks
          simp only [Option.map_none, Option.getD_none, List.mem_singleton, forall_eq,
            ← hchecks, hall]
          split_ifs with hbad hchars
          · exact iff_of_false (by simp) fun h => h.1 hbad
          · exact iff_of_true rfl ⟨hbad, hchars⟩
          · exact iff_of_false (by simp) fun h => hchars h.2
      | some i =>
          obtain ⟨hi, hvalue, -⟩ := find_byte_eq_some.mp hfind
          rw [List.length_drop] at hi
          have hchecks := @labelChecks_iff host start i (by omega)
          have hdrop : (host.drop start).drop (i + 1) = host.drop (i + start + 1) := by
            rw [List.drop_drop]
            congr 1
            omega
          have hmore : i + start + 1 < host.length := by
            by_contra hend
            have hnil : (host.drop start).drop (i + 1) = [] := by
              rw [hdrop, List.drop_eq_nil_of_le (by omega)]
            rw [hnil] at hvalue
            have hback : host = host.take start ++ (host.drop start).take i ++ [46] := by
              rw [List.append_assoc, ← hvalue, List.take_append_drop]
            exact hlast (by rw [hback, List.getLast?_concat])
          have hrest := ih hmore (by omega)
          simp only [Option.map_some, Option.getD_some, Nat.add_sub_cancel, List.mem_cons,
            forall_eq_or_imp, hdrop]
          rw [← hrest, ← substr, ← hchecks]
          split_ifs with hbad hchars
          · exact iff_of_false (by simp) fun h => h.1.1 hbad
          · exact ⟨fun h => ⟨⟨hbad, hchars⟩, h⟩, And.right⟩
          · exact iff_of_false (by simp) fun h => hchars h.1.2

/-- `ValidDnsOrigin` accepts the origins of the short hosts below the domain. -/
theorem validDnsOrigin_iff {suffix : Bytes} (hsuffix : DomainSuffix suffix) (value : Bytes) :
    validDnsOrigin value suffix = true ↔
      ∃ host, value = ascii "https://" ++ host ∧ host.length ≤ 253 ∧ OriginHost suffix host := by
  unfold validDnsOrigin
  split
  · rename_i hrefused
    refine iff_of_false (by simp) ?_
    rintro ⟨host, rfl, hshort, -⟩
    rcases hrefused with h | h
    · exact h (List.isPrefixOf_iff_prefix.mpr (List.prefix_append _ _))
    · rw [List.length_append, show (ascii "https://").length = 8 from rfl] at h
      omega
  · rename_i hchecked
    obtain ⟨hscheme, -⟩ := not_or.mp hchecked
    obtain ⟨host, rfl⟩ := List.isPrefixOf_iff_prefix.mp (not_not.mp hscheme)
    have hdrop : (ascii "https://" ++ host).drop 8 = host := rfl
    rw [hdrop]
    have hthe : (∃ host', ascii "https://" ++ host = ascii "https://" ++ host' ∧
        host'.length ≤ 253 ∧ OriginHost suffix host') ↔ host.length ≤ 253 ∧
        OriginHost suffix host :=
      ⟨fun ⟨host', heq, h⟩ => List.append_cancel_left heq ▸ h, fun h => ⟨host, rfl, h⟩⟩
    rw [hthe]
    dsimp only
    split
    · rename_i hrefused
      refine iff_of_false (by simp) ?_
      rintro ⟨hshort, hhost⟩
      obtain ⟨hlong, hends⟩ := endsWith_iff.mpr hhost.domain
      rcases hrefused with h | h | h | h | h
      · rw [h] at hlong
        exact absurd hlong (Nat.not_lt_zero _)
      · omega
      · obtain ⟨c, hc, hmem⟩ := List.any_eq_true.mp h
        exact not_mem_of_labels hhost.labels hc (List.contains_iff_mem.mp hmem)
      · omega
      · exact h hends
    · rename_i hgood
      simp only [not_or, not_lt, not_le, not_not] at hgood
      obtain ⟨hne, hshort, -, hlong, hends⟩ := hgood
      have hdomain := endsWith_iff.mp ⟨hlong, hends⟩
      have hlast : host.getLast? ≠ some 46 := by
        obtain ⟨front, -, rfl⟩ := hdomain
        rw [List.getLast?_append_of_ne_nil _ hsuffix.ne_nil]
        exact hsuffix.last
      rw [dnsLabelsFrom_iff hlast (List.length_pos_iff.mpr hne) (by omega), List.drop_zero]
      exact ⟨fun h => ⟨hshort, h, hdomain⟩, fun h => h.2.labels⟩

/-- The origin of a host does not end with a slash. -/
theorem OriginHost.noSlash {suffix host : Bytes} (h : OriginHost suffix host) :
    host.getLast? ≠ some 47 := fun hslash =>
  not_mem_of_labels h.labels (List.mem_of_getLast? hslash) (by decide)

theorem domain_tenant : DomainSuffix tenantSuffix :=
  ⟨_, rfl, hostLabels_of_check (ascii "c360a.salesforce.com") (by decide)⟩

/-- The characters of a label are plain ASCII. -/
theorem plain_of_label {c : UInt8} (h : isDnsLabelChar c = true) :
    (decide (c > 127) || isCntrl c || isUpper c) = false :=
  forall_byte (P := fun c => isDnsLabelChar c = true →
    (decide (c > 127) || isCntrl c || isUpper c) = false) (by decide +kernel) c h

theorem acceptsLabel_of_hostLabel {label : Bytes} (h : HostLabel label) :
    acceptsLabel label = true := by
  have halnum {c : UInt8} (hc : c ∈ label) (hdash : c ≠ 45) : isAlnum c = true := by
    rcases h.characters c hc with hc | hc | hc
    · simp [isAlnum, hc]
    · simp [isAlnum, hc]
    · exact absurd hc hdash
  obtain ⟨first, hfirst⟩ : ∃ first, label.head? = some first :=
    Option.isSome_iff_exists.mp (List.isSome_head?.mpr h.nonempty)
  obtain ⟨last, hlast⟩ : ∃ last, label.getLast? = some last :=
    Option.isSome_iff_exists.mp (by simpa using h.nonempty)
  simp only [acceptsLabel, hfirst, hlast, Option.any_some, Bool.and_eq_true, decide_eq_true_eq,
    List.all_eq_true, Bool.or_eq_true]
  refine ⟨⟨⟨⟨fun hnil => h.nonempty (List.length_eq_zero_iff.mp hnil), h.short⟩, ?_⟩, ?_⟩,
    fun c hc => ?_⟩
  · exact halnum (List.mem_of_head? hfirst) fun heq => h.first (heq ▸ hfirst)
  · exact halnum (List.mem_of_getLast? hlast) fun heq => h.last (heq ▸ hlast)
  · by_cases hdash : c = 45
    · exact .inr hdash
    · exact .inl (halnum hc hdash)

theorem acceptsLabels_of_forall {labels : List Bytes} (h : ∀ label ∈ labels, HostLabel label) :
    acceptsLabels labels = true := by
  induction labels with
  | nil => rfl
  | cons label rest ih =>
      have hlabel := acceptsLabel_of_hostLabel (h label List.mem_cons_self)
      have hrest := ih fun other hother => h other (List.mem_cons_of_mem _ hother)
      cases rest with
      | nil => simp [acceptsLabels, hlabel]
      | cons next more => simp [acceptsLabels, hlabel, hrest]

/-- A host below the tenant domain, as the query client sees it. -/
theorem TenantHost.origin {host : Bytes} (h : TenantHost host) : OriginHost tenantSuffix host := by
  obtain ⟨labels, rfl, hlabels⟩ := h.labels
  refine ⟨?_, h.domain⟩
  have hne : labels ≠ [] := by
    rintro rfl
    obtain ⟨tenant, hne, hhost⟩ := h.domain
    exact hne (List.append_eq_nil_iff.mp hhost.symm).1
  rw [List.splitOn_intercalate _ (fun label hlabel hdot => ?_) hne]
  · exact hlabels
  · exact (hlabels label hlabel).clean hdot (by decide)

/-- `IsTrustedTenantUrl` trusts the origins of the hosts below the tenant domain,
with at most one slash. -/
theorem isTrustedTenantUrl_iff (url : Bytes) :
    isTrustedTenantUrl url = true ↔
      ∃ host, (url = ascii "https://" ++ host ∨ url = ascii "https://" ++ host ++ [47]) ∧
        OriginHost tenantSuffix host := by
  constructor
  · intro h
    obtain ⟨host, htenant, hurl, -⟩ := tenantHost_of_isTrustedTenantUrl h
    exact ⟨host, hurl, htenant.origin⟩
  · rintro ⟨host, hurl, hhost⟩
    obtain ⟨hlong, hends⟩ := endsWith_iff.mpr hhost.domain
    have hne : host ≠ [] := fun hnil => by simp [hnil] at hlong
    have hrest : ∃ rest, url = ascii "https://" ++ rest ∧
        (if rest.getLast? = some 47 then rest.dropLast else rest) = host := by
      rcases hurl with rfl | rfl
      · exact ⟨host, rfl, if_neg hhost.noSlash⟩
      · refine ⟨host ++ [47], by rw [List.append_assoc], ?_⟩
        rw [if_pos List.getLast?_concat, List.dropLast_concat]
    obtain ⟨rest, rfl, htrim⟩ := hrest
    have hclean : ¬ (host = [] ∨ containsAny (ascii "/?#@:\\%") host = true) := by
      refine not_or.mpr ⟨hne, fun hany => ?_⟩
      obtain ⟨c, hc, hmem⟩ := List.any_eq_true.mp hany
      exact not_mem_of_labels hhost.labels hc (List.contains_iff_mem.mp hmem)
    have hplain : ¬ (host.any fun c => c > 127 || isCntrl c || isUpper c) = true := by
      intro hany
      obtain ⟨c, hc, hbad⟩ := List.any_eq_true.mp hany
      by_cases hdot : c = 46
      · subst hdot
        exact absurd hbad (by decide)
      · obtain ⟨label, hlabel, hmem⟩ := mem_label hc hdot
        rw [plain_of_label (isDnsLabelChar_iff.mpr ((hhost.labels label hlabel).characters c hmem))]
          at hbad
        cases hbad
    rw [isTrustedTenantUrl, afterLiteral_append]
    simp only [htrim]
    rw [if_neg hclean, if_neg hplain, if_neg (by simp [hends, Nat.not_le.mpr hlong])]
    exact acceptsLabels_of_forall hhost.labels

/-! ## The login origin -/

/-- A host that `ValidateSalesforceLoginOrigin` accepts. -/
def LoginHost (host : Bytes) : Prop :=
  host = ascii "login.salesforce.com" ∨ host = ascii "test.salesforce.com" ∨
    host.length ≤ 253 ∧ OriginHost myDomainSuffix host

/-- A login host passes the checks of `ValidateSalesforceLoginOrigin`. -/
theorem LoginHost.clean {host : Bytes} (h : LoginHost host) :
    host ≠ [] ∧ host.getLast? ≠ some 47 ∧ containsAny (ascii "/@:?#\\") host = false ∧
      ¬ (host ≠ ascii "login.salesforce.com" ∧ host ≠ ascii "test.salesforce.com" ∧
        ¬ validMyDomainHost host = true) := by
  rcases h with rfl | rfl | ⟨hshort, hhost⟩
  · decide
  · decide
  · refine ⟨?_, hhost.noSlash, ?_,
      fun h => h.2.2 ((validMyDomainHost_iff host).mpr ⟨hshort, hhost⟩)⟩
    · rintro rfl
      obtain ⟨front, hne, hnil⟩ := hhost.domain
      exact hne (List.append_eq_nil_iff.mp hnil.symm).1
    · rw [containsAny, List.any_eq_false]
      intro c hc hmem
      have hsub : (ascii "/@:?#\\").all (fun d => (ascii "/?#@:\\%").contains d) = true := by decide
      have hother := List.all_eq_true.mp hsub c (List.contains_iff_mem.mp hmem)
      exact not_mem_of_labels hhost.labels hc (List.contains_iff_mem.mp hother)

/-- `ValidateSalesforceLoginOrigin` takes one slash off the origin of a login
host. -/
theorem validateSalesforceLoginOrigin_eq_ok {value origin : Bytes} :
    validateSalesforceLoginOrigin value = .ok origin ↔
      ∃ host, LoginHost host ∧ origin = ascii "https://" ++ host ∧
        (value = origin ∨ value = origin ++ [47]) := by
  constructor
  · intro h
    unfold validateSalesforceLoginOrigin at h
    dsimp only at h
    split at h
    · cases h
    · rename_i hscheme
      obtain ⟨rest, rfl⟩ := List.isPrefixOf_iff_prefix.mp (not_not.mp hscheme)
      rw [List.drop_left] at h
      generalize hhost : (if rest.getLast? = some 47 then rest.dropLast else rest) = host at h
      split at h
      · cases h
      · rename_i hgood
        obtain rfl := Except.ok.inj h
        simp only [not_or, not_and, not_not] at hgood
        refine ⟨host, ?_, rfl, ?_⟩
        · by_cases hlogin : host = ascii "login.salesforce.com"
          · exact .inl hlogin
          · by_cases htest : host = ascii "test.salesforce.com"
            · exact .inr (.inl htest)
            · exact .inr (.inr ((validMyDomainHost_iff host).mp (hgood.2.2 hlogin htest)))
        · split at hhost
          · rename_i hslash
            rw [← hhost, List.append_assoc, List.dropLast_append_getLast? 47 hslash]
            exact .inr rfl
          · exact .inl (hhost ▸ rfl)
  · rintro ⟨host, hlogin, rfl, hvalue⟩
    obtain ⟨hne, hslash, hclean, hknown⟩ := hlogin.clean
    have hrest : ∃ rest, value = ascii "https://" ++ rest ∧
        (if rest.getLast? = some 47 then rest.dropLast else rest) = host := by
      rcases hvalue with rfl | rfl
      · exact ⟨host, rfl, if_neg hslash⟩
      · refine ⟨host ++ [47], by rw [List.append_assoc], ?_⟩
        rw [if_pos List.getLast?_concat, List.dropLast_concat]
    obtain ⟨rest, rfl, htrim⟩ := hrest
    have hscheme : (ascii "https://").isPrefixOf (ascii "https://" ++ rest) = true :=
      List.isPrefixOf_iff_prefix.mpr (List.prefix_append _ _)
    unfold validateSalesforceLoginOrigin
    dsimp only
    rw [if_neg (not_not.mpr hscheme), List.drop_left, htrim,
      if_neg (not_or.mpr ⟨hne, not_or.mpr ⟨Bool.eq_false_iff.mp hclean, hknown⟩⟩)]

/-! ## The validators agree -/

theorem domain_salesforce : DomainSuffix (ascii ".salesforce.com") :=
  ⟨_, rfl, hostLabels_of_check (ascii "salesforce.com") (by decide)⟩

/-- A login host lies below the domain of the provider. -/
theorem LoginHost.below {host : Bytes} (h : LoginHost host) :
    host.length ≤ 253 ∧ OriginHost (ascii ".salesforce.com") host := by
  have hfixed (front : Bytes) (hne : front ≠ []) (hshort : front.length ≤ 200)
      (hlabels : ∀ label ∈ front.splitOn 46, HostLabel label) :
      (front ++ ascii ".salesforce.com").length ≤ 253 ∧
        OriginHost (ascii ".salesforce.com") (front ++ ascii ".salesforce.com") := by
    refine ⟨?_, (labels_iff domain_salesforce front).mpr hlabels, front, hne, rfl⟩
    rw [List.length_append, show (ascii ".salesforce.com").length = 15 from rfl]
    omega
  rcases h with rfl | rfl | ⟨hshort, hlabels, front, hne, rfl⟩
  · exact hfixed (ascii "login") (by decide) (by decide) (hostLabels_of_check _ (by decide))
  · exact hfixed (ascii "test") (by decide) (by decide) (hostLabels_of_check _ (by decide))
  · refine ⟨hshort, hlabels, front ++ ascii ".my", by simp [hne], ?_⟩
    rw [List.append_assoc]
    rfl

/-- The three validators agree on what an origin is. -/
theorem origin_validators_agree :
    (∀ host, validMyDomainHost host = true ↔
      validDnsOrigin (ascii "https://" ++ host) (ascii ".my.salesforce.com") = true) ∧
    (∀ value, validDnsOrigin value (ascii ".c360a.salesforce.com") = true →
      isTrustedTenantUrl value = true) ∧
    (∀ value, value.getLast? ≠ some 47 → (value.drop 8).length ≤ 253 →
      isTrustedTenantUrl value = true →
        validDnsOrigin value (ascii ".c360a.salesforce.com") = true) ∧
    ∀ value origin, validateSalesforceLoginOrigin value = .ok origin →
      validDnsOrigin origin (ascii ".salesforce.com") = true ∧ origin.getLast? ≠ some 47 ∧
        validateSalesforceLoginOrigin origin = .ok origin := by
  refine ⟨fun host => ?_, fun value h => ?_, fun value hslash hshort h => ?_,
    fun value origin h => ?_⟩
  · rw [validMyDomainHost_iff]
    refine Iff.trans ?_ (validDnsOrigin_iff domain_myDomain (ascii "https://" ++ host)).symm
    exact ⟨fun h => ⟨host, rfl, h⟩, fun ⟨_, heq, h⟩ => List.append_cancel_left heq ▸ h⟩
  · obtain ⟨host, rfl, -, hhost⟩ := (validDnsOrigin_iff domain_tenant value).mp h
    exact (isTrustedTenantUrl_iff _).mpr ⟨host, .inl rfl, hhost⟩
  · obtain ⟨host, rfl | rfl, hhost⟩ := (isTrustedTenantUrl_iff value).mp h
    · exact (validDnsOrigin_iff domain_tenant _).mpr ⟨host, rfl, hshort, hhost⟩
    · exact absurd List.getLast?_concat hslash
  · obtain ⟨host, hlogin, rfl, -⟩ := validateSalesforceLoginOrigin_eq_ok.mp h
    obtain ⟨hne, hslash, -⟩ := hlogin.clean
    refine ⟨(validDnsOrigin_iff domain_salesforce _).mpr ⟨host, rfl, hlogin.below⟩, ?_,
      validateSalesforceLoginOrigin_eq_ok.mpr ⟨host, hlogin, rfl, .inl rfl⟩⟩
    rw [List.getLast?_append_of_ne_nil _ hne]
    exact hslash

end Data360
