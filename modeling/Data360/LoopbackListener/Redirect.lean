import Data360.LoopbackListener.Acceptor
import Data360.SalesforceOAuthProvider.Forms

/-!
# The redirect

The provider answers a login with a redirect to the callback URL.  Its answer is a list of
fields in the query, and the browser sends it with its own headers.

* `writeLines_blank` says that the request of a browser ends at its first blank line.
* `queryItems_writeFields` says as what the listener reads a list of fields.
* `redirect_read` says that the listener gets the fields that the provider has sent, and
  which fields it takes.
-/

namespace Data360

open Lib Lib.ByteString

/-! ## The request of a browser -/

/-- A header, as a browser writes it. -/
def writeHeader (header : Bytes × Bytes) : Bytes := header.1 ++ 58 :: 32 :: header.2

/-- The request with which a browser follows a redirect with these fields. -/
def redirectRequest (fields headers : List (Bytes × Bytes)) : Bytes :=
  callbackPrefix ++ Percent.writeFields fields ++ callbackSuffix ++ crlf ++
    crlf.intercalate (headers.map writeHeader) ++ (crlf ++ crlf)

/-- A header whose value has no blanks around it. -/
structure BrowserHeader (header : Bytes × Bytes) : Prop where
  nonempty : header.1 ≠ []
  key : ∀ c ∈ header.1, isAlnum c = true ∨ c = 45
  value : ∀ c ∈ header.2, 0x20 ≤ c ∨ c = 9
  trimmed : trimBlanks header.2 = header.2

/-- The headers of a request without a body to the callback URL. -/
structure BrowserHeaders (headers : List (Bytes × Bytes)) : Prop where
  each : ∀ header ∈ headers, BrowserHeader header
  noBody : ∀ header ∈ headers, ¬ AnnouncesBody header
  host : hosts headers = [callbackHost]

/-- The field has a name, and the listener takes both of its parts. -/
structure CallbackField (field : Bytes × Bytes) : Prop where
  nonempty : field.1 ≠ []
  name : CallbackText field.1
  value : CallbackText field.2

/-! ## Lines -/

/-- A text without a carriage return holds no line end. -/
theorem not_infix_crlf {text : Bytes} (h : 13 ∉ text) : ¬ crlf <:+: text := by
  rintro ⟨front, back, rfl⟩
  simp [crlf] at h

/-- A text with a line end goes up to the first one, and on behind it. -/
theorem exists_first_crlf {text : Bytes} (h : crlf <:+: text) :
    ∃ front back, text = front ++ crlf ++ back ∧ ¬ crlf <:+: front := by
  obtain ⟨i, hfind⟩ := Option.isSome_iff_exists.mp (isSome_find.mpr h)
  exact ⟨_, _, find_spec hfind, not_infix_of_find (by decide) hfind⟩

/-- The lines, each with its line end, and an empty one behind them. -/
def writeLines (lines : List Bytes) : Bytes := lines.flatMap (· ++ crlf) ++ crlf

theorem writeLines_cons (line : Bytes) (lines : List Bytes) :
    writeLines (line :: lines) = line ++ crlf ++ writeLines lines := by
  rw [writeLines, List.flatMap_cons, List.append_assoc, ← writeLines]

theorem writeLines_eq {lines : List Bytes} (h : lines ≠ []) :
    crlf.intercalate lines ++ (crlf ++ crlf) = writeLines lines := by
  induction lines with
  | nil => exact absurd rfl h
  | cons line lines ih =>
      rw [writeLines_cons]
      by_cases hlast : lines = []
      · subst hlast
        simp [writeLines]
      · rw [List.intercalate_cons_of_ne_nil hlast, List.append_assoc, ih hlast]

/-- Lines that are not empty end at their first blank line. -/
theorem writeLines_blank {lines : List Bytes}
    (hlines : ∀ line ∈ lines, line ≠ [] ∧ ¬ crlf <:+: line) {front back : Bytes}
    (h : writeLines lines = front ++ (crlf ++ crlf) ++ back) : back = [] := by
  induction lines generalizing front with
  | nil =>
      have hlength := congrArg List.length h
      simp only [writeLines, List.flatMap_nil, List.nil_append, List.length_append,
        show crlf.length = 2 from rfl] at hlength
      omega
  | cons line lines ih =>
      obtain ⟨⟨-, hclean⟩, hrest⟩ := List.forall_mem_cons.mp hlines
      rw [writeLines_cons] at h
      by_cases hinside : crlf <:+: front
      · -- the blank line is behind the first line end
        obtain ⟨first, later, rfl, hfirst⟩ := exists_first_crlf hinside
        have hsplit : line ++ crlf ++ writeLines lines
            = first ++ crlf ++ (later ++ (crlf ++ crlf) ++ back) := by
          rw [h]
          simp only [List.append_assoc]
        exact ih hrest (append_crlf_inj hclean hfirst hsplit).2
      · -- the line is followed by an empty one, so it is the last
        have hsplit : line ++ crlf ++ writeLines lines = front ++ crlf ++ (crlf ++ back) := by
          rw [h]
          simp only [List.append_assoc]
        obtain ⟨-, hblank⟩ := append_crlf_inj hclean hinside hsplit
        cases lines with
        | nil =>
            have hend : crlf ++ back = crlf ++ [] := by
              rw [← hblank, List.append_nil]
              rfl
            exact List.append_cancel_left hend
        | cons next lines =>
            obtain ⟨hne, hnext⟩ := hrest next List.mem_cons_self
            rw [writeLines_cons] at hblank
            have hempty : next ++ crlf ++ writeLines lines = [] ++ crlf ++ back := hblank
            exact absurd (append_crlf_inj hnext (by decide) hempty).1 hne

/-! ## The headers -/

/-- A header is read back from its line. -/
theorem BrowserHeader.line {header : Bytes × Bytes} (h : BrowserHeader header) :
    HeaderLine (writeHeader header) header where
  parts := by
    refine ⟨32 :: header.2, rfl, ?_⟩
    rw [trimBlanks, List.dropWhile_cons_of_pos (by decide)]
    exact h.trimmed
  nonempty := h.nonempty
  key := h.key
  value := h.value

/-- No header holds a line end. -/
theorem BrowserHeader.clean {header : Bytes × Bytes} (h : BrowserHeader header) :
    ¬ crlf <:+: writeHeader header := by
  apply not_infix_crlf
  intro hmem
  rcases List.mem_append.mp hmem with hkey | hrest
  · exact absurd (h.key 13 hkey) (by decide)
  · have hvalue : 13 ∈ header.2 := by simpa using hrest
    exact absurd (h.value 13 hvalue) (by decide)

theorem BrowserHeaders.ne_nil {headers : List (Bytes × Bytes)} (h : BrowserHeaders headers) :
    headers ≠ [] := by
  intro hnil
  have hhost := h.host
  rw [hnil] at hhost
  cases hhost

/-- The headers are read back from their lines. -/
theorem BrowserHeaders.callbackHeaders {headers : List (Bytes × Bytes)}
    (h : BrowserHeaders headers) : CallbackHeaders (headers.map writeHeader) headers where
  each := by
    rw [List.forall₂_map_left_iff, List.forall₂_same]
    exact fun header hmem => (h.each header hmem).line
  noBody := h.noBody
  host := h.host

/-! ## The request -/

/-- The request line holds no line end but its own. -/
theorem requestLine_clean (fields : List (Bytes × Bytes)) :
    ¬ crlf <:+: callbackPrefix ++ Percent.writeFields fields ++ callbackSuffix := by
  have hfields : 13 ∉ Percent.writeFields fields :=
    Percent.not_mem_writeFields (by decide) (by decide) fields
  apply not_infix_crlf
  simp only [List.mem_append, not_or]
  exact ⟨⟨by decide, hfields⟩, by decide⟩

/-- The request of a browser is the request line, the headers and an empty line. -/
theorem redirectRequest_eq {fields headers : List (Bytes × Bytes)} (h : headers ≠ []) :
    redirectRequest fields headers
      = writeLines ((callbackPrefix ++ Percent.writeFields fields ++ callbackSuffix) ::
          headers.map writeHeader) := by
  rw [writeLines_cons, ← writeLines_eq (by simpa using h), redirectRequest, List.append_assoc _ _
    (crlf ++ crlf)]

/-- The first blank line of the request is its end. -/
theorem redirectRequest_blank {fields headers : List (Bytes × Bytes)}
    (h : BrowserHeaders headers) : EndsAtBlankLine (redirectRequest fields headers) where
  ends := ⟨_, rfl⟩
  first front back hsplit := by
    rw [redirectRequest_eq h.ne_nil] at hsplit
    apply writeLines_blank _ hsplit
    intro line hline
    rcases List.mem_cons.mp hline with rfl | hline
    · exact ⟨by simp [callbackPrefix, ascii], requestLine_clean fields⟩
    · obtain ⟨header, hmem, rfl⟩ := List.mem_map.mp hline
      exact ⟨(h.each header hmem).line.ne_nil, (h.each header hmem).clean⟩

/-- The request of a browser has the form that the listener expects. -/
theorem redirectRequest_form {fields headers : List (Bytes × Bytes)} (hne : fields ≠ [])
    (h : BrowserHeaders headers)
    (hsize : (redirectRequest fields headers).length ≤ maxCallbackRequestBytes) :
    CallbackRequest (redirectRequest fields headers) (Percent.writeFields fields)
      (headers.map writeHeader) where
  size := by
    refine ⟨?_, hsize⟩
    rw [redirectRequest]
    simp only [List.length_append, show (crlf ++ crlf).length = 4 from rfl]
    omega
  blank := redirectRequest_blank h
  written := rfl
  first := requestLine_clean fields
  query := by
    intro hempty
    have hitems := Percent.splitOn_writeFields hne
    rw [hempty] at hitems
    have hitem : ([] : Bytes) ∈ fields.map Percent.writeField :=
      hitems ▸ List.mem_singleton_self []
    obtain ⟨field, -, hfield⟩ := List.mem_map.mp hitem
    simp [Percent.writeField] at hfield
  lines := by
    refine ⟨by simpa using h.ne_nil, fun line hline => ?_⟩
    obtain ⟨header, hmem, rfl⟩ := List.mem_map.mp hline
    exact (h.each header hmem).clean

/-- Of a request of this form the parser reads the query. -/
theorem parse_of_callbackRequest {request query : Bytes} {lines : List Bytes}
    {headers : List (Bytes × Bytes)} (hrequest : CallbackRequest request query lines)
    (hheaders : CallbackHeaders lines headers) :
    parseOAuthCallbackRequest request = (parseQuery query >>= callbackResult) := by
  obtain ⟨hpos, hshort⟩ := hrequest.size
  have hparts := hrequest.parts hheaders
  obtain ⟨headerEnd, hblank, hend, hline, hcut⟩ := hparts.find hrequest.blank (by omega)
  have hrequestLine : substr request 0 (callbackPrefix ++ query ++ callbackSuffix).length
      = callbackPrefix ++ query ++ callbackSuffix := by
    have hwritten := hparts.written
    rw [List.append_assoc _ _ (crlf ++ crlf), List.append_assoc _ crlf] at hwritten
    rw [hwritten, substr, List.drop_zero, List.take_left]
  have hread : parseHeadersFrom (crlf.intercalate lines) (crlf.intercalate lines).length 0 false
      = .ok true :=
    (parseHeaders_eq_ok hparts.nonempty hparts.last).mpr
      ⟨lines, headers, ⟨hrequest.lines.1, rfl, hrequest.lines.2⟩, hheaders⟩
  have hsize : ¬ (request = [] ∨ maxCallbackRequestBytes < request.length) :=
    not_or.mpr ⟨List.length_pos_iff.mp hpos, not_lt.mpr hshort⟩
  unfold parseOAuthCallbackRequest
  rw [if_neg hsize, hblank]
  simp only
  rw [if_neg (not_not.mpr hend), hline]
  simp only [hrequestLine]
  rw [if_neg (requestLine_iff.mpr ⟨query, hrequest.query, rfl⟩), substr_query, hcut, hread]
  rfl

/-! ## The fields -/

/-- The listener decodes what is encoded, if it takes such a value at all. -/
theorem decodesTo_encode {value text : Bytes} :
    DecodesTo (Percent.encode value) text ↔ CallbackText value ∧ text = value := by
  rw [← percentDecode_eq_ok, ← percentEncode_eq]
  exact percentDecode_percentEncode

/-- The first separator parts a text in one way. -/
theorem append_separator_inj {c : UInt8} {front front' back back' : Bytes} (hfront : c ∉ front)
    (hfront' : c ∉ front') (h : front ++ c :: back = front' ++ c :: back') :
    front = front' ∧ back = back' := by
  have hfind {first rest : Bytes} (hfirst : c ∉ first) :
      find [c] (first ++ c :: rest) = some first.length :=
    find_byte_eq_some.mpr ⟨by simp, by simp, by simpa using hfirst⟩
  have hthere : some front.length = some front'.length := by
    rw [← hfind hfront, h, hfind hfront']
  obtain ⟨hsame, hrest⟩ := List.append_inj h (Option.some.inj hthere)
  exact ⟨hsame, (List.cons.inj hrest).2⟩

/-- The listener reads an item as the field that was written, if it takes that field. -/
theorem queryItem_writeField {field read : Bytes × Bytes} :
    QueryItem (Percent.writeField field) read ↔ read = field ∧ CallbackField field := by
  have hclean : 61 ∉ Percent.encode field.1 :=
    Percent.not_mem_encode (by decide) (by decide) field.1
  constructor
  · intro h
    obtain ⟨name, value, hitem, hname, hequals, hkey, hvalue⟩ := h.parts
    obtain ⟨rfl, rfl⟩ := append_separator_inj hclean hequals hitem
    obtain ⟨hkeyText, hkeySame⟩ := decodesTo_encode.mp hkey
    obtain ⟨hvalueText, hvalueSame⟩ := decodesTo_encode.mp hvalue
    refine ⟨Prod.ext hkeySame hvalueSame, fun hempty => hname ?_, hkeyText, hvalueText⟩
    rw [hempty]
    rfl
  · intro h
    obtain ⟨rfl, hfield⟩ := h
    refine ⟨_, _, rfl, fun hempty => hfield.nonempty ?_, hclean,
      decodesTo_encode.mpr ⟨hfield.name, rfl⟩, decodesTo_encode.mpr ⟨hfield.value, rfl⟩⟩
    have hdecoded := Percent.decode_encode read.1
    rw [hempty] at hdecoded
    exact (Option.some.inj hdecoded).symm

/-- The listener reads a list of fields as it was written, if it takes all of them. -/
theorem queryItems_writeFields {fields read : List (Bytes × Bytes)} (hne : fields ≠ []) :
    List.Forall₂ QueryItem ((Percent.writeFields fields).splitOn 38) read ↔
      read = fields ∧ ∀ field ∈ fields, CallbackField field := by
  rw [Percent.splitOn_writeFields hne, List.forall₂_map_left_iff]
  simp only [queryItem_writeField]
  clear hne
  induction fields generalizing read with
  | nil => simp [List.forall₂_nil_left_iff]
  | cons field fields ih =>
      simp only [List.forall₂_cons_left_iff, ih]
      constructor
      · intro h
        obtain ⟨_, _, ⟨rfl, hfield⟩, ⟨rfl, hfields⟩, rfl⟩ := h
        exact ⟨rfl, List.forall_mem_cons.mpr ⟨hfield, hfields⟩⟩
      · intro h
        obtain ⟨rfl, hall⟩ := h
        obtain ⟨hfield, hfields⟩ := List.forall_mem_cons.mp hall
        exact ⟨field, fields, ⟨rfl, hfield⟩, ⟨rfl, hfields⟩, rfl⟩

/-! ## The round trip -/

/-- A client that has come can be waited for. -/
theorem Connects.selectable {deadline : Nat} {client : SocketHandle} {accepting : List AcceptTurn}
    (h : Connects deadline client accepting) : Selectable client := by
  induction h with
  | accepted _ _ _ _ hclient => exact hclient
  | idle _ _ _ ih => exact ih
  | again _ _ _ _ _ ih => exact ih

/-- However TCP cuts the request of the browser, the acceptor returns it as it is. -/
theorem acceptOne_redirect {fields headers : List (Bytes × Bytes)}
    (hheaders : BrowserHeaders headers)
    (hsize : (redirectRequest fields headers).length ≤ maxCallbackRequestBytes)
    {acceptor : NativeLoopbackAcceptor} {timeoutMs : UInt64} {start : Nat}
    {accepting : List AcceptTurn} {client : SocketHandle} {reading : List ReadTurn}
    (hlistening : acceptor.Listening)
    (hconnects : Connects (deadlineOf start timeoutMs) client accepting)
    (harrives : Arrives (deadlineOf start timeoutMs) reading (redirectRequest fields headers))
    (later : List ReadTurn) :
    acceptOne acceptor maxCallbackRequestBytes timeoutMs start accepting (reading ++ later)
      = some (.ok (redirectRequest fields headers)) := by
  have hvalid : ¬ (acceptor.listener = invalidSocketHandle ∨
      maxCallbackRequestBytes < maxCallbackRequestBytes) :=
    not_or.mpr ⟨hlistening.listener.ne_invalid, Nat.lt_irrefl _⟩
  rw [acceptOne, hlistening.opened, if_neg hvalid, acceptClient_of_connects hlistening hconnects]
  exact readRequest_of_arrives hconnects.selectable harrives
    (show EndsAtBlankLine ([] ++ redirectRequest fields headers) from
      redirectRequest_blank hheaders) hsize later

/-- The parser answers what the fields of the provider stand for. -/
theorem parse_redirect {fields headers : List (Bytes × Bytes)} (hne : fields ≠ [])
    (hheaders : BrowserHeaders headers)
    (hsize : (redirectRequest fields headers).length ≤ maxCallbackRequestBytes)
    {result : ParsedCallback} :
    parseOAuthCallbackRequest (redirectRequest fields headers) = .ok result ↔
      (∀ field ∈ fields, CallbackField field) ∧ (fields.map Prod.fst).Nodup ∧
        CallbackOutcome fields result := by
  rw [parse_of_callbackRequest (redirectRequest_form hne hheaders hsize) hheaders.callbackHeaders,
    except_bind_eq_ok]
  simp only [parseQuery_eq_ok, queryItems_writeFields hne]
  constructor
  · intro h
    obtain ⟨_, ⟨read, ⟨rfl, hfields⟩, hdistinct, rfl⟩, hresult⟩ := h
    exact ⟨hfields, hdistinct, (callbackResult_eq_ok hdistinct).mp hresult⟩
  · intro h
    obtain ⟨hfields, hdistinct, houtcome⟩ := h
    exact ⟨_, ⟨fields, ⟨rfl, hfields⟩, hdistinct, rfl⟩,
      (callbackResult_eq_ok hdistinct).mpr houtcome⟩

/-- A redirect comes through: however TCP cuts the request of the browser, the acceptor returns
it as it is, and the parser answers what the fields of the provider stand for.  It takes a
redirect exactly when it takes every field, no name comes twice, and the fields stand for a
result. -/
theorem redirect_read (fields headers : List (Bytes × Bytes)) (hne : fields ≠ [])
    (hheaders : BrowserHeaders headers)
    (hsize : (redirectRequest fields headers).length ≤ maxCallbackRequestBytes) :
    (∀ (acceptor : NativeLoopbackAcceptor) (timeoutMs : UInt64) (start : Nat)
      (accepting : List AcceptTurn) (client : SocketHandle) (reading later : List ReadTurn),
      acceptor.Listening → Connects (deadlineOf start timeoutMs) client accepting →
      Arrives (deadlineOf start timeoutMs) reading (redirectRequest fields headers) →
      acceptOne acceptor maxCallbackRequestBytes timeoutMs start accepting (reading ++ later)
        = some (.ok (redirectRequest fields headers))) ∧
    ∀ result : ParsedCallback,
      parseOAuthCallbackRequest (redirectRequest fields headers) = .ok result ↔
        (∀ field ∈ fields, CallbackField field) ∧ (fields.map Prod.fst).Nodup ∧
          CallbackOutcome fields result := by
  constructor
  · intro acceptor timeoutMs start accepting client reading later hlistening hconnects harrives
    exact acceptOne_redirect hheaders hsize hlistening hconnects harrives later
  · intro result
    exact parse_redirect hne hheaders hsize

/-- The header that every browser sends is enough. -/
theorem hostHeader_browser : BrowserHeaders [(ascii "Host", callbackHost)] where
  each := by
    intro header hmem
    obtain rfl := List.mem_singleton.mp hmem
    exact ⟨by decide, by decide +kernel, by decide +kernel, by decide⟩
  noBody := by
    intro header hmem
    obtain rfl := List.mem_singleton.mp hmem
    exact not_or.mpr ⟨by decide, by decide⟩
  host := by decide

/-- A code and a state with characters that have a meaning in a query. -/
def redirectFields : List (Bytes × Bytes) :=
  [(ascii "code", ascii "a=b&c"), (ascii "state", ascii "s 1")]

theorem redirect_read_reserved :
    parseOAuthCallbackRequest (redirectRequest redirectFields [(ascii "Host", callbackHost)])
      = .ok { status := .codeReceived, state := ascii "s 1", code := ascii "a=b&c" } := by
  have hread := redirect_read redirectFields [(ascii "Host", callbackHost)] (by decide)
    hostHeader_browser (by decide)
  refine (hread.2 _).mpr ⟨?_, by decide, ?_⟩
  · intro field hmem
    have hshort : ∀ value ∈ [ascii "code", ascii "a=b&c", ascii "state", ascii "s 1"],
        value.length ≤ maxCallbackValueBytes := by decide +kernel
    have hprintable : ∀ value ∈ [ascii "code", ascii "a=b&c", ascii "state", ascii "s 1"],
        ∀ c ∈ value, ¬ (c < 0x20 ∨ c = 0x7f) := by decide +kernel
    have htext {value : Bytes}
        (h : value ∈ [ascii "code", ascii "a=b&c", ascii "state", ascii "s 1"]) :
        CallbackText value := ⟨hshort value h, hprintable value h⟩
    have hfield : field ∈ [(ascii "code", ascii "a=b&c"), (ascii "state", ascii "s 1")] := hmem
    simp only [List.mem_cons, List.not_mem_nil, or_false] at hfield
    rcases hfield with rfl | rfl
    · exact ⟨by decide, htext (by decide), htext (by decide)⟩
    · exact ⟨by decide, htext (by decide), htext (by decide)⟩
  · exact .code (by decide) (by decide) (by decide) (by decide) (by decide)

end Data360
