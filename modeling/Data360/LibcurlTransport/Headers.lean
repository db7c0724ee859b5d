import Data360.ArrowScanSource
import Data360.Lib.Collect
import Data360.LibcurlTransport
import Mathlib.Data.List.DropRight

/-!
# The headers of a response

The library hands the header lines of a response to `WriteHeader` of
`src/libcurl_transport.cpp`, one after the other; a status line, which is any
line that begins with `HTTP/`, starts over.  The lines end up in a map under
their names in lower case, where `ArrowContentType` of
`src/data360_extension.cpp` looks for the content type.

* `writeHeader` is the callback, and `respond` the end of `Send`.
* `headerOf` is what a line says, and `headerOf_eq_some` its shape.
* `writeHeader_keeps` is the step lemma, and `headers_of_respond` what a map
  holds in the end: the last line with a name.
* `refusesAmbiguity_iff` says when a response with several content types is
  refused.
-/

namespace Data360

open Lib Lib.ByteString

namespace LibcurlTransport

/-! ## The source -/

/-- `SIZE_MAX`, of a 64-bit `size_t`. -/
def sizeMax : UInt64 := 0xffffffffffffffff

/-- A header line as the library delivers it: `size * count` bytes at the pointer. -/
structure HeaderLine where
  pointer : Bytes
  size : UInt64
  count : UInt64
  filled : pointer.length = size.toNat * count.toNat

/-- The part of `TransferState` that is about headers. -/
structure TransferState where
  headers : StringMap Bytes := ∅
  exceededHeaders : Bool := false
  headerCount : UInt64 := 0
  headerBytes : UInt64 := 0

/-- A status line is any line with `line.rfind("HTTP/", 0) == 0`. -/
def isStatusLine (line : Bytes) : Bool := (ascii "HTTP/").isPrefixOf line

/-- Whether a byte ends a line. -/
def isLineEnd (c : UInt8) : Bool := c = 13 || c = 10

/-- The loop that takes the line ends off the end of a line. -/
def trimLineEnd (line : Bytes) : Bytes := line.rdropWhile isLineEnd

/-- The end of `WriteHeader`: the header of a line goes into the map. -/
def storeHeader (line : Bytes) (headers : StringMap Bytes) : StringMap Bytes :=
  let line := trimLineEnd line
  if line = [] then headers
  else
    match find [58] line with
    | none => headers
    | some colon =>
        if colon = 0 then headers
        else
          let key := lower (line.take colon)
          let value := (line.drop (colon + 1)).dropWhile isBlank
          if key.length ≤ 256 ∧ value.length ≤ 8192 then headers.insert key value else headers

/-- `WriteHeader`: the number of bytes that it reports as taken, and the state. -/
def writeHeader (line : HeaderLine) (state : TransferState) : UInt64 × TransferState :=
  if line.size ≠ 0 ∧ line.count > sizeMax / line.size then (0, state)
  else
    let bytes := line.size * line.count
    if isStatusLine line.pointer then
      (bytes, { state with headers := ∅, headerCount := 0, headerBytes := 0 })
    else if bytes > 8192 ∨ bytes > 64 * 1024 - min state.headerBytes (64 * 1024) ∨
        state.headerCount ≥ 64 then
      (0, { state with exceededHeaders := true })
    else
      (bytes, { state with
        headerBytes := state.headerBytes + bytes
        headerCount := state.headerCount + 1
        headers := storeHeader line.pointer state.headers })

/-- How the library delivers the lines: it gives up when the callback reports
another number of bytes than it was handed.  The flag says whether it went
through. -/
def deliverHeaders (state : TransferState) : List HeaderLine → TransferState × Bool
  | [] => (state, true)
  | line :: rest =>
      let (taken, after) := writeHeader line state
      if taken.toNat = line.pointer.length then deliverHeaders after rest else (after, false)

/-- The end of `Send`, of a transfer that fails at nothing but its headers. -/
def respond (status : Int) (body : Bytes) (lines : List HeaderLine) : Except String HttpResponse :=
  let (transfer, delivered) := deliverHeaders {} lines
  if transfer.exceededHeaders then .error "Data 360 HTTPS response headers exceeded limit"
  else if ¬ delivered then .error "D360-AUTH-008 NETWORK_UNAVAILABLE"
  else .ok { status, body, headers := transfer.headers }

/-! ## What a line says -/

/-- A header line: a name in front of the first colon, then a value between
padding and line ends. -/
structure HeaderShape (line name value : Bytes) : Prop where
  parts : ∃ padding ending, line = name ++ 58 :: (padding ++ value) ++ ending ∧
    padding.all isBlank ∧ ending.all isLineEnd
  named : name ≠ []
  first : 58 ∉ name
  starts : value.head?.any isBlank = false
  ends : value.getLast?.any isLineEnd = false

/-- The name and the value of a line. -/
def headerOf (line : Bytes) : Option (Bytes × Bytes) :=
  match find [58] (trimLineEnd line) with
  | none => none
  | some colon =>
      if colon = 0 then none
      else some ((trimLineEnd line).take colon,
        ((trimLineEnd line).drop (colon + 1)).dropWhile isBlank)

/-- The value of a line with this name, in lower case. -/
def fieldOf (key line : Bytes) : Option Bytes :=
  match headerOf line with
  | none => none
  | some (name, value) => if lower name = key then some value else none

/-- The lines after the last status line. -/
def sinceStatus (lines : List Bytes) : List Bytes := lines.rtakeWhile fun line => !isStatusLine line

/-- The values under a name after the last status line. -/
def valuesOf (key : Bytes) (lines : List Bytes) : List Bytes :=
  (sinceStatus lines).filterMap (fieldOf key)

theorem isBlank_not_isLineEnd {c : UInt8} (h : isBlank c = true) : isLineEnd c = false := by
  simp only [isBlank, Bool.or_eq_true, decide_eq_true_eq] at h
  rcases h with rfl | rfl <;> rfl

/-- Line ends come off a text that does not end in one. -/
theorem trimLineEnd_append {text ending : Bytes} (htext : text.getLast?.any isLineEnd = false)
    (hending : ending.all isLineEnd = true) : trimLineEnd (text ++ ending) = text := by
  rw [trimLineEnd]
  induction ending using List.reverseRecOn with
  | nil =>
      rw [List.append_nil, List.rdropWhile_eq_self_iff]
      intro hne
      rw [List.getLast?_eq_some_getLast hne] at htext
      simpa using htext
  | append_singleton ending c ih =>
      rw [List.all_append, Bool.and_eq_true] at hending
      rw [← List.append_assoc, List.rdropWhile_concat_pos _ _ _ (by simpa using hending.2)]
      exact ih hending.1

/-- A trimmed line does not end in a line end. -/
theorem trimLineEnd_last (line : Bytes) : (trimLineEnd line).getLast?.any isLineEnd = false := by
  cases hlast : (trimLineEnd line).getLast? with
  | none => rfl
  | some c =>
      have hne : trimLineEnd line ≠ [] := fun hnil => by simp [hnil] at hlast
      rw [List.getLast?_eq_some_getLast hne] at hlast
      have hnot : ¬ isLineEnd ((trimLineEnd line).getLast hne) = true :=
        List.rdropWhile_last_not isLineEnd line hne
      rw [Option.some.inj hlast] at hnot
      simpa using hnot

/-- `headerOf` reads the header lines, each as its shape says. -/
theorem headerOf_eq_some {line name value : Bytes} :
    headerOf line = some (name, value) ↔ HeaderShape line name value := by
  rw [headerOf]
  constructor
  · intro h
    cases hfind : find [58] (trimLineEnd line) with
    | none => simp [hfind] at h
    | some colon =>
        obtain ⟨hlt, htrim, hfirst⟩ := find_byte_eq_some.mp hfind
        rw [hfind] at h
        dsimp only at h
        split_ifs at h with hzero
        obtain ⟨rfl, rfl⟩ := Prod.mk.inj (Option.some.inj h)
        generalize hrest : (trimLineEnd line).drop (colon + 1) = rest at *
        refine ⟨⟨rest.takeWhile isBlank, line.rtakeWhile isLineEnd, ?_, ?_, ?_⟩, ?_,
          hfirst, ?_, ?_⟩
        · rw [List.takeWhile_append_dropWhile, ← htrim]
          exact List.rdropWhile_append_rtakeWhile.symm
        · exact List.all_takeWhile
        · exact List.all_eq_true.mpr fun c hc => List.mem_rtakeWhile_imp hc
        · rw [Ne, List.take_eq_nil_iff]
          rintro (h | h)
          · exact hzero h
          · rw [h] at hlt
            exact absurd hlt (Nat.not_lt_zero _)
        · have hhead := List.head?_dropWhile_not isBlank rest
          cases hcase : (rest.dropWhile isBlank).head? with
          | none => rfl
          | some c =>
              rw [hcase] at hhead
              exact hhead
        · cases hcase : (rest.dropWhile isBlank).getLast? with
          | none => rfl
          | some c =>
              have hlast := trimLineEnd_last line
              rw [htrim, ← List.takeWhile_append_dropWhile (p := isBlank) (l := rest),
                List.getLast?_append, List.getLast?_cons, List.getLast?_append, hcase] at hlast
              simpa using hlast
  · rintro ⟨⟨padding, ending, rfl, hpadding, hending⟩, hnamed, hfirst, hstarts, hends⟩
    have htext : (name ++ 58 :: (padding ++ value)).getLast?.any isLineEnd = false := by
      cases value using List.reverseRecOn with
      | nil =>
          cases padding using List.reverseRecOn with
          | nil => simp [isLineEnd]
          | append_singleton padding c =>
              rw [List.all_append, Bool.and_eq_true] at hpadding
              have hc : isBlank c = true := by simpa using hpadding.2
              have hsplit :
                  name ++ 58 :: (padding ++ [c] ++ []) = (name ++ 58 :: padding) ++ [c] := by
                simp
              rw [hsplit, List.getLast?_concat]
              exact isBlank_not_isLineEnd hc
      | append_singleton value c =>
          have hsplit : name ++ 58 :: (padding ++ (value ++ [c]))
              = (name ++ 58 :: (padding ++ value)) ++ [c] := by simp
          rw [hsplit, List.getLast?_concat]
          simpa using hends
    have hfind : find [58] (name ++ 58 :: (padding ++ value)) = some name.length :=
      find_byte_eq_some.mpr ⟨by simp, by simp, by simpa using hfirst⟩
    have hvalue : (padding ++ value).dropWhile isBlank = value := by
      rw [List.dropWhile_append_of_pos fun c hc => List.all_eq_true.mp hpadding c hc]
      cases value with
      | nil => rfl
      | cons c value => exact List.dropWhile_cons_of_neg (by simpa using hstarts)
    rw [trimLineEnd_append htext hending, hfind]
    dsimp only
    rw [if_neg fun h => hnamed (List.length_eq_zero_iff.mp h), List.take_left,
      drop_separator, hvalue]

/-! ## The map -/

/-- What a line does to the map. -/
def collectLine (headers : StringMap Bytes) (line : Bytes) : StringMap Bytes :=
  if isStatusLine line then ∅ else storeHeader line headers

/-- What the lines leave in the map. -/
def collect (lines : List Bytes) : StringMap Bytes := lines.foldl collectLine ∅

/-- The lines fit: only a status line may be longer. -/
def LinesFit (lines : List Bytes) : Prop :=
  ∀ line ∈ lines, isStatusLine line = false → line.length ≤ 8192

/-- The end of `WriteHeader`, over what the line says. -/
theorem storeHeader_eq (line : Bytes) (headers : StringMap Bytes) :
    storeHeader line headers = match headerOf line with
      | none => headers
      | some (name, value) =>
          if (lower name).length ≤ 256 ∧ value.length ≤ 8192 then headers.insert (lower name) value
          else headers := by
  rw [storeHeader, headerOf]
  dsimp only
  by_cases hempty : trimLineEnd line = []
  · rw [if_pos hempty, hempty]
    rfl
  · rw [if_neg hempty]
    cases find [58] (trimLineEnd line) with
    | none => rfl
    | some colon =>
        dsimp only
        by_cases hzero : colon = 0
        · rw [if_pos hzero, if_pos hzero]
        · rw [if_neg hzero, if_neg hzero]

/-- A value is no longer than its line. -/
theorem HeaderShape.length_le {line name value : Bytes} (h : HeaderShape line name value) :
    value.length ≤ line.length := by
  obtain ⟨padding, ending, hline, -, -⟩ := h.parts
  have hlength := congrArg List.length hline
  simp only [List.length_append, List.length_cons] at hlength
  omega

/-- A line replaces the value of its own name, and no other. -/
theorem getElem?_storeHeader {line key : Bytes} (hline : line.length ≤ 8192)
    (hkey : key.length ≤ 256) (headers : StringMap Bytes) :
    (storeHeader line headers)[key]? = (fieldOf key line).or headers[key]? := by
  rw [storeHeader_eq, fieldOf]
  cases hheader : headerOf line with
  | none => rfl
  | some header =>
      obtain ⟨name, value⟩ := header
      have hvalue := (headerOf_eq_some.mp hheader).length_le
      dsimp only
      by_cases hname : lower name = key
      · rw [if_pos ⟨hname ▸ hkey, hvalue.trans hline⟩, if_pos hname, ← hname]
        simp
      · rw [if_neg hname, Option.none_or]
        split
        · exact getElem?_insert_ne _ _ hname
        · rfl

@[simp] theorem sinceStatus_append (lines : List Bytes) (line : Bytes) :
    sinceStatus (lines ++ [line]) = if isStatusLine line then [] else sinceStatus
      lines ++ [line] := by
  rw [sinceStatus, List.rtakeWhile_concat, ← sinceStatus]
  cases isStatusLine line <;> rfl

/-- The map holds the last value of each name after the last status line. -/
theorem getElem?_collect {lines : List Bytes} (hlines : LinesFit lines) {key : Bytes}
    (hkey : key.length ≤ 256) : (collect lines)[key]? = (valuesOf key lines).getLast? := by
  induction lines using List.reverseRecOn with
  | nil => simp [collect, valuesOf, sinceStatus]
  | append_singleton lines line ih =>
      have hih := ih fun other hmem => hlines other (List.mem_append_left _ hmem)
      rw [collect, List.foldl_concat, ← collect, collectLine, valuesOf, sinceStatus_append]
      cases hstatus : isStatusLine line with
      | true => simp
      | false =>
          have hline := hlines line (by simp) hstatus
          simp only [Bool.false_eq_true, if_false]
          rw [getElem?_storeHeader hline hkey, hih, valuesOf, List.filterMap_append,
            List.getLast?_append]
          cases hfield : fieldOf key line with
          | none => simp [hfield]
          | some value => simp [hfield]

/-- Every name in the map is in lower case. -/
theorem lower_of_mem_collect (lines : List Bytes) {key : Bytes} (h : key ∈ collect lines) :
    lower key = key := by
  induction lines using List.reverseRecOn generalizing key with
  | nil => simp [collect] at h
  | append_singleton lines line ih =>
      rw [collect, List.foldl_concat, ← collect, collectLine] at h
      split at h
      · simp at h
      · rw [storeHeader_eq] at h
        split at h
        · exact ih h
        · next name value _ =>
            split at h
            · rw [Std.TreeMap.mem_insert] at h
              rcases h with heq | h
              · rw [← Std.LawfulEqCmp.compare_eq_iff_eq.mp heq, lower_lower]
              · exact ih h
            · exact ih h

/-! ## The transfer -/

/-- A line that the callback takes fits, and goes into the map. -/
theorem writeHeader_keeps {line : HeaderLine} {state after : TransferState} {taken : UInt64}
    (h : writeHeader line state = (taken, after)) (htaken : taken.toNat = line.pointer.length)
    (hfits : after.exceededHeaders = false) :
    state.exceededHeaders = false ∧ after.headers = collectLine state.headers line.pointer ∧
      (isStatusLine line.pointer = false → line.pointer.length ≤ 8192) := by
  rw [writeHeader] at h
  by_cases hover : line.size ≠ 0 ∧ line.count > sizeMax / line.size
  · rw [if_pos hover] at h
    obtain ⟨rfl, rfl⟩ := Prod.mk.inj h
    have hsize : 0 < line.size.toNat := UInt64.pos_iff_ne_zero.mpr hover.1
    have hcount : 0 < line.count.toNat :=
      Nat.zero_lt_of_lt (UInt64.lt_iff_toNat_lt.mp hover.2)
    have hlength := line.filled
    rw [← htaken] at hlength
    exact absurd hlength (Nat.mul_pos hsize hcount).ne
  · rw [if_neg hover] at h
    dsimp only at h
    cases hstatus : isStatusLine line.pointer with
    | true =>
        rw [if_pos hstatus] at h
        obtain ⟨-, rfl⟩ := Prod.mk.inj h
        exact ⟨hfits, by rw [collectLine, if_pos hstatus], nofun⟩
    | false =>
        rw [if_neg (by simp [hstatus])] at h
        by_cases hlimit : line.size * line.count > 8192 ∨
            line.size * line.count > 64 * 1024 - min state.headerBytes (64 * 1024) ∨
            state.headerCount ≥ 64
        · rw [if_pos hlimit] at h
          obtain ⟨-, rfl⟩ := Prod.mk.inj h
          cases hfits
        · rw [if_neg hlimit] at h
          obtain ⟨rfl, rfl⟩ := Prod.mk.inj h
          refine ⟨hfits, by rw [collectLine, if_neg (by simp [hstatus])], fun _ => ?_⟩
          rw [← htaken]
          exact UInt64.le_iff_toNat_le.mp (UInt64.not_lt.mp (not_or.mp hlimit).1)

/-- The lines of a transfer that goes through are in the map. -/
theorem headers_deliverHeaders {state after : TransferState} {lines : List HeaderLine}
    (h : deliverHeaders state lines = (after, true)) (hfits : after.exceededHeaders = false) :
    state.exceededHeaders = false ∧ LinesFit (lines.map (·.pointer)) ∧
      after.headers = (lines.map (·.pointer)).foldl collectLine state.headers := by
  induction lines generalizing state with
  | nil =>
      obtain ⟨rfl, -⟩ := Prod.mk.inj h
      exact ⟨hfits, nofun, rfl⟩
  | cons line rest ih =>
      rw [deliverHeaders] at h
      cases hwrite : writeHeader line state with
      | mk taken next =>
          rw [hwrite] at h
          dsimp only at h
          split_ifs at h with htaken
          · obtain ⟨hnext, hrest, hheaders⟩ := ih h
            obtain ⟨hstate, hline, hshort⟩ := writeHeader_keeps hwrite htaken hnext
            exact ⟨hstate, List.forall_mem_cons.mpr ⟨hshort, hrest⟩, by rw [hheaders, hline]; rfl⟩
          · cases (Prod.mk.inj h).2

/-- What a response holds: the last value of each name after the last status line. -/
theorem headers_of_respond {status : Int} {body : Bytes} {lines : List HeaderLine}
    {response : HttpResponse} (h : respond status body lines = .ok response) :
    LinesFit (lines.map (·.pointer)) ∧ response.headers = collect (lines.map (·.pointer)) := by
  rw [respond] at h
  cases hdeliver : deliverHeaders {} lines with
  | mk transfer delivered =>
      rw [hdeliver] at h
      dsimp only at h
      split_ifs at h with hexceeded hdelivered
      subst hdelivered
      obtain ⟨-, hfit, hheaders⟩ := headers_deliverHeaders hdeliver (by simpa using hexceeded)
      exact ⟨hfit, by rw [← Except.ok.inj h, hheaders]; rfl⟩

/-! ## The content type -/

/-- Without a content type, the loop of `ArrowContentType` goes through. -/
theorem contentTypeOf_of_none {headers : List (Bytes × Bytes)}
    (h : ∀ header ∈ headers, lower header.1 ≠ ascii "content-type") (result : Bytes) :
    contentTypeOf result headers = if result = [] then
      .error "Data 360 Arrow response headers were invalid" else .ok result := by
  induction headers with
  | nil => rfl
  | cons header rest ih =>
      rw [List.forall_mem_cons] at h
      rw [contentTypeOf, if_pos h.1, ih h.2]

/-- With one content type, the loop answers its value. -/
theorem contentTypeOf_of_one {front back : List (Bytes × Bytes)} {name value : Bytes}
    (hname : lower name = ascii "content-type")
    (hfront : ∀ header ∈ front, lower header.1 ≠ ascii "content-type")
    (hback : ∀ header ∈ back, lower header.1 ≠ ascii "content-type") :
    contentTypeOf [] (front ++ (name, value) :: back) = if value = [] then
      .error "Data 360 Arrow response headers were invalid" else .ok value := by
  induction front with
  | nil => rw [List.nil_append, contentTypeOf, if_neg (not_not.mpr hname), if_neg (by simp),
      contentTypeOf_of_none hback]
  | cons header rest ih =>
      rw [List.forall_mem_cons] at hfront
      rw [List.cons_append, contentTypeOf, if_pos hfront.1, ih hfront.2]

/-- In a map with names in lower case, `ArrowContentType` looks one name up. -/
theorem arrowContentType_of_lower {response : HttpResponse}
    (h : ∀ key ∈ response.headers, lower key = key) :
    arrowContentType response =
      if response.headers[ascii "content-type"]?.getD [] = [] then
        .error "Data 360 Arrow response headers were invalid"
      else .ok (response.headers[ascii "content-type"]?.getD []) := by
  have hentry (header) (hmem : header ∈ response.headers.toList) : lower header.1 = header.1 := by
    have hget := Std.TreeMap.mem_toList_iff_getElem?_eq_some.mp hmem
    exact h _ (Std.TreeMap.mem_iff_isSome_getElem?.mpr (by rw [hget]; rfl))
  rw [arrowContentType]
  cases hlookup : response.headers[ascii "content-type"]? with
  | none =>
      refine contentTypeOf_of_none (fun header hmem heq => ?_) []
      rw [hentry header hmem] at heq
      have hget := Std.TreeMap.mem_toList_iff_getElem?_eq_some.mp hmem
      rw [heq, hlookup] at hget
      cases hget
  | some value =>
      have hmem := Std.TreeMap.mem_toList_iff_getElem?_eq_some.mpr hlookup
      have hdistinct := Std.TreeMap.distinct_keys_toList (t := response.headers)
      obtain ⟨front, back, hsplit⟩ := List.append_of_mem hmem
      rw [hsplit, List.pairwise_append, List.pairwise_cons] at hdistinct
      rw [hsplit] at hentry ⊢
      have hthere :
          (ascii "content-type", value) ∈ front ++ (ascii "content-type", value) :: back :=
        hsplit ▸ hmem
      refine contentTypeOf_of_one (hentry _ hthere) (fun header hfront heq => ?_)
        fun header hback heq => ?_
      · rw [hentry header (List.mem_append_left _ hfront)] at heq
        exact hdistinct.2.2 header hfront _ List.mem_cons_self
          (by rw [heq]; exact Std.ReflCmp.compare_self)
      · rw [hentry header (List.mem_append_right _ (List.mem_cons_of_mem _ hback))] at heq
        exact hdistinct.2.1.1 header hback (by rw [heq]; exact Std.ReflCmp.compare_self)

/-- The content types after the last status line that are not empty. -/
def contentTypes (lines : List Bytes) : List Bytes :=
  (valuesOf (ascii "content-type") lines).filter (· ≠ [])

/-- The last content type decides. -/
theorem arrowContentType_respond {status : Int} {body : Bytes} {lines : List HeaderLine}
    {response : HttpResponse} (h : respond status body lines = .ok response) :
    arrowContentType response =
      let last := (valuesOf (ascii "content-type") (lines.map (·.pointer))).getLast?.getD []
      if last = [] then .error "Data 360 Arrow response headers were invalid" else .ok last := by
  obtain ⟨hfit, hheaders⟩ := headers_of_respond h
  rw [arrowContentType_of_lower fun key hkey => lower_of_mem_collect _ (hheaders ▸ hkey), hheaders,
    getElem?_collect hfit (by decide)]

/-- Ambiguous content types are refused: a value is the one content type there
is, and with two of them there is none. -/
def RefusesAmbiguity (lines : List Bytes) (response : HttpResponse) : Prop :=
  (∀ value, arrowContentType response = .ok value → contentTypes lines = [value]) ∧
    (2 ≤ (contentTypes lines).length → ∃ message, arrowContentType response = .error message)

/-- Later lines replace earlier ones before the check sees them: several content
types are refused only when the last one is empty. -/
theorem refusesAmbiguity_iff {status : Int} {body : Bytes} {lines : List HeaderLine}
    {response : HttpResponse} (h : respond status body lines = .ok response) :
    RefusesAmbiguity (lines.map (·.pointer)) response ↔
      (contentTypes (lines.map (·.pointer))).length ≤ 1 ∨
        (valuesOf (ascii "content-type") (lines.map (·.pointer))).getLast? = some [] := by
  rw [RefusesAmbiguity, arrowContentType_respond h, contentTypes]
  generalize valuesOf (ascii "content-type") (lines.map (·.pointer)) = values
  dsimp only
  cases values using List.reverseRecOn with
  | nil => simp
  | append_singleton values last =>
      rw [List.getLast?_concat, Option.getD_some, Option.some.injEq, List.filter_append]
      by_cases hlast : last = []
      · simp [hlast]
      · have hkept : [last].filter (· ≠ []) = [last] := by simp [hlast]
        rw [if_neg hlast, hkept]
        simp only [Except.ok.injEq, forall_eq', reduceCtorEq, exists_false, List.length_append,
          List.length_singleton, hlast, or_false]
        generalize values.filter (· ≠ []) = kept
        constructor
        · rintro ⟨-, htwo⟩
          exact Nat.le_of_not_lt htwo
        · intro hone
          have hnil : kept = [] := List.length_eq_zero_iff.mp (by omega)
          exact ⟨by rw [hnil]; rfl, fun htwo => by omega⟩

/-- A line of a transfer, in items of one byte. -/
def HeaderLine.ofBytes (line : Bytes) (h : line.length < 2 ^ 64) : HeaderLine where
  pointer := line
  size := 1
  count := UInt64.ofNat line.length
  filled := by
    rw [UInt64.toNat_ofNat', Nat.mod_eq_of_lt h]
    exact (Nat.one_mul _).symm

theorem exists_of_isOk {ε α : Type} {result : Except ε α} (h : result.isOk = true) :
    ∃ value, result = .ok value := by
  cases result with
  | error e => cases h
  | ok value => exact ⟨value, rfl⟩

/-- An informational response with a content type, and then the response. -/
def continued : List HeaderLine := [
  .ofBytes (ascii "HTTP/1.1 103 Early Hints\r\n") (by decide),
  .ofBytes (ascii "Content-Type: text/html\r\n") (by decide),
  .ofBytes (ascii "HTTP/1.1 200 OK\r\n") (by decide),
  .ofBytes (ascii "Content-Type: application/vnd.apache.arrow.stream\r\n") (by decide),
  .ofBytes (ascii "\r\n") (by decide)]

/-- Content types of different responses are no ambiguity. -/
theorem refusesAmbiguity_iff_continued :
    ∃ response, respond 200 [] continued = .ok response ∧
      RefusesAmbiguity (continued.map (·.pointer)) response := by
  obtain ⟨response, h⟩ :=
    exists_of_isOk (show (respond 200 [] continued).isOk = true by decide +kernel)
  exact ⟨response, h, (refusesAmbiguity_iff h).mpr (.inl (by decide +kernel))⟩

/-- One response with two content types. -/
def twoContentTypes : List HeaderLine := [
  .ofBytes (ascii "HTTP/1.1 200 OK\r\n") (by decide),
  .ofBytes (ascii "Content-Type: application/json\r\n") (by decide),
  .ofBytes (ascii "content-type: application/vnd.apache.arrow.stream\r\n") (by decide),
  .ofBytes (ascii "\r\n") (by decide)]

/-- Two content types are not refused; the second one counts. -/
theorem twoContentTypes_accepted :
    ∃ response, respond 200 [] twoContentTypes = .ok response ∧
      arrowContentType response = .ok (ascii "application/vnd.apache.arrow.stream") ∧
      contentTypes (twoContentTypes.map (·.pointer)) =
        [ascii "application/json", ascii "application/vnd.apache.arrow.stream"] ∧
      ¬ RefusesAmbiguity (twoContentTypes.map (·.pointer)) response := by
  obtain ⟨response, h⟩ :=
    exists_of_isOk (show (respond 200 [] twoContentTypes).isOk = true by decide +kernel)
  have htaken : arrowContentType response = .ok (ascii "application/vnd.apache.arrow.stream") := by
    rw [arrowContentType_respond h]
    decide +kernel
  have htypes : contentTypes (twoContentTypes.map (·.pointer)) =
      [ascii "application/json", ascii "application/vnd.apache.arrow.stream"] := by
    decide +kernel
  refine ⟨response, h, htaken, htypes, fun hrefuses => ?_⟩
  have hone := congrArg List.length (hrefuses.1 _ htaken)
  rw [htypes] at hone
  cases hone

end LibcurlTransport

end Data360
