import Data360.LoopbackListener.Decode

/-!
# The grammar of a callback

What `ParseOAuthCallbackRequest` of `src/loopback_listener.cpp` accepts, as a
grammar: the shape of the request, its header lines, its fields, and the result
that the fields stand for.

* `parseHeaderLine_eq_ok` and `parseHeaders_eq_ok` read the header loop.
* `callbackParts` finds the request line and the headers in the request, also
  where the length of the headers wraps around.
* `callback_grammar` says that the parser accepts exactly the grammar.
-/

namespace Data360

open Lib Lib.ByteString

/-! ## Header lines -/

/-- `line` is the header with this key and this value. -/
structure HeaderLine (line : Bytes) (header : Bytes × Bytes) : Prop where
  parts : ∃ rest, line = header.1 ++ 58 :: rest ∧ trimBlanks rest = header.2
  nonempty : header.1 ≠ []
  key : ∀ c ∈ header.1, isAlnum c = true ∨ c = 45
  value : ∀ c ∈ header.2, 0x20 ≤ c ∨ c = 9

/-- A header that announces a body. -/
def AnnouncesBody (header : Bytes × Bytes) : Prop :=
  lower header.1 = ascii "content-length" ∨ lower header.1 = ascii "transfer-encoding"

/-- A header that names the host. -/
def isHost (header : Bytes × Bytes) : Bool := lower header.1 = ascii "host"

/-- The host that the listener answers for. -/
def callbackHost : Bytes := ascii "localhost:8910"

/-- The hosts that have been found, as the header loop remembers them. -/
def foundHosts (foundHost : Bool) : List Bytes := if foundHost then [callbackHost] else []

/-- The hosts that the headers name. -/
def hosts (headers : List (Bytes × Bytes)) : List Bytes := (headers.filter isHost).map Prod.snd

/-- A key of a header line holds no colon. -/
theorem HeaderLine.find {line : Bytes} {header : Bytes × Bytes} (h : HeaderLine line header) :
    find [58] line = some header.1.length := by
  obtain ⟨rest, rfl, -⟩ := h.parts
  refine find_byte_eq_some.mpr ⟨by simp, by simp, ?_⟩
  rw [List.take_left]
  intro hcolon
  rcases h.key 58 hcolon with h | h
  · exact absurd h (by decide)
  · exact absurd h (by decide)

/-- A blank is no character of a key. -/
theorem isBlank_of_key {c : UInt8} (h : isAlnum c = true ∨ c = 45) : isBlank c = false :=
  forall_byte (P := fun c => isAlnum c = true ∨ c = 45 → isBlank c = false) (by decide +kernel) c h

/-- A header line is the header in front of and behind its first colon. -/
theorem HeaderLine.eq {line : Bytes} {header : Bytes × Bytes} (h : HeaderLine line header)
    {colon : Nat} (hfind : Lib.ByteString.find [58] line = some colon) :
    header = (line.take colon, trimBlanks (line.drop (colon + 1))) := by
  obtain rfl := Option.some.inj (hfind.symm.trans h.find)
  obtain ⟨rest, hline, hvalue⟩ := h.parts
  rw [hline, List.take_left, drop_separator, hvalue]

/-- The checks of the header loop, for a line with a colon. -/
theorem headerLine_iff {line : Bytes} {colon : Nat} (hfind : find [58] line = some colon) :
    HeaderLine line (line.take colon, trimBlanks (line.drop (colon + 1))) ↔
      ¬ (colon = 0 ∨ isBlank (line.getD (colon - 1) 0) = true) ∧
      ¬ ((line.take colon).any fun c => !isAlnum c && c != 45) = true ∧
      ¬ ((trimBlanks (line.drop (colon + 1))).any fun c => c < 0x20 && c != 9) = true := by
  obtain ⟨hlt, hline, -⟩ := find_byte_eq_some.mp hfind
  have hkey : ¬ ((line.take colon).any fun c => !isAlnum c && c != 45) = true ↔
      ∀ c ∈ line.take colon, isAlnum c = true ∨ c = 45 := by
    simp only [Bool.not_eq_true, List.any_eq_false, Bool.and_eq_false_iff, Bool.not_eq_false',
      bne_eq_false_iff_eq]
  have hvalue :
      ¬ ((trimBlanks (line.drop (colon + 1))).any fun c => c < 0x20 && c != 9) = true ↔
      ∀ c ∈ trimBlanks (line.drop (colon + 1)), 0x20 ≤ c ∨ c = 9 := by
    simp only [Bool.not_eq_true, List.any_eq_false, Bool.and_eq_false_iff, decide_eq_false_iff_not,
      UInt8.not_lt, bne_eq_false_iff_eq]
  rw [hkey, hvalue]
  constructor
  · intro h
    have hzero : colon ≠ 0 := fun hzero => h.nonempty (by simp [hzero])
    refine ⟨not_or.mpr ⟨hzero, ?_⟩, h.key, h.value⟩
    have hmem : line.getD (colon - 1) 0 ∈ line.take colon := by
      rw [List.getD_eq_getElem?_getD, List.getElem?_eq_getElem (by omega)]
      exact List.mem_take_iff_getElem.mpr ⟨colon - 1, by omega, rfl⟩
    rw [isBlank_of_key (h.key _ hmem)]
    exact Bool.false_ne_true
  · rintro ⟨hstart, hkey, hvalue⟩
    refine ⟨⟨_, hline, rfl⟩, fun hnil => hstart (.inl ?_), hkey, hvalue⟩
    have hlength := congrArg List.length hnil
    rw [List.length_take, List.length_nil] at hlength
    omega

/-- What a good line does to the host that has been found. -/
theorem foundHosts_iff {foundHost after : Bool} {header : Bytes × Bytes} :
    foundHosts foundHost ++ hosts [header] = foundHosts after ↔
      if lower header.1 = ascii "host" then
        foundHost = false ∧ header.2 = callbackHost ∧ after = true
      else foundHost = after := by
  by_cases hhost : lower header.1 = ascii "host"
  · rw [if_pos hhost, hosts, List.filter_cons_of_pos (by simp [isHost, hhost])]
    cases foundHost <;> cases after <;> simp [foundHosts]
  · rw [if_neg hhost, hosts, List.filter_cons_of_neg (by simp [isHost, hhost])]
    cases foundHost <;> cases after <;> simp [foundHosts]

/-- One line of the header loop. -/
theorem parseHeaderLine_eq_ok {foundHost after : Bool} {line : Bytes} :
    parseHeaderLine foundHost line = .ok after ↔
      ∃ header, HeaderLine line header ∧ ¬ AnnouncesBody header ∧
        foundHosts foundHost ++ hosts [header] = foundHosts after := by
  unfold parseHeaderLine
  cases hfind : find [58] line with
  | none =>
      refine iff_of_false (by simp) ?_
      rintro ⟨header, hline, -⟩
      rw [hline.find] at hfind
      cases hfind
  | some colon =>
      have hthe : (∃ header, HeaderLine line header ∧ ¬ AnnouncesBody header ∧
          foundHosts foundHost ++ hosts [header] = foundHosts after) ↔
          HeaderLine line (line.take colon, trimBlanks (line.drop (colon + 1))) ∧
            ¬ AnnouncesBody (line.take colon, trimBlanks (line.drop (colon + 1))) ∧
            foundHosts foundHost ++ hosts
              [(line.take colon, trimBlanks (line.drop (colon + 1)))]
              = foundHosts after := by
        constructor
        · rintro ⟨header, hline, hrest⟩
          obtain rfl := hline.eq hfind
          exact ⟨hline, hrest⟩
        · rintro ⟨hline, hrest⟩
          exact ⟨_, hline, hrest⟩
      rw [hthe, headerLine_iff hfind, foundHosts_iff]
      have htake : substr line 0 colon = line.take colon := rfl
      simp only [htake, AnnouncesBody]
      by_cases hstart : colon = 0 ∨ isBlank (line.getD (colon - 1) 0) = true
      · rw [if_pos hstart]
        exact iff_of_false (by simp) fun h => h.1.1 hstart
      rw [if_neg hstart]
      by_cases hkey : ((line.take colon).any fun c => !isAlnum c && c != 45) = true
      · rw [if_pos hkey]
        exact iff_of_false (by simp) fun h => h.1.2.1 hkey
      rw [if_neg hkey]
      by_cases hvalue :
        ((trimBlanks (line.drop (colon + 1))).any fun c => c < 0x20 && c != 9) = true
      · rw [if_pos hvalue]
        exact iff_of_false (by simp) fun h => h.1.2.2 hvalue
      rw [if_neg hvalue]
      by_cases hbody : lower (line.take colon) = ascii "content-length" ∨
          lower (line.take colon) = ascii "transfer-encoding"
      · rw [if_pos hbody]
        exact iff_of_false (by simp) fun h => h.2.1 hbody
      rw [if_neg hbody, and_iff_right ⟨hstart, hkey, hvalue⟩, and_iff_right hbody]
      by_cases hhost : lower (line.take colon) = ascii "host"
      · rw [if_pos hhost, if_pos hhost]
        by_cases hfound : foundHost = true ∨
            trimBlanks (line.drop (colon + 1)) ≠ ascii "localhost:8910"
        · rw [if_pos hfound]
          refine iff_of_false (by simp) ?_
          rintro ⟨hfirst, hvalue, -⟩
          exact hfound.elim (fun h => Bool.false_ne_true (hfirst.symm.trans h)) fun h => h hvalue
        · rw [if_neg hfound]
          obtain ⟨hfirst, hthere⟩ := not_or.mp hfound
          rw [Except.ok.injEq, eq_comm]
          exact ⟨fun h => ⟨Bool.eq_false_iff.mpr hfirst, not_not.mp hthere, h⟩, fun h => h.2.2⟩
      · rw [if_neg hhost, if_neg hhost, Except.ok.injEq]

theorem hosts_cons (header : Bytes × Bytes) (headers : List (Bytes × Bytes)) :
    hosts (header :: headers) = hosts [header] ++ hosts headers := by
  simp only [hosts, List.filter_cons, List.filter_nil]
  split <;> simp

theorem foundHosts_injective {a b : Bool} (h : foundHosts a = foundHosts b) : a = b := by
  cases a <;> cases b
  · rfl
  · simp [foundHosts] at h
  · simp [foundHosts] at h
  · rfl

/-- The hosts found so far are a first part of the hosts found in the end. -/
theorem exists_foundHosts {found more : List Bytes} {after : Bool}
    (h : found ++ more = foundHosts after) : ∃ mid, found = foundHosts mid := by
  cases after with
  | false =>
      simp only [foundHosts, Bool.false_eq_true, if_false] at h
      exact ⟨false, (List.append_eq_nil_iff.mp h).1⟩
  | true =>
      cases found with
      | nil => exact ⟨false, rfl⟩
      | cons host found =>
          simp only [foundHosts, if_true, List.cons_append, List.cons.injEq,
            List.append_eq_nil_iff] at h
          exact ⟨true, by rw [h.1, h.2.1]; rfl⟩

/-- The header loop, line by line. -/
theorem foldlM_parseHeaderLine_eq_ok {lines : List Bytes} {foundHost after : Bool} :
    lines.foldlM parseHeaderLine foundHost = .ok after ↔
      ∃ headers, List.Forall₂ HeaderLine lines headers ∧
        (∀ header ∈ headers, ¬ AnnouncesBody header) ∧
        foundHosts foundHost ++ hosts headers = foundHosts after := by
  induction lines generalizing foundHost with
  | nil =>
      simp only [List.foldlM_nil, List.forall₂_nil_left_iff, exists_eq_left]
      constructor
      · intro h
        obtain rfl := Except.ok.inj h
        exact ⟨by simp, by simp [hosts]⟩
      · rintro ⟨-, h⟩
        rw [hosts, List.filter_nil, List.map_nil, List.append_nil] at h
        rw [foundHosts_injective h]
        rfl
  | cons line lines ih =>
      rw [List.foldlM_cons, except_bind_eq_ok]
      simp only [parseHeaderLine_eq_ok, ih]
      constructor
      · rintro ⟨mid, ⟨header, hline, hbody, hmid⟩, headers, hlines, hbodies, hafter⟩
        refine ⟨header :: headers, .cons hline hlines,
          List.forall_mem_cons.mpr ⟨hbody, hbodies⟩, ?_⟩
        rw [hosts_cons, ← List.append_assoc, hmid, hafter]
      · rintro ⟨headers, hforall, hbodies, hafter⟩
        cases hforall with
        | @cons _ header _ headers hline hlines =>
            obtain ⟨hbody, hbodies⟩ := List.forall_mem_cons.mp hbodies
            rw [hosts_cons, ← List.append_assoc] at hafter
            obtain ⟨mid, hmid⟩ := exists_foundHosts hafter
            exact ⟨mid, ⟨header, hline, hbody, hmid⟩, headers, hlines, hbodies, hmid ▸ hafter⟩

/-! ## The lines of the headers -/

/-- The lines of a text: there is a line end between any two of them, and none in
one of them. -/
structure LinesOf (text : Bytes) (lines : List Bytes) : Prop where
  nonempty : lines ≠ []
  joined : text = crlf.intercalate lines
  clean : ∀ line ∈ lines, ¬ crlf <:+: line

/-- The first line end is behind a text that holds none. -/
theorem find_crlf {line : Bytes} (hclean : ¬ crlf <:+: line) (rest : Bytes) :
    find crlf (line ++ crlf ++ rest) = some line.length := by
  rw [List.append_assoc]
  refine find_eq_some_iff.mpr ⟨by simp, ?_, fun j hj hthere => ?_⟩
  · rw [List.drop_left]
    exact List.prefix_append _ _
  · -- an earlier one would lie in the text, or share its first byte with this one
    rw [List.drop_append_of_le_length hj.le] at hthere
    obtain ⟨c, tail, htail⟩ := List.exists_cons_of_ne_nil
      (List.ne_nil_of_length_pos (by rw [List.length_drop]; omega) : line.drop j ≠ [])
    rw [htail] at hthere
    cases tail with
    | nil =>
        simp only [crlf, List.cons_append, List.nil_append, List.cons_prefix_cons] at hthere
        exact absurd hthere.2.1 (by decide)
    | cons d tail =>
        simp only [crlf, List.cons_append, List.cons_prefix_cons] at hthere
        obtain ⟨rfl, rfl, -⟩ := hthere
        have hthere : crlf <:+: line.drop j := htail ▸ ⟨[], tail, rfl⟩
        exact hclean (hthere.trans (List.drop_suffix j line).isInfix)

/-- The first line end parts a text in one way. -/
theorem append_crlf_inj {line line' rest rest' : Bytes} (hline : ¬ crlf <:+: line)
    (hline' : ¬ crlf <:+: line') (h : line ++ crlf ++ rest = line' ++ crlf ++ rest') :
    line = line' ∧ rest = rest' := by
  have hfind := find_crlf hline rest
  rw [h, find_crlf hline' rest'] at hfind
  have hlength := Option.some.inj hfind
  obtain ⟨hfront, hrest⟩ := List.append_inj h (by simp [hlength])
  exact ⟨List.append_cancel_right hfront, hrest⟩

theorem LinesOf.one {line : Bytes} (h : ¬ crlf <:+: line) : LinesOf line [line] :=
  ⟨List.cons_ne_nil _ _, by simp, by simpa using h⟩

theorem LinesOf.cons {line text : Bytes} {lines : List Bytes} (hline : ¬ crlf <:+: line)
    (h : LinesOf text lines) : LinesOf (line ++ crlf ++ text) (line :: lines) :=
  ⟨List.cons_ne_nil _ _, by rw [h.joined, List.intercalate_cons_of_ne_nil h.nonempty],
    List.forall_mem_cons.mpr ⟨hline, h.clean⟩⟩

/-- A text is one line, or a line, a line end, and a text. -/
theorem LinesOf.split {text : Bytes} {lines : List Bytes} (h : LinesOf text lines) :
    (lines = [text] ∧ ¬ crlf <:+: text) ∨
      ∃ line rest more, lines = line :: more ∧ text = line ++ crlf ++ rest ∧ ¬ crlf <:+: line ∧
        LinesOf rest more := by
  obtain ⟨hne, hjoined, hclean⟩ := h
  cases lines with
  | nil => exact absurd rfl hne
  | cons line more =>
      obtain ⟨hline, hmore⟩ := List.forall_mem_cons.mp hclean
      by_cases hlast : more = []
      · subst hlast
        rw [List.intercalate_singleton] at hjoined
        exact .inl ⟨by rw [hjoined], hjoined ▸ hline⟩
      · rw [List.intercalate_cons_of_ne_nil hlast] at hjoined
        exact .inr ⟨line, _, more, rfl, hjoined, hline, hlast, rfl, hmore⟩

/-- The header loop goes over the lines of a text that does not end with a line
end. -/
theorem parseHeadersFrom_eq_ok {headers : Bytes} (hlast : ¬ crlf <:+ headers) {fuel start : Nat}
    (hstart : start < headers.length) (hfuel : headers.length - start ≤ fuel)
    {foundHost after : Bool} :
    parseHeadersFrom headers fuel start foundHost = .ok after ↔
      ∃ lines, LinesOf (headers.drop start) lines ∧
        lines.foldlM parseHeaderLine foundHost = .ok after := by
  induction fuel generalizing start foundHost with
  | zero => omega
  | succ fuel ih =>
      rw [parseHeadersFrom, if_pos hstart, findFrom, except_bind_eq_ok]
      cases hfind : find crlf (headers.drop start) with
      | none =>
          have hall : substr headers start (headers.length - start) = headers.drop start := by
            rw [substr, List.take_of_length_le (by rw [List.length_drop])]
          have hclean := find_eq_none_iff.mp hfind
          simp only [Option.map_none, Option.getD_none, hall]
          constructor
          · rintro ⟨mid, hline, hmid⟩
            obtain rfl := Except.ok.inj hmid
            refine ⟨_, LinesOf.one hclean, ?_⟩
            rw [List.foldlM_cons, hline]
            rfl
          · rintro ⟨lines, hlines, hfold⟩
            rcases hlines.split with ⟨rfl, -⟩ | ⟨line, rest, more, -, htext, -⟩
            · rw [List.foldlM_cons, except_bind_eq_ok] at hfold
              exact hfold
            · exact absurd ⟨line, rest, htext.symm⟩ hclean
      | some i =>
          have hspec := find_spec hfind
          have hcut := congrArg List.length hspec
          have hline := not_infix_of_find (by decide) hfind
          simp only [List.length_append, List.length_take, List.length_drop,
            show crlf.length = 2 from rfl] at hcut
          have hdrop :
              (headers.drop start).drop (i + crlf.length) = headers.drop (i + start + 2) := by
            rw [List.drop_drop, show crlf.length = 2 from rfl]
            congr 1
            omega
          rw [hdrop] at hspec
          have hmore : i + start + 2 < headers.length := by
            by_contra hend
            rw [List.drop_eq_nil_of_le (not_lt.mp hend), List.append_nil] at hspec
            refine hlast ⟨headers.take start ++ (headers.drop start).take i, ?_⟩
            rw [List.append_assoc, ← hspec, List.take_append_drop]
          have hrest {mid : Bool} := @ih (i + start + 2) hmore (by omega) mid
          simp only [Option.map_some, Option.getD_some, Nat.add_sub_cancel, hrest]
          rw [← substr] at hspec hline
          constructor
          · rintro ⟨mid, hfirst, lines, hlines, hfold⟩
            refine ⟨_, hspec ▸ LinesOf.cons hline hlines, ?_⟩
            rw [List.foldlM_cons, hfirst]
            exact hfold
          · rintro ⟨lines, hlines, hfold⟩
            rcases hlines.split with ⟨-, hclean⟩ | ⟨line, rest, more, rfl, htext, hfirst, hlines⟩
            · exact absurd ⟨_, _, hspec.symm⟩ hclean
            · obtain ⟨rfl, rfl⟩ := append_crlf_inj hfirst hline (htext.symm.trans hspec)
              rw [List.foldlM_cons, except_bind_eq_ok] at hfold
              obtain ⟨mid, hmid, hfold⟩ := hfold
              exact ⟨mid, hmid, more, hlines, hfold⟩

/-! ## The parts of a request -/

/-- Where a string goes on with the needle, the needle starts. -/
theorem starts_of_split {request front needle back : Bytes}
    (h : request = front ++ needle ++ back) :
    needle <+: request.drop front.length :=
  ⟨back, by rw [h, List.append_assoc, List.drop_left]⟩

theorem toNat_size {n : Nat} (h : n < 2 ^ 64) : (UInt64.ofNat n).toNat = n :=
  UInt64.toNat_ofNat_of_lt' h

/-- Behind a blank line that ends the request there is nothing. -/
theorem drop_headerEnd {request : Bytes} {headerEnd : Nat}
    (hblank : find (crlf ++ crlf) request = some headerEnd)
    (hend : headerEnd + 4 = request.length) : request.drop headerEnd = crlf ++ crlf := by
  obtain ⟨-, ⟨rest, hthere⟩, -⟩ := find_eq_some_iff.mp hblank
  have hrest : rest = [] := by
    have hlength := congrArg List.length hthere
    rw [List.length_append, show (crlf ++ crlf).length = 4 from rfl, List.length_drop] at hlength
    exact List.length_eq_zero_iff.mp (by omega)
  rw [← hthere, hrest, List.append_nil]

/-- The first blank line of the request is its end. -/
structure EndsAtBlankLine (request : Bytes) : Prop where
  ends : ∃ front, request = front ++ (crlf ++ crlf)
  first : ∀ front back, request = front ++ (crlf ++ crlf) ++ back → back = []

theorem endsAtBlankLine_iff {request : Bytes} :
    EndsAtBlankLine request ↔
      ∃ headerEnd, find (crlf ++ crlf) request = some headerEnd ∧
        headerEnd + 4 = request.length := by
  have hfour : (crlf ++ crlf).length = 4 := rfl
  constructor
  · rintro ⟨⟨front, rfl⟩, hfirst⟩
    refine ⟨front.length, find_eq_some_iff.mpr ⟨by simp, by simp, fun j hj hthere => ?_⟩,
      by rw [List.length_append, hfour]⟩
    obtain ⟨back, hback⟩ := hthere
    have hsplit : front ++ (crlf ++ crlf)
        = (front ++ (crlf ++ crlf)).take j ++ (crlf ++ crlf) ++ back := by
      rw [List.append_assoc, hback, List.take_append_drop]
    have hnil := hfirst _ _ hsplit
    have hlength := congrArg List.length hsplit
    simp only [List.length_append, List.length_take, hnil, List.length_nil] at hlength
    omega
  · rintro ⟨headerEnd, hfind, hend⟩
    obtain ⟨-, -, hfirst⟩ := find_eq_some_iff.mp hfind
    refine ⟨⟨request.take headerEnd, ?_⟩, fun front back hsplit => ?_⟩
    · rw [← drop_headerEnd hfind hend, List.take_append_drop]
    · have hlater : ¬ front.length < headerEnd := fun hlt => hfirst _ hlt (starts_of_split hsplit)
      have hlength := congrArg List.length hsplit
      rw [List.length_append, List.length_append, hfour] at hlength
      exact List.length_eq_zero_iff.mp (by omega)

/-- The headers of a request that has some: the subtraction does not wrap. -/
theorem callbackHeaders_eq {line headers : Bytes}
    (hshort : (line ++ crlf ++ headers).length < 2 ^ 64)
    (rest : Bytes) :
    callbackHeaders (line ++ crlf ++ headers ++ rest) line.length (line ++ crlf ++ headers).length
      = headers := by
  simp only [List.length_append, show crlf.length = 2 from rfl] at hshort ⊢
  have hcount :
      (UInt64.ofNat (line.length + 2 + headers.length) - UInt64.ofNat (line.length + 2)).toNat
      = headers.length := by
    rw [UInt64.toNat_sub_of_le, toNat_size (by omega), toNat_size (by omega)]
    · omega
    · rw [UInt64.le_iff_toNat_le, toNat_size (by omega), toNat_size (by omega)]
      omega
  have hstart : (line ++ crlf).length = line.length + 2 := by
    rw [List.length_append]
    rfl
  rw [callbackHeaders, hcount, substr, ← hstart, List.append_assoc (line ++ crlf), List.drop_left,
    List.take_left]

/-- A request line, headers and the blank line, as the parser finds them. -/
structure CallbackParts (request line headers : Bytes) : Prop where
  written : request = line ++ crlf ++ headers ++ (crlf ++ crlf)
  line : ¬ crlf <:+: line
  nonempty : headers ≠ []
  last : ¬ crlf <:+ headers

/-- Without headers the subtraction wraps around, and the rest of the request is taken. -/
theorem callbackHeaders_wrap {request : Bytes} {headerEnd : Nat}
    (hsize : request.length < 2 ^ 64) (hthere : request.drop headerEnd = crlf ++ crlf) :
    callbackHeaders request headerEnd headerEnd = crlf := by
  have hlength := congrArg List.length hthere
  rw [List.length_append, show crlf.length = 2 from rfl, List.length_drop] at hlength
  have hwrap : (UInt64.ofNat headerEnd - UInt64.ofNat (headerEnd + 2)).toNat = 2 ^ 64 - 2 := by
    rw [UInt64.toNat_sub, toNat_size (by omega), toNat_size (by omega)]
    omega
  have hall : (request.drop (headerEnd + 2)).length ≤ 2 ^ 64 - 2 := by
    rw [List.length_drop]
    omega
  rw [callbackHeaders, hwrap, substr, List.take_of_length_le hall, ← List.drop_drop, hthere]
  rfl

/-- Between the first line end and the blank line stand the headers. -/
theorem exists_headers {request : Bytes} {headerEnd lineEnd : Nat}
    (hline : find crlf request = some lineEnd) (hthere : request.drop headerEnd = crlf ++ crlf)
    (hgap : lineEnd + 2 ≤ headerEnd) :
    ∃ headers, request = request.take lineEnd ++ crlf ++ headers ++ (crlf ++ crlf) ∧
      (request.take lineEnd ++ crlf ++ headers).length = headerEnd := by
  have hlength := congrArg List.length hthere
  rw [List.length_append, show crlf.length = 2 from rfl, List.length_drop] at hlength
  have hback : (request.drop (lineEnd + 2)).drop (headerEnd - (lineEnd + 2)) = crlf ++ crlf := by
    rw [List.drop_drop, show lineEnd + 2 + (headerEnd - (lineEnd + 2)) = headerEnd by omega, hthere]
  refine ⟨(request.drop (lineEnd + 2)).take (headerEnd - (lineEnd + 2)), ?_, ?_⟩
  · rw [List.append_assoc, ← hback, List.take_append_drop]
    exact find_spec hline
  · simp only [List.length_append, List.length_take, List.length_drop,
      show crlf.length = 2 from rfl]
    omega

/-- What the parser cuts out of a request that ends at its first blank line is
its parts, or there are no headers and it cuts out a line end. -/
theorem callbackParts_of_find {request : Bytes} {headerEnd lineEnd : Nat}
    (hsize : request.length < 2 ^ 64) (hblank : find (crlf ++ crlf) request = some headerEnd)
    (hend : headerEnd + 4 = request.length) (hline : find crlf request = some lineEnd) :
    callbackHeaders request lineEnd headerEnd = crlf ∨
      CallbackParts request (request.take lineEnd) (callbackHeaders request lineEnd headerEnd) := by
  have hthere := drop_headerEnd hblank hend
  obtain ⟨-, -, hfirst⟩ := find_eq_some_iff.mp hblank
  obtain ⟨-, ⟨behind, hbehind⟩, hearlier⟩ := find_eq_some_iff.mp hline
  have hle : lineEnd ≤ headerEnd := by
    by_contra hgt
    exact hearlier headerEnd (not_le.mp hgt) ⟨crlf, hthere.symm⟩
  by_cases hnone : headerEnd = lineEnd
  · exact .inl (hnone ▸ callbackHeaders_wrap hsize hthere)
  refine .inr ?_
  have hgap : lineEnd + 2 ≤ headerEnd := by
    by_contra hgap
    -- the byte behind the line end would be a line feed and a carriage return
    have hone : (request.drop lineEnd).drop 1 = crlf ++ crlf := by
      rw [List.drop_drop, show lineEnd + 1 = headerEnd by omega, hthere]
    rw [← hbehind] at hone
    simp only [crlf, List.cons_append, List.drop_succ_cons, List.drop_zero,
      List.cons.injEq] at hone
    exact absurd hone.1 (by decide)
  obtain ⟨headers, hheaders, hlength⟩ := exists_headers hline hthere hgap
  have hcut : callbackHeaders request lineEnd headerEnd = headers := by
    have hshort : (request.take lineEnd ++ crlf ++ headers).length < 2 ^ 64 := by
      rw [hlength]
      omega
    have := callbackHeaders_eq hshort (crlf ++ crlf)
    rw [← hheaders, hlength, List.length_take, Nat.min_eq_left (by omega)] at this
    exact this
  rw [hcut]
  refine ⟨hheaders, not_infix_of_find (by decide) hline, ?_, ?_⟩
  · -- without headers the blank line would start at the first line end
    rintro rfl
    rw [List.append_nil, List.append_assoc, ← List.append_assoc crlf,
      ← List.append_assoc] at hheaders
    have hstart := starts_of_split hheaders
    rw [List.length_take, Nat.min_eq_left (by omega)] at hstart
    exact hfirst lineEnd (by omega) hstart
  · -- a last line end would start the blank line earlier
    rintro ⟨front, rfl⟩
    have hsplit : request = request.take lineEnd ++ crlf ++ front ++ (crlf ++ crlf) ++ crlf := by
      conv => lhs; rw [hheaders]
      simp only [List.append_assoc]
    refine hfirst _ ?_ (starts_of_split hsplit)
    rw [← hlength]
    simp only [List.length_append, show crlf.length = 2 from rfl]
    omega

/-- The searches of the parser find the parts. -/
theorem CallbackParts.find {request line headers : Bytes} (h : CallbackParts request line headers)
    (hends : EndsAtBlankLine request) (hsize : request.length < 2 ^ 64) :
    ∃ headerEnd, Lib.ByteString.find (crlf ++ crlf) request = some headerEnd ∧
      headerEnd + 4 = request.length ∧ Lib.ByteString.find crlf request = some line.length ∧
      callbackHeaders request line.length headerEnd = headers := by
  obtain ⟨headerEnd, hblank, hend⟩ := endsAtBlankLine_iff.mp hends
  have hlength := congrArg List.length h.written
  rw [List.length_append, show (crlf ++ crlf).length = 4 from rfl] at hlength
  have hheaderEnd : headerEnd = (line ++ crlf ++ headers).length := by omega
  refine ⟨headerEnd, hblank, hend, ?_, ?_⟩
  · rw [h.written, List.append_assoc]
    exact find_crlf h.line _
  · rw [hheaderEnd, h.written]
    exact callbackHeaders_eq (by omega) _

/-! ## The grammar -/

/-- A request with this query and these header lines. -/
structure CallbackRequest (request query : Bytes) (lines : List Bytes) : Prop where
  size : 1 ≤ request.length ∧ request.length ≤ 8192
  blank : EndsAtBlankLine request
  written : request = ascii "GET /oauth/callback?" ++ query ++ ascii " HTTP/1.1" ++ crlf ++
    crlf.intercalate lines ++ (crlf ++ crlf)
  first : ¬ crlf <:+: ascii "GET /oauth/callback?" ++ query ++ ascii " HTTP/1.1"
  query : query ≠ []
  lines : lines ≠ [] ∧ ∀ line ∈ lines, ¬ crlf <:+: line

/-- The headers of the lines: none announces a body, and one names the host. -/
structure CallbackHeaders (lines : List Bytes) (headers : List (Bytes × Bytes)) : Prop where
  each : List.Forall₂ HeaderLine lines headers
  noBody : ∀ header ∈ headers, ¬ AnnouncesBody header
  host : hosts headers = [callbackHost]

/-- The fields of the query: all names are different. -/
structure CallbackFields (query : Bytes) (fields : List (Bytes × Bytes)) : Prop where
  each : List.Forall₂ QueryItem (query.splitOn 38) fields
  distinct : (fields.map Prod.fst).Nodup

/-- The result that the fields stand for. -/
inductive CallbackOutcome (fields : List (Bytes × Bytes)) : ParsedCallback → Prop where
  | code {state code : Bytes} (hstate : fields.lookup (ascii "state") = some state)
      (hne : state ≠ []) (herror : fields.lookup (ascii "error") = none)
      (hcode : fields.lookup (ascii "code") = some code) (hcodene : code ≠ []) :
      CallbackOutcome fields { status := .codeReceived, state, code }
  | denied {state : Bytes} (hstate : fields.lookup (ascii "state") = some state) (hne : state ≠ [])
      (herror : fields.lookup (ascii "error") = some (ascii "access_denied"))
      (hcode : fields.lookup (ascii "code") = none) :
      CallbackOutcome fields { status := .accessDenied, state, safeErrorCode := "USER_DENIED" }

theorem callbackResult_eq_ok {fields : List (Bytes × Bytes)}
    (hdistinct : (fields.map Prod.fst).Nodup) {result : ParsedCallback} :
    callbackResult (fieldMap ∅ fields) = .ok result ↔ CallbackOutcome fields result := by
  have hlook (name : Bytes) : (fieldMap ∅ fields)[name]? = fields.lookup name := by
    rw [getElem?_fieldMap hdistinct]
    simp
  unfold callbackResult
  simp only [hlook]
  constructor
  · intro h
    cases hstate : fields.lookup (ascii "state") with
    | none => simp [hstate] at h
    | some state =>
        simp only [hstate] at h
        split at h
        · cases h
        · rename_i hne
          cases herror : fields.lookup (ascii "error") with
          | some error =>
              simp only [herror] at h
              split at h
              · cases h
              · rename_i hdenied
                simp only [not_or, not_not, Bool.not_eq_true, Option.isSome_eq_false_iff,
                  Option.isNone_iff_eq_none] at hdenied
                obtain rfl := Except.ok.inj h
                exact .denied hstate hne (hdenied.2 ▸ herror) hdenied.1
          | none =>
              cases hcode : fields.lookup (ascii "code") with
              | none => simp [herror, hcode] at h
              | some code =>
                  simp only [herror, hcode] at h
                  split at h
                  · cases h
                  · rename_i hcodene
                    obtain rfl := Except.ok.inj h
                    exact .code hstate hne herror hcode hcodene
  · rintro (⟨hstate, hne, herror, hcode, hcodene⟩ | ⟨hstate, hne, herror, hcode⟩)
    · simp [hstate, hne, herror, hcode, hcodene]
    · simp [hstate, hne, herror, hcode]

/-- The request line holds the query between its fixed ends. -/
theorem requestLine_iff {line : Bytes} :
    ¬ (¬ callbackPrefix.isPrefixOf line = true ∨
        line.length ≤ callbackPrefix.length + callbackSuffix.length ∨
        ¬ endsWith callbackSuffix line = true) ↔
      ∃ query, query ≠ [] ∧ line = callbackPrefix ++ query ++ callbackSuffix := by
  simp only [not_or, not_not, not_le]
  rw [List.isPrefixOf_iff_prefix, endsWith, List.isSuffixOf_iff_suffix]
  constructor
  · rintro ⟨⟨rest, rfl⟩, hlong, hsuffix⟩
    rw [List.length_append] at hlong
    obtain ⟨query, rfl⟩ :=
      List.suffix_of_suffix_length_le hsuffix (List.suffix_append _ _) (by omega)
    refine ⟨query, ?_, by rw [List.append_assoc]⟩
    rintro rfl
    simp at hlong
  · rintro ⟨query, hne, rfl⟩
    have hpos := List.length_pos_iff.mpr hne
    refine ⟨⟨query ++ callbackSuffix, by rw [List.append_assoc]⟩, ?_, List.suffix_append _ _⟩
    simp only [List.length_append]
    omega

/-- The query that the parser cuts out of the request line. -/
theorem substr_query (query : Bytes) :
    substr (callbackPrefix ++ query ++ callbackSuffix) callbackPrefix.length
      ((callbackPrefix ++ query ++ callbackSuffix).length - callbackPrefix.length
        - callbackSuffix.length) = query := by
  have hlength : (callbackPrefix ++ query ++ callbackSuffix).length - callbackPrefix.length
      - callbackSuffix.length = query.length := by
    simp only [List.length_append]
    omega
  rw [hlength, substr, List.append_assoc, List.drop_left, List.take_left]

/-- Without headers, the header loop reads an empty line. -/
theorem parseHeadersFrom_crlf :
    parseHeadersFrom crlf crlf.length 0 false = .error malformedHeader := by decide

/-- The header loop finds one host, and no body. -/
theorem parseHeaders_eq_ok {headers : Bytes} (hne : headers ≠ []) (hlast : ¬ crlf <:+ headers) :
    parseHeadersFrom headers headers.length 0 false = .ok true ↔
      ∃ lines read, LinesOf headers lines ∧ CallbackHeaders lines read := by
  rw [parseHeadersFrom_eq_ok hlast (List.length_pos_iff.mpr hne) (Nat.sub_le _ _), List.drop_zero]
  simp only [foldlM_parseHeaderLine_eq_ok]
  constructor
  · rintro ⟨lines, hlines, read, heach, hbody, hhost⟩
    exact ⟨lines, read, hlines, heach, hbody, hhost⟩
  · rintro ⟨lines, read, hlines, heach, hbody, hhost⟩
    exact ⟨lines, hlines, read, heach, hbody, hhost⟩

/-- No header line is empty. -/
theorem HeaderLine.ne_nil {line : Bytes} {header : Bytes × Bytes} (h : HeaderLine line header) :
    line ≠ [] := by
  obtain ⟨rest, rfl, -⟩ := h.parts
  simp

theorem CallbackHeaders.text_ne_nil {text : Bytes} {lines : List Bytes}
    {headers : List (Bytes × Bytes)} (h : CallbackHeaders lines headers)
    (hlines : LinesOf text lines) :
    text ≠ [] := by
  rcases hlines.split with ⟨rfl, -⟩ | ⟨line, rest, more, -, rfl, -⟩
  · obtain ⟨header, -, hline, -⟩ := List.forall₂_cons_left_iff.mp h.each
    exact hline.ne_nil
  · simp [crlf]

/-- The parts of a request in the grammar. -/
theorem CallbackRequest.parts {request query : Bytes} {lines : List Bytes}
    {headers : List (Bytes × Bytes)} (h : CallbackRequest request query lines)
    (hheaders : CallbackHeaders lines headers) :
    CallbackParts request (callbackPrefix ++ query ++ callbackSuffix) (crlf.intercalate lines) := by
  have hlines : LinesOf (crlf.intercalate lines) lines := ⟨h.lines.1, rfl, h.lines.2⟩
  refine ⟨h.written, h.first, hheaders.text_ne_nil hlines, ?_⟩
  -- a last line end would be the start of another blank line
  rintro ⟨front, hfront⟩
  have hwritten := h.written
  rw [← hfront] at hwritten
  refine absurd
    (h.blank.first (callbackPrefix ++ query ++ callbackSuffix ++ crlf ++ front) crlf ?_) (by decide)
  rw [hwritten]
  simp only [List.append_assoc]
  rfl

/-- `ParseOAuthCallbackRequest` accepts exactly the grammar, and answers what the
fields stand for. -/
theorem callback_grammar (request : Bytes) (result : ParsedCallback) :
    parseOAuthCallbackRequest request = .ok result ↔
      ∃ query lines headers fields, CallbackRequest request query lines ∧
        CallbackHeaders lines headers ∧ CallbackFields query fields ∧
        CallbackOutcome fields result := by
  constructor
  · intro h
    unfold parseOAuthCallbackRequest at h
    split at h
    · cases h
    rename_i hsize
    obtain ⟨hne, hshort⟩ := not_or.mp hsize
    rw [maxCallbackRequestBytes] at hshort
    split at h
    · cases h
    rename_i headerEnd hblank
    split at h
    · cases h
    rename_i hend
    split at h
    · cases h
    rename_i lineEnd hline
    simp only at h
    split at h
    · cases h
    rename_i hrequestLine
    obtain ⟨query, hquery, hcut⟩ := requestLine_iff.mp hrequestLine
    rw [hcut, substr_query] at h
    obtain ⟨foundHost, hheaders, h⟩ := except_bind_eq_ok.mp h
    cases foundHost with
    | false => cases h
    | true =>
        obtain ⟨_, hfields, hresult⟩ := except_bind_eq_ok.mp h
        obtain ⟨fields, hitems, hdistinct, rfl⟩ := parseQuery_eq_ok.mp hfields
        rcases callbackParts_of_find (by omega) hblank (not_not.mp hend) hline with hwrap | hparts
        · rw [hwrap, parseHeadersFrom_crlf] at hheaders
          cases hheaders
        · obtain ⟨lines, headers, hlines, hread⟩ :=
            (parseHeaders_eq_ok hparts.nonempty hparts.last).mp hheaders
          have hwritten := hparts.written
          have hfirst := hparts.line
          rw [← show substr request 0 lineEnd = request.take lineEnd from rfl,
            hcut] at hwritten hfirst
          refine ⟨query, lines, headers, fields, ?_, hread, ⟨hitems, hdistinct⟩,
            (callbackResult_eq_ok hdistinct).mp hresult⟩
          exact {
            size := ⟨List.length_pos_iff.mpr hne, not_lt.mp hshort⟩
            blank := endsAtBlankLine_iff.mpr ⟨headerEnd, hblank, not_not.mp hend⟩
            written := hlines.joined ▸ hwritten
            first := hfirst
            query := hquery
            lines := ⟨hlines.nonempty, hlines.clean⟩ }
  · rintro ⟨query, lines, headers, fields, hrequest, hheaders, hfields, houtcome⟩
    obtain ⟨hpos, hshort⟩ := hrequest.size
    have hlines : LinesOf (crlf.intercalate lines) lines :=
      ⟨hrequest.lines.1, rfl, hrequest.lines.2⟩
    have hparts := hrequest.parts hheaders
    obtain ⟨headerEnd, hblank, hend, hline, hcut⟩ := hparts.find hrequest.blank (by omega)
    have hrequestLine : substr request 0 (callbackPrefix ++ query ++ callbackSuffix).length
        = callbackPrefix ++ query ++ callbackSuffix := by
      have hwritten := hparts.written
      rw [List.append_assoc _ _ (crlf ++ crlf), List.append_assoc _ crlf] at hwritten
      rw [hwritten, substr, List.drop_zero, List.take_left]
    have hread : parseHeadersFrom (crlf.intercalate lines) (crlf.intercalate lines).length 0 false
        = .ok true :=
      (parseHeaders_eq_ok hparts.nonempty hparts.last).mpr ⟨lines, headers, hlines, hheaders⟩
    have hsize : ¬ (request = [] ∨ maxCallbackRequestBytes < request.length) :=
      not_or.mpr ⟨List.length_pos_iff.mp hpos, not_lt.mpr hshort⟩
    unfold parseOAuthCallbackRequest
    rw [if_neg hsize, hblank]
    simp only
    rw [if_neg (not_not.mpr hend), hline]
    simp only [hrequestLine]
    rw [if_neg (requestLine_iff.mpr ⟨query, hrequest.query, rfl⟩), substr_query, hcut]
    refine except_bind_eq_ok.mpr ⟨true, hread, ?_⟩
    refine except_bind_eq_ok.mpr ⟨_,
      parseQuery_eq_ok.mpr ⟨fields, hfields.each, hfields.distinct, rfl⟩, ?_⟩
    exact (callbackResult_eq_ok hfields.distinct).mpr houtcome

end Data360
