import Data360.LoopbackListener.Grammar

/-!
# The native acceptor

`NativeLoopbackAcceptor::AcceptOne` of `src/loopback_listener.cpp`.  It waits for one client
and reads from it, at most 512 bytes at a time, until it has read a blank line.

Each of the two loops polls a socket.  What a turn of a loop is told is an input of the
model: whether another thread closes the acceptor, what the cancellation check says, what
the time is, and what `select`, `accept` and `recv` answer.  A loop that runs out of turns is
still waiting.  The clock counts nanoseconds, and a caller waits for ten minutes at most, so
the deadline does not overflow.

* `acceptTurn` and `readTurn` are one turn of each loop.
* `readTurn_eq_ok` says what a turn that does not throw does to the request, and
  `readTurn_of_gives` when a turn does not throw.
* `acceptOne_segments` says that it does not matter how a request is cut into pieces.
-/

namespace Data360

open Lib Lib.ByteString

/-! ## Sockets -/

/-- A socket, as POSIX numbers it. -/
abbrev SocketHandle := Int

/-- `INVALID_SOCKET_HANDLE`. -/
def invalidSocketHandle : SocketHandle := -1

/-- `FD_SETSIZE`. -/
def fdSetSize : Int := 1024

/-- A socket that `select` can wait for. -/
def Selectable (socket : SocketHandle) : Prop := 0 ≤ socket ∧ socket < fdSetSize

instance (socket : SocketHandle) : Decidable (Selectable socket) :=
  inferInstanceAs (Decidable (_ ∧ _))

/-- What `errno` says after a call that failed. -/
inductive SocketError where
  | wouldBlock
  | interrupted
  | other
  deriving DecidableEq, Repr

/-- What `AcceptOne` throws: `CallbackCancelled`, a `CallbackProtocolError`, or what the
cancellation check threw. -/
inductive AcceptError where
  | cancelled
  | protocol (error : CallbackProtocolError)
  | thrown
  deriving DecidableEq, Repr

/-- The error of a socket that `select` cannot wait for. -/
def listenerUnavailable : AcceptError := .protocol ⟨"callback listener unavailable"⟩

/-- The error of a call that failed. -/
def listenerFailed : AcceptError := .protocol ⟨"callback listener failed"⟩

/-- The error of a request that ends too early or is too long. -/
def invalidRequest : AcceptError := .protocol ⟨"invalid or oversized callback request"⟩

/-- `NativeLoopbackAcceptor`. -/
structure NativeLoopbackAcceptor where
  closeRequested : Bool := false
  listener : SocketHandle := invalidSocketHandle
  client : SocketHandle := invalidSocketHandle
  deriving DecidableEq, Repr

/-- `Close`. -/
def NativeLoopbackAcceptor.close (_ : NativeLoopbackAcceptor) : NativeLoopbackAcceptor where
  closeRequested := true

/-! ## Polling -/

/-- What a turn is told before it uses its socket: `close_requested` at its top, the
cancellation check, which may throw, the time, whether the acceptor was closed before the
turn got the mutex, the answer of `select`, and `close_requested` after an empty one. -/
structure PollTurn where
  closeRequested : Bool := false
  cancelled : Except Unit Bool := .ok false
  now : Nat := 0
  closed : Bool := false
  select : Except SocketError Nat := .ok 1
  closeRequestedIdle : Bool := false

/-- The checks at the top of a turn. -/
def checkTurn (deadline : Nat) (turn : PollTurn) : Except AcceptError Unit :=
  if turn.closeRequested then .error .cancelled
  else
    match turn.cancelled with
    | .error _ => .error .thrown
    | .ok true => .error .cancelled
    | .ok false =>
        if deadline ≤ turn.now then .error (.protocol ⟨"OAuth callback timed out"⟩) else .ok ()

/-- The wait for a socket: whether it is ready. -/
def awaitSocket (socket : SocketHandle) (turn : PollTurn) : Except AcceptError Bool :=
  if socket = invalidSocketHandle then .error .cancelled
  else if ¬ Selectable socket then .error listenerUnavailable
  else
    match turn.select with
    | .error .interrupted => .ok false
    | .error _ => .error listenerFailed
    | .ok 0 => if turn.closeRequestedIdle then .error .cancelled else .ok false
    | .ok (_ + 1) => .ok true

/-! ## AcceptOne -/

/-- A turn of the first loop, with the answers of `accept` and of `SetNonBlocking`. -/
structure AcceptTurn extends PollTurn where
  accepted : Except SocketError SocketHandle := .error .wouldBlock
  nonBlocking : Bool := true

/-- One turn of the first loop: the client, if there is one now. -/
def acceptTurn (acceptor : NativeLoopbackAcceptor) (deadline : Nat) (turn : AcceptTurn) :
    Except AcceptError (Option SocketHandle) := do
  checkTurn deadline turn.toPollTurn
  let acceptor := if turn.closed then acceptor.close else acceptor
  if acceptor.client ≠ invalidSocketHandle then .ok (some acceptor.client)
  else if ← awaitSocket acceptor.listener turn.toPollTurn then
    match turn.accepted with
    | .error .wouldBlock | .error .interrupted => .ok none
    | .error .other => .error listenerFailed
    | .ok accepted =>
        if ¬ turn.nonBlocking then .error listenerFailed
        else if ¬ Selectable accepted then .error listenerUnavailable
        else .ok (some accepted)
  else .ok none

/-- The first loop. -/
def acceptClient (acceptor : NativeLoopbackAcceptor) (deadline : Nat) :
    List AcceptTurn → Option (Except AcceptError SocketHandle)
  | [] => none
  | turn :: turns =>
      match acceptTurn acceptor deadline turn with
      | .error e => some (.error e)
      | .ok (some client) => some (.ok client)
      | .ok none => acceptClient acceptor deadline turns

/-- What `recv` puts into a buffer of 512 bytes.  No bytes at all are the end of the stream. -/
structure Received where
  bytes : Bytes
  fits : bytes.length ≤ 512 := by decide

/-- A turn of the second loop, with the answer of `recv`. -/
structure ReadTurn extends PollTurn where
  received : Except SocketError Received := .error .wouldBlock

/-- One turn of the second loop: the request after it. -/
def readTurn (client : SocketHandle) (maximumBytes deadline : Nat) (request : Bytes)
    (turn : ReadTurn) : Except AcceptError Bytes := do
  checkTurn deadline turn.toPollTurn
  let client := if turn.closed then invalidSocketHandle else client
  if ← awaitSocket client turn.toPollTurn then
    match turn.received with
    | .error .wouldBlock | .error .interrupted => .ok request
    | .error .other => .error invalidRequest
    | .ok received =>
        if received.bytes = [] ∨ maximumBytes < request.length + received.bytes.length then
          .error invalidRequest
        else .ok (request ++ received.bytes)
  else .ok request

/-- The line end and the blank line behind the headers. -/
def blankLine : Bytes := crlf ++ crlf

/-- The second loop. -/
def readRequest (client : SocketHandle) (maximumBytes deadline : Nat) (request : Bytes)
    (turns : List ReadTurn) : Option (Except AcceptError Bytes) :=
  if (find blankLine request).isSome then some (.ok request)
  else
    match turns with
    | [] => none
    | turn :: turns =>
        match readTurn client maximumBytes deadline request turn with
        | .error e => some (.error e)
        | .ok request => readRequest client maximumBytes deadline request turns

/-- The time at which a call that started at `start` gives up. -/
def deadlineOf (start : Nat) (timeoutMs : UInt64) : Nat := start + timeoutMs.toNat * 1000000

/-- `AcceptOne`, with the turns of both loops. -/
def acceptOne (acceptor : NativeLoopbackAcceptor) (maximumBytes : Nat) (timeoutMs : UInt64)
    (start : Nat) (accepting : List AcceptTurn) (reading : List ReadTurn) :
    Option (Except AcceptError Bytes) :=
  if acceptor.closeRequested then some (.error .cancelled)
  else if acceptor.listener = invalidSocketHandle ∨ maxCallbackRequestBytes < maximumBytes then
    some (.error (.protocol ⟨"invalid callback listener state"⟩))
  else
    match acceptClient acceptor (deadlineOf start timeoutMs) accepting with
    | none => none
    | some (.error e) => some (.error e)
    | some (.ok client) =>
        readRequest client maximumBytes (deadlineOf start timeoutMs) [] reading

/-! ## What a turn reads -/

/-- The bytes that a turn takes from the stream, if it takes some. -/
def ReadTurn.arrived (turn : ReadTurn) : Bytes :=
  match turn.select, turn.received with
  | .ok (_ + 1), .ok received => received.bytes
  | _, _ => []

/-- The bytes that the turns take from the stream. -/
def arrivedBytes (turns : List ReadTurn) : Bytes := turns.flatMap ReadTurn.arrived

/-- A wait that does not throw ends with a socket that is ready, or with one that is not. -/
theorem awaitSocket_eq_ok {socket : SocketHandle} {turn : PollTurn} {ready : Bool}
    (h : awaitSocket socket turn = .ok ready) :
    (ready = true ∧ ∃ count, turn.select = .ok (count + 1)) ∨
      (ready = false ∧ (turn.select = .error .interrupted ∨ turn.select = .ok 0)) := by
  unfold awaitSocket at h
  split at h
  · cases h
  split at h
  · cases h
  split at h
  · rename_i hselect
    exact .inr ⟨(Except.ok.inj h).symm, .inl hselect⟩
  · cases h
  · rename_i hselect
    split at h
    · cases h
    · exact .inr ⟨(Except.ok.inj h).symm, .inr hselect⟩
  · rename_i count hselect
    exact .inl ⟨(Except.ok.inj h).symm, count, hselect⟩

/-- A turn that goes on has added what it took, within the limit. -/
theorem readTurn_eq_ok {client : SocketHandle} {maximumBytes deadline : Nat}
    {request after : Bytes} {turn : ReadTurn}
    (h : readTurn client maximumBytes deadline request turn = .ok after) :
    after = request ++ turn.arrived ∧
      (request.length ≤ maximumBytes → after.length ≤ maximumBytes) := by
  obtain ⟨-, -, h⟩ := except_bind_eq_ok.mp h
  obtain ⟨ready, hready, h⟩ := except_bind_eq_ok.mp h
  rcases awaitSocket_eq_ok hready with ⟨rfl, count, hselect⟩ | ⟨rfl, hselect⟩
  · rw [if_pos rfl] at h
    cases hreceived : turn.received with
    | error e =>
        have hnothing : turn.arrived = [] := by
          rw [ReadTurn.arrived, hselect, hreceived]
        rw [hreceived] at h
        cases e with
        | wouldBlock | interrupted =>
            obtain rfl := Except.ok.inj h
            rw [hnothing, List.append_nil]
            exact ⟨rfl, id⟩
        | other => cases h
    | ok received =>
        have harrived : turn.arrived = received.bytes := by
          rw [ReadTurn.arrived, hselect, hreceived]
        rw [hreceived] at h
        dsimp only at h
        split at h
        · cases h
        · rename_i hfits
          obtain rfl := Except.ok.inj h
          rw [harrived]
          refine ⟨rfl, fun _ => ?_⟩
          rw [List.length_append]
          exact Nat.not_lt.mp (not_or.mp hfits).2
  · obtain rfl := Except.ok.inj h
    have hnothing : turn.arrived = [] := by
      rcases hselect with hselect | hselect
      all_goals rw [ReadTurn.arrived, hselect]
    rw [hnothing, List.append_nil]
    exact ⟨rfl, id⟩

/-- What the second loop returns: it goes on with what has been read, it has a blank line,
and it is within the limit. -/
theorem readRequest_eq_ok {client : SocketHandle} {maximumBytes deadline : Nat}
    {request result : Bytes} {turns : List ReadTurn}
    (h : readRequest client maximumBytes deadline request turns = some (.ok result)) :
    result <+: request ++ arrivedBytes turns ∧ blankLine <:+: result ∧
      (request.length ≤ maximumBytes → result.length ≤ maximumBytes) := by
  induction turns generalizing request with
  | nil =>
      rw [readRequest] at h
      split at h
      · rename_i hfound
        obtain rfl := Except.ok.inj (Option.some.inj h)
        exact ⟨List.prefix_append _ _, isSome_find.mp hfound, id⟩
      · cases h
  | cons turn turns ih =>
      rw [readRequest] at h
      split at h
      · rename_i hfound
        obtain rfl := Except.ok.inj (Option.some.inj h)
        exact ⟨List.prefix_append _ _, isSome_find.mp hfound, id⟩
      · cases hturn : readTurn client maximumBytes deadline request turn with
        | error e =>
            rw [hturn] at h
            cases h
        | ok after =>
            rw [hturn] at h
            obtain ⟨hafter, hlength⟩ := readTurn_eq_ok hturn
            obtain ⟨hfront, hblank, hmaximum⟩ := ih h
            refine ⟨?_, hblank, fun hfits => hmaximum (hlength hfits)⟩
            rw [hafter, List.append_assoc] at hfront
            exact hfront

/-! ## Turns that go well -/

/-- A turn in time that nobody interferes with: the acceptor stays open, and the login is
not cancelled. -/
structure PollTurn.Calm (turn : PollTurn) (deadline : Nat) : Prop where
  requested : turn.closeRequested = false
  cancelled : turn.cancelled = .ok false
  inTime : turn.now < deadline
  closed : turn.closed = false
  requestedIdle : turn.closeRequestedIdle = false

/-- A wait that is interrupted, or ends without a socket that is ready. -/
inductive PollTurn.Idle (turn : PollTurn) : Prop
  | interrupted (h : turn.select = .error .interrupted)
  | empty (h : turn.select = .ok 0)

/-- A wait that ends with a socket that is ready. -/
def PollTurn.Ready (turn : PollTurn) : Prop := ∃ count, turn.select = .ok (count + 1)

/-- A call that is to be made again. -/
def SocketError.Transient (e : SocketError) : Prop := e = .wouldBlock ∨ e = .interrupted

/-- A turn of the second loop gives a piece of the stream, of 1 to 512 bytes, or nothing. -/
inductive ReadTurn.Gives (turn : ReadTurn) : Bytes → Prop
  | idle (h : turn.Idle) : Gives turn []
  | again {e : SocketError} (h : turn.Ready) (hreceived : turn.received = .error e)
      (he : e.Transient) : Gives turn []
  | piece {received : Received} (h : turn.Ready) (hreceived : turn.received = .ok received)
      (hne : received.bytes ≠ []) : Gives turn received.bytes

/-- The bytes arrive in the turns, in pieces. -/
inductive Arrives (deadline : Nat) : List ReadTurn → Bytes → Prop
  | done : Arrives deadline [] []
  | turn {turn : ReadTurn} {turns : List ReadTurn} {piece bytes : Bytes}
      (hcalm : turn.Calm deadline) (hgives : turn.Gives piece)
      (rest : Arrives deadline turns bytes) : Arrives deadline (turn :: turns) (piece ++ bytes)

/-- The turns of the first loop bring a client. -/
inductive Connects (deadline : Nat) (client : SocketHandle) : List AcceptTurn → Prop
  | accepted {turn : AcceptTurn} {later : List AcceptTurn} (hcalm : turn.Calm deadline)
      (hready : turn.Ready) (haccepted : turn.accepted = .ok client)
      (hnonBlocking : turn.nonBlocking = true) (hclient : Selectable client) :
      Connects deadline client (turn :: later)
  | idle {turn : AcceptTurn} {turns : List AcceptTurn} (hcalm : turn.Calm deadline)
      (hidle : turn.Idle) (rest : Connects deadline client turns) :
      Connects deadline client (turn :: turns)
  | again {turn : AcceptTurn} {turns : List AcceptTurn} {e : SocketError}
      (hcalm : turn.Calm deadline) (hready : turn.Ready) (haccepted : turn.accepted = .error e)
      (he : e.Transient) (rest : Connects deadline client turns) :
      Connects deadline client (turn :: turns)

/-- An acceptor that is bound and waits for its client. -/
structure NativeLoopbackAcceptor.Listening (acceptor : NativeLoopbackAcceptor) : Prop where
  opened : acceptor.closeRequested = false
  listener : Selectable acceptor.listener
  waits : acceptor.client = invalidSocketHandle

section Calm

variable {deadline : Nat} {socket : SocketHandle} {turn : PollTurn}

theorem Selectable.ne_invalid (h : Selectable socket) : socket ≠ invalidSocketHandle := by
  rintro rfl
  exact absurd h (by decide)

theorem PollTurn.Calm.checkTurn (h : turn.Calm deadline) : checkTurn deadline turn = .ok () := by
  unfold Data360.checkTurn
  rw [h.requested, h.cancelled]
  exact if_neg (Nat.not_le.mpr h.inTime)

theorem awaitSocket_ready (hsocket : Selectable socket) (h : turn.Ready) :
    awaitSocket socket turn = .ok true := by
  obtain ⟨count, hselect⟩ := h
  rw [awaitSocket, if_neg hsocket.ne_invalid, if_neg (not_not.mpr hsocket), hselect]

theorem awaitSocket_idle (hsocket : Selectable socket) (hcalm : turn.Calm deadline)
    (h : turn.Idle) : awaitSocket socket turn = .ok false := by
  rw [awaitSocket, if_neg hsocket.ne_invalid, if_neg (not_not.mpr hsocket)]
  cases h with
  | interrupted hselect => rw [hselect]
  | empty hselect => rw [hselect, hcalm.requestedIdle]; rfl

end Calm

/-- Turns that bring a client end the first loop. -/
theorem acceptClient_of_connects {acceptor : NativeLoopbackAcceptor} {deadline : Nat}
    {client : SocketHandle} {accepting : List AcceptTurn} (hlistening : acceptor.Listening)
    (h : Connects deadline client accepting) :
    acceptClient acceptor deadline accepting = some (.ok client) := by
  have hturn {turn : AcceptTurn} (hcalm : turn.Calm deadline) :
      acceptTurn acceptor deadline turn
        = (awaitSocket acceptor.listener turn.toPollTurn >>= fun ready =>
          if ready then
            match turn.accepted with
            | .error .wouldBlock | .error .interrupted => .ok none
            | .error .other => .error listenerFailed
            | .ok accepted =>
                if ¬ turn.nonBlocking then .error listenerFailed
                else if ¬ Selectable accepted then .error listenerUnavailable
                else .ok (some accepted)
          else .ok none) := by
    unfold acceptTurn
    rw [hcalm.checkTurn, hcalm.closed]
    exact if_neg (not_not.mpr hlistening.waits)
  induction h with
  | accepted hcalm hready haccepted hnonBlocking hclient =>
      rw [acceptClient, hturn hcalm, awaitSocket_ready hlistening.listener hready, haccepted]
      simp [Bind.bind, Except.bind, hnonBlocking, hclient]
  | idle hcalm hidle _ ih =>
      rw [acceptClient, hturn hcalm, awaitSocket_idle hlistening.listener hcalm hidle]
      exact ih
  | again hcalm hready haccepted he _ ih =>
      rw [acceptClient, hturn hcalm, awaitSocket_ready hlistening.listener hready, haccepted]
      rcases he with rfl | rfl
      all_goals exact ih

/-- A turn that gives a piece within the limit adds it. -/
theorem readTurn_of_gives {client : SocketHandle} {maximumBytes deadline : Nat}
    {request piece : Bytes} {turn : ReadTurn} (hclient : Selectable client)
    (hcalm : turn.Calm deadline) (hgives : turn.Gives piece)
    (hfits : request.length + piece.length ≤ maximumBytes) :
    readTurn client maximumBytes deadline request turn = .ok (request ++ piece) := by
  unfold readTurn
  rw [hcalm.checkTurn, hcalm.closed]
  cases hgives with
  | idle hidle =>
      rw [List.append_nil]
      show (awaitSocket client turn.toPollTurn >>= _) = _
      rw [awaitSocket_idle hclient hcalm hidle]
      rfl
  | again hready hreceived he =>
      rw [List.append_nil]
      show (awaitSocket client turn.toPollTurn >>= _) = _
      rw [awaitSocket_ready hclient hready, hreceived]
      rcases he with rfl | rfl
      all_goals rfl
  | piece hready hreceived hne =>
      show (awaitSocket client turn.toPollTurn >>= _) = _
      rw [awaitSocket_ready hclient hready, hreceived]
      exact if_neg (not_or.mpr ⟨hne, Nat.not_lt.mpr hfits⟩)

/-- A request that ends at its first blank line is read as soon as its rest has arrived, however
the rest is cut. -/
theorem readRequest_of_arrives {client : SocketHandle} {maximumBytes deadline : Nat}
    {request bytes : Bytes} {reading : List ReadTurn} (hclient : Selectable client)
    (h : Arrives deadline reading bytes) (hends : EndsAtBlankLine (request ++ bytes))
    (hfits : (request ++ bytes).length ≤ maximumBytes) (later : List ReadTurn) :
    readRequest client maximumBytes deadline request (reading ++ later)
      = some (.ok (request ++ bytes)) := by
  induction h generalizing request with
  | done =>
      rw [List.append_nil] at hends ⊢
      obtain ⟨front, hfront⟩ := hends.ends
      unfold readRequest
      exact if_pos (isSome_find.mpr (hfront ▸ List.infix_append' front _ []))
  | @turn turn turns piece bytes hcalm hgives _ ih =>
      rw [← List.append_assoc] at hends hfits ⊢
      rw [List.cons_append, readRequest]
      split
      · -- the blank line is already there, so nothing of the request is left
        rename_i hfound
        obtain ⟨front, back, hrequest⟩ := isSome_find.mp hfound
        have hrest : back ++ (piece ++ bytes) = [] := hends.first front _ (by
          simp only [← hrequest, blankLine, List.append_assoc])
        obtain ⟨rfl, rfl⟩ := List.append_eq_nil_iff.mp (List.append_eq_nil_iff.mp hrest).2
        simp
      · have hpiece : request.length + piece.length ≤ maximumBytes := by
          rw [List.length_append, List.length_append] at hfits
          omega
        rw [readTurn_of_gives hclient hcalm hgives hpiece]
        exact ih hends hfits

/-- A request that the parser accepts ends at its first blank line, and it is not too long. -/
theorem endsAtBlankLine_of_accepted {request : Bytes} {result : ParsedCallback}
    (h : parseOAuthCallbackRequest request = .ok result) :
    EndsAtBlankLine request ∧ request.length ≤ maxCallbackRequestBytes := by
  unfold parseOAuthCallbackRequest at h
  split at h
  · cases h
  rename_i hsize
  refine ⟨?_, Nat.not_lt.mp (not_or.mp hsize).2⟩
  split at h
  · cases h
  rename_i headerEnd hfind
  split at h
  · cases h
  rename_i hend
  exact endsAtBlankLine_iff.mpr ⟨headerEnd, hfind, not_not.mp hend⟩

/-! ## Segmentation -/

/-- It does not matter how TCP cuts a request into pieces: a request that the parser accepts is
returned as it is.  And whatever is returned is the beginning of the stream, within the limit,
and has a blank line. -/
theorem acceptOne_segments :
    (∀ (acceptor : NativeLoopbackAcceptor) (timeoutMs : UInt64) (start : Nat)
      (accepting : List AcceptTurn) (client : SocketHandle) (reading later : List ReadTurn)
      (request : Bytes) (result : ParsedCallback),
      parseOAuthCallbackRequest request = .ok result → acceptor.Listening →
      Connects (deadlineOf start timeoutMs) client accepting →
      Arrives (deadlineOf start timeoutMs) reading request →
      acceptOne acceptor maxCallbackRequestBytes timeoutMs start accepting (reading ++ later)
        = some (.ok request)) ∧
    ∀ (acceptor : NativeLoopbackAcceptor) (maximumBytes : Nat) (timeoutMs : UInt64) (start : Nat)
      (accepting : List AcceptTurn) (reading : List ReadTurn) (stream request : Bytes),
      arrivedBytes reading <+: stream →
      acceptOne acceptor maximumBytes timeoutMs start accepting reading = some (.ok request) →
      request <+: stream ∧ request.length ≤ maxCallbackRequestBytes ∧
        crlf ++ crlf <:+: request := by
  constructor
  · intro acceptor timeoutMs start accepting client reading later request result hparsed hlistening
      hconnects harrives
    obtain ⟨hends, hshort⟩ := endsAtBlankLine_of_accepted hparsed
    have hclient : Selectable client := by
      induction hconnects with
      | accepted _ _ _ _ hclient => exact hclient
      | idle _ _ _ ih => exact ih
      | again _ _ _ _ _ ih => exact ih
    have hvalid : ¬ (acceptor.listener = invalidSocketHandle ∨
        maxCallbackRequestBytes < maxCallbackRequestBytes) :=
      not_or.mpr ⟨hlistening.listener.ne_invalid, Nat.lt_irrefl _⟩
    rw [acceptOne, hlistening.opened, if_neg hvalid, acceptClient_of_connects hlistening hconnects]
    exact readRequest_of_arrives hclient harrives
      (show EndsAtBlankLine ([] ++ request) from hends) hshort later
  · intro acceptor maximumBytes timeoutMs start accepting reading stream request hstream h
    unfold acceptOne at h
    split at h
    · cases h
    split at h
    · cases h
    rename_i hvalid
    split at h
    · cases h
    · cases h
    · obtain ⟨hfront, hblank, hmaximum⟩ := readRequest_eq_ok h
      have hlimit := Nat.not_lt.mp (not_or.mp hvalid).2
      exact ⟨hfront.trans hstream, (hmaximum (Nat.zero_le _)).trans hlimit, hblank⟩

/-- A request as a browser sends it. -/
def browserRequest : Bytes :=
  ascii "GET /oauth/callback?code=a&state=s HTTP/1.1\r\nHost: localhost:8910\r\n\r\n"

/-- A turn that reads a piece. -/
def pieceTurn (bytes : Bytes) (h : bytes.length ≤ 512) : ReadTurn where
  received := .ok ⟨bytes, h⟩

/-- The turns that read it: the blank line comes in three pieces, with an empty wait and an
interrupted `recv` between them. -/
def browserTurns : List ReadTurn := [
  pieceTurn (browserRequest.take 66) (by decide),
  { select := .ok 0 },
  pieceTurn [10, 13] (by decide),
  { received := .error .interrupted },
  pieceTurn [10] (by decide)]

theorem pieceTurn_gives {bytes : Bytes} (h : bytes.length ≤ 512) (hne : bytes ≠ []) :
    (pieceTurn bytes h).Gives bytes :=
  show (pieceTurn bytes h).Gives (Received.mk bytes h).bytes from .piece ⟨0, rfl⟩ rfl hne

theorem acceptOne_segments_browser :
    acceptOne { listener := 3 } maxCallbackRequestBytes 5000 0
      [{ select := .error .interrupted }, { accepted := .ok 4 }] (browserTurns ++ [])
        = some (.ok browserRequest) ∧
      browserRequest <+: browserRequest ++ [0] ∧
      browserRequest.length ≤ maxCallbackRequestBytes ∧ crlf ++ crlf <:+: browserRequest := by
  have hcalm (select : Except SocketError Nat) :
      PollTurn.Calm { select } (deadlineOf 0 5000) :=
    ⟨rfl, rfl, show 0 < deadlineOf 0 5000 by decide, rfl, rfl⟩
  obtain ⟨result, hparsed⟩ : ∃ result, parseOAuthCallbackRequest browserRequest = .ok result := by
    have haccepted : (parseOAuthCallbackRequest browserRequest).toBool = true := by decide +kernel
    cases h : parseOAuthCallbackRequest browserRequest with
    | ok result => exact ⟨result, rfl⟩
    | error e =>
        rw [h] at haccepted
        cases haccepted
  have hconnects : Connects (deadlineOf 0 5000) 4
      [{ select := .error .interrupted }, { accepted := .ok 4 }] :=
    .idle (hcalm _) (.interrupted rfl) (.accepted (hcalm _) ⟨0, rfl⟩ rfl rfl (by decide))
  have harrives : Arrives (deadlineOf 0 5000) browserTurns
      (browserRequest.take 66 ++ ([] ++ ([10, 13] ++ ([] ++ ([10] ++ []))))) :=
    .turn (hcalm _) (pieceTurn_gives _ (by decide)) <|
      .turn (hcalm _) (.idle (.empty rfl)) <|
      .turn (hcalm _) (pieceTurn_gives _ (by decide)) <|
      .turn (hcalm _) (.again ⟨0, rfl⟩ rfl (.inr rfl)) <|
      .turn (hcalm _) (pieceTurn_gives _ (by decide)) .done
  rw [show browserRequest.take 66 ++ ([] ++ ([10, 13] ++ ([] ++ ([10] ++ [])))) = browserRequest by
    decide] at harrives
  have hreturned := acceptOne_segments.1 { listener := 3 } 5000 0 _ 4 browserTurns []
    browserRequest result hparsed ⟨rfl, by decide, rfl⟩ hconnects harrives
  exact ⟨hreturned, acceptOne_segments.2 _ _ _ _ _ _ (browserRequest ++ [0]) _
    ⟨[0], by decide⟩ hreturned⟩

end Data360
