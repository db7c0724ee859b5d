import Data360.Lib.Handles
import Data360.LoopbackListener.Acceptor
import Mathlib.Logic.Function.Basic

/-!
# The sockets of the native acceptor

`NativeLoopbackAcceptor` of `src/loopback_listener.cpp`, whole: `Bind`, `AcceptOne`, `Respond`
and `Close`, with the sockets that they open, use and close.  `Close` may be called on any
thread at any time, also while another thread waits for a client, reads from it or answers it.

Every operation is a sequence of critical sections behind `socket_mutex`, with checks of
`close_requested`, of the clock and of the login in between.  A step of the model is such a
section or check, and any number of calls may take their steps in any order.  What the
operating system answers comes with the step.  An action that its call cannot take does
nothing, and so does an answer that the system cannot give: a socket that is open already, or
more bytes sent than there were.

* `NativeLoopbackAcceptor.bind`, `acceptSection`, `readSection`, `sendSection` and
  `closeSection` are the critical sections, and `socketStep` is a step of a call.
* `Keeps` says that a critical section does to the sockets what it does to the acceptor, and
  `keeps_bind` to `keeps_closeSection` say that each of them does.
* `transfers_step` and `transfers_run` are the same for a step and for a schedule.
* `shut_step` says that nothing happens any more after `Close`.
* `sockets_owned` is the result for every schedule.
-/

namespace Data360

open Lib Lib.ByteString

/-! ## Critical sections -/

/-- What happens to a socket. -/
inductive SocketEvent where
  | opens (socket : SocketHandle)
  | uses (socket : SocketHandle)
  | receives (socket : SocketHandle) (bytes : Bytes)
  | sends (socket : SocketHandle) (bytes : Bytes)
  | closes (socket : SocketHandle)
  deriving DecidableEq, Repr

/-- To the system, receiving and sending are uses. -/
def SocketEvent.handle : SocketEvent → HandleEvent SocketHandle
  | .opens socket => .opens socket
  | .uses socket => .uses socket
  | .receives socket _ => .uses socket
  | .sends socket _ => .uses socket
  | .closes socket => .closes socket

/-- What a critical section does: to the sockets, to its caller, and to the acceptor. -/
structure Section (α : Type) where
  events : List SocketEvent := []
  outcome : α
  acceptor : NativeLoopbackAcceptor

/-- `CloseSocket`. -/
def closeSocket (socket : SocketHandle) : List SocketEvent :=
  if socket = invalidSocketHandle then [] else [.closes socket]

/-- What the system answers to `Bind`: the new socket, and whether `SetNonBlocking`,
`setsockopt`, `inet_pton`, `bind` and `listen` succeed. -/
structure BindAnswers where
  socket : Option SocketHandle
  nonBlocking : Bool := true
  option : Bool := true
  address : Bool := true
  bound : Bool := true
  listening : Bool := true

/-- The error of a port that cannot be had. -/
def portUnavailable : AcceptError := .protocol ⟨"callback port unavailable"⟩

namespace NativeLoopbackAcceptor

/-- The new listener, and what `Bind` does to it until something fails. -/
def openListener (acceptor : NativeLoopbackAcceptor) (listener : SocketHandle)
    (answers : BindAnswers) : Section (Except AcceptError Unit) :=
  let abandon (calls : Nat) (error : AcceptError) : Section (Except AcceptError Unit) :=
    { events := .opens listener :: List.replicate calls (.uses listener) ++ closeSocket listener
      outcome := .error error
      acceptor }
  if ¬ Selectable listener then abandon 0 listenerUnavailable
  else if ¬ answers.nonBlocking then abandon 1 portUnavailable
  else if ¬ answers.option then abandon 2 portUnavailable
  else if ¬ answers.address then abandon 2 portUnavailable
  else if ¬ answers.bound then abandon 3 portUnavailable
  else if ¬ answers.listening then abandon 4 portUnavailable
  else
    { events := .opens listener :: List.replicate 4 (.uses listener)
      outcome := .ok ()
      acceptor := { acceptor with listener } }

/-- `Bind`. -/
def bind (acceptor : NativeLoopbackAcceptor) (address : Bytes) (port : UInt16)
    (answers : BindAnswers) : Section (Except AcceptError Unit) :=
  if address ≠ ascii "127.0.0.1" ∨ port ≠ 8910 ∨ acceptor.closeRequested ∨
      acceptor.listener ≠ invalidSocketHandle then
    { outcome := .error (.protocol ⟨"invalid loopback bind request"⟩), acceptor }
  else
    match answers.socket with
    | none => { outcome := .error portUnavailable, acceptor }
    | some listener => acceptor.openListener listener answers

/-- `select`, which is called for a socket that it can wait for. -/
def waitEvents (socket : SocketHandle) : List SocketEvent :=
  if Selectable socket then [.uses socket] else []

/-- A wait in a critical section: nobody closes the sockets, but `close_requested` may be
set. -/
def awaits (acceptor : NativeLoopbackAcceptor) (socket : SocketHandle) (turn : PollTurn) :
    Except AcceptError Bool :=
  awaitSocket socket { turn with closeRequestedIdle := acceptor.closeRequested }

/-- The critical section of the first loop of `AcceptOne`: whether there is a client. -/
def acceptSection (acceptor : NativeLoopbackAcceptor) (turn : AcceptTurn) :
    Section (Except AcceptError Bool) :=
  if acceptor.client ≠ invalidSocketHandle then { outcome := .ok true, acceptor }
  else
    let waits := waitEvents acceptor.listener
    match acceptor.awaits acceptor.listener turn.toPollTurn with
    | .error e => { events := waits, outcome := .error e, acceptor }
    | .ok false => { events := waits, outcome := .ok false, acceptor }
    | .ok true =>
        let accepts := waits ++ [.uses acceptor.listener]
        match turn.accepted with
        | .error .wouldBlock | .error .interrupted =>
            { events := accepts, outcome := .ok false, acceptor }
        | .error .other => { events := accepts, outcome := .error listenerFailed, acceptor }
        | .ok accepted =>
            let opened := accepts ++ [.opens accepted, .uses accepted]
            if ¬ turn.nonBlocking then
              { events := opened ++ closeSocket accepted, outcome := .error listenerFailed,
                acceptor }
            else if ¬ Selectable accepted then
              { events := opened ++ closeSocket accepted, outcome := .error listenerUnavailable,
                acceptor }
            else
              { events := opened, outcome := .ok true, acceptor := { acceptor with
                  client := accepted } }

/-- The critical section of the second loop of `AcceptOne`: the request after it. -/
def readSection (acceptor : NativeLoopbackAcceptor) (maximumBytes : Nat) (request : Bytes)
    (turn : ReadTurn) : Section (Except AcceptError Bytes) :=
  let client := acceptor.client
  let waits := waitEvents client
  match acceptor.awaits client turn.toPollTurn with
  | .error e => { events := waits, outcome := .error e, acceptor }
  | .ok false => { events := waits, outcome := .ok request, acceptor }
  | .ok true =>
      match turn.received with
      | .error .wouldBlock | .error .interrupted =>
          { events := waits ++ [.uses client], outcome := .ok request, acceptor }
      | .error .other =>
          { events := waits ++ [.uses client], outcome := .error invalidRequest, acceptor }
      | .ok received =>
          { events := waits ++ [.receives client received.bytes]
            outcome :=
              if received.bytes = [] ∨ maximumBytes < request.length + received.bytes.length then
                .error invalidRequest
              else .ok (request ++ received.bytes)
            acceptor }

/-- What a turn of `Respond` is told: the time, and the answers of `select` and `send`. -/
structure SendTurn where
  now : Nat
  select : Except SocketError Nat := .ok 1
  sent : Except SocketError Nat := .error .wouldBlock

/-- The critical section of `Respond`: how many bytes are sent after it, if it goes on. -/
def sendSection (acceptor : NativeLoopbackAcceptor) (response : Bytes) (deadline sent : Nat)
    (turn : SendTurn) : Section (Option Nat) :=
  let client := acceptor.client
  if acceptor.closeRequested ∨ client = invalidSocketHandle then { outcome := none, acceptor }
  else if deadline - turn.now < 1000000 then { outcome := none, acceptor }
  else if ¬ Selectable client then { outcome := none, acceptor }
  else
    match turn.select with
    | .error .interrupted => { events := [.uses client], outcome := some sent, acceptor }
    | .error _ => { events := [.uses client], outcome := none, acceptor }
    | .ok 0 => { events := [.uses client], outcome := some sent, acceptor }
    | .ok (_ + 1) =>
        match turn.sent with
        | .error .wouldBlock | .error .interrupted =>
            { events := [.uses client, .uses client], outcome := some sent, acceptor }
        | .error .other => { events := [.uses client, .uses client], outcome := none, acceptor }
        | .ok count =>
            { events := [.uses client, .sends client ((response.drop sent).take count)]
              outcome := if count = 0 then none else some (sent + count)
              acceptor }

/-- The critical section of `Close`: `shutdown` of the client, and both sockets. -/
def closeSection (acceptor : NativeLoopbackAcceptor) : Section Unit where
  events := (if acceptor.client = invalidSocketHandle then [] else [.uses acceptor.client]) ++
    closeSocket acceptor.client ++ closeSocket acceptor.listener
  outcome := ()
  acceptor := acceptor.close

end NativeLoopbackAcceptor

/-! ## Calls -/

/-- `RESPONSE_DEADLINE_MS`, in nanoseconds. -/
def responseDeadline : Nat := 250 * 1000000

/-- Where a call is. -/
inductive SocketPhase where
  | idle
  | accepting (maximumBytes deadline : Nat)
  | selecting (maximumBytes deadline : Nat)
  | reading (maximumBytes deadline : Nat) (request : Bytes)
  | receiving (maximumBytes deadline : Nat) (request : Bytes)
  | responding (response : Bytes) (deadline sent : Nat)
  | sending (response : Bytes) (deadline sent : Nat)
  | closing
  | finished (outcome : Except AcceptError Bytes)

/-- What makes a call go on: it is made, it goes through the checks of a loop, or it gets
the mutex. -/
inductive SocketAction where
  | acceptOne (maximumBytes : Nat) (timeoutMs : UInt64) (start : Nat)
  | respond (response : Bytes) (start : Nat)
  | close
  | check (cancelled : Except Unit Bool) (now : Nat)
  | accept (turn : AcceptTurn)
  | receive (turn : ReadTurn)
  | send (turn : NativeLoopbackAcceptor.SendTurn)
  | closeSockets

namespace NativeLoopbackAcceptor

/-- A socket that the system may hand out: it is one, and not one that is open. -/
def Fresh (acceptor : NativeLoopbackAcceptor) (socket : SocketHandle) : Prop :=
  socket ≠ invalidSocketHandle ∧ socket ≠ acceptor.listener ∧ socket ≠ acceptor.client

instance (acceptor : NativeLoopbackAcceptor) (socket : SocketHandle) :
    Decidable (acceptor.Fresh socket) :=
  inferInstanceAs (Decidable (_ ∧ _))

/-- `accept` hands out a new socket. -/
def admits (acceptor : NativeLoopbackAcceptor) (turn : AcceptTurn) : Bool :=
  match turn.accepted with
  | .error _ => true
  | .ok socket => acceptor.Fresh socket

/-- `send` takes no more bytes than there are. -/
def SendTurn.admitted (turn : SendTurn) (left : Nat) : Bool :=
  match turn.sent with
  | .error _ => true
  | .ok count => count ≤ left

/-- One step of a call: what happens, and where the call and the acceptor are then. -/
def callStep (acceptor : NativeLoopbackAcceptor) (phase : SocketPhase) (action : SocketAction) :
    Option (Section SocketPhase) :=
  match phase, action with
  | .idle, .acceptOne maximumBytes timeoutMs start => some {
      outcome :=
        if acceptor.closeRequested then .finished (.error .cancelled)
        else if acceptor.listener = invalidSocketHandle ∨ maxCallbackRequestBytes < maximumBytes
        then .finished (.error (.protocol ⟨"invalid callback listener state"⟩))
        else .accepting maximumBytes (deadlineOf start timeoutMs)
      acceptor }
  | .accepting maximumBytes deadline, .check cancelled now => some {
      outcome :=
        match checkTurn deadline { closeRequested := acceptor.closeRequested, cancelled, now } with
        | .error e => .finished (.error e)
        | .ok () => .selecting maximumBytes deadline
      acceptor }
  | .selecting maximumBytes deadline, .accept turn =>
      if acceptor.admits turn then
        let done := acceptor.acceptSection turn
        some { done with
          outcome := match done.outcome with
            | .error e => .finished (.error e)
            | .ok false => .accepting maximumBytes deadline
            | .ok true => .reading maximumBytes deadline [] }
      else none
  | .reading maximumBytes deadline request, .check cancelled now => some {
      outcome :=
        if (find blankLine request).isSome then .finished (.ok request)
        else
          match checkTurn deadline {
              closeRequested := acceptor.closeRequested, cancelled, now } with
          | .error e => .finished (.error e)
          | .ok () => .receiving maximumBytes deadline request
      acceptor }
  | .receiving maximumBytes deadline request, .receive turn =>
      let done := acceptor.readSection maximumBytes request turn
      some { done with
        outcome := match done.outcome with
          | .error e => .finished (.error e)
          | .ok request => .reading maximumBytes deadline request }
  | .idle, .respond response start => some {
      outcome := .responding response (start + responseDeadline) 0
      acceptor }
  | .responding response deadline sent, .check _ now => some {
      outcome :=
        if response.length ≤ sent ∨ acceptor.closeRequested ∨ deadline ≤ now then .finished (.ok [])
        else .sending response deadline sent
      acceptor }
  | .sending response deadline sent, .send turn =>
      if turn.admitted (response.length - sent) then
        let done := acceptor.sendSection response deadline sent turn
        some { done with
          outcome := match done.outcome with
            | none => .finished (.ok [])
            | some sent => .responding response deadline sent }
      else none
  | .idle, .close => some {
      outcome := .closing
      acceptor := { acceptor with closeRequested := true } }
  | .closing, .closeSockets => some {
      acceptor.closeSection with outcome := .finished (.ok []) }
  | _, _ => none

end NativeLoopbackAcceptor

/-- The acceptor and the calls on it. -/
structure SocketState where
  acceptor : NativeLoopbackAcceptor := {}
  calls : Nat → SocketPhase := fun _ => .idle

/-- A step of a schedule. -/
inductive SocketInput where
  | bind (address : Bytes) (port : UInt16) (answers : BindAnswers)
  | call (index : Nat) (action : SocketAction)

/-- `socket` hands out a new socket. -/
def BindAnswers.admitted (answers : BindAnswers) (acceptor : NativeLoopbackAcceptor) : Bool :=
  match answers.socket with
  | none => true
  | some socket => acceptor.Fresh socket

/-- One step of a schedule. -/
def socketStep (input : SocketInput) (s : SocketState) : List SocketEvent × SocketState :=
  match input with
  | .bind address port answers =>
      if answers.admitted s.acceptor then
        let done := s.acceptor.bind address port answers
        (done.events, { s with acceptor := done.acceptor })
      else ([], s)
  | .call index action =>
      match s.acceptor.callStep (s.calls index) action with
      | none => ([], s)
      | some done => (done.events,
          { acceptor := done.acceptor, calls := Function.update s.calls index done.outcome })

/-- The acceptor and all calls on it. -/
def socketMachine : Machine SocketState SocketInput (List SocketEvent) := ⟨socketStep⟩

/-- What happens to sockets in a schedule on a new acceptor. -/
def socketLog (inputs : List SocketInput) : List SocketEvent :=
  (socketMachine.trace {} inputs).flatMap Event.output

/-! ## What the acceptor holds -/

namespace NativeLoopbackAcceptor

variable {acceptor : NativeLoopbackAcceptor}

/-- The sockets that the acceptor has open. -/
def holds (acceptor : NativeLoopbackAcceptor) : Finset SocketHandle :=
  ({acceptor.listener, acceptor.client} : Finset SocketHandle).erase invalidSocketHandle

theorem mem_holds {socket : SocketHandle} :
    socket ∈ acceptor.holds ↔
      socket ≠ invalidSocketHandle ∧ (socket = acceptor.listener ∨ socket = acceptor.client) := by
  rw [holds, Finset.mem_erase, Finset.mem_insert, Finset.mem_singleton]

/-- The listener and the client are two sockets. -/
def Apart (acceptor : NativeLoopbackAcceptor) : Prop :=
  acceptor.listener = acceptor.client → acceptor.client = invalidSocketHandle

/-- What a critical section does to the sockets is what it does to the acceptor. -/
def Keeps {α : Type} (acceptor : NativeLoopbackAcceptor) (done : Section α) : Prop :=
  done.acceptor.Apart ∧
    Transfers (done.events.map SocketEvent.handle) acceptor.holds done.acceptor.holds

theorem Fresh.notMem {socket : SocketHandle} (h : acceptor.Fresh socket) :
    socket ∉ acceptor.holds := by
  rw [mem_holds]
  intro hmem
  rcases hmem.2 with hlistener | hclient
  · exact h.2.1 hlistener
  · exact h.2.2 hclient

/-- Uses of one socket. -/
theorem transfers_uses {held : Finset SocketHandle} {socket : SocketHandle} (h : socket ∈ held)
    (calls : Nat) :
    Transfers ((List.replicate calls (SocketEvent.uses socket)).map SocketEvent.handle) held
      held := by
  induction calls with
  | zero => exact .refl held
  | succ calls ih => exact Transfers.trans (.use h) ih

/-- A new socket that is used. -/
theorem transfers_opens {held : Finset SocketHandle} {socket : SocketHandle} (h : socket ∉ held)
    (calls : Nat) :
    Transfers ((.opens socket :: List.replicate calls (SocketEvent.uses socket)).map
      SocketEvent.handle) held (insert socket held) :=
  have hopens : Transfers [.opens socket] held (insert socket held) := ⟨⟨h, trivial⟩, rfl⟩
  hopens.trans (transfers_uses (Finset.mem_insert_self socket held) calls)

/-- A socket that is closed. -/
theorem transfers_closeSocket {held : Finset SocketHandle} {socket : SocketHandle}
    (h : socket ≠ invalidSocketHandle → socket ∈ held) (valid : invalidSocketHandle ∉ held) :
    Transfers ((closeSocket socket).map SocketEvent.handle) held (held.erase socket) := by
  rw [closeSocket]
  split
  · rename_i hinvalid
    rw [hinvalid, Finset.erase_eq_of_notMem valid]
    exact .refl held
  · rename_i hvalid
    exact ⟨⟨h hvalid, trivial⟩, rfl⟩

theorem invalid_notMem_holds : invalidSocketHandle ∉ acceptor.holds :=
  Finset.notMem_erase _ _

/-- A new socket that is used and given up. -/
theorem transfers_abandoned {socket : SocketHandle} (h : acceptor.Fresh socket) (calls : Nat) :
    Transfers ((.opens socket :: List.replicate calls (SocketEvent.uses socket) ++
      closeSocket socket).map SocketEvent.handle) acceptor.holds acceptor.holds := by
  have hvalid : invalidSocketHandle ∉ insert socket acceptor.holds := by
    rw [Finset.mem_insert, not_or]
    exact ⟨h.1.symm, invalid_notMem_holds⟩
  have hclosed := transfers_closeSocket (fun _ => Finset.mem_insert_self socket acceptor.holds)
    hvalid
  rw [Finset.erase_insert h.notMem] at hclosed
  rw [List.map_append]
  exact (transfers_opens h.notMem calls).trans hclosed

theorem keeps_openListener (apart : acceptor.Apart) {socket : SocketHandle}
    (h : acceptor.Fresh socket) (none : acceptor.listener = invalidSocketHandle)
    (answers : BindAnswers) : acceptor.Keeps (acceptor.openListener socket answers) := by
  have habandoned (calls : Nat) := transfers_abandoned h calls
  have hholds : { acceptor with listener := socket }.holds = insert socket acceptor.holds := by
    ext other
    have hsocket := h.1
    rw [Finset.mem_insert, mem_holds, mem_holds, none]
    grind
  rw [openListener]
  split
  · exact ⟨apart, habandoned 0⟩
  split
  · exact ⟨apart, habandoned 1⟩
  split
  · exact ⟨apart, habandoned 2⟩
  split
  · exact ⟨apart, habandoned 2⟩
  split
  · exact ⟨apart, habandoned 3⟩
  split
  · exact ⟨apart, habandoned 4⟩
  · refine ⟨fun hsame => absurd hsame h.2.2, ?_⟩
    rw [hholds]
    exact transfers_opens h.notMem 4

theorem keeps_bind (apart : acceptor.Apart) (address : Bytes) (port : UInt16)
    {answers : BindAnswers} (admitted : answers.admitted acceptor = true) :
    acceptor.Keeps (acceptor.bind address port answers) := by
  rw [NativeLoopbackAcceptor.bind]
  split
  · exact ⟨apart, .refl _⟩
  · rename_i hgood
    have hnone : acceptor.listener = invalidSocketHandle := by
      by_contra hother
      exact hgood (.inr (.inr (.inr hother)))
    split
    · exact ⟨apart, .refl _⟩
    · rename_i listener hsocket
      rw [BindAnswers.admitted, hsocket] at admitted
      exact keeps_openListener apart (of_decide_eq_true admitted) hnone answers

/-- What waits for a socket uses it. -/
theorem transfers_waitEvents {socket : SocketHandle}
    (h : socket = acceptor.listener ∨ socket = acceptor.client) :
    Transfers ((waitEvents socket).map SocketEvent.handle) acceptor.holds acceptor.holds := by
  rw [waitEvents]
  split
  · rename_i hselectable
    exact .use (mem_holds.mpr ⟨hselectable.ne_invalid, h⟩)
  · exact .refl _

/-- A socket that is ready is open. -/
theorem mem_holds_of_awaits {socket : SocketHandle} {turn : PollTurn}
    (h : socket = acceptor.listener ∨ socket = acceptor.client)
    (ready : acceptor.awaits socket turn = .ok true) : socket ∈ acceptor.holds := by
  refine mem_holds.mpr ⟨fun hinvalid => ?_, h⟩
  rw [awaits, awaitSocket, if_pos hinvalid] at ready
  cases ready

theorem keeps_acceptSection (apart : acceptor.Apart) {turn : AcceptTurn}
    (admitted : acceptor.admits turn = true) :
    acceptor.Keeps (acceptor.acceptSection turn) := by
  have hwaits := transfers_waitEvents (.inl (rfl : acceptor.listener = acceptor.listener))
  rw [acceptSection]
  split
  · exact ⟨apart, .refl _⟩
  · rename_i hclient
    have hnone : acceptor.client = invalidSocketHandle := not_not.mp hclient
    dsimp only
    split
    · exact ⟨apart, hwaits⟩
    · exact ⟨apart, hwaits⟩
    · rename_i hready
      have haccepts : Transfers
          ((waitEvents acceptor.listener ++ [SocketEvent.uses acceptor.listener]).map
            SocketEvent.handle) acceptor.holds acceptor.holds := by
        rw [List.map_append]
        exact hwaits.trans (.use (mem_holds_of_awaits (.inl rfl) hready))
      split
      · exact ⟨apart, haccepts⟩
      · exact ⟨apart, haccepts⟩
      · exact ⟨apart, haccepts⟩
      · rename_i accepted haccepted
        rw [admits, haccepted] at admitted
        have hfresh : acceptor.Fresh accepted := of_decide_eq_true admitted
        have hgivenUp := haccepts.trans (transfers_abandoned hfresh 1)
        rw [← List.map_append] at hgivenUp
        split
        · refine ⟨apart, ?_⟩
          rw [List.append_assoc]
          exact hgivenUp
        · split
          · refine ⟨apart, ?_⟩
            rw [List.append_assoc]
            exact hgivenUp
          · have hholds : { acceptor with client := accepted }.holds =
                insert accepted acceptor.holds := by
              ext other
              have haccepted := hfresh.1
              rw [Finset.mem_insert, mem_holds, mem_holds, hnone]
              grind
            refine ⟨fun hsame => absurd hsame.symm hfresh.2.1, ?_⟩
            rw [hholds, List.map_append]
            exact haccepts.trans (transfers_opens hfresh.notMem 1)

theorem keeps_readSection (apart : acceptor.Apart) (maximumBytes : Nat) (request : Bytes)
    (turn : ReadTurn) : acceptor.Keeps (acceptor.readSection maximumBytes request turn) := by
  have hwaits := transfers_waitEvents (.inr (rfl : acceptor.client = acceptor.client))
  rw [readSection]
  split
  · exact ⟨apart, hwaits⟩
  · exact ⟨apart, hwaits⟩
  · rename_i hready
    have huse := Transfers.use (mem_holds_of_awaits (.inr rfl) hready)
    have hreads (e : SocketEvent) (he : e.handle = .uses acceptor.client) :
        Transfers ((waitEvents acceptor.client ++ [e]).map SocketEvent.handle) acceptor.holds
          acceptor.holds := by
      rw [List.map_append, List.map_singleton, he]
      exact hwaits.trans huse
    split
    · exact ⟨apart, hreads _ rfl⟩
    · exact ⟨apart, hreads _ rfl⟩
    · exact ⟨apart, hreads _ rfl⟩
    · exact ⟨apart, hreads _ rfl⟩

theorem keeps_sendSection (apart : acceptor.Apart) (response : Bytes) (deadline sent : Nat)
    (turn : SendTurn) : acceptor.Keeps (acceptor.sendSection response deadline sent turn) := by
  rw [sendSection]
  split
  · exact ⟨apart, .refl _⟩
  split
  · exact ⟨apart, .refl _⟩
  split
  · exact ⟨apart, .refl _⟩
  · rename_i hselectable
    have huse := Transfers.use (mem_holds.mpr
      ⟨(not_not.mp hselectable).ne_invalid, .inr (rfl : acceptor.client = acceptor.client)⟩)
    have htwice := huse.trans huse
    split
    · exact ⟨apart, huse⟩
    · exact ⟨apart, huse⟩
    · exact ⟨apart, huse⟩
    · split
      · exact ⟨apart, htwice⟩
      · exact ⟨apart, htwice⟩
      · exact ⟨apart, htwice⟩
      · exact ⟨apart, htwice⟩

theorem keeps_closeSection (apart : acceptor.Apart) :
    acceptor.Keeps acceptor.closeSection := by
  have hempty : acceptor.close.holds = ∅ := rfl
  have hrest : (acceptor.holds.erase acceptor.client).erase acceptor.listener = ∅ := by
    ext other
    rw [Finset.mem_erase, Finset.mem_erase, mem_holds]
    simp only [Finset.notMem_empty, iff_false]
    tauto
  have hclient := transfers_closeSocket
    (fun hvalid => mem_holds.mpr ⟨hvalid, .inr (rfl : acceptor.client = acceptor.client)⟩)
    invalid_notMem_holds
  have hlistener := transfers_closeSocket
    (fun hvalid => Finset.mem_erase.mpr ⟨fun hsame => hvalid (hsame.trans (apart hsame)),
      mem_holds.mpr ⟨hvalid, .inl (rfl : acceptor.listener = acceptor.listener)⟩⟩)
    fun hmem => invalid_notMem_holds (Finset.mem_of_mem_erase hmem)
  refine ⟨fun _ => rfl, ?_⟩
  show Transfers _ _ acceptor.close.holds
  rw [closeSection, List.map_append, List.map_append, hempty, ← hrest]
  refine Transfers.trans (Transfers.trans ?_ hclient) hlistener
  split
  · exact .refl _
  · rename_i hvalid
    exact .use (mem_holds.mpr ⟨hvalid, .inr rfl⟩)

end NativeLoopbackAcceptor

/-! ## Steps and schedules -/

namespace NativeLoopbackAcceptor

variable {acceptor : NativeLoopbackAcceptor}

theorem keeps_callStep (apart : acceptor.Apart) {phase : SocketPhase} {action : SocketAction}
    {done : Section SocketPhase} (h : acceptor.callStep phase action = some done) :
    acceptor.Keeps done := by
  unfold callStep at h
  split at h
  · cases h
    exact ⟨apart, .refl _⟩
  · cases h
    exact ⟨apart, .refl _⟩
  · split at h
    · rename_i hadmitted
      cases h
      exact keeps_acceptSection apart hadmitted
    · cases h
  · cases h
    exact ⟨apart, .refl _⟩
  · cases h
    exact keeps_readSection apart _ _ _
  · cases h
    exact ⟨apart, .refl _⟩
  · cases h
    exact ⟨apart, .refl _⟩
  · split at h
    · cases h
      exact keeps_sendSection apart _ _ _ _
    · cases h
  · cases h
    exact ⟨apart, .refl _⟩
  · cases h
    exact keeps_closeSection apart
  · cases h

end NativeLoopbackAcceptor

/-- A step does to the sockets what it does to the acceptor. -/
theorem transfers_step (s : SocketState) (input : SocketInput) (apart : s.acceptor.Apart) :
    (socketStep input s).2.acceptor.Apart ∧
      Transfers ((socketStep input s).1.map SocketEvent.handle) s.acceptor.holds
        (socketStep input s).2.acceptor.holds := by
  cases input with
  | bind address port answers =>
      rw [socketStep]
      split
      · rename_i hadmitted
        exact NativeLoopbackAcceptor.keeps_bind apart address port hadmitted
      · exact ⟨apart, .refl _⟩
  | call index action =>
      rw [socketStep]
      split
      · exact ⟨apart, .refl _⟩
      · rename_i done hdone
        exact NativeLoopbackAcceptor.keeps_callStep apart hdone

/-- What happens to the sockets in a schedule leaves open what the acceptor holds. -/
theorem transfers_run (inputs : List SocketInput) :
    (socketMachine.run {} inputs).acceptor.Apart ∧
      Transfers ((socketLog inputs).map SocketEvent.handle) ∅
        (socketMachine.run {} inputs).acceptor.holds := by
  have hrun := socketMachine.transfers_run (I := fun s => s.acceptor.Apart)
    (fun s input apart => transfers_step s input apart)
    (s := {}) (fun _ => rfl) inputs
  rw [socketLog, List.map_flatMap]
  exact hrun

/-! ## After Close -/

/-- An acceptor that is closed. -/
def shutAcceptor : NativeLoopbackAcceptor where
  closeRequested := true

/-- A call on a closed acceptor touches no socket. -/
theorem callStep_shut {phase : SocketPhase} {action : SocketAction} {done : Section SocketPhase}
    (h : shutAcceptor.callStep phase action = some done) :
    done.events = [] ∧ done.acceptor = shutAcceptor := by
  unfold NativeLoopbackAcceptor.callStep at h
  split at h
  case h_3 | h_8 =>
    split at h
    · cases h
      exact ⟨rfl, rfl⟩
    · cases h
  case h_11 => cases h
  all_goals
    cases h
    exact ⟨rfl, rfl⟩

/-- A closed acceptor stays closed, and nothing happens to a socket any more. -/
theorem shut_step (s : SocketState) (input : SocketInput) (shut : s.acceptor = shutAcceptor) :
    (socketStep input s).1 = [] ∧ (socketStep input s).2.acceptor = shutAcceptor := by
  cases input with
  | bind address port answers =>
      rw [socketStep, shut]
      split
      · have hrefused : shutAcceptor.bind address port answers =
            { outcome := .error (.protocol ⟨"invalid loopback bind request"⟩)
              acceptor := shutAcceptor } := by
          rw [NativeLoopbackAcceptor.bind, if_pos]
          exact .inr (.inr (.inl rfl))
        rw [hrefused]
        exact ⟨rfl, rfl⟩
      · exact ⟨rfl, shut⟩
  | call index action =>
      rw [socketStep, shut]
      split
      · exact ⟨rfl, shut⟩
      · rename_i done hdone
        exact callStep_shut hdone

theorem shut_run {s : SocketState} (shut : s.acceptor = shutAcceptor) (inputs : List SocketInput) :
    (socketMachine.trace s inputs).flatMap Event.output = [] ∧
      (socketMachine.run s inputs).acceptor = shutAcceptor := by
  refine socketMachine.history_induction
    (P := fun past t => past.flatMap Event.output = [] ∧ t.acceptor = shutAcceptor)
    ⟨rfl, shut⟩ (fun past t input h => ?_) inputs
  have hstep := shut_step t input h.2
  refine ⟨?_, hstep.2⟩
  rw [List.flatMap_append, h.1, List.flatMap_singleton]
  exact hstep.1

/-- A call that closes the sockets leaves a closed acceptor. -/
theorem closeSockets_step {s : SocketState} {index : Nat} (closing : s.calls index = .closing) :
    (socketStep (.call index .closeSockets) s).2.acceptor = shutAcceptor := by
  rw [socketStep, closing]
  rfl

/-- In every schedule of calls, whatever the system answers, the acceptor opens only sockets
that are new, uses and closes only sockets that it has open, and has open what it holds.
Behind a `Close`, nothing happens to any socket, and each was closed as often as it was
opened. -/
theorem sockets_owned (inputs : List SocketInput) :
    WellHandled ∅ ((socketLog inputs).map SocketEvent.handle) ∧
      heldAfter ∅ ((socketLog inputs).map SocketEvent.handle) =
        (socketMachine.run {} inputs).acceptor.holds ∧
      ∀ (past rest : List SocketInput) (index : Nat),
        inputs = past ++ .call index .closeSockets :: rest →
        (socketMachine.run {} past).calls index = .closing →
          socketLog inputs = socketLog (past ++ [.call index .closeSockets]) ∧
          ∀ socket, ((socketLog inputs).map SocketEvent.handle).count (.opens socket) =
            ((socketLog inputs).map SocketEvent.handle).count (.closes socket) := by
  obtain ⟨-, hwell, hheld⟩ := transfers_run inputs
  refine ⟨hwell, hheld, ?_⟩
  intro past rest index hinputs hclosing
  have hshut : (socketMachine.run {} (past ++ [.call index .closeSockets])).acceptor =
      shutAcceptor := by
    rw [socketMachine.run_concat]
    exact closeSockets_step hclosing
  obtain ⟨hquiet, hend⟩ := shut_run hshut rest
  rw [List.append_cons] at hinputs
  constructor
  · rw [hinputs, socketLog, socketMachine.trace_append, List.flatMap_append, hquiet,
      List.append_nil]
    rfl
  · have hnone : heldAfter ∅ ((socketLog inputs).map SocketEvent.handle) = ∅ := by
      rw [hheld, hinputs, socketMachine.run_append, hend]
      rfl
    exact hwell.count_of_closed hnone

/-- A login whose acceptor is closed while it reads. -/
def closedLogin : List SocketInput :=
  [.bind (ascii "127.0.0.1") 8910 { socket := some 3 }, .call 0 (.acceptOne 8192 120000 0),
    .call 0 (.check (.ok false) 1), .call 0 (.accept { accepted := .ok 4 }),
    .call 0 (.check (.ok false) 2), .call 1 .close]

theorem sockets_owned_closed :
    socketLog (closedLogin ++ [.call 1 .closeSockets, .call 0 (.receive {})]) =
      socketLog (closedLogin ++ [.call 1 .closeSockets]) :=
  ((sockets_owned (closedLogin ++ [.call 1 .closeSockets, .call 0 (.receive {})])).2.2
    closedLogin [.call 0 (.receive {})] 1 rfl rfl).1

end Data360
