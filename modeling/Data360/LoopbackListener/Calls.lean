import Data360.LoopbackListener.Sockets

/-!
# Calls in a schedule

What a single call of the native acceptor does, whatever else happens at the same time.

The model of `AcceptOne` in the module of the acceptor runs one call alone, with what its
turns are told as an input.  In a schedule, other calls accept the client, set
`close_requested` and close the sockets between any two steps of the call.  Every call of a
schedule is nevertheless a call that is alone, for some turns.

* `acceptTurn_eq` and `readTurn_eq` say that a turn of a call that is alone is its checks and
  a critical section on the acceptor that it finds.
* `Evolves` says what any step may do to the acceptor.
* `call_run` is the induction: a relation that the steps of a call keep, and that the other
  steps do not disturb, holds in every schedule.  `call_made` is the same from a new acceptor on.
* `Told` says what a call of `AcceptOne` did so far as a call that is alone, and
  `told_callStep` goes on with the next step.  `Responded` is the same for `Respond`.
* `acceptOne_simulated` and `one_conversation` are the results for every schedule.
-/

namespace Data360

open Lib Lib.ByteString

namespace NativeLoopbackAcceptor
variable {acceptor first now later : NativeLoopbackAcceptor}

/-! ## The turns of a call that is alone -/

/-- The acceptor that a turn finds when it has the mutex. -/
def found (acceptor : NativeLoopbackAcceptor) (turn : PollTurn) : NativeLoopbackAcceptor :=
  { (if turn.closed then acceptor.close else acceptor) with
    closeRequested := turn.closeRequestedIdle }

theorem client_found (turn : PollTurn) :
    (acceptor.found turn).client =
      if turn.closed then invalidSocketHandle else acceptor.client := by
  rw [found]
  split
  · rfl
  · rfl

/-- What the critical section of the first loop says, without what happens to the sockets. -/
theorem acceptSection_outcome (turn : AcceptTurn) :
    ((acceptor.acceptSection turn).outcome.map fun ready =>
        if ready then some (acceptor.acceptSection turn).acceptor.client else none) =
      if acceptor.client ≠ invalidSocketHandle then .ok (some acceptor.client)
      else (acceptor.awaits acceptor.listener turn.toPollTurn).bind fun ready =>
        if ready then
          match turn.accepted with
          | .error .wouldBlock | .error .interrupted => .ok none
          | .error .other => .error listenerFailed
          | .ok accepted =>
              if ¬ turn.nonBlocking then .error listenerFailed
              else if ¬ Selectable accepted then .error listenerUnavailable
              else .ok (some accepted)
        else .ok none := by
  rw [acceptSection]
  split
  · rfl
  cases acceptor.awaits acceptor.listener turn.toPollTurn with
  | error e => rfl
  | ok ready =>
      cases ready with
      | false => rfl
      | true =>
          dsimp only [Except.bind]
          cases turn.accepted with
          | error e =>
              cases e with
              | wouldBlock | interrupted | other => rfl
          | ok accepted =>
              dsimp only
              split
              · rfl
              · split
                · rfl
                · rfl

/-- A turn of the first loop is its checks and its critical section. -/
theorem acceptTurn_eq (deadline : Nat) (turn : AcceptTurn) :
    acceptTurn acceptor deadline turn = (checkTurn deadline turn.toPollTurn).bind fun _ =>
      let done := (acceptor.found turn.toPollTurn).acceptSection turn
      done.outcome.map fun ready => if ready then some done.acceptor.client else none := by
  unfold acceptTurn
  refine congrArg _ (funext fun _ => ?_)
  refine Eq.trans ?_ (acceptSection_outcome turn).symm
  rw [found]
  split
  · rfl
  · rfl

/-- A turn of the second loop is its checks and its critical section. -/
theorem readTurn_eq (maximumBytes deadline : Nat) (request : Bytes) (turn : ReadTurn) :
    readTurn acceptor.client maximumBytes deadline request turn =
      (checkTurn deadline turn.toPollTurn).bind fun _ =>
        ((acceptor.found turn.toPollTurn).readSection maximumBytes request turn).outcome := by
  unfold readTurn
  refine congrArg _ (funext fun _ => ?_)
  rw [← client_found, readSection]
  show (awaitSocket (acceptor.found turn.toPollTurn).client turn.toPollTurn).bind _ = _
  have hawaits (socket : SocketHandle) :
      (acceptor.found turn.toPollTurn).awaits socket turn.toPollTurn =
        awaitSocket socket turn.toPollTurn := rfl
  rw [hawaits]
  cases awaitSocket (acceptor.found turn.toPollTurn).client turn.toPollTurn with
  | error e => rfl
  | ok ready =>
      cases ready with
      | false => rfl
      | true =>
          dsimp only [Except.bind]
          cases turn.received with
          | error e =>
              cases e with
              | wouldBlock | interrupted | other => rfl
          | ok received => rfl

/-! ## What a step does to the acceptor -/

/-- A place for a socket stays as it is, or a socket that can be waited for comes in. -/
def Fills (before after : SocketHandle) : Prop :=
  after = before ∨ before = invalidSocketHandle ∧ Selectable after

/-- What any step may do to the acceptor: fill an empty place, or close it for good. -/
def Evolves (before after : NativeLoopbackAcceptor) : Prop :=
  after = shutAcceptor ∨
    before ≠ shutAcceptor ∧ Fills before.listener after.listener ∧
      Fills before.client after.client

/-- Both places are empty, or have a socket that can be waited for. -/
def Waitable (acceptor : NativeLoopbackAcceptor) : Prop :=
  Fills invalidSocketHandle acceptor.listener ∧ Fills invalidSocketHandle acceptor.client

theorem Fills.trans {a b c : SocketHandle} (hfirst : Fills a b) (hsecond : Fills b c) :
    Fills a c := by
  rcases hsecond with rfl | ⟨rfl, hc⟩
  · exact hfirst
  · rcases hfirst with ha | ⟨-, hb⟩
    · exact .inr ⟨ha.symm, hc⟩
    · exact absurd rfl hb.ne_invalid

theorem Fills.eq_of_ne {a b : SocketHandle} (h : Fills a b) (valid : a ≠ invalidSocketHandle) :
    b = a := by
  rcases h with hsame | ⟨hinvalid, -⟩
  · exact hsame
  · exact absurd hinvalid valid

theorem Fills.selectable {b : SocketHandle} (h : Fills invalidSocketHandle b)
    (valid : b ≠ invalidSocketHandle) : Selectable b := by
  rcases h with hsame | ⟨-, hb⟩
  · exact absurd hsame valid
  · exact hb

theorem Evolves.refl (acceptor : NativeLoopbackAcceptor) : acceptor.Evolves acceptor := by
  by_cases hshut : acceptor = shutAcceptor
  · exact .inl hshut
  · exact .inr ⟨hshut, .inl rfl, .inl rfl⟩

theorem Evolves.trans (hfirst : first.Evolves now) (hsecond : now.Evolves later) :
    first.Evolves later := by
  rcases hsecond with hshut | ⟨hopen, hlistener, hclient⟩
  · exact .inl hshut
  · rcases hfirst with hshut | ⟨hfirst, hlistener', hclient'⟩
    · exact absurd hshut hopen
    · exact .inr ⟨hfirst, hlistener'.trans hlistener, hclient'.trans hclient⟩

theorem Evolves.waitable (h : now.Evolves later) (waitable : now.Waitable) : later.Waitable := by
  rcases h with rfl | ⟨-, hlistener, hclient⟩
  · exact ⟨.inl rfl, .inl rfl⟩
  · exact ⟨waitable.1.trans hlistener, waitable.2.trans hclient⟩

/-- A step that only fills empty places. -/
theorem evolves_of_fills (hopen : now ≠ shutAcceptor)
    (hlistener : Fills now.listener later.listener) (hclient : Fills now.client later.client) :
    now.Evolves later :=
  .inr ⟨hopen, hlistener, hclient⟩

theorem evolves_bind (address : Bytes) (port : UInt16) (answers : BindAnswers) :
    acceptor.Evolves (acceptor.bind address port answers).acceptor := by
  rw [NativeLoopbackAcceptor.bind]
  split
  · exact .refl _
  rename_i hgood
  split
  · exact .refl _
  rename_i socket _
  rw [openListener]
  split
  · exact .refl _
  rename_i hselectable
  split
  · exact .refl _
  split
  · exact .refl _
  split
  · exact .refl _
  split
  · exact .refl _
  split
  · exact .refl _
  · have hopen : acceptor ≠ shutAcceptor := by
      intro hshut
      exact hgood (.inr (.inr (.inl (by rw [hshut]; rfl))))
    have hnone : acceptor.listener = invalidSocketHandle := by
      by_contra hother
      exact hgood (.inr (.inr (.inr hother)))
    exact evolves_of_fills hopen (.inr ⟨hnone, not_not.mp hselectable⟩) (.inl rfl)

theorem evolves_acceptSection (turn : AcceptTurn) :
    acceptor.Evolves (acceptor.acceptSection turn).acceptor := by
  rw [acceptSection]
  split
  · exact .refl _
  rename_i hclient
  dsimp only
  split
  · exact .refl _
  · exact .refl _
  rename_i hready
  have hopen : acceptor ≠ shutAcceptor := by
    intro hshut
    rw [hshut] at hready
    cases hready
  split
  · exact .refl _
  · exact .refl _
  · exact .refl _
  split
  · exact .refl _
  split
  · exact .refl _
  · rename_i hselectable
    exact evolves_of_fills hopen (.inl rfl) (.inr ⟨not_not.mp hclient, not_not.mp hselectable⟩)

theorem acceptor_readSection (maximumBytes : Nat) (request : Bytes) (turn : ReadTurn) :
    (acceptor.readSection maximumBytes request turn).acceptor = acceptor := by
  rw [readSection]
  split
  · rfl
  · rfl
  · split
    · rfl
    · rfl
    · rfl
    · rfl

theorem acceptor_sendSection (response : Bytes) (deadline sent : Nat) (turn : SendTurn) :
    (acceptor.sendSection response deadline sent turn).acceptor = acceptor := by
  rw [sendSection]
  split
  · rfl
  split
  · rfl
  split
  · rfl
  split
  · rfl
  · rfl
  · rfl
  split
  · rfl
  · rfl
  · rfl
  · rfl

theorem evolves_callStep {phase : SocketPhase} {action : SocketAction}
    {done : Section SocketPhase} (h : acceptor.callStep phase action = some done) :
    acceptor.Evolves done.acceptor := by
  by_cases hshut : acceptor = shutAcceptor
  · subst hshut
    exact .inl (callStep_shut h).2
  unfold callStep at h
  split at h
  case h_3 =>
    split at h
    · cases h
      exact evolves_acceptSection _
    · cases h
  case h_5 =>
    cases h
    rw [acceptor_readSection]
    exact .refl _
  case h_8 =>
    split at h
    · cases h
      rw [acceptor_sendSection]
      exact .refl _
    · cases h
  case h_9 =>
    cases h
    exact evolves_of_fills hshut (.inl rfl) (.inl rfl)
  case h_10 =>
    cases h
    exact .inl rfl
  case h_11 => cases h
  all_goals
    cases h
    exact .refl _

end NativeLoopbackAcceptor

theorem evolves_step (s : SocketState) (input : SocketInput) :
    s.acceptor.Evolves (socketStep input s).2.acceptor := by
  cases input with
  | bind address port answers =>
      rw [socketStep]
      split
      · exact NativeLoopbackAcceptor.evolves_bind address port answers
      · exact .refl _
  | call index action =>
      rw [socketStep]
      split
      · exact .refl _
      · rename_i done hdone
        exact NativeLoopbackAcceptor.evolves_callStep hdone

theorem evolves_run (s : SocketState) (inputs : List SocketInput) :
    s.acceptor.Evolves (socketMachine.run s inputs).acceptor :=
  socketMachine.run_keeps (I := fun t => s.acceptor.Evolves t.acceptor)
    (fun t input h => h.trans (evolves_step t input)) (.refl _) inputs

/-! ## The events of a call -/

/-- What an event is for a call: what its own step does to sockets. -/
def callEvents (index : Nat) (e : Event SocketState SocketInput (List SocketEvent)) :
    List SocketEvent :=
  match e.input with
  | .bind .. => []
  | .call other _ => if other = index then e.output else []

/-- What a call does to sockets in a schedule on a new acceptor. -/
def callLog (index : Nat) (inputs : List SocketInput) : List SocketEvent :=
  (socketMachine.trace {} inputs).flatMap (callEvents index)

/-- The bytes that an event takes from a socket. -/
def SocketEvent.received : SocketEvent → Bytes
  | .receives _ bytes => bytes
  | _ => []

/-- The bytes that an event puts into a socket. -/
def SocketEvent.sent : SocketEvent → Bytes
  | .sends _ bytes => bytes
  | _ => []

/-- The socket that bytes come from or go to. -/
def SocketEvent.peer : SocketEvent → Option SocketHandle
  | .receives socket _ => some socket
  | .sends socket _ => some socket
  | _ => none

/-- No bytes are exchanged. -/
def Mute (events : List SocketEvent) : Prop := ∀ e ∈ events, e.peer = none

/-- The bytes that were received. -/
def receivedBytes (events : List SocketEvent) : Bytes := events.flatMap SocketEvent.received

/-- The bytes that were sent. -/
def sentBytes (events : List SocketEvent) : Bytes := events.flatMap SocketEvent.sent

@[simp] theorem receivedBytes_append (past rest : List SocketEvent) :
    receivedBytes (past ++ rest) = receivedBytes past ++ receivedBytes rest :=
  List.flatMap_append

@[simp] theorem sentBytes_append (past rest : List SocketEvent) :
    sentBytes (past ++ rest) = sentBytes past ++ sentBytes rest :=
  List.flatMap_append

theorem Mute.append {past rest : List SocketEvent} (hpast : Mute past) (hrest : Mute rest) :
    Mute (past ++ rest) := fun e he => by
  rcases List.mem_append.mp he with he | he
  · exact hpast e he
  · exact hrest e he

theorem Mute.receivedBytes {events : List SocketEvent} (h : Mute events) :
    receivedBytes events = [] := by
  refine List.flatMap_eq_nil_iff.mpr fun e he => ?_
  have hnone := h e he
  cases e with
  | receives socket bytes => cases hnone
  | _ => rfl

theorem mute_uses (calls : Nat) (socket : SocketHandle) :
    Mute (List.replicate calls (.uses socket)) := fun e he => by
  rw [List.eq_of_mem_replicate he]
  rfl

theorem mute_opens {rest : List SocketEvent} (h : Mute rest) (socket : SocketHandle) :
    Mute (.opens socket :: rest) := fun e he => by
  rcases List.mem_cons.mp he with rfl | he
  · rfl
  · exact h e he

theorem mute_closeSocket (socket : SocketHandle) : Mute (closeSocket socket) := by
  rw [closeSocket]
  split
  · exact fun e he => by cases he
  · exact fun e he => by rw [List.mem_singleton.mp he]; rfl

theorem mute_waitEvents (socket : SocketHandle) :
    Mute (NativeLoopbackAcceptor.waitEvents socket) := by
  rw [NativeLoopbackAcceptor.waitEvents]
  split
  · exact mute_uses 1 socket
  · exact mute_uses 0 socket

/-- A step is a step of the call, or it is not and leaves the call as it is. -/
theorem callStep_or (index : Nat) (s : SocketState) (input : SocketInput) :
    (∃ action done, s.acceptor.callStep (s.calls index) action = some done ∧
        (socketStep input s).2.acceptor = done.acceptor ∧
        (socketStep input s).2.calls index = done.outcome ∧
        callEvents index (socketMachine.event s input) = done.events) ∨
      ((socketStep input s).2.calls index = s.calls index ∧
        callEvents index (socketMachine.event s input) = []) := by
  cases input with
  | bind address port answers =>
      refine .inr ⟨?_, rfl⟩
      rw [socketStep]
      split
      · rfl
      · rfl
  | call other action =>
      have hevents : callEvents index (socketMachine.event s (.call other action)) =
          if other = index then (socketStep (.call other action) s).1 else [] := rfl
      rw [hevents]
      by_cases hother : other = index
      · subst hother
        rw [if_pos rfl, socketStep]
        split
        · exact .inr ⟨rfl, rfl⟩
        · rename_i done hdone
          exact .inl ⟨action, done, hdone, rfl, Function.update_self .., rfl⟩
      · rw [if_neg hother, socketStep]
        split
        · exact .inr ⟨rfl, rfl⟩
        · exact .inr ⟨Function.update_of_ne (Ne.symm hother) .., rfl⟩

/-- A call that has been made does not go back, and making it touches no socket. -/
theorem callStep_made {acceptor : NativeLoopbackAcceptor} {phase : SocketPhase}
    {action : SocketAction} {done : Section SocketPhase}
    (h : acceptor.callStep phase action = some done) :
    done.outcome ≠ .idle ∧ (phase = .idle → done.events = []) := by
  unfold NativeLoopbackAcceptor.callStep at h
  split at h
  all_goals grind

/-- The rule for one call of a schedule: what its own steps keep, and what the other steps do
not disturb, holds in every schedule after it was made. -/
theorem call_run {index : Nat} {s : SocketState}
    {R : NativeLoopbackAcceptor → SocketPhase → List SocketEvent → Prop}
    (stable : ∀ {now later phase events}, now.Evolves later → R now phase events →
      R later phase events)
    (own : ∀ {now phase events action done}, s.acceptor.Evolves now → R now phase events →
      now.callStep phase action = some done →
      R done.acceptor done.outcome (events ++ done.events))
    (start : R s.acceptor (s.calls index) []) (rest : List SocketInput) :
    R (socketMachine.run s rest).acceptor ((socketMachine.run s rest).calls index)
      ((socketMachine.trace s rest).flatMap (callEvents index)) := by
  refine (socketMachine.history_induction
    (P := fun past t => s.acceptor.Evolves t.acceptor ∧
      R t.acceptor (t.calls index) (past.flatMap (callEvents index)))
    ⟨.refl _, start⟩ (fun past t input h => ?_) rest).2
  refine ⟨h.1.trans (evolves_step t input), ?_⟩
  rw [List.flatMap_append, List.flatMap_singleton]
  rcases callStep_or index t input with ⟨action, done, hdone, hacceptor, hcall, hevents⟩ |
    ⟨hcall, hevents⟩
  · have hown := own h.1 h.2 hdone
    rw [← hacceptor, ← hcall, ← hevents] at hown
    exact hown
  · have hother := stable (evolves_step t input) h.2
    rw [← hcall] at hother
    rw [hevents, List.append_nil]
    exact hother

/-- A call that is not made touches no socket. -/
theorem callLog_idle {index : Nat} {past : List SocketInput}
    (idle : (socketMachine.run {} past).calls index = .idle) : callLog index past = [] := by
  have hrun : (socketMachine.run {} past).calls index = .idle → callLog index past = [] :=
    call_run (R := fun _ phase events => phase = .idle → events = []) (fun _ h => h)
      (fun _ _ hdone hidle => absurd hidle (callStep_made hdone).1) (fun _ => rfl) past
  exact hrun idle

/-- The same rule from a new acceptor on: the relation holds when the call is made. -/
theorem call_made {index : Nat} {past : List SocketInput} {action : SocketAction}
    {phase : SocketPhase} {R : NativeLoopbackAcceptor → SocketPhase → List SocketEvent → Prop}
    (stable : ∀ {now later phase events}, now.Evolves later → R now phase events →
      R later phase events)
    (own : ∀ {now phase events action done}, (socketMachine.run {} past).acceptor.Evolves now →
      R now phase events → now.callStep phase action = some done →
      R done.acceptor done.outcome (events ++ done.events))
    (idle : (socketMachine.run {} past).calls index = .idle)
    (made : (socketMachine.run {} past).acceptor.callStep .idle action =
      some ⟨[], phase, (socketMachine.run {} past).acceptor⟩)
    (start : R (socketMachine.run {} past).acceptor phase []) (rest : List SocketInput) :
    R (socketMachine.run {} (past ++ .call index action :: rest)).acceptor
      ((socketMachine.run {} (past ++ .call index action :: rest)).calls index)
      (callLog index (past ++ .call index action :: rest)) := by
  have hstep : socketStep (.call index action) (socketMachine.run {} past) =
      ([], { acceptor := (socketMachine.run {} past).acceptor
             calls := Function.update (socketMachine.run {} past).calls index phase }) := by
    rw [socketStep, idle, made]
  have hstart : R (socketStep (.call index action) (socketMachine.run {} past)).2.acceptor
      ((socketStep (.call index action) (socketMachine.run {} past)).2.calls index) [] := by
    rw [hstep]
    dsimp only
    rw [Function.update_self]
    exact start
  have hsame : (socketStep (.call index action) (socketMachine.run {} past)).2.acceptor =
      (socketMachine.run {} past).acceptor := by
    rw [hstep]
  have hrun := call_run (R := R) stable
    (fun evolves h hdone => own (hsame ▸ evolves) h hdone) hstart rest
  have hevents : callEvents index (socketMachine.event (socketMachine.run {} past)
      (.call index action)) = [] := by
    have houtput : callEvents index (socketMachine.event (socketMachine.run {} past)
        (.call index action)) =
          if index = index then (socketStep (.call index action) (socketMachine.run {} past)).1
          else [] := rfl
    rw [houtput, if_pos rfl, hstep]
  have hlog : callLog index (past ++ .call index action :: rest) =
      (socketMachine.trace (socketStep (.call index action) (socketMachine.run {} past)).2
        rest).flatMap (callEvents index) := by
    have hpast : (socketMachine.trace {} past).flatMap (callEvents index) = [] :=
      callLog_idle idle
    rw [callLog, socketMachine.trace_append, List.flatMap_append, hpast, List.nil_append]
    show List.flatMap _ (socketMachine.event _ _ :: _) = _
    rw [List.flatMap_cons, hevents, List.nil_append]
    rfl
  rw [hlog, socketMachine.run_append]
  exact hrun

/-! ## AcceptOne -/

section AcceptOne

variable {first now later : NativeLoopbackAcceptor} {maximumBytes start : Nat} {timeoutMs : UInt64}

/-- The acceptor takes the call. -/
structure TakesCall (first : NativeLoopbackAcceptor) (maximumBytes : Nat) : Prop where
  opened : first.closeRequested = false
  bound : first.listener ≠ invalidSocketHandle
  short : maximumBytes ≤ maxCallbackRequestBytes

theorem acceptOne_eq (begins : TakesCall first maximumBytes) (accepting : List AcceptTurn)
    (reading : List ReadTurn) :
    acceptOne first maximumBytes timeoutMs start accepting reading =
      match acceptClient first (deadlineOf start timeoutMs) accepting with
      | none => none
      | some (.error e) => some (.error e)
      | some (.ok client) =>
          readRequest client maximumBytes (deadlineOf start timeoutMs) [] reading := by
  have hopened : ¬ first.closeRequested = true := by
    rw [begins.opened]
    exact Bool.false_ne_true
  have hbound := not_or.mpr ⟨begins.bound, Nat.not_lt.mpr begins.short⟩
  exact (if_neg hopened).trans (if_neg hbound)

/-- Turns that bring nothing change nothing. -/
theorem acceptClient_append {deadline : Nat} {turns : List AcceptTurn}
    (h : acceptClient first deadline turns = none) (more : List AcceptTurn) :
    acceptClient first deadline (turns ++ more) = acceptClient first deadline more := by
  induction turns with
  | nil => rfl
  | cons turn turns ih =>
      rw [List.cons_append, acceptClient]
      rw [acceptClient] at h
      split at h
      · cases h
      · cases h
      · exact ih h

/-- The call reads, and could have read the same alone. -/
structure ReadsAlone (first : NativeLoopbackAcceptor) (maximumBytes deadline : Nat)
    (now : NativeLoopbackAcceptor) (client : SocketHandle) (accepting : List AcceptTurn)
    (turns : List ReadTurn) (request : Bytes) : Prop where
  begins : TakesCall first maximumBytes
  connected : acceptClient first deadline accepting = some (.ok client)
  selectable : Selectable client
  keeps : now = shutAcceptor ∨ now.client = client
  reads : ∀ more, readRequest client maximumBytes deadline [] (turns ++ more) =
    readRequest client maximumBytes deadline request more

/-- What a call of `AcceptOne` did so far, told as a call that is alone: the phase it is in,
and the bytes that it received. -/
inductive Told (first : NativeLoopbackAcceptor) (maximumBytes : Nat) (timeoutMs : UInt64)
    (start : Nat) (now : NativeLoopbackAcceptor) : SocketPhase → Bytes → Prop
  | accepting (turns : List AcceptTurn) (begins : TakesCall first maximumBytes)
      (waits : acceptClient first (deadlineOf start timeoutMs) turns = none) :
      Told first maximumBytes timeoutMs start now
        (.accepting maximumBytes (deadlineOf start timeoutMs)) []
  | selecting (turns : List AcceptTurn) (begins : TakesCall first maximumBytes)
      (waits : acceptClient first (deadlineOf start timeoutMs) turns = none)
      (inTime : 0 < deadlineOf start timeoutMs) :
      Told first maximumBytes timeoutMs start now
        (.selecting maximumBytes (deadlineOf start timeoutMs)) []
  | reading {client : SocketHandle} (accepting : List AcceptTurn) (turns : List ReadTurn)
      {request : Bytes}
      (h : ReadsAlone first maximumBytes (deadlineOf start timeoutMs) now client accepting turns
        request) :
      Told first maximumBytes timeoutMs start now
        (.reading maximumBytes (deadlineOf start timeoutMs) request) (arrivedBytes turns)
  | receiving {client : SocketHandle} (accepting : List AcceptTurn) (turns : List ReadTurn)
      {request : Bytes}
      (h : ReadsAlone first maximumBytes (deadlineOf start timeoutMs) now client accepting turns
        request)
      (goesOn : ¬ (find blankLine request).isSome = true)
      (inTime : 0 < deadlineOf start timeoutMs) :
      Told first maximumBytes timeoutMs start now
        (.receiving maximumBytes (deadlineOf start timeoutMs) request) (arrivedBytes turns)
  | finished (accepting : List AcceptTurn) (turns : List ReadTurn)
      {outcome : Except AcceptError Bytes}
      (h : acceptOne first maximumBytes timeoutMs start accepting turns = some outcome) :
      Told first maximumBytes timeoutMs start now (.finished outcome) (arrivedBytes turns)

theorem ReadsAlone.stable {deadline : Nat} {client : SocketHandle} {accepting : List AcceptTurn}
    {turns : List ReadTurn} {request : Bytes}
    (h : ReadsAlone first maximumBytes deadline now client accepting turns request)
    (evolves : now.Evolves later) :
    ReadsAlone first maximumBytes deadline later client accepting turns request := by
  refine ⟨h.begins, h.connected, h.selectable, ?_, h.reads⟩
  rcases evolves with hshut | ⟨hopen, -, hclient⟩
  · exact .inl hshut
  · rcases h.keeps with hshut | hsame
    · exact absurd hshut hopen
    · have hvalid : now.client ≠ invalidSocketHandle := by
        rw [hsame]
        exact h.selectable.ne_invalid
      exact .inr ((hclient.eq_of_ne hvalid).trans hsame)

/-- Steps of other calls do not change what a call did. -/
theorem Told.stable {phase : SocketPhase} {bytes : Bytes}
    (h : Told first maximumBytes timeoutMs start now phase bytes) (evolves : now.Evolves later) :
    Told first maximumBytes timeoutMs start later phase bytes := by
  cases h with
  | accepting turns begins waits => exact .accepting turns begins waits
  | selecting turns begins waits inTime => exact .selecting turns begins waits inTime
  | reading accepting turns h => exact .reading accepting turns (h.stable evolves)
  | receiving accepting turns h goesOn inTime =>
      exact .receiving accepting turns (h.stable evolves) goesOn inTime
  | finished accepting turns h => exact .finished accepting turns h

/-! ### The first loop -/

/-- The first loop exchanges no bytes. -/
theorem mute_acceptSection (turn : AcceptTurn) : Mute (now.acceptSection turn).events := by
  have hwaits := mute_waitEvents now.listener
  have haccepts := hwaits.append (mute_uses 1 now.listener)
  have hopens (socket : SocketHandle) := haccepts.append (mute_opens (mute_uses 1 socket) socket)
  have habandons (socket : SocketHandle) := (hopens socket).append (mute_closeSocket socket)
  rw [NativeLoopbackAcceptor.acceptSection]
  split
  · exact mute_uses 0 now.listener
  dsimp only
  split
  · exact hwaits
  · exact hwaits
  split
  · exact haccepts
  · exact haccepts
  · exact haccepts
  split
  · exact habandons _
  split
  · exact habandons _
  · exact hopens _

/-- The client that the first loop ends with can be waited for. -/
theorem selectable_of_accepts {turn : AcceptTurn} (waitable : now.Waitable)
    (h : (now.acceptSection turn).outcome = .ok true) :
    Selectable (now.acceptSection turn).acceptor.client := by
  rw [NativeLoopbackAcceptor.acceptSection] at h ⊢
  by_cases hclient : now.client ≠ invalidSocketHandle
  · rw [if_pos hclient]
    exact waitable.2.selectable hclient
  rw [if_neg hclient] at h ⊢
  dsimp only at h ⊢
  cases hready : now.awaits now.listener turn.toPollTurn with
  | error e =>
      rw [hready] at h
      cases h
  | ok ready =>
      rw [hready] at h
      cases ready with
      | false => cases h
      | true =>
          dsimp only at h ⊢
          cases haccepted : turn.accepted with
          | error e =>
              rw [haccepted] at h
              cases e with
              | wouldBlock | interrupted | other => cases h
          | ok accepted =>
              rw [haccepted] at h
              dsimp only at h ⊢
              split at h
              · cases h
              rename_i hnonBlocking
              rw [if_neg hnonBlocking]
              split at h
              · cases h
              rename_i hselectable
              rw [if_neg hselectable]
              exact not_not.mp hselectable

/-- A critical section of the first loop is a turn of the call alone. -/
theorem exists_acceptTurn {deadline : Nat} (takes : TakesCall first maximumBytes)
    (evolves : first.Evolves now) (waitable : now.Waitable) (inTime : 0 < deadline)
    (turn : AcceptTurn) :
    ∃ told : AcceptTurn, acceptTurn first deadline told =
      (now.acceptSection turn).outcome.map fun ready =>
        if ready then some (now.acceptSection turn).acceptor.client else none := by
  have hchecks (told : PollTurn) (h : told.closeRequested = false ∧ told.cancelled = .ok false ∧
      told.now = 0) : checkTurn deadline told = .ok () := by
    rw [checkTurn, h.1, h.2.1, h.2.2]
    exact if_neg (Nat.not_le.mpr inTime)
  rcases evolves with rfl | ⟨-, hlistener, hclient⟩
  · -- the acceptor was closed meanwhile
    refine ⟨{ closed := true }, ?_⟩
    rw [NativeLoopbackAcceptor.acceptTurn_eq, hchecks _ ⟨rfl, rfl, rfl⟩]
    rfl
  · have hlistening : now.listener = first.listener := hlistener.eq_of_ne takes.bound
    rcases hclient with hsame | ⟨hnone, hselectable⟩
    · -- the call finds what it found before
      refine ⟨{
        select := turn.select
        closeRequestedIdle := now.closeRequested
        accepted := turn.accepted
        nonBlocking := turn.nonBlocking }, ?_⟩
      have hfound : first.found {
          select := turn.select
          closeRequestedIdle := now.closeRequested } = now := by
        rw [NativeLoopbackAcceptor.found, if_neg Bool.false_ne_true, ← hsame, ← hlistening]
      rw [NativeLoopbackAcceptor.acceptTurn_eq, hchecks _ ⟨rfl, rfl, rfl⟩]
      show Except.map _ (NativeLoopbackAcceptor.acceptSection (first.found _) _).outcome = _
      rw [hfound]
      rfl
    · -- another call accepted the client
      have hlistener : Selectable first.listener := by
        rw [← hlistening]
        exact waitable.1.selectable (hlistening ▸ takes.bound)
      refine ⟨{ accepted := .ok now.client }, ?_⟩
      rw [NativeLoopbackAcceptor.acceptSection_outcome, if_pos hselectable.ne_invalid]
      unfold acceptTurn
      rw [hchecks _ ⟨rfl, rfl, rfl⟩]
      show (if first.client ≠ _ then _ else _) = _
      rw [if_neg (not_not.mpr hnone)]
      show (awaitSocket first.listener _ >>= _) = _
      rw [awaitSocket_ready hlistener ⟨0, rfl⟩]
      exact if_neg (not_not.mpr hselectable)

/-! ### The second loop -/

/-- A critical section of the second loop is a turn of the call alone, which takes the same
bytes. -/
theorem exists_readTurn {deadline : Nat} {client : SocketHandle} (selectable : Selectable client)
    (keeps : now = shutAcceptor ∨ now.client = client) (inTime : 0 < deadline) (request : Bytes)
    (turn : ReadTurn) :
    ∃ told : ReadTurn,
      readTurn client maximumBytes deadline request told =
        (now.readSection maximumBytes request turn).outcome ∧
      told.arrived = receivedBytes (now.readSection maximumBytes request turn).events := by
  have hchecks (told : PollTurn) (h : told.closeRequested = false ∧ told.cancelled = .ok false ∧
      told.now = 0) : checkTurn deadline told = .ok () := by
    rw [checkTurn, h.1, h.2.1, h.2.2]
    exact if_neg (Nat.not_le.mpr inTime)
  rcases keeps with rfl | rfl
  · refine ⟨{ closed := true, select := .ok 0 }, ?_, rfl⟩
    unfold readTurn
    rw [hchecks _ ⟨rfl, rfl, rfl⟩]
    rfl
  · refine ⟨{
      select := turn.select
      closeRequestedIdle := now.closeRequested
      received := turn.received }, ?_, ?_⟩
    · rw [NativeLoopbackAcceptor.readTurn_eq, hchecks _ ⟨rfl, rfl, rfl⟩]
      rfl
    · have hwaits := (mute_waitEvents now.client).receivedBytes
      rw [NativeLoopbackAcceptor.readSection, NativeLoopbackAcceptor.awaits, awaitSocket,
        if_neg selectable.ne_invalid, if_neg (not_not.mpr selectable), ReadTurn.arrived]
      cases hselect : turn.select with
      | error e =>
          cases e with
          | wouldBlock | interrupted | other => exact hwaits.symm
      | ok count =>
          cases count with
          | zero =>
              by_cases hclosing : now.closeRequested = true
              · rw [if_pos hclosing]
                exact hwaits.symm
              · rw [if_neg hclosing]
                exact hwaits.symm
          | succ count =>
              cases turn.received with
              | error e =>
                  cases e with
                  | wouldBlock | interrupted | other =>
                      dsimp only
                      rw [receivedBytes_append, hwaits]
                      rfl
              | ok received =>
                  dsimp only
                  rw [receivedBytes_append, hwaits]
                  exact (List.append_nil _).symm

/-- Checks that let a turn go on are made before the deadline. -/
theorem inTime_of_checkTurn {deadline : Nat} {turn : PollTurn}
    (h : checkTurn deadline turn = .ok ()) : 0 < deadline := by
  rw [checkTurn] at h
  split at h
  · cases h
  split at h
  · cases h
  · cases h
  split at h
  · cases h
  · omega

/-- The request grows as it does in a call alone. -/
theorem ReadsAlone.next {deadline : Nat} {client : SocketHandle} {accepting : List AcceptTurn}
    {turns : List ReadTurn} {request after : Bytes}
    (h : ReadsAlone first maximumBytes deadline now client accepting turns request)
    (goesOn : ¬ (find blankLine request).isSome = true) {told : ReadTurn}
    (htold : readTurn client maximumBytes deadline request told = .ok after) :
    ReadsAlone first maximumBytes deadline now client accepting (turns ++ [told]) after := by
  refine ⟨h.begins, h.connected, h.selectable, h.keeps, ?_⟩
  intro more
  rw [List.append_assoc, h.reads, List.singleton_append, readRequest, if_neg goesOn, htold]

/-- The call ends as a call alone does. -/
theorem ReadsAlone.told {client : SocketHandle} {accepting : List AcceptTurn}
    {turns : List ReadTurn} {request : Bytes} {outcome : Except AcceptError Bytes}
    (h : ReadsAlone first maximumBytes (deadlineOf start timeoutMs) now client accepting turns
      request)
    {more : List ReadTurn}
    (hmore : readRequest client maximumBytes (deadlineOf start timeoutMs) request more =
      some outcome) :
    acceptOne first maximumBytes timeoutMs start accepting (turns ++ more) = some outcome := by
  rw [acceptOne_eq h.begins, h.connected]
  exact (h.reads more).trans hmore

/-- What a call of `AcceptOne` does next, a call alone does too. -/
theorem told_callStep {phase : SocketPhase} {action : SocketAction} {bytes : Bytes}
    {done : Section SocketPhase} (waitable : now.Waitable) (evolves : first.Evolves now)
    (h : Told first maximumBytes timeoutMs start now phase bytes)
    (hdone : now.callStep phase action = some done) :
    Told first maximumBytes timeoutMs start done.acceptor done.outcome
      (bytes ++ receivedBytes done.events) := by
  cases h with
  | accepting turns begins waits =>
      cases action with
      | check cancelled time =>
          cases hdone
          dsimp only
          split
          · rename_i e hcheck
            refine .finished (turns ++ [{
              closeRequested := now.closeRequested, cancelled, now := time }]) [] ?_
            rw [acceptOne_eq begins, acceptClient_append waits, acceptClient, acceptTurn, hcheck]
            rfl
          · rename_i hcheck
            exact .selecting turns begins waits (inTime_of_checkTurn hcheck)
      | _ => cases hdone
  | selecting turns begins waits inTime =>
      cases action with
      | accept turn =>
          unfold NativeLoopbackAcceptor.callStep at hdone
          dsimp only at hdone
          split at hdone
          · cases hdone
            obtain ⟨told, htold⟩ := exists_acceptTurn begins evolves waitable inTime turn
            rw [(mute_acceptSection turn).receivedBytes]
            dsimp only
            cases houtcome : (now.acceptSection turn).outcome with
            | error e =>
                rw [houtcome] at htold
                refine .finished (turns ++ [told]) [] ?_
                rw [acceptOne_eq begins, acceptClient_append waits, acceptClient, htold]
                rfl
            | ok ready =>
                rw [houtcome] at htold
                cases ready with
                | false =>
                    refine .accepting (turns ++ [told]) begins ?_
                    rw [acceptClient_append waits, acceptClient, htold]
                    rfl
                | true =>
                    refine .reading (turns ++ [told]) []
                      ⟨begins, ?_, ?_, .inr rfl, fun _ => rfl⟩
                    · rw [acceptClient_append waits, acceptClient, htold]
                      rfl
                    · exact selectable_of_accepts waitable houtcome
          · cases hdone
      | _ => cases hdone
  | @reading client accepting turns request h =>
      cases action with
      | check cancelled time =>
          cases hdone
          dsimp only
          rw [show receivedBytes [] = [] from rfl, List.append_nil]
          split
          · rename_i hfound
            have hend : readRequest client maximumBytes (deadlineOf start timeoutMs) request [] =
                some (.ok request) := by
              rw [readRequest, if_pos hfound]
            have htold := h.told hend
            rw [List.append_nil] at htold
            exact .finished _ _ htold
          · rename_i hfound
            split
            · rename_i e hcheck
              let told : ReadTurn := {
                closeRequested := now.closeRequested, cancelled, now := time, select := .ok 0 }
              have hchecked : checkTurn (deadlineOf start timeoutMs) told.toPollTurn = .error e :=
                hcheck
              have hend : readRequest client maximumBytes (deadlineOf start timeoutMs) request
                  [told] = some (.error e) := by
                rw [readRequest, if_neg hfound, readTurn, hchecked]
                rfl
              have hnothing : arrivedBytes turns = arrivedBytes (turns ++ [told]) := by
                rw [arrivedBytes, arrivedBytes, List.flatMap_append]
                exact (List.append_nil _).symm
              rw [hnothing]
              exact .finished _ _ (h.told hend)
            · rename_i hcheck
              exact .receiving _ _ h hfound (inTime_of_checkTurn hcheck)
      | _ => cases hdone
  | @receiving client accepting turns request h goesOn inTime =>
      cases action with
      | receive turn =>
          obtain ⟨told, htold, harrived⟩ :=
            exists_readTurn h.selectable h.keeps inTime request turn
          cases hdone
          have hall : arrivedBytes turns ++
              receivedBytes (now.readSection maximumBytes request turn).events =
                arrivedBytes (turns ++ [told]) := by
            rw [← harrived, arrivedBytes, arrivedBytes, List.flatMap_append,
              List.flatMap_singleton]
          dsimp only
          rw [hall]
          cases houtcome : (now.readSection maximumBytes request turn).outcome with
          | error e =>
              rw [houtcome] at htold
              refine .finished _ _ (h.told ?_)
              rw [readRequest, if_neg goesOn, htold]
          | ok after =>
              rw [houtcome] at htold
              refine .reading _ _ (ReadsAlone.stable (h.next goesOn htold) ?_)
              rw [NativeLoopbackAcceptor.acceptor_readSection]
              exact .refl _
      | _ => cases hdone
  | finished accepting turns h => cases hdone

/-- The call begins as a call alone does. -/
theorem told_start :
    Told first maximumBytes timeoutMs start first
      (if first.closeRequested then .finished (.error .cancelled)
      else if first.listener = invalidSocketHandle ∨ maxCallbackRequestBytes < maximumBytes
      then .finished (.error (.protocol ⟨"invalid callback listener state"⟩))
      else .accepting maximumBytes (deadlineOf start timeoutMs)) [] := by
  split
  · rename_i hclosed
    refine .finished [] [] ?_
    rw [acceptOne, if_pos hclosed]
  · rename_i hopened
    split
    · rename_i hbad
      refine .finished [] [] ?_
      rw [acceptOne, if_neg hopened, if_pos hbad]
    · rename_i hgood
      obtain ⟨hbound, hshort⟩ := not_or.mp hgood
      have htakes : TakesCall first maximumBytes :=
        ⟨Bool.eq_false_iff.mpr hopened, hbound, Nat.not_lt.mp hshort⟩
      exact .accepting [] htakes rfl

end AcceptOne

/-- Every call of `AcceptOne` in every schedule ends as a call that is alone, on the acceptor
that it was made on and for some turns, and these turns take the bytes that it received. -/
theorem acceptOne_simulated (past rest : List SocketInput) (index maximumBytes : Nat)
    (timeoutMs : UInt64) (start : Nat) (outcome : Except AcceptError Bytes)
    (idle : (socketMachine.run {} past).calls index = .idle)
    (finished : (socketMachine.run {} (past ++ .call index
      (.acceptOne maximumBytes timeoutMs start) :: rest)).calls index = .finished outcome) :
    ∃ (accepting : List AcceptTurn) (reading : List ReadTurn),
      acceptOne (socketMachine.run {} past).acceptor maximumBytes timeoutMs start accepting reading
        = some outcome ∧
      arrivedBytes reading = receivedBytes (callLog index
        (past ++ .call index (.acceptOne maximumBytes timeoutMs start) :: rest)) := by
  have hwaitable : (socketMachine.run {} past).acceptor.Waitable :=
    (evolves_run {} past).waitable ⟨.inl rfl, .inl rfl⟩
  have hmade : (socketMachine.run {} past).acceptor.callStep .idle
      (.acceptOne maximumBytes timeoutMs start) = some ⟨[], _, _⟩ := rfl
  have hrun := call_made
    (R := fun now phase events => now.Waitable ∧
      Told (socketMachine.run {} past).acceptor maximumBytes timeoutMs start now phase
        (receivedBytes events))
    (fun evolves h => ⟨evolves.waitable h.1, h.2.stable evolves⟩)
    (fun evolves h hdone => by
      refine ⟨(NativeLoopbackAcceptor.evolves_callStep hdone).waitable h.1, ?_⟩
      rw [receivedBytes_append]
      exact told_callStep h.1 evolves h.2 hdone)
    idle hmade ⟨hwaitable, told_start⟩ rest
  rw [finished] at hrun
  obtain ⟨-, htold⟩ := hrun
  generalize hbytes : receivedBytes (callLog index _) = bytes at htold
  cases htold with
  | finished accepting turns h => exact ⟨accepting, turns, h, rfl⟩

/-- A login reads three bytes, and then the acceptor is closed. -/
def closedWhileReading : List SocketInput :=
  [.call 0 (.check (.ok false) 1), .call 0 (.accept { accepted := .ok 4 }),
    .call 0 (.check (.ok false) 2),
    .call 0 (.receive { received := .ok ⟨ascii "GET", by decide⟩ }),
    .call 0 (.check (.ok false) 3), .call 1 .close, .call 1 .closeSockets,
    .call 0 (.receive { received := .ok ⟨ascii " ", by decide⟩ })]

/-- The call is cancelled, as it would be alone, and it received the three bytes only. -/
theorem acceptOne_simulated_closed : ∃ (accepting : List AcceptTurn) (reading : List ReadTurn),
    acceptOne { listener := 3 } 8192 120000 0 accepting reading = some (.error .cancelled) ∧
      arrivedBytes reading = ascii "GET" := by
  obtain ⟨accepting, reading, houtcome, hbytes⟩ := acceptOne_simulated
    [.bind (ascii "127.0.0.1") 8910 { socket := some 3 }] closedWhileReading 0 8192 120000 0
    (.error .cancelled) rfl rfl
  exact ⟨accepting, reading, houtcome, hbytes.trans (by decide +kernel)⟩

/-! ## Respond and the conversation -/

/-- What a call of `Respond` sent so far. -/
inductive Responded (response : Bytes) : SocketPhase → Bytes → Prop
  | responding (deadline sent : Nat) : Responded response (.responding response deadline sent)
      (response.take sent)
  | sending (deadline sent : Nat) : Responded response (.sending response deadline sent)
      (response.take sent)
  | finished (outcome : Except AcceptError Bytes) (sent : Nat) :
      Responded response (.finished outcome) (response.take sent)

/-- Where `Respond` is after a critical section. -/
def respondPhase (response : Bytes) (deadline : Nat) : Option Nat → SocketPhase
  | none => .finished (.ok [])
  | some sent => .responding response deadline sent

/-- A critical section of `Respond` sends what comes next. -/
theorem responded_sendSection {now : NativeLoopbackAcceptor} (response : Bytes)
    (deadline sent : Nat) (turn : NativeLoopbackAcceptor.SendTurn) :
    Responded response
      (respondPhase response deadline (now.sendSection response deadline sent turn).outcome)
      (response.take sent ++ sentBytes (now.sendSection response deadline sent turn).events) := by
  have hends {events : List SocketEvent} (h : sentBytes events = []) :
      Responded response (.finished (.ok [])) (response.take sent ++ sentBytes events) := by
    rw [h, List.append_nil]
    exact .finished _ _
  have hstays {events : List SocketEvent} (h : sentBytes events = []) :
      Responded response (.responding response deadline sent)
        (response.take sent ++ sentBytes events) := by
    rw [h, List.append_nil]
    exact .responding _ _
  rw [NativeLoopbackAcceptor.sendSection]
  split
  · exact hends rfl
  split
  · exact hends rfl
  split
  · exact hends rfl
  split
  · exact hstays rfl
  · exact hends rfl
  · exact hstays rfl
  split
  · exact hstays rfl
  · exact hstays rfl
  · exact hends rfl
  · rename_i count _
    have hsent : response.take sent ++ sentBytes [.uses now.client,
        .sends now.client ((response.drop sent).take count)] = response.take (sent + count) := by
      rw [List.take_add]
      exact congrArg _ (List.append_nil _)
    dsimp only
    rw [hsent]
    split
    · exact .finished _ _
    · exact .responding _ _

/-- A step of `Respond` sends what comes next. -/
theorem responded_callStep {now : NativeLoopbackAcceptor} {response bytes : Bytes}
    {phase : SocketPhase} {action : SocketAction} {done : Section SocketPhase}
    (h : Responded response phase bytes) (hdone : now.callStep phase action = some done) :
    Responded response done.outcome (bytes ++ sentBytes done.events) := by
  cases h with
  | responding deadline sent =>
      cases action with
      | check cancelled time =>
          cases hdone
          dsimp only
          rw [show sentBytes [] = [] from rfl, List.append_nil]
          split
          · exact .finished _ _
          · exact .sending _ _
      | _ => cases hdone
  | sending deadline sent =>
      cases action with
      | send turn =>
          unfold NativeLoopbackAcceptor.callStep at hdone
          dsimp only at hdone
          split at hdone
          · cases hdone
            exact responded_sendSection response deadline sent turn
          · cases hdone
      | _ => cases hdone
  | finished outcome sent => cases hdone

/-- A call of `Respond` sends a beginning of its response, in order and nothing twice. -/
theorem respond_sends (past rest : List SocketInput) (index : Nat) (response : Bytes)
    (start : Nat) (idle : (socketMachine.run {} past).calls index = .idle) :
    sentBytes (callLog index (past ++ .call index (.respond response start) :: rest)) <+:
      response := by
  have hmade : (socketMachine.run {} past).acceptor.callStep .idle (.respond response start) =
      some ⟨[], .responding response (start + responseDeadline) 0, _⟩ := rfl
  have hrun := call_made
    (R := fun _ phase events => Responded response phase (sentBytes events))
    (fun _ h => h)
    (fun _ h hdone => by
      rw [sentBytes_append]
      exact responded_callStep h hdone)
    idle hmade (Responded.responding _ 0) rest
  generalize sentBytes (callLog index _) = bytes at hrun ⊢
  generalize (socketMachine.run {} _).calls index = phase at hrun
  cases hrun with
  | responding deadline sent => exact List.take_prefix _ _
  | sending deadline sent => exact List.take_prefix _ _
  | finished outcome sent => exact List.take_prefix _ _

/-! ### The peer -/

theorem mute_bind (acceptor : NativeLoopbackAcceptor) (address : Bytes) (port : UInt16)
    (answers : BindAnswers) : Mute (acceptor.bind address port answers).events := by
  rw [NativeLoopbackAcceptor.bind]
  split
  · exact mute_uses 0 acceptor.listener
  split
  · exact mute_uses 0 acceptor.listener
  rename_i listener _
  have hopens (calls : Nat) := mute_opens (mute_uses calls listener) listener
  have habandons (calls : Nat) := (hopens calls).append (mute_closeSocket listener)
  rw [NativeLoopbackAcceptor.openListener]
  split
  · exact habandons 0
  split
  · exact habandons 1
  split
  · exact habandons 2
  split
  · exact habandons 2
  split
  · exact habandons 3
  split
  · exact habandons 4
  · exact hopens 4

/-- Bytes are exchanged with the client, and with nobody else. -/
def WithClient (acceptor : NativeLoopbackAcceptor) (events : List SocketEvent) : Prop :=
  ∀ e ∈ events, ∀ peer, e.peer = some peer →
    peer = acceptor.client ∧ acceptor.client ≠ invalidSocketHandle

theorem Mute.withClient {acceptor : NativeLoopbackAcceptor} {events : List SocketEvent}
    (h : Mute events) : WithClient acceptor events := fun e he peer hpeer => by
  rw [h e he] at hpeer
  cases hpeer

theorem withClient_concat {acceptor : NativeLoopbackAcceptor} {events : List SocketEvent}
    {last : SocketEvent} (h : Mute events) (hlast : last.peer = some acceptor.client)
    (valid : acceptor.client ≠ invalidSocketHandle) :
    WithClient acceptor (events ++ [last]) := fun e he peer hpeer => by
  rcases List.mem_append.mp he with he | he
  · exact h.withClient e he peer hpeer
  · rw [List.mem_singleton.mp he, hlast] at hpeer
    exact ⟨(Option.some.inj hpeer).symm, valid⟩

theorem withClient_readSection (acceptor : NativeLoopbackAcceptor) (maximumBytes : Nat)
    (request : Bytes) (turn : ReadTurn) :
    WithClient acceptor (acceptor.readSection maximumBytes request turn).events := by
  have hwaits := mute_waitEvents acceptor.client
  have huses := hwaits.append (mute_uses 1 acceptor.client)
  rw [NativeLoopbackAcceptor.readSection]
  split
  · exact hwaits.withClient
  · exact hwaits.withClient
  rename_i hready
  split
  · exact huses.withClient
  · exact huses.withClient
  · exact huses.withClient
  · refine withClient_concat hwaits rfl ?_
    exact (NativeLoopbackAcceptor.mem_holds.mp
      (NativeLoopbackAcceptor.mem_holds_of_awaits (.inr rfl) hready)).1

theorem withClient_sendSection (acceptor : NativeLoopbackAcceptor) (response : Bytes)
    (deadline sent : Nat) (turn : NativeLoopbackAcceptor.SendTurn) :
    WithClient acceptor (acceptor.sendSection response deadline sent turn).events := by
  have huses (calls : Nat) := mute_uses calls acceptor.client
  rw [NativeLoopbackAcceptor.sendSection]
  split
  · exact (huses 0).withClient
  split
  · exact (huses 0).withClient
  split
  · exact (huses 0).withClient
  rename_i hselectable
  split
  · exact (huses 1).withClient
  · exact (huses 1).withClient
  · exact (huses 1).withClient
  split
  · exact (huses 2).withClient
  · exact (huses 2).withClient
  · exact (huses 2).withClient
  · exact withClient_concat (huses 1) rfl (not_not.mp hselectable).ne_invalid

theorem withClient_callStep {acceptor : NativeLoopbackAcceptor} {phase : SocketPhase}
    {action : SocketAction} {done : Section SocketPhase}
    (h : acceptor.callStep phase action = some done) : WithClient acceptor done.events := by
  have hnothing : WithClient acceptor [] := (mute_uses 0 acceptor.client).withClient
  unfold NativeLoopbackAcceptor.callStep at h
  split at h
  case h_3 =>
    split at h
    · cases h
      exact (mute_acceptSection _).withClient
    · cases h
  case h_5 =>
    cases h
    exact withClient_readSection _ _ _ _
  case h_8 =>
    split at h
    · cases h
      exact withClient_sendSection _ _ _ _ _
    · cases h
  case h_10 =>
    cases h
    refine Mute.withClient (Mute.append (Mute.append ?_ (mute_closeSocket _))
      (mute_closeSocket _))
    split
    · exact mute_uses 0 acceptor.client
    · exact mute_uses 1 acceptor.client
  case h_11 => cases h
  all_goals
    cases h
    exact hnothing

/-- A step exchanges bytes with the client only. -/
theorem withClient_step (s : SocketState) (input : SocketInput) :
    WithClient s.acceptor (socketStep input s).1 := by
  have hnothing : WithClient s.acceptor [] := (mute_uses 0 s.acceptor.client).withClient
  cases input with
  | bind address port answers =>
      rw [socketStep]
      split
      · exact (mute_bind s.acceptor address port answers).withClient
      · exact hnothing
  | call index action =>
      rw [socketStep]
      split
      · exact hnothing
      · rename_i done hdone
        exact withClient_callStep hdone

/-- All bytes so far went over one socket, which is the client unless the acceptor is
closed. -/
def OnePeer (log : List SocketEvent) (acceptor : NativeLoopbackAcceptor) : Prop :=
  Mute log ∨ ∃ peer, (∀ e ∈ log, ∀ other, e.peer = some other → other = peer) ∧
    (acceptor = shutAcceptor ∨ acceptor.client = peer ∧ peer ≠ invalidSocketHandle)

theorem OnePeer.step {log : List SocketEvent} {s : SocketState} (h : OnePeer log s.acceptor)
    (input : SocketInput) :
    OnePeer (log ++ (socketStep input s).1) (socketStep input s).2.acceptor := by
  have hnew := withClient_step s input
  -- bytes of an open acceptor come from and go to its client, which then stays
  have hgoesOn (hvalid : s.acceptor.client ≠ invalidSocketHandle)
      (hone : ∀ e ∈ log, ∀ other, e.peer = some other → other = s.acceptor.client) :
      OnePeer (log ++ (socketStep input s).1) (socketStep input s).2.acceptor := by
    refine .inr ⟨s.acceptor.client, fun e he other hpeer => ?_, ?_⟩
    · rcases List.mem_append.mp he with he | he
      · exact hone e he other hpeer
      · exact (hnew e he other hpeer).1
    · rcases evolves_step s input with hshut | ⟨-, -, hclient⟩
      · exact .inl hshut
      · exact .inr ⟨hclient.eq_of_ne hvalid, hvalid⟩
  rcases h with hmute | ⟨peer, hone, hshut | ⟨rfl, hvalid⟩⟩
  · by_cases hvalid : s.acceptor.client = invalidSocketHandle
    · refine .inl (hmute.append fun e he => ?_)
      cases hpeer : e.peer with
      | none => rfl
      | some other => exact absurd hvalid (hnew e he other hpeer).2
    · exact hgoesOn hvalid fun e he other hpeer => (hmute.withClient e he other hpeer).1
  · obtain ⟨hevents, hstays⟩ := shut_step s input hshut
    rw [hevents, List.append_nil]
    exact .inr ⟨peer, hone, .inl hstays⟩
  · exact hgoesOn hvalid hone

theorem onePeer_log (inputs : List SocketInput) :
    OnePeer (socketLog inputs) (socketMachine.run {} inputs).acceptor := by
  refine socketMachine.history_induction
    (P := fun past t => OnePeer (past.flatMap Event.output) t.acceptor)
    (.inl (mute_uses 0 invalidSocketHandle)) (fun past t input h => ?_) inputs
  rw [List.flatMap_append, List.flatMap_singleton]
  exact h.step input

/-- An acceptor talks to one client.  In every schedule, all bytes that are received and sent go
over one socket.  And a call of `Respond` sends a beginning of its response, in order and nothing
twice, whatever the other calls do. -/
theorem one_conversation :
    (∀ inputs : List SocketInput, ∃ peer, ∀ e ∈ socketLog inputs, ∀ other, e.peer = some other →
      other = peer) ∧
    ∀ (past rest : List SocketInput) (index : Nat) (response : Bytes) (start : Nat),
      (socketMachine.run {} past).calls index = .idle →
      sentBytes (callLog index (past ++ .call index (.respond response start) :: rest)) <+:
        response := by
  constructor
  · intro inputs
    rcases onePeer_log inputs with hmute | ⟨peer, hone, -⟩
    · exact ⟨invalidSocketHandle, fun e he other hpeer => by rw [hmute e he] at hpeer; cases hpeer⟩
    · exact ⟨peer, hone⟩
  · exact respond_sends

/-- A response that is sent in two pieces. -/
theorem one_conversation_pieces :
    sentBytes (callLog 1 [.bind (ascii "127.0.0.1") 8910 { socket := some 3 },
      .call 0 (.acceptOne 8192 120000 0), .call 0 (.check (.ok false) 1),
      .call 0 (.accept { accepted := .ok 4 }), .call 1 (.respond (ascii "HTTP") 5),
      .call 1 (.check (.ok false) 6), .call 1 (.send { now := 6, sent := .ok 3 }),
      .call 1 (.check (.ok false) 7), .call 1 (.send { now := 7, sent := .ok 1 })]) <+:
        ascii "HTTP" :=
  one_conversation.2 [.bind (ascii "127.0.0.1") 8910 { socket := some 3 },
    .call 0 (.acceptOne 8192 120000 0), .call 0 (.check (.ok false) 1),
    .call 0 (.accept { accepted := .ok 4 })]
    [.call 1 (.check (.ok false) 6), .call 1 (.send { now := 6, sent := .ok 3 }),
      .call 1 (.check (.ok false) 7), .call 1 (.send { now := 7, sent := .ok 1 })]
    1 (ascii "HTTP") 5 rfl

end Data360
