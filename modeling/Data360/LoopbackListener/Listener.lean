import Data360.Lib.Runs
import Data360.LoopbackListener.Acceptor
import Mathlib.Logic.Function.Basic

/-!
# One callback per listener

`FixedLoopbackListener` of `src/loopback_listener.cpp`.  Any number of threads may call
`WaitForCallback` and `Cancel`, and one destroys the listener.  They share `consumed` and
`waiting` behind a mutex, and an acceptor that may do anything: `AcceptOne` returns any bytes
or throws, `Respond` returns or throws.

A step is a critical section, or a call of the acceptor, or its return; between two steps of
one call every other call may take steps.  A schedule is a list of actions, and an action that
its call cannot take does nothing.

* `waitStep` is one step of one call of `WaitForCallback`, and `fixedLoopbackListener` the
  machine of all calls.
* `Made` says what a call has done when it has got to a phase.
* `ListenerInv` relates the shared fields to the log; `listenerInv_log` carries it through
  every schedule.
* `oneCallback_log` reads off what a listener promises.
-/

namespace Data360

open Lib Lib.ByteString

/-! ## The calls -/

/-- `SuccessResponse`. -/
def successResponse : Bytes :=
  ascii "HTTP/1.1 200 OK\r\nContent-Type: text/html; charset=utf-8\r\n" ++
    ascii "Cache-Control: no-store\r\nConnection: close\r\nContent-Length: 76\r\n\r\n" ++
    ascii "<!doctype html><title>Authorization received</title>You may close this page."

/-- `FailureResponse`. -/
def failureResponse : Bytes :=
  ascii "HTTP/1.1 400 Bad Request\r\nContent-Type: text/html; charset=utf-8\r\n" ++
    ascii "Cache-Control: no-store\r\nConnection: close\r\nContent-Length: 74\r\n\r\n" ++
    ascii "<!doctype html><title>Authorization failed</title>Please return to DuckDB."

/-- The response that goes with a result. -/
def responseOf (result : ParsedCallback) : Bytes :=
  if result.status = .codeReceived then successResponse else failureResponse

/-- How a call of `WaitForCallback` ends. -/
abbrev WaitOutcome := Except AcceptError ParsedCallback

/-- Where a call of `WaitForCallback` is. -/
inductive WaitPhase where
  | idle
  | called (timeoutMs : UInt64)
  | refused
  | entered (timeoutMs : UInt64)
  | accepting
  | responding (result : ParsedCallback)
  | closing (outcome : WaitOutcome)
  | clearing (outcome : WaitOutcome)
  | notifying (outcome : WaitOutcome)
  | finished (outcome : WaitOutcome)

/-- What a call of `WaitForCallback` does: it starts, checks and sets the flags, calls
`AcceptOne`, calls `Respond`, closes the acceptor, clears `waiting`, and ends.  A call whose
check fails throws at once. -/
inductive WaitEvent where
  | starts (timeoutMs : UInt64)
  | checks (passed : Bool)
  | accepts (maximumBytes : Nat) (timeoutMs : UInt64)
  | responds (response : Bytes)
  | closes
  | clears
  | ends (outcome : WaitOutcome)

/-- What makes a call go on: its caller, its own next step, or the acceptor. -/
inductive WaitAction where
  | start (timeoutMs : UInt64)
  | advance
  | acceptOne (answer : Except AcceptError Bytes)
  | respond (answer : Except AcceptError Unit)

/-- One step of `WaitForCallback`. -/
def waitStep (consumed : Bool) (phase : WaitPhase) (action : WaitAction) :
    Option (Option WaitEvent × WaitPhase) :=
  match phase, action with
  | .idle, .start timeoutMs => some (some (.starts timeoutMs), .called timeoutMs)
  | .called timeoutMs, .advance =>
      if consumed ∨ timeoutMs = 0 ∨ timeoutMs > 600000 then some (some (.checks false), .refused)
      else some (some (.checks true), .entered timeoutMs)
  | .entered timeoutMs, .advance =>
      some (some (.accepts maxCallbackRequestBytes timeoutMs), .accepting)
  | .accepting, .acceptOne (.error e) => some (none, .closing (.error e))
  | .accepting, .acceptOne (.ok request) =>
      match parseOAuthCallbackRequest request with
      | .error e => some (none, .closing (.error (.protocol e)))
      | .ok result => some (some (.responds (responseOf result)), .responding result)
  | .responding _, .respond (.error e) => some (none, .closing (.error e))
  | .responding result, .respond (.ok ()) => some (none, .closing (.ok result))
  | .closing outcome, .advance => some (some .closes, .clearing outcome)
  | .clearing outcome, .advance => some (some .clears, .notifying outcome)
  | .notifying outcome, .advance => some (some (.ends outcome), .finished outcome)
  | _, _ => none

/-! ## The listener -/

/-- Where a call of `Cancel` is. -/
inductive CancelPhase where
  | idle
  | marked
  | finished
  deriving DecidableEq, Repr

/-- Where the destructor is.  It checks `waiting`, and sleeps on `idle` if it is set. -/
inductive DestructorPhase where
  | idle
  | marked
  | checking
  | sleeping
  | finished
  deriving DecidableEq, Repr

/-- `FixedLoopbackListener`, with the calls on it. -/
structure ListenerState where
  consumed : Bool := false
  waiting : Bool := false
  waits : Nat → WaitPhase := fun _ => .idle
  cancels : Nat → CancelPhase := fun _ => .idle
  destructor : DestructorPhase := .idle

/-- What happens on a listener.  `cancels` sets `consumed`, and `closes` closes the acceptor;
both are of a call of `Cancel`, or of the destructor. -/
inductive ListenerEvent where
  | wait (call : Nat) (event : WaitEvent)
  | cancels (call : Option Nat)
  | closes (call : Option Nat)
  | destroyed

/-- A step of a schedule; `wake` is a spurious wakeup of the destructor. -/
inductive ListenerAction where
  | wait (call : Nat) (action : WaitAction)
  | cancel (call : Nat)
  | destroy
  | wake

/-- What an event of `WaitForCallback` does to what the calls share: the check sets both
flags, and the end notifies `idle`. -/
def ListenerState.share (s : ListenerState) : WaitEvent → ListenerState
  | .checks true => { s with consumed := true, waiting := true }
  | .clears => { s with waiting := false }
  | .ends _ =>
      { s with destructor := if s.destructor = .sleeping then .checking else s.destructor }
  | _ => s

/-- One step of the listener. -/
def listenerStep (action : ListenerAction) (s : ListenerState) :
    Option ListenerEvent × ListenerState :=
  match action with
  | .wait call action =>
      match waitStep s.consumed (s.waits call) action with
      | none => (none, s)
      | some (none, phase) => (none, { s with waits := Function.update s.waits call phase })
      | some (some event, phase) =>
          (some (.wait call event),
            { s with waits := Function.update s.waits call phase }.share event)
  | .cancel call =>
      match s.cancels call with
      | .idle => (some (.cancels (some call)),
          { s with consumed := true, cancels := Function.update s.cancels call .marked })
      | .marked => (some (.closes (some call)),
          { s with cancels := Function.update s.cancels call .finished })
      | .finished => (none, s)
  | .destroy =>
      match s.destructor with
      | .idle => (some (.cancels none), { s with consumed := true, destructor := .marked })
      | .marked => (some (.closes none), { s with destructor := .checking })
      | .checking =>
          if s.waiting then (none, { s with destructor := .sleeping })
          else (some .destroyed, { s with destructor := .finished })
      | .sleeping | .finished => (none, s)
  | .wake => (none, { s with
      destructor := if s.destructor = .sleeping then .checking else s.destructor })

/-- The listener and all calls on it. -/
def fixedLoopbackListener : Machine ListenerState ListenerAction (Option ListenerEvent) where
  step := listenerStep

/-- What happens in a schedule on a new listener. -/
def listenerLog (actions : List ListenerAction) : List ListenerEvent :=
  (fixedLoopbackListener.trace {} actions).filterMap Event.output

/-- A response announces the length of its body, which starts behind its first blank line. -/
theorem responseOf_framed (result : ParsedCallback) :
    ∃ head body, responseOf result
        = head ++ ascii "Content-Length: " ++ toDecimal body.length ++ blankLine ++ body ∧
      ¬ blankLine <:+: head := by
  unfold responseOf
  split
  · exact ⟨successResponse.take 101, successResponse.drop 123, by decide +kernel,
      find_eq_none_iff.mp (by decide +kernel)⟩
  · exact ⟨failureResponse.take 110, failureResponse.drop 132, by decide +kernel,
      find_eq_none_iff.mp (by decide +kernel)⟩

/-! ## One call -/

/-- The possible steps of a call. -/
inductive WaitStep (consumed : Bool) : WaitPhase → Option WaitEvent → WaitPhase → Prop
  | start {timeoutMs : UInt64} :
      WaitStep consumed .idle (some (.starts timeoutMs)) (.called timeoutMs)
  | refuse {timeoutMs : UInt64} (h : consumed = true ∨ timeoutMs = 0 ∨ timeoutMs > 600000) :
      WaitStep consumed (.called timeoutMs) (some (.checks false)) .refused
  | enter {timeoutMs : UInt64} (h : consumed = false) (hpos : timeoutMs ≠ 0)
      (hshort : timeoutMs ≤ 600000) :
      WaitStep consumed (.called timeoutMs) (some (.checks true)) (.entered timeoutMs)
  | accept {timeoutMs : UInt64} : WaitStep consumed (.entered timeoutMs)
      (some (.accepts maxCallbackRequestBytes timeoutMs)) .accepting
  | fail {e : AcceptError} : WaitStep consumed .accepting none (.closing (.error e))
  | respond {request : Bytes} {result : ParsedCallback}
      (h : parseOAuthCallbackRequest request = .ok result) :
      WaitStep consumed .accepting (some (.responds (responseOf result))) (.responding result)
  | responded {result : ParsedCallback} {outcome : WaitOutcome} :
      WaitStep consumed (.responding result) none (.closing outcome)
  | close {outcome : WaitOutcome} :
      WaitStep consumed (.closing outcome) (some .closes) (.clearing outcome)
  | clear {outcome : WaitOutcome} :
      WaitStep consumed (.clearing outcome) (some .clears) (.notifying outcome)
  | finish {outcome : WaitOutcome} :
      WaitStep consumed (.notifying outcome) (some (.ends outcome)) (.finished outcome)

theorem waitStep_cases {consumed : Bool} {phase phase' : WaitPhase} {action : WaitAction}
    {event : Option WaitEvent} (h : waitStep consumed phase action = some (event, phase')) :
    WaitStep consumed phase event phase' := by
  unfold waitStep at h
  split at h
  · cases h
    exact .start
  · split at h
    · rename_i hbad
      cases h
      exact .refuse hbad
    · rename_i hgood
      obtain ⟨hfresh, hrange⟩ := not_or.mp hgood
      obtain ⟨hpos, hshort⟩ := not_or.mp hrange
      cases h
      exact .enter (Bool.eq_false_iff.mpr hfresh) hpos (UInt64.not_lt.mp hshort)
  · cases h
    exact .accept
  · cases h
    exact .fail
  · split at h
    · cases h
      exact .fail
    · rename_i hparsed
      cases h
      exact .respond hparsed
  · cases h
    exact .responded
  · cases h
    exact .responded
  · cases h
    exact .close
  · cases h
    exact .clear
  · cases h
    exact .finish
  · cases h

/-- The order in which a call does what it does. -/
def WaitEvent.rank : WaitEvent → Nat
  | .starts _ => 0
  | .checks _ => 1
  | .accepts _ _ => 2
  | .responds _ => 3
  | .closes => 4
  | .clears => 5
  | .ends _ => 6

/-- What a call has done when it has nothing to do with its client any more. -/
inductive Tried : List WaitEvent → Prop
  | accepted (timeoutMs : UInt64) : Tried [.starts timeoutMs, .checks true,
      .accepts maxCallbackRequestBytes timeoutMs]
  | responded (timeoutMs : UInt64) (response : Bytes) : Tried [.starts timeoutMs, .checks true,
      .accepts maxCallbackRequestBytes timeoutMs, .responds response]

/-- What a call has done when it has got to a phase. -/
inductive Made : WaitPhase → List WaitEvent → Prop
  | idle : Made .idle []
  | called {timeoutMs : UInt64} : Made (.called timeoutMs) [.starts timeoutMs]
  | refused {timeoutMs : UInt64} : Made .refused [.starts timeoutMs, .checks false]
  | entered {timeoutMs : UInt64} :
      Made (.entered timeoutMs) [.starts timeoutMs, .checks true]
  | accepting {timeoutMs : UInt64} : Made .accepting [.starts timeoutMs, .checks true,
      .accepts maxCallbackRequestBytes timeoutMs]
  | responding {result : ParsedCallback} {timeoutMs : UInt64} {response : Bytes} :
      Made (.responding result) [.starts timeoutMs, .checks true,
        .accepts maxCallbackRequestBytes timeoutMs, .responds response]
  | closing {outcome : WaitOutcome} {events : List WaitEvent} (h : Tried events) :
      Made (.closing outcome) events
  | clearing {outcome : WaitOutcome} {events : List WaitEvent} (h : Tried events) :
      Made (.clearing outcome) (events ++ [.closes])
  | notifying {outcome : WaitOutcome} {events : List WaitEvent} (h : Tried events) :
      Made (.notifying outcome) (events ++ [.closes] ++ [.clears])
  | finished {outcome : WaitOutcome} {events : List WaitEvent} (h : Tried events) :
      Made (.finished outcome) (events ++ [.closes] ++ [.clears] ++ [.ends outcome])

section Made

variable {consumed : Bool} {phase phase' : WaitPhase} {events : List WaitEvent}

/-- A step adds its event to what the call has done. -/
theorem Made.step {event : Option WaitEvent} (h : Made phase events)
    (hstep : WaitStep consumed phase event phase') : Made phase' (events ++ event.toList) := by
  cases hstep with
  | start => cases h with | idle => exact .called
  | refuse => cases h with | called => exact .refused
  | enter => cases h with | called => exact .entered
  | accept => cases h with | entered => exact .accepting
  | fail => cases h with | accepting => exact .closing (.accepted _)
  | respond => cases h with | accepting => exact .responding
  | responded => cases h with | responding => exact .closing (.responded _ _)
  | close => cases h with | closing htried => exact .clearing htried
  | clear => cases h with | clearing htried => exact .notifying htried
  | finish => cases h with | notifying htried => exact .finished htried

/-- A call does everything in its order, and so at most once. -/
theorem Made.increasing (h : Made phase events) :
    events.Pairwise fun earlier later => earlier.rank < later.rank := by
  cases h with
  | idle | called | refused | entered | accepting | responding => simp [WaitEvent.rank]
  | closing htried | clearing htried | notifying htried | finished htried =>
      cases htried with
      | accepted | responded => simp [WaitEvent.rank]

/-- Whatever a call does after its check, the check has let it pass. -/
theorem Made.passed (h : Made phase events) {event : WaitEvent} (hmem : event ∈ events)
    (hrank : 1 < event.rank) : .checks true ∈ events := by
  cases h with
  | idle => cases hmem
  | called | refused =>
      simp only [List.mem_cons, List.not_mem_nil, or_false] at hmem
      rcases hmem with rfl | rfl
      all_goals exact absurd hrank (by simp [WaitEvent.rank])
  | entered | accepting | responding => simp
  | closing htried | clearing htried | notifying htried | finished htried =>
      cases htried with
      | accepted | responded => simp

/-- A call that is about to check has only started. -/
theorem Made.eq_of_called {timeoutMs : UInt64} (h : Made (.called timeoutMs) events) :
    events = [.starts timeoutMs] := by
  cases h
  rfl

/-- A call that is about to clear `waiting` has passed its check. -/
theorem Made.passed_of_clearing {outcome : WaitOutcome} (h : Made (.clearing outcome) events) :
    .checks true ∈ events := by
  cases h with
  | clearing htried => cases htried with
    | accepted | responded => simp

/-- A call that ends has closed the acceptor and cleared `waiting`. -/
theorem Made.left (h : Made phase events) {outcome : WaitOutcome}
    (hmem : .ends outcome ∈ events) : .closes ∈ events ∧ .clears ∈ events := by
  cases h with
  | idle => cases hmem
  | finished => simp
  | closing htried | clearing htried | notifying htried =>
      cases htried with
      | accepted | responded => simp at hmem
  | _ => simp at hmem

end Made

/-! ## The log -/

/-- The event uses the listener up. -/
def ListenerEvent.uses : ListenerEvent → Bool
  | .wait _ (.checks passed) => passed
  | .cancels _ => true
  | _ => false

/-- The check of a call lets it pass. -/
def ListenerEvent.enters : ListenerEvent → Bool
  | .wait _ (.checks passed) => passed
  | _ => false

/-- What one call did. -/
def ListenerEvent.ofCall (call : Nat) : ListenerEvent → Option WaitEvent
  | .wait other event => if other = call then some event else none
  | _ => none

/-- What one call did, in a log. -/
def eventsOf (call : Nat) (log : List ListenerEvent) : List WaitEvent :=
  log.filterMap (ListenerEvent.ofCall call)

/-- An element with a property, in a list that ends with `e`. -/
theorem exists_mem_concat {α : Type} {p : α → Prop} {l : List α} {e : α} :
    (∃ a ∈ l ++ [e], p a) ↔ (∃ a ∈ l, p a) ∨ p e := by
  simp only [List.mem_append, List.mem_singleton, or_and_right, exists_or, exists_eq_left]

/-- A call is waiting: its check let it pass, and it has not cleared the flag. -/
def IsWaiting (call : Nat) (log : List ListenerEvent) : Prop :=
  .wait call (.checks true) ∈ log ∧ .wait call .clears ∉ log

section Log

variable {log : List ListenerEvent} {call : Nat}

theorem ofCall_eq_some {e : ListenerEvent} {event : WaitEvent} :
    e.ofCall call = some event ↔ e = .wait call event := by
  cases e with
  | wait other event' =>
      simp only [ListenerEvent.ofCall, ListenerEvent.wait.injEq]
      split
      · rename_i hcall
        simp [hcall]
      · rename_i hother
        simp [hother]
  | _ => simp [ListenerEvent.ofCall]

theorem ofCall_other {other : Nat} {event : WaitEvent} (h : other ≠ call) :
    (ListenerEvent.wait other event).ofCall call = none :=
  if_neg h

theorem mem_eventsOf {event : WaitEvent} : event ∈ eventsOf call log ↔ .wait call event ∈ log := by
  simp only [eventsOf, List.mem_filterMap, ofCall_eq_some, exists_eq_right]

@[simp] theorem eventsOf_self (event : WaitEvent) :
    eventsOf call (log ++ [.wait call event]) = eventsOf call log ++ [event] := by
  rw [eventsOf, List.filterMap_append]
  simp [eventsOf, ListenerEvent.ofCall]

theorem eventsOf_other {e : ListenerEvent} (h : e.ofCall call = none) :
    eventsOf call (log ++ [e]) = eventsOf call log := by
  rw [eventsOf, List.filterMap_append]
  simp [eventsOf, h]

/-- What the calls have done after a step of one of them. -/
theorem made_step {consumed : Bool} {waits : Nat → WaitPhase} {event : Option WaitEvent}
    {phase : WaitPhase} (h : ∀ other, Made (waits other) (eventsOf other log))
    (hstep : WaitStep consumed (waits call) event phase) (other : Nat) :
    Made (Function.update waits call phase other)
      (eventsOf other (log ++ (event.map (ListenerEvent.wait call)).toList)) := by
  by_cases hother : other = call
  · subst hother
    have hmade := (h other).step hstep
    rw [Function.update_self]
    cases event with
    | none => simpa using hmade
    | some event => simpa using hmade
  · rw [Function.update_of_ne hother]
    cases event with
    | none => simpa using h other
    | some event =>
        rw [Option.map_some, Option.toList_some, eventsOf_other (ofCall_other (Ne.symm hother))]
        exact h other

/-- The check of a call decides by what came before it. -/
def Decides (past : List ListenerEvent) (call : Nat) (passed : Bool) : Prop :=
  ∀ timeoutMs, .wait call (.starts timeoutMs) ∈ past →
    (passed = true ↔ (∀ e ∈ past, e.uses = false) ∧ timeoutMs ≠ 0 ∧ timeoutMs ≤ 600000)

/-- An event that neither passes a check nor clears the flag makes no call wait, and none
stop. -/
theorem isWaiting_append {e : ListenerEvent} (henters : e.enters = false)
    (hclears : ∀ other, e ≠ .wait other .clears) :
    IsWaiting call (log ++ [e]) ↔ IsWaiting call log := by
  have hchecks : .wait call (.checks true) ≠ e := by
    rintro rfl
    cases henters
  simp only [IsWaiting, List.mem_append, List.mem_singleton, hchecks, or_false,
    (hclears call).symm]

end Log

/-! ## The invariant -/

/-- What the log says about the listener. -/
structure ListenerInv (log : List ListenerEvent) (s : ListenerState) : Prop where
  made : ∀ call, Made (s.waits call) (eventsOf call log)
  used : s.consumed = true ↔ ∃ e ∈ log, e.uses = true
  checked : ∀ past call passed rest, log = past ++ .wait call (.checks passed) :: rest →
    ∀ timeoutMs, .wait call (.starts timeoutMs) ∈ past →
      (passed = true ↔ (∀ e ∈ past, e.uses = false) ∧ timeoutMs ≠ 0 ∧ timeoutMs ≤ 600000)
  first : log.Pairwise fun earlier later => earlier.uses = true → later.enters = false
  waiting : s.waiting = true ↔ ∃ call, IsWaiting call log
  dying : s.destructor ≠ .idle → ∃ e ∈ log, e.uses = true
  destroyed : ∀ past rest, log = past ++ .destroyed :: rest →
    (∃ e ∈ past, e.uses = true) ∧ ∀ call, ¬ IsWaiting call past

namespace ListenerInv

variable {log : List ListenerEvent} {s : ListenerState}

/-- Only one call gets through its check. -/
theorem single (h : ListenerInv log s) {call other : Nat}
    (hcall : .wait call (.checks true) ∈ log) (hother : .wait other (.checks true) ∈ log) :
    call = other := by
  obtain ⟨past, rest, rfl⟩ := List.append_of_mem hcall
  obtain ⟨hpast, hrest⟩ := pairwise_around h.first
  rcases List.mem_append.mp hother with hmem | hmem
  · cases hpast _ hmem rfl
  rcases List.mem_cons.mp hmem with heq | hmem
  · exact (WaitEvent.checks.injEq _ _ ▸ ListenerEvent.wait.inj heq).1.symm
  · cases hrest _ hmem rfl

/-- The invariant at the start. -/
theorem start : ListenerInv [] {} where
  made _ := .idle
  used := ⟨nofun, fun ⟨_, h, _⟩ => by cases h⟩
  checked past call passed rest h := by simp at h
  first := .nil
  waiting := ⟨nofun, fun ⟨_, h, _⟩ => by cases h⟩
  dying h := absurd rfl h
  destroyed past rest h := by simp at h

/-- A step without an event, after which the calls have still done what the log says. -/
theorem quiet (h : ListenerInv log s) {s' : ListenerState}
    (hmade : ∀ call, Made (s'.waits call) (eventsOf call log))
    (hconsumed : s'.consumed = s.consumed)
    (hwaiting : s'.waiting = s.waiting)
    (hdestructor : s'.destructor ≠ .idle → s.destructor ≠ .idle) :
    ListenerInv log s' where
  made := hmade
  used := hconsumed ▸ h.used
  checked := h.checked
  first := h.first
  waiting := hwaiting ▸ h.waiting
  dying hd := h.dying (hdestructor hd)
  destroyed := h.destroyed

/-- The listener is not consumed as long as nothing has used it up. -/
theorem fresh_iff (h : ListenerInv log s) : s.consumed = false ↔ ∀ e ∈ log, e.uses = false := by
  rw [← Bool.not_eq_true, h.used]
  simp

/-- What the check of a call decides, by the state of the listener. -/
theorem decides (h : ListenerInv log s) {call : Nat} {timeoutMs : UInt64} {passed : Bool}
    (hphase : s.waits call = .called timeoutMs)
    (hpassed : passed = true ↔ s.consumed = false ∧ timeoutMs ≠ 0 ∧ timeoutMs ≤ 600000) :
    Decides log call passed := by
  intro other hmem
  have hdone := h.made call
  rw [hphase] at hdone
  rw [← mem_eventsOf, hdone.eq_of_called, List.mem_singleton] at hmem
  obtain rfl := WaitEvent.starts.inj hmem
  rw [hpassed, h.fresh_iff]

/-- The checks in a log that grows. -/
theorem checked_concat (h : ListenerInv log s) {e : ListenerEvent}
    (hcheck : ∀ call passed, e = .wait call (.checks passed) → Decides log call passed)
    (past : List ListenerEvent) (call : Nat) (passed : Bool) (rest : List ListenerEvent)
    (hlog : log ++ [e] = past ++ .wait call (.checks passed) :: rest) :
    Decides past call passed := by
  rcases concat_eq_append_cons hlog with ⟨-, rfl, he⟩ | ⟨rest', -, hpast⟩
  · exact hcheck call passed he
  · exact h.checked past call passed rest' hpast

/-- The end of the destructor in a log that grows. -/
theorem destroyed_concat (h : ListenerInv log s) {e : ListenerEvent}
    (hdestroyed : e = .destroyed → s.waiting = false ∧ s.destructor ≠ .idle)
    (past rest : List ListenerEvent) (hlog : log ++ [e] = past ++ .destroyed :: rest) :
    (∃ e ∈ past, e.uses = true) ∧ ∀ call, ¬ IsWaiting call past := by
  rcases concat_eq_append_cons hlog with ⟨-, rfl, he⟩ | ⟨rest', -, hpast⟩
  · obtain ⟨hstill, hd⟩ := hdestroyed he
    refine ⟨h.dying hd, fun call hwaits => ?_⟩
    rw [h.waiting.mpr ⟨call, hwaits⟩] at hstill
    cases hstill
  · exact h.destroyed past rest' hpast

/-- The log grows by an event that lets no call pass and clears nothing. -/
theorem grow (h : ListenerInv log s) {s' : ListenerState} {e : ListenerEvent}
    (hmade : ∀ call, Made (s'.waits call) (eventsOf call (log ++ [e])))
    (henters : e.enters = false) (hclears : ∀ call, e ≠ .wait call .clears)
    (hcheck : ∀ call passed, e = .wait call (.checks passed) → Decides log call passed)
    (hconsumed : s'.consumed = true ↔ s.consumed = true ∨ e.uses = true)
    (hwaiting : s'.waiting = s.waiting)
    (hdestructor : s'.destructor ≠ .idle → s.destructor ≠ .idle ∨ e.uses = true)
    (hdestroyed : e = .destroyed → s.waiting = false ∧ s.destructor ≠ .idle) :
    ListenerInv (log ++ [e]) s' where
  made := hmade
  used := by rw [hconsumed, h.used, exists_mem_concat]
  checked := h.checked_concat hcheck
  first := pairwise_concat h.first fun _ _ _ => henters
  waiting := by
    rw [hwaiting, h.waiting]
    simp only [isWaiting_append henters hclears]
  dying hd := exists_mem_concat.mpr ((hdestructor hd).imp_left h.dying)
  destroyed := h.destroyed_concat hdestroyed

/-- The log grows by an event of `Cancel` or of the destructor. -/
theorem other (h : ListenerInv log s) {s' : ListenerState} {e : ListenerEvent}
    (hcall : ∀ call, e.ofCall call = none) (hwaits : s'.waits = s.waits)
    (hwaiting : s'.waiting = s.waiting)
    (hconsumed : s'.consumed = true ↔ s.consumed = true ∨ e.uses = true)
    (hdestructor : s'.destructor ≠ .idle → s.destructor ≠ .idle ∨ e.uses = true)
    (hdestroyed : e = .destroyed → s.waiting = false ∧ s.destructor ≠ .idle) :
    ListenerInv (log ++ [e]) s' := by
  have hnowait (call : Nat) (event : WaitEvent) : e ≠ .wait call event := by
    rintro rfl
    cases (hcall call).symm.trans (if_pos rfl)
  have henters : e.enters = false := by
    cases e with
    | wait call event => exact absurd rfl (hnowait call event)
    | _ => rfl
  refine h.grow (fun call => ?_) henters (fun call => hnowait call _)
    (fun call passed he => absurd he (hnowait call _)) hconsumed hwaiting hdestructor hdestroyed
  rw [hwaits, eventsOf_other (hcall call)]
  exact h.made call

/-- A call does anything but pass its check or clear the flag. -/
theorem goesOn (h : ListenerInv log s) {s' : ListenerState} {call : Nat} {event : WaitEvent}
    (hmade : ∀ other, Made (s'.waits other) (eventsOf other (log ++ [.wait call event])))
    (hpasses : event ≠ .checks true) (hclears : event ≠ .clears)
    (hcheck : ∀ passed, event = .checks passed → Decides log call passed)
    (hconsumed : s'.consumed = s.consumed) (hwaiting : s'.waiting = s.waiting)
    (hdestructor : s'.destructor ≠ .idle → s.destructor ≠ .idle) :
    ListenerInv (log ++ [.wait call event]) s' := by
  have huses : ListenerEvent.uses (.wait call event) = false := by
    cases event with
    | checks passed => exact Bool.eq_false_iff.mpr fun hpassed => hpasses (hpassed ▸ rfl)
    | _ => rfl
  have henters : ListenerEvent.enters (.wait call event) = false := by
    cases event with
    | checks passed => exact huses
    | _ => rfl
  refine h.grow hmade henters (fun other he => hclears (ListenerEvent.wait.inj he).2)
    (fun other passed he => ?_) (by simp [hconsumed, huses]) hwaiting
    (fun hd => .inl (hdestructor hd)) nofun
  obtain ⟨rfl, hevent⟩ := ListenerEvent.wait.inj he
  exact hcheck passed hevent

/-- The check of a call lets it pass. -/
theorem passes (h : ListenerInv log s) {s' : ListenerState} {call : Nat} {timeoutMs : UInt64}
    (hmade : ∀ other, Made (s'.waits other) (eventsOf other (log ++ [.wait call (.checks true)])))
    (hphase : s.waits call = .called timeoutMs) (hfresh : s.consumed = false)
    (hpos : timeoutMs ≠ 0) (hshort : timeoutMs ≤ 600000) (hconsumed : s'.consumed = true)
    (hwaiting : s'.waiting = true)
    (hdestructor : s'.destructor ≠ .idle → s.destructor ≠ .idle) :
    ListenerInv (log ++ [.wait call (.checks true)]) s' := by
  have hunused := h.fresh_iff.mp hfresh
  refine ⟨hmade, iff_of_true hconsumed (exists_mem_concat.mpr (.inr rfl)),
    h.checked_concat fun other passed he => ?_, pairwise_concat h.first fun e he hu => ?_,
    iff_of_true hwaiting ⟨call, by simp, ?_⟩,
    fun hd => exists_mem_concat.mpr (.inl (h.dying (hdestructor hd))), h.destroyed_concat nofun⟩
  · obtain ⟨rfl, hpassed⟩ := ListenerEvent.wait.inj he
    obtain rfl := WaitEvent.checks.inj hpassed
    exact h.decides hphase (iff_of_true rfl ⟨hfresh, hpos, hshort⟩)
  · cases (hunused e he).symm.trans hu
  · have hdone := h.made call
    rw [hphase] at hdone
    rw [← mem_eventsOf, eventsOf_self, hdone.eq_of_called]
    simp

/-- The call that waited clears the flag. -/
theorem clears (h : ListenerInv log s) {s' : ListenerState} {call : Nat} {outcome : WaitOutcome}
    (hmade : ∀ other, Made (s'.waits other) (eventsOf other (log ++ [.wait call .clears])))
    (hphase : s.waits call = .clearing outcome) (hconsumed : s'.consumed = s.consumed)
    (hwaiting : s'.waiting = false)
    (hdestructor : s'.destructor ≠ .idle → s.destructor ≠ .idle) :
    ListenerInv (log ++ [.wait call .clears]) s' := by
  refine ⟨hmade, ?_, h.checked_concat nofun, pairwise_concat h.first fun _ _ _ => rfl,
    iff_of_false (by simp [hwaiting]) ?_,
    fun hd => exists_mem_concat.mpr (.inl (h.dying (hdestructor hd))), h.destroyed_concat nofun⟩
  · rw [hconsumed, h.used, exists_mem_concat]
    simp [ListenerEvent.uses]
  · -- no other call has passed its check
    rintro ⟨other, hpassed, hclear⟩
    have hother : .wait other (.checks true) ∈ log := by simpa using hpassed
    have hself : .checks true ∈ eventsOf call log := (hphase ▸ h.made call).passed_of_clearing
    obtain rfl := h.single (mem_eventsOf.mp hself) hother
    exact hclear (by simp)

/-- The log grows by an event of a call of `WaitForCallback`. -/
theorem call (h : ListenerInv log s) {call : Nat} {event : WaitEvent} {phase : WaitPhase}
    (hstep : WaitStep s.consumed (s.waits call) (some event) phase) :
    ListenerInv (log ++ [.wait call event])
      ({ s with waits := Function.update s.waits call phase }.share event) := by
  have hmade := made_step h.made hstep
  generalize hphase : s.waits call = before at hstep
  cases hstep with
  | start | accept | respond | close => exact h.goesOn hmade nofun nofun nofun rfl rfl id
  | finish =>
      refine h.goesOn hmade nofun nofun nofun rfl rfl fun hd hidle => hd ?_
      simp [ListenerState.share, hidle]
  | refuse hbad =>
      refine h.goesOn hmade nofun nofun (fun passed hpassed => h.decides hphase ?_) rfl rfl id
      obtain rfl := WaitEvent.checks.inj hpassed
      refine iff_of_false nofun ?_
      rintro ⟨hfresh, hpos, hshort⟩
      rcases hbad with hused | hzero | hlong
      · cases hfresh.symm.trans hused
      · exact hpos hzero
      · exact absurd hlong (UInt64.not_lt.mpr hshort)
  | enter hfresh hpos hshort => exact h.passes hmade hphase hfresh hpos hshort rfl rfl id
  | clear => exact h.clears hmade hphase rfl rfl id

/-- Every step keeps the invariant. -/
theorem step (h : ListenerInv log s) (action : ListenerAction) :
    ListenerInv (log ++ (listenerStep action s).1.toList) (listenerStep action s).2 := by
  have hsame : ListenerInv (log ++ (none : Option ListenerEvent).toList) s := by
    rw [Option.toList_none, List.append_nil]
    exact h
  unfold listenerStep
  cases action with
  | wait call action =>
      dsimp only
      cases hwait : waitStep s.consumed (s.waits call) action with
      | none => exact hsame
      | some taken =>
          obtain ⟨event, phase⟩ := taken
          have hstep := waitStep_cases hwait
          cases event with
          | some event => exact h.call hstep
          | none =>
              dsimp only
              rw [Option.toList_none, List.append_nil]
              refine h.quiet (fun other => ?_) rfl rfl id
              have hmade := made_step h.made hstep other
              rwa [Option.map_none, Option.toList_none, List.append_nil] at hmade
  | cancel call =>
      dsimp only
      cases s.cancels call with
      | idle =>
          exact h.other (fun _ => rfl) rfl rfl (iff_of_true rfl (.inr rfl)) .inl nofun
      | marked =>
          exact h.other (fun _ => rfl) rfl rfl (by simp [ListenerEvent.uses]) .inl nofun
      | finished => exact hsame
  | destroy =>
      dsimp only
      cases hd : s.destructor with
      | idle =>
          exact h.other (fun _ => rfl) rfl rfl (iff_of_true rfl (.inr rfl))
            (fun _ => .inr rfl) nofun
      | marked =>
          exact h.other (fun _ => rfl) rfl rfl (by simp [ListenerEvent.uses])
            (fun _ => .inl (by rw [hd]; nofun)) nofun
      | checking =>
          dsimp only
          split
          · rw [Option.toList_none, List.append_nil]
            exact h.quiet h.made rfl rfl fun _ => by rw [hd]; nofun
          · rename_i hwaiting
            exact h.other (fun _ => rfl) rfl rfl (by simp [ListenerEvent.uses])
              (fun _ => .inl (by rw [hd]; nofun))
              fun _ => ⟨Bool.eq_false_iff.mpr hwaiting, by rw [hd]; nofun⟩
      | sleeping | finished => exact hsame
  | wake =>
      dsimp only
      rw [Option.toList_none, List.append_nil]
      refine h.quiet h.made rfl rfl fun hd hidle => hd ?_
      simp [hidle]

end ListenerInv

/-- The log of every schedule fits to the state that it leads to. -/
theorem listenerInv_log (actions : List ListenerAction) :
    ListenerInv (listenerLog actions) (fixedLoopbackListener.run {} actions) := by
  refine fixedLoopbackListener.history_induction
    (P := fun past s => ListenerInv (past.filterMap Event.output) s) .start
    (fun past s action h => ?_) actions
  have hlast : [fixedLoopbackListener.event s action].filterMap Event.output
      = (listenerStep action s).1.toList := by
    show List.filterMap Event.output [⟨s, action, (listenerStep action s).1⟩] = _
    cases (listenerStep action s).1 with
    | none | some => rfl
  rw [List.filterMap_append, hlast]
  exact h.step action

/-! ## What a listener promises -/

/-- A call of `AcceptOne`. -/
def ListenerEvent.isAcceptOne : ListenerEvent → Bool
  | .wait _ (.accepts _ _) => true
  | _ => false

/-- A call of `Respond`. -/
def ListenerEvent.isRespond : ListenerEvent → Bool
  | .wait _ (.responds _) => true
  | _ => false

/-- A call of `WaitForCallback` returns a result. -/
def ListenerEvent.isResult : ListenerEvent → Bool
  | .wait _ (.ends (.ok _)) => true
  | _ => false

/-- The listener is used up by a `Cancel`, by the destructor, or by the check of a call with a
timeout of at most ten minutes. -/
inductive UsesUp (past : List ListenerEvent) : ListenerEvent → Prop
  | cancels (call : Option Nat) : UsesUp past (.cancels call)
  | checks {call : Nat} {passed : Bool} {timeoutMs : UInt64}
      (hstarts : .wait call (.starts timeoutMs) ∈ past) (hpos : timeoutMs ≠ 0)
      (hshort : timeoutMs ≤ 600000) : UsesUp past (.wait call (.checks passed))

/-- One callback per listener.  `AcceptOne` and `Respond` are called once, and one result is
returned.  When the listener is used up, a call that starts, or gets to its check, does nothing
but throw.  A call that ends has closed the acceptor and left no call waiting.  When the
destructor finishes no call is waiting, and none waits later. -/
structure OneCallback (log : List ListenerEvent) : Prop where
  acceptOne : log.countP ListenerEvent.isAcceptOne ≤ 1
  respond : log.countP ListenerEvent.isRespond ≤ 1
  result : log.countP ListenerEvent.isResult ≤ 1
  refuses : ∀ past e rest, log = past ++ e :: rest → UsesUp past e →
    ∀ call, (∃ event, .wait call event ∈ rest ∧ event.rank ≤ 1) →
      ∀ event, .wait call event ∈ log → (∃ timeoutMs, event = .starts timeoutMs) ∨
        event = .checks false
  leaves : ∀ past call outcome rest, log = past ++ .wait call (.ends outcome) :: rest →
    .wait call .closes ∈ past ∧ .wait call .clears ∈ past ∧ ∀ other, ¬ IsWaiting other past
  destroys : ∀ past rest, log = past ++ .destroyed :: rest →
    ∀ call, ¬ IsWaiting call past ∧ ¬ IsWaiting call log

theorem countP_le_one {α : Type} {p : α → Bool} {l : List α}
    (h : l.Pairwise fun a b => p a = true → p b = false) : l.countP p ≤ 1 := by
  induction l with
  | nil => exact Nat.zero_le 1
  | cons a l ih =>
      obtain ⟨hfirst, hrest⟩ := List.pairwise_cons.mp h
      by_cases ha : p a = true
      · have hnone : l.countP p = 0 := List.countP_eq_zero.mpr fun b hb => by
          rw [hfirst b hb ha]
          exact Bool.false_ne_true
        rw [List.countP_cons_of_pos ha, hnone]
      · rw [List.countP_cons_of_neg ha]
        exact ih hrest

namespace ListenerInv

variable {log : List ListenerEvent} {s : ListenerState}

/-- The events of a call stand in their order. -/
theorem increasing (h : ListenerInv log s) (call : Nat) :
    log.Pairwise fun earlier later => ∀ event ∈ earlier.ofCall call,
      ∀ event' ∈ later.ofCall call, event.rank < event'.rank :=
  List.pairwise_filterMap.mp (h.made call).increasing

/-- An event of a call comes after what the call did before it. -/
theorem mem_past (h : ListenerInv log s) {past rest : List ListenerEvent} {call : Nat}
    {event event' : WaitEvent} (hlog : log = past ++ .wait call event :: rest)
    (hmem : .wait call event' ∈ log) (hrank : event'.rank < event.rank) :
    .wait call event' ∈ past := by
  subst hlog
  obtain ⟨-, hrest⟩ := pairwise_around (h.increasing call)
  rcases List.mem_append.mp hmem with hmem | hmem
  · exact hmem
  rcases List.mem_cons.mp hmem with heq | hmem
  · rw [(ListenerEvent.wait.inj heq).2] at hrank
    exact absurd hrank (Nat.lt_irrefl _)
  · have := hrest _ hmem event (ofCall_eq_some.mpr rfl) event' (ofCall_eq_some.mpr rfl)
    omega

/-- A call that does something after its check was let pass. -/
theorem passed (h : ListenerInv log s) {call : Nat} {event : WaitEvent}
    (hmem : .wait call event ∈ log) (hrank : 1 < event.rank) :
    .wait call (.checks true) ∈ log :=
  mem_eventsOf.mp ((h.made call).passed (mem_eventsOf.mpr hmem) hrank)

/-- Whatever comes after the check of a call happens at most once. -/
theorem countP_le_one (h : ListenerInv log s) {p : ListenerEvent → Bool} (rank : Nat)
    (hrank : 1 < rank)
    (hp : ∀ e, p e = true → ∃ call event, e = .wait call event ∧ event.rank = rank) :
    log.countP p ≤ 1 := by
  by_cases hnone : ∃ e ∈ log, p e = true
  · obtain ⟨e, he, hpe⟩ := hnone
    obtain ⟨owner, event, rfl, rfl⟩ := hp e hpe
    have howner := h.passed he hrank
    refine Data360.countP_le_one ((h.increasing owner).imp_of_mem ?_)
    intro a b ha hb hordered hpa
    by_contra hpb
    obtain ⟨call, first, rfl, hfirst⟩ := hp a hpa
    obtain ⟨other, second, rfl, hsecond⟩ := hp b (Bool.not_eq_false _ ▸ hpb)
    obtain rfl := h.single howner (h.passed ha (hfirst ▸ hrank))
    obtain rfl := h.single howner (h.passed hb (hsecond ▸ hrank))
    have := hordered first (ofCall_eq_some.mpr rfl) second (ofCall_eq_some.mpr rfl)
    omega
  · rw [List.countP_eq_zero.mpr fun e he hpe => hnone ⟨e, he, hpe⟩]
    exact Nat.zero_le 1

/-- A call that starts or is checked after the listener was used is refused. -/
theorem refuses (h : ListenerInv log s) {past rest : List ListenerEvent} {e : ListenerEvent}
    (hlog : log = past ++ e :: rest) (hused : e.uses = true) {call : Nat} {early : WaitEvent}
    (hearly : .wait call early ∈ rest) (hrank : early.rank ≤ 1) :
    .wait call (.checks true) ∉ log := by
  intro hpassed
  subst hlog
  have hrest : .wait call (.checks true) ∉ rest := fun hmem => by
    cases (pairwise_around h.first).2 _ hmem hused
  have hafter : ∀ other ∈ past ++ [e], ∀ event ∈ other.ofCall call, event.rank < early.rank := by
    intro other hother event hevent
    have hordered := h.increasing call
    rw [List.append_cons, List.pairwise_append] at hordered
    exact hordered.2.2 other hother _ hearly event hevent early (ofCall_eq_some.mpr rfl)
  rw [List.append_cons] at hpassed
  rcases List.mem_append.mp hpassed with hmem | hmem
  · have hlate : 1 < early.rank := hafter _ hmem _ (ofCall_eq_some.mpr rfl)
    omega
  · exact hrest hmem

/-- The invariant is what a listener promises. -/
theorem oneCallback (h : ListenerInv log s) : OneCallback log where
  acceptOne := h.countP_le_one 2 (by decide) fun e he => by
    unfold ListenerEvent.isAcceptOne at he
    split at he
    · exact ⟨_, _, rfl, rfl⟩
    · cases he
  respond := h.countP_le_one 3 (by decide) fun e he => by
    unfold ListenerEvent.isRespond at he
    split at he
    · exact ⟨_, _, rfl, rfl⟩
    · cases he
  result := h.countP_le_one 6 (by decide) fun e he => by
    unfold ListenerEvent.isResult at he
    split at he
    · exact ⟨_, _, rfl, rfl⟩
    · cases he
  refuses past e rest hlog hused call := by
    rintro ⟨early, hearly, hrank⟩ event hmem
    have hrefused : .wait call (.checks true) ∉ log := by
      cases hused with
      | cancels => exact h.refuses hlog rfl hearly hrank
      | @checks other passed timeoutMs hstarts hpos hshort =>
          by_cases hfresh : ∀ e ∈ past, e.uses = false
          · have hpassed := (h.checked past other passed rest hlog timeoutMs hstarts).mpr
              ⟨hfresh, hpos, hshort⟩
            exact h.refuses hlog hpassed hearly hrank
          · -- the listener was used up even before
            obtain ⟨first, hmem, huses⟩ : ∃ e ∈ past, e.uses = true := by simpa using hfresh
            obtain ⟨before, after, rfl⟩ := List.append_of_mem hmem
            rw [List.append_assoc, List.cons_append] at hlog
            exact h.refuses hlog huses
              (List.mem_append_right _ (List.mem_cons_of_mem _ hearly)) hrank
    cases event with
    | starts timeoutMs => exact .inl ⟨timeoutMs, rfl⟩
    | checks passed =>
        cases passed with
        | true => exact absurd hmem hrefused
        | false => exact .inr rfl
    | accepts | responds | closes | clears | ends =>
        exact absurd (h.passed hmem (by simp [WaitEvent.rank])) hrefused
  leaves past call outcome rest hlog := by
    have hmem : .wait call (.ends outcome) ∈ log := hlog ▸ by simp
    obtain ⟨hcloses, hclears⟩ := (h.made call).left (mem_eventsOf.mpr hmem)
    have hpast := h.mem_past hlog (mem_eventsOf.mp hclears) (by simp [WaitEvent.rank])
    refine ⟨h.mem_past hlog (mem_eventsOf.mp hcloses) (by simp [WaitEvent.rank]), hpast,
      fun other hwaits => ?_⟩
    have hother : .wait other (.checks true) ∈ log := hlog ▸ List.mem_append_left _ hwaits.1
    obtain rfl := h.single (h.passed hmem (by simp [WaitEvent.rank])) hother
    exact hwaits.2 hpast
  destroys past rest hlog call := by
    obtain ⟨⟨e, he, hused⟩, hwaits⟩ := h.destroyed past rest hlog
    refine ⟨hwaits call, fun hlater => ?_⟩
    obtain ⟨before, after, hpast⟩ := List.append_of_mem he
    subst hlog hpast
    rcases List.mem_append.mp hlater.1 with hmem | hmem
    · exact hwaits call ⟨hmem, fun hclears => hlater.2 (List.mem_append_left _ hclears)⟩
    · rcases List.mem_cons.mp hmem with heq | hmem
      · cases heq
      · have hfirst := h.first
        rw [List.append_assoc, List.cons_append] at hfirst
        cases (pairwise_around hfirst).2 _
          (List.mem_append_right _ (List.mem_cons_of_mem _ hmem)) hused

end ListenerInv

/-- Every schedule of calls of `WaitForCallback` and `Cancel` and of the destructor, with
every behaviour of the acceptor, keeps to one callback.  The flag is set as long as a call is
waiting, and the check of a call that comes too late throws at its next step. -/
theorem oneCallback_log (actions : List ListenerAction) :
    let s := fixedLoopbackListener.run {} actions
    OneCallback (listenerLog actions) ∧
      (s.waiting = true ↔ ∃ call, IsWaiting call (listenerLog actions)) ∧
      ((∃ e ∈ listenerLog actions, e.uses = true) → ∀ call timeoutMs,
        s.waits call = .called timeoutMs →
          (listenerStep (.wait call .advance) s).1 = some (.wait call (.checks false))) := by
  intro s
  have hinv := listenerInv_log actions
  refine ⟨hinv.oneCallback, hinv.waiting, fun hused call timeoutMs hcalled => ?_⟩
  simp only [listenerStep, hcalled, waitStep]
  rw [if_pos (.inl (hinv.used.mpr hused))]

/-- The steps of a call that gets a request. -/
def wholeCall (call : Nat) (timeoutMs : UInt64) (request : Bytes) : List ListenerAction :=
  [.start timeoutMs, .advance, .advance, .acceptOne (.ok request), .respond (.ok ()), .advance,
    .advance, .advance].map (.wait call)

example : (listenerLog (wholeCall 0 5000 browserRequest)).countP ListenerEvent.isResult = 1 := by
  decide +kernel

/-- A call with the timeout zero is refused, and it does not use the listener up: a call that
starts behind it is let pass. -/
def refusedFirst : List ListenerAction :=
  [.wait 0 (.start 0), .wait 0 .advance, .wait 1 (.start 5000), .wait 1 .advance, .wait 1 .advance]

/-- That another call has started is not enough for a call to be refused. -/
theorem refusedFirst_accepts :
    ¬ ∀ (actions : List ListenerAction) (past rest : List ListenerEvent),
      listenerLog actions = past ++ rest →
      ∀ other timeoutMs, .wait other (.starts timeoutMs) ∈ past →
      ∀ call, (∃ timeoutMs, .wait call (.starts timeoutMs) ∈ rest) →
      ∀ maximumBytes timeoutMs,
        .wait call (.accepts maximumBytes timeoutMs) ∉ listenerLog actions := by
  intro h
  have hlog : listenerLog refusedFirst
      = [.wait 0 (.starts 0), .wait 0 (.checks false)] ++
        [.wait 1 (.starts 5000), .wait 1 (.checks true), .wait 1 (.accepts 8192 5000)] := rfl
  refine h refusedFirst _ _ hlog 0 0 List.mem_cons_self 1 ⟨5000, List.mem_cons_self⟩ 8192 5000 ?_
  rw [hlog]
  simp

end Data360
