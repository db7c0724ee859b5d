import Data360.Lib.Runs
import Mathlib.Data.List.Count
import Mathlib.Logic.Function.Basic

/-!
# The owner of the callback thread

`CallbackThreadOwner` of `src/auth_functions.cpp`.  Any number of threads hold references to
the owner; one of them starts the worker, which holds one itself; any of them may call
`StopAndJoin`, also the worker; and the thread that releases the last reference runs the
destructor, which calls `StopAndJoin` again.

A step is a critical section, an assignment, or a call or its return.  A schedule is a list of
actions, and an action that its thread cannot take does nothing.

* `callbackThreadStep` is one step, and `callbackThreadOwner` the machine of all threads.
* `ThreadOwner.Ok` is what a state keeps to, and `ThreadOwnerInv` what the log says about it;
  `callbackThread_log` carries both through every schedule.
* `exists_own_run` says that the worker goes on by itself.
* `callbackThread_owned` says what becomes of the thread.
-/

namespace Data360

open Lib

/-! ## The owner and its threads -/

/-- A thread that uses the owner: one that holds a reference to it, or its worker. -/
inductive OwnerThread where
  | caller (n : Nat)
  | worker
  deriving DecidableEq, Repr

/-- Where a thread is in `StopAndJoin`. -/
inductive StopPhase where
  | away
  | called
  | cancelled
  | joining
  deriving DecidableEq, Repr

/-- Where the worker is: in `ProcessAuthCallback`, or behind `WorkerExit`. -/
inductive WorkerPhase where
  | unborn
  | running
  | exiting
  | ended
  deriving DecidableEq, Repr

/-- `CallbackThreadOwner`, with the threads that use it.  `joinable` is that of `worker`, and
`starting` the thread that is between the birth of the worker and the assignment to `worker`. -/
structure ThreadOwner where
  cancelled : Bool := false
  joinable : Bool := false
  holders : List OwnerThread := [.caller 0]
  starting : Option OwnerThread := none
  stops : OwnerThread → StopPhase := fun _ => .away
  destroyer : Option OwnerThread := none
  worker : WorkerPhase := .unborn

/-- What happens to an owner and its thread.  `terminates` is the end of the process: a
joinable `std::thread` is destroyed or assigned to. -/
inductive ThreadOwnerEvent where
  | starts
  | stores
  | asks (cancelled : Bool)
  | cancels (thread : OwnerThread)
  | joins (thread : OwnerThread)
  | joined (thread : OwnerThread)
  | detaches (thread : OwnerThread)
  | ends
  | destroys (thread : OwnerThread)
  | terminates
  deriving DecidableEq, Repr

/-- A step of a schedule. -/
inductive ThreadOwnerAction where
  | share (giver taker : OwnerThread)
  | release (thread : OwnerThread)
  | start (thread : OwnerThread)
  | store
  | cancel (thread : OwnerThread)
  | stop (thread : OwnerThread)
  | advance (thread : OwnerThread)
  | ask
  | exit
  | finish

/-- The thread is in `Start`, in `StopAndJoin` or in the destructor. -/
def ThreadOwner.Busy (s : ThreadOwner) (thread : OwnerThread) : Prop :=
  s.stops thread ≠ .away ∨ s.starting = some thread ∨ s.destroyer = some thread

instance (s : ThreadOwner) (thread : OwnerThread) : Decidable (s.Busy thread) :=
  inferInstanceAs (Decidable (_ ∨ _ ∨ _))

/-- The thread may call a member function. -/
def ThreadOwner.MayCall (s : ThreadOwner) (thread : OwnerThread) : Prop :=
  thread ∈ s.holders ∧ ¬ s.Busy thread

instance (s : ThreadOwner) (thread : OwnerThread) : Decidable (s.MayCall thread) :=
  inferInstanceAs (Decidable (_ ∧ _))

/-- The thread may release a reference.  The worker keeps the one of its function until that
function ends. -/
def ThreadOwner.MayRelease (s : ThreadOwner) (thread : OwnerThread) : Prop :=
  s.MayCall thread ∧
    (thread = .worker → s.worker = .exiting ∨ .worker ∈ s.holders.erase .worker)

instance (s : ThreadOwner) (thread : OwnerThread) : Decidable (s.MayRelease thread) :=
  inferInstanceAs (Decidable (_ ∧ (_ → _)))

/-- The thread moves on in `StopAndJoin`. -/
def ThreadOwner.moved (s : ThreadOwner) (thread : OwnerThread) (phase : StopPhase) : ThreadOwner :=
  { s with stops := Function.update s.stops thread phase }

/-- One step in `StopAndJoin`, or the end of the destructor behind it. -/
def stopStep (thread : OwnerThread) (s : ThreadOwner) : Option ThreadOwnerEvent × ThreadOwner :=
  match s.stops thread with
  | .called => (some (.cancels thread), { s with cancelled := true }.moved thread .cancelled)
  | .cancelled =>
      if ¬ s.joinable then (none, s.moved thread .away)
      else if thread = .worker then
        (some (.detaches thread), { s with joinable := false }.moved thread .away)
      else (some (.joins thread), { s with joinable := false }.moved thread .joining)
  | .joining =>
      if s.worker = .ended then (some (.joined thread), s.moved thread .away) else (none, s)
  | .away =>
      if s.destroyer ≠ some thread then (none, s)
      else if s.joinable then (some .terminates, s)
      else (some (.destroys thread), { s with destroyer := none })

/-- One step of the owner.  `AuthStartExecute` calls `Start` once, so a joinable `worker` is the
thread of the worker, and `get_id` tells the worker from its callers.  A thread that cannot be
created leaves everything as it is. -/
def callbackThreadStep (action : ThreadOwnerAction) (s : ThreadOwner) :
    Option ThreadOwnerEvent × ThreadOwner :=
  match action with
  | .share giver taker =>
      if giver ∈ s.holders ∧ (taker = .worker → s.worker = .running) then
        (none, { s with holders := taker :: s.holders })
      else (none, s)
  | .release thread =>
      if ¬ s.MayRelease thread then (none, s)
      else if s.holders.erase thread ≠ [] then
        (none, { s with holders := s.holders.erase thread })
      else (none, { s with holders := [], destroyer := some thread }.moved thread .called)
  | .start thread =>
      if s.MayCall thread ∧ s.worker = .unborn then
        (some .starts, { s with
          holders := .worker :: s.holders, starting := some thread, worker := .running })
      else (none, s)
  | .store =>
      if s.starting = none then (none, s)
      else if s.joinable then (some .terminates, s)
      else (some .stores, { s with joinable := true, starting := none })
  | .cancel thread =>
      if s.MayCall thread then (some (.cancels thread), { s with cancelled := true })
      else (none, s)
  | .stop thread => if s.MayCall thread then (none, s.moved thread .called) else (none, s)
  | .advance thread => stopStep thread s
  | .ask =>
      if s.worker = .running ∧ ¬ s.Busy .worker then (some (.asks s.cancelled), s) else (none, s)
  | .exit =>
      if ¬ (s.worker = .running ∧ ¬ s.Busy .worker) then (none, s)
      else if s.joinable then
        (some (.detaches .worker), { s with joinable := false, worker := .exiting })
      else (none, { s with worker := .exiting })
  | .finish =>
      if s.worker = .exiting ∧ .worker ∉ s.holders ∧ ¬ s.Busy .worker then
        (some .ends, { s with worker := .ended })
      else (none, s)

/-- The owner and all its threads. -/
def callbackThreadOwner : Machine ThreadOwner ThreadOwnerAction (Option ThreadOwnerEvent) where
  step := callbackThreadStep

/-- What happens in a schedule on a new owner. -/
def callbackThreadLog (actions : List ThreadOwnerAction) : List ThreadOwnerEvent :=
  (callbackThreadOwner.trace {} actions).filterMap Event.output

/-! ## One step -/

/-- The possible steps. -/
inductive ThreadOwnerStep (s : ThreadOwner) : Option ThreadOwnerEvent → ThreadOwner → Prop
  | none : ThreadOwnerStep s none s
  | share {giver taker : OwnerThread} (hgiver : giver ∈ s.holders)
      (htaker : taker = .worker → s.worker = .running) :
      ThreadOwnerStep s none { s with holders := taker :: s.holders }
  | release {thread : OwnerThread} (may : s.MayRelease thread)
      (hrest : s.holders.erase thread ≠ []) :
      ThreadOwnerStep s none { s with holders := s.holders.erase thread }
  | last {thread : OwnerThread} (may : s.MayRelease thread) (hrest : s.holders.erase thread = []) :
      ThreadOwnerStep s none
        ({ s with holders := [], destroyer := some thread }.moved thread .called)
  | start {thread : OwnerThread} (may : s.MayCall thread) (unborn : s.worker = .unborn) :
      ThreadOwnerStep s (some .starts) { s with
        holders := .worker :: s.holders, starting := some thread, worker := .running }
  | overwrite {thread : OwnerThread} (starting : s.starting = some thread)
      (joinable : s.joinable = true) : ThreadOwnerStep s (some .terminates) s
  | store {thread : OwnerThread} (starting : s.starting = some thread)
      (joinable : s.joinable = false) :
      ThreadOwnerStep s (some .stores) { s with joinable := true, starting := none }
  | cancel {thread : OwnerThread} (may : s.MayCall thread) :
      ThreadOwnerStep s (some (.cancels thread)) { s with cancelled := true }
  | stop {thread : OwnerThread} (may : s.MayCall thread) :
      ThreadOwnerStep s none (s.moved thread .called)
  | called {thread : OwnerThread} (phase : s.stops thread = .called) :
      ThreadOwnerStep s (some (.cancels thread))
        ({ s with cancelled := true }.moved thread .cancelled)
  | skip {thread : OwnerThread} (phase : s.stops thread = .cancelled)
      (joinable : s.joinable = false) : ThreadOwnerStep s none (s.moved thread .away)
  | detach (phase : s.stops .worker = .cancelled) (joinable : s.joinable = true) :
      ThreadOwnerStep s (some (.detaches .worker))
        ({ s with joinable := false }.moved .worker .away)
  | join {thread : OwnerThread} (phase : s.stops thread = .cancelled)
      (joinable : s.joinable = true) (other : thread ≠ .worker) :
      ThreadOwnerStep s (some (.joins thread)) ({ s with joinable := false }.moved thread .joining)
  | joined {thread : OwnerThread} (phase : s.stops thread = .joining) (ended : s.worker = .ended) :
      ThreadOwnerStep s (some (.joined thread)) (s.moved thread .away)
  | leak {thread : OwnerThread} (phase : s.stops thread = .away)
      (destroyer : s.destroyer = some thread) (joinable : s.joinable = true) :
      ThreadOwnerStep s (some .terminates) s
  | destroy {thread : OwnerThread} (phase : s.stops thread = .away)
      (destroyer : s.destroyer = some thread) (joinable : s.joinable = false) :
      ThreadOwnerStep s (some (.destroys thread)) { s with destroyer := Option.none }
  | ask (running : s.worker = .running) : ThreadOwnerStep s (some (.asks s.cancelled)) s
  | exitDetach (running : s.worker = .running) (joinable : s.joinable = true) :
      ThreadOwnerStep s (some (.detaches .worker))
        { s with joinable := false, worker := .exiting }
  | exit (running : s.worker = .running) (joinable : s.joinable = false) :
      ThreadOwnerStep s none { s with worker := .exiting }
  | finish (exiting : s.worker = .exiting) (released : .worker ∉ s.holders)
      (idle : ¬ s.Busy .worker) : ThreadOwnerStep s (some .ends) { s with worker := .ended }

theorem stopStep_cases (thread : OwnerThread) (s : ThreadOwner) :
    ThreadOwnerStep s (stopStep thread s).1 (stopStep thread s).2 := by
  unfold stopStep
  split
  · exact .called ‹_›
  · split
    · exact .skip ‹_› (Bool.eq_false_iff.mpr ‹_›)
    · rename_i hjoinable
      split
      · rename_i hworker
        subst hworker
        exact .detach ‹_› (not_not.mp hjoinable)
      · exact .join ‹_› (not_not.mp hjoinable) ‹_›
  · split
    · exact .joined ‹_› ‹_›
    · exact .none
  · split
    · exact .none
    · rename_i hdestroyer
      split
      · exact .leak ‹_› (not_not.mp hdestroyer) ‹_›
      · exact .destroy ‹_› (not_not.mp hdestroyer) (Bool.eq_false_iff.mpr ‹_›)

theorem callbackThreadStep_cases (action : ThreadOwnerAction) (s : ThreadOwner) :
    ThreadOwnerStep s (callbackThreadStep action s).1 (callbackThreadStep action s).2 := by
  unfold callbackThreadStep
  cases action with
  | share giver taker =>
      dsimp only
      split
      · rename_i h
        exact .share h.1 h.2
      · exact .none
  | release thread =>
      dsimp only
      split
      · exact .none
      · rename_i hmay
        split
        · exact .release (not_not.mp hmay) ‹_›
        · exact .last (not_not.mp hmay) (not_not.mp ‹_›)
  | start thread =>
      dsimp only
      split
      · rename_i h
        exact .start h.1 h.2
      · exact .none
  | store =>
      dsimp only
      split
      · exact .none
      · rename_i hstarting
        obtain ⟨thread, hthread⟩ := Option.ne_none_iff_exists'.mp hstarting
        split
        · exact .overwrite hthread ‹_›
        · exact .store hthread (Bool.eq_false_iff.mpr ‹_›)
  | cancel thread =>
      dsimp only
      split
      · exact .cancel ‹_›
      · exact .none
  | stop thread =>
      dsimp only
      split
      · exact .stop ‹_›
      · exact .none
  | advance thread => exact stopStep_cases thread s
  | ask =>
      dsimp only
      split
      · rename_i h
        exact .ask h.1
      · exact .none
  | exit =>
      dsimp only
      split
      · exact .none
      · rename_i h
        split
        · exact .exitDetach (not_not.mp h).1 ‹_›
        · exact .exit (not_not.mp h).1 (Bool.eq_false_iff.mpr ‹_›)
  | finish =>
      dsimp only
      split
      · rename_i h
        exact .finish h.1 h.2.1 h.2.2
      · exact .none

/-! ## The states -/

namespace ThreadOwner

variable {s s' : ThreadOwner} {event : Option ThreadOwnerEvent}

section Moved

variable {thread other : OwnerThread} {phase : StopPhase}

@[grind =] theorem moved_stops :
    (s.moved thread phase).stops other = if other = thread then phase else s.stops other :=
  Function.update_apply _ _ _ _

@[grind =] theorem moved_joinable : (s.moved thread phase).joinable = s.joinable := rfl

@[grind =] theorem moved_cancelled : (s.moved thread phase).cancelled = s.cancelled := rfl

@[grind =] theorem moved_holders : (s.moved thread phase).holders = s.holders := rfl

@[grind =] theorem moved_starting : (s.moved thread phase).starting = s.starting := rfl

@[grind =] theorem moved_destroyer : (s.moved thread phase).destroyer = s.destroyer := rfl

@[grind =] theorem moved_worker : (s.moved thread phase).worker = s.worker := rfl

end Moved

/-- What a state keeps to: a thread that is in a member function holds a reference or runs the
destructor, and the destructor starts when there is no reference left. -/
structure Ok (s : ThreadOwner) : Prop where
  users : ∀ thread, s.stops thread ≠ .away → thread ∈ s.holders ∨ s.destroyer = some thread
  last : s.destroyer ≠ none → s.holders = []
  starter : ∀ thread, s.starting = some thread →
    thread ∈ s.holders ∧ thread ≠ .worker ∧ s.worker ≠ .unborn ∧ s.joinable = false
  unborn : s.worker = .unborn → .worker ∉ s.holders ∧ s.joinable = false
  alive : s.worker = .running → .worker ∈ s.holders
  dying : ∀ thread, s.destroyer = some thread →
    s.stops thread = .called ∨ s.stops thread = .cancelled ∨ s.joinable = false
  calm : s.stops .worker ≠ .joining

theorem Ok.new : Ok {} where
  users _ h := absurd rfl h
  last h := absurd rfl h
  starter := by simp
  unborn := by simp
  alive := by simp
  dying := by simp
  calm := by simp

/-- Behind the last reference nobody is in `Start`. -/
theorem Ok.not_starting (h : s.Ok) (hholders : s.holders = []) : s.starting = none := by
  by_contra hstarting
  obtain ⟨thread, hthread⟩ := Option.ne_none_iff_exists'.mp hstarting
  have hholds := (h.starter thread hthread).1
  rw [hholders] at hholds
  cases hholds

/-- Nor in another member function, when the destructor is done. -/
theorem Ok.away (h : s.Ok) (hholders : s.holders = []) (hdestroyer : s.destroyer = none)
    (thread : OwnerThread) : s.stops thread = .away := by
  by_contra hstops
  rcases h.users thread hstops with hholds | hdestroys
  · rw [hholders] at hholds
    cases hholds
  · cases hdestroyer.symm.trans hdestroys

/-- What stays when a thread releases a reference: the references of the others. -/
theorem Ok.released (h : s.Ok) {thread : OwnerThread} (may : s.MayRelease thread) :
    Ok { s with holders := s.holders.erase thread } := by
  obtain ⟨⟨hmem, hidle⟩, hself⟩ := may
  have stays {other : OwnerThread} (hother : other ∈ s.holders) (hbusy : s.Busy other) :
      other ∈ s.holders.erase thread := by
    have hne : other ≠ thread := fun heq => hidle (heq ▸ hbusy)
    exact (List.mem_erase_of_ne hne).mpr hother
  constructor
  case users => exact fun other hother => (h.users other hother).imp (stays · (.inl hother)) id
  case last => exact fun hdestroyer => absurd hmem (by simp [h.last hdestroyer])
  case starter =>
    intro other hother
    obtain ⟨hholds, hrest⟩ := h.starter other hother
    exact ⟨stays hholds (.inr (.inl hother)), hrest⟩
  case unborn =>
    exact fun hunborn => (h.unborn hunborn).imp (fun hnot hworker =>
      hnot (List.mem_of_mem_erase hworker)) id
  case alive =>
    intro hrunning
    by_cases hworker : thread = .worker
    · rcases hself hworker with hexiting | hmore
      · cases hrunning.symm.trans hexiting
      · exact hworker ▸ hmore
    · exact (List.mem_erase_of_ne (Ne.symm hworker)).mpr (h.alive hrunning)
  case dying => exact h.dying
  case calm => exact h.calm

/-- Every step keeps to it. -/
theorem Ok.step (h : s.Ok) (hstep : ThreadOwnerStep s event s') : s'.Ok := by
  cases hstep with
  | none | overwrite | leak | ask => exact h
  | release may => exact h.released may
  | last may hrest =>
      have hnone : s.destroyer = none := by
        by_contra hdestroyer
        exact absurd may.1.1 (by simp [h.last hdestroyer])
      obtain ⟨users, last, starter, unborn, alive, dying, calm⟩ := hrest ▸ h.released may
      constructor <;> grind
  | share | start | store | cancel | stop | called | skip | detach | join | joined | destroy
    | exitDetach | exit | finish =>
      obtain ⟨users, last, starter, unborn, alive, dying, calm⟩ := h
      constructor <;> grind [MayCall]

end ThreadOwner

/-! ## The log -/

/-- The event takes the thread out of `worker`. -/
def ThreadOwnerEvent.parts : ThreadOwnerEvent → Bool
  | .joins _ | .detaches _ => true
  | _ => false

/-- The event fits what has happened before it.  The process never ends by it: no case is for
`terminates`. -/
inductive ThreadOwnerEvent.Fits (past : List ThreadOwnerEvent) : ThreadOwnerEvent → Prop
  | starts (first : .starts ∉ past) : Fits past .starts
  | stores (started : .starts ∈ past) (whole : past.any parts = false) : Fits past .stores
  | asks {cancelled : Bool} (told : cancelled = true ↔ ∃ thread, .cancels thread ∈ past) :
      Fits past (.asks cancelled)
  | cancels {thread : OwnerThread} : Fits past (.cancels thread)
  | joins {thread : OwnerThread} (other : thread ≠ .worker) (told : .cancels thread ∈ past)
      (stored : .stores ∈ past) (whole : past.any parts = false) : Fits past (.joins thread)
  | joined {thread : OwnerThread} (joins : .joins thread ∈ past) (ended : .ends ∈ past) :
      Fits past (.joined thread)
  | detaches (stored : .stores ∈ past) (whole : past.any parts = false) :
      Fits past (.detaches .worker)
  | ends (started : .starts ∈ past) (first : .ends ∉ past) : Fits past .ends
  | destroys {thread : OwnerThread}
      (parted : .starts ∈ past → .stores ∈ past ∧ past.any parts = true) :
      Fits past (.destroys thread)

/-- What happens to the thread: every event fits, and behind the destructor there is nothing but
the end of the worker. -/
structure OwnedThread (log : List ThreadOwnerEvent) : Prop where
  fits : ∀ past e rest, log = past ++ e :: rest → e.Fits past
  gone : log.Pairwise fun earlier later => ∀ thread, earlier = .destroys thread → later = .ends

/-- What the log says about the owner. -/
structure ThreadOwnerInv (log : List ThreadOwnerEvent) (s : ThreadOwner) : Prop where
  ok : s.Ok
  started : .starts ∈ log ↔ s.worker ≠ .unborn
  stored : .stores ∈ log ↔ s.worker ≠ .unborn ∧ s.starting = none
  parted : log.any ThreadOwnerEvent.parts = true → .stores ∈ log
  whole : s.joinable = true ↔ .stores ∈ log ∧ log.any ThreadOwnerEvent.parts = false
  ended : .ends ∈ log ↔ s.worker = .ended
  told : s.cancelled = true ↔ ∃ thread, .cancels thread ∈ log
  cancelled : ∀ thread, s.stops thread = .cancelled → .cancels thread ∈ log
  joining : ∀ thread, s.stops thread = .joining → .joins thread ∈ log
  gone : ∀ thread, .destroys thread ∈ log → s.holders = [] ∧ s.destroyer = none

namespace ThreadOwnerInv

variable {log : List ThreadOwnerEvent} {s s' : ThreadOwner} {e : ThreadOwnerEvent}

theorem new : ThreadOwnerInv [] {} where
  ok := .new
  started := by simp
  stored := by simp
  parted := by simp
  whole := by simp
  ended := by simp
  told := by simp
  cancelled := by simp
  joining := by simp
  gone := by simp

/-- The event of a step fits what has happened. -/
theorem fits (h : ThreadOwnerInv log s) (hstep : ThreadOwnerStep s (some e) s') : e.Fits log := by
  have hwhole (joinable : s.joinable = true) := h.whole.mp joinable
  cases hstep with
  | start _ unborn => exact .starts fun hmem => h.started.mp hmem unborn
  | overwrite starting joinable =>
      cases (h.ok.starter _ starting).2.2.2.symm.trans joinable
  | store starting joinable =>
      refine .stores (h.started.mpr (h.ok.starter _ starting).2.2.1) ?_
      by_contra hparts
      have hstored := h.stored.mp (h.parted (by simpa using hparts))
      cases hstored.2.symm.trans starting
  | cancel | called => exact .cancels
  | detach _ joinable | exitDetach _ joinable =>
      exact .detaches (hwhole joinable).1 (hwhole joinable).2
  | join phase joinable other =>
      exact .joins other (h.cancelled _ phase) (hwhole joinable).1 (hwhole joinable).2
  | joined phase ended => exact .joined (h.joining _ phase) (h.ended.mpr ended)
  | leak phase destroyer joinable =>
      rcases h.ok.dying _ destroyer with hphase | hphase | hjoinable
      · cases phase.symm.trans hphase
      · cases phase.symm.trans hphase
      · cases hjoinable.symm.trans joinable
  | destroy _ destroyer joinable =>
      refine .destroys fun hstarts => ?_
      have hnone := h.ok.not_starting (h.ok.last (by simp [destroyer]))
      have hstored := h.stored.mpr ⟨h.started.mp hstarts, hnone⟩
      refine ⟨hstored, ?_⟩
      by_contra hparts
      have hjoinable := h.whole.mpr ⟨hstored, by simpa using hparts⟩
      cases hjoinable.symm.trans joinable
  | ask => exact .asks h.told
  | finish exiting =>
      refine .ends (h.started.mpr (by simp [exiting])) fun hmem => ?_
      cases exiting.symm.trans (h.ended.mp hmem)

/-- When the owner is destroyed, only the worker can take a step, and it ends. -/
theorem eq_ends_of_gone (h : ThreadOwnerInv log s) (hstep : ThreadOwnerStep s (some e) s')
    {thread : OwnerThread} (hgone : .destroys thread ∈ log) : e = .ends := by
  obtain ⟨hholders, hdestroyer⟩ := h.gone thread hgone
  have hfree (other : OwnerThread) : other ∉ s.holders := by simp [hholders]
  have haway := h.ok.away hholders hdestroyer
  cases hstep with
  | start may | cancel may => exact absurd may.1 (hfree _)
  | overwrite starting | store starting =>
      cases (h.ok.not_starting hholders).symm.trans starting
  | called phase | detach phase | join phase | joined phase => cases (haway _).symm.trans phase
  | leak _ destroyer | destroy _ destroyer => cases hdestroyer.symm.trans destroyer
  | ask running | exitDetach running => exact absurd (h.ok.alive running) (hfree _)
  | finish => rfl

section Step

variable {event : Option ThreadOwnerEvent}

/-- Only the start makes the worker. -/
theorem started_step (h : ThreadOwnerInv log s) (hstep : ThreadOwnerStep s event s') :
    .starts ∈ log ++ event.toList ↔ s'.worker ≠ .unborn := by
  have hstarted := h.started
  cases hstep <;> grind

/-- Only the assignment stores it. -/
theorem stored_step (h : ThreadOwnerInv log s) (hstep : ThreadOwnerStep s event s') :
    .stores ∈ log ++ event.toList ↔ s'.worker ≠ .unborn ∧ s'.starting = none := by
  have hstored := h.stored
  have hstarter := h.ok.starter
  cases hstep <;> grind

/-- What is taken out of `worker` has been stored in it. -/
theorem parted_step (h : ThreadOwnerInv log s) (hstep : ThreadOwnerStep s event s') :
    (log ++ event.toList).any ThreadOwnerEvent.parts = true → .stores ∈ log ++ event.toList := by
  have hparted := h.parted
  have hwhole := h.whole
  cases hstep <;> grind [ThreadOwnerEvent.parts]

/-- `worker` is joinable from the assignment on until the thread is taken out. -/
theorem whole_step (h : ThreadOwnerInv log s) (hstep : ThreadOwnerStep s event s') :
    s'.joinable = true ↔ .stores ∈ log ++ event.toList ∧
      (log ++ event.toList).any ThreadOwnerEvent.parts = false := by
  have hstored := h.stored
  have hparted := h.parted
  have hwhole := h.whole
  have hstarter := h.ok.starter
  cases hstep <;> grind [ThreadOwnerEvent.parts]

theorem ended_step (h : ThreadOwnerInv log s) (hstep : ThreadOwnerStep s event s') :
    .ends ∈ log ++ event.toList ↔ s'.worker = .ended := by
  have hended := h.ended
  cases hstep <;> grind

theorem told_step (h : ThreadOwnerInv log s) (hstep : ThreadOwnerStep s event s') :
    s'.cancelled = true ↔ ∃ thread, .cancels thread ∈ log ++ event.toList := by
  have htold := h.told
  cases hstep <;> grind

theorem cancelled_step (h : ThreadOwnerInv log s) (hstep : ThreadOwnerStep s event s')
    {thread : OwnerThread} (hphase : s'.stops thread = .cancelled) :
    .cancels thread ∈ log ++ event.toList := by
  have hcancelled := h.cancelled thread
  cases hstep <;> grind

theorem joining_step (h : ThreadOwnerInv log s) (hstep : ThreadOwnerStep s event s')
    {thread : OwnerThread} (hphase : s'.stops thread = .joining) :
    .joins thread ∈ log ++ event.toList := by
  have hjoining := h.joining thread
  cases hstep <;> grind

theorem gone_step (h : ThreadOwnerInv log s) (hstep : ThreadOwnerStep s event s')
    {thread : OwnerThread} (hgone : .destroys thread ∈ log ++ event.toList) :
    s'.holders = [] ∧ s'.destroyer = none := by
  have hbefore := h.gone thread
  have hlast := h.ok.last
  have hstarter := h.ok.starter
  cases hstep <;> grind [ThreadOwner.MayRelease, ThreadOwner.MayCall]

end Step

/-- Every step keeps the invariant. -/
theorem step (h : ThreadOwnerInv log s) (action : ThreadOwnerAction) :
    ThreadOwnerInv (log ++ (callbackThreadStep action s).1.toList)
      (callbackThreadStep action s).2 := by
  have hstep := callbackThreadStep_cases action s
  exact ⟨h.ok.step hstep, h.started_step hstep, h.stored_step hstep, h.parted_step hstep,
    h.whole_step hstep, h.ended_step hstep, h.told_step hstep, fun _ => h.cancelled_step hstep,
    fun _ => h.joining_step hstep, fun _ => h.gone_step hstep⟩

end ThreadOwnerInv

/-- The log grows by an event that fits. -/
theorem OwnedThread.concat {log : List ThreadOwnerEvent} {e : ThreadOwnerEvent}
    (h : OwnedThread log) (fits : e.Fits log)
    (gone : ∀ thread, .destroys thread ∈ log → e = .ends) : OwnedThread (log ++ [e]) where
  fits past x rest hlog := by
    rcases concat_eq_append_cons hlog with ⟨-, rfl, rfl⟩ | ⟨rest', -, hpast⟩
    · exact fits
    · exact h.fits past x rest' hpast
  gone := pairwise_concat h.gone fun _ hmem thread heq => gone thread (heq ▸ hmem)

/-- What a step adds to the log. -/
theorem output_concat (past : List (Event ThreadOwner ThreadOwnerAction (Option ThreadOwnerEvent)))
    (s : ThreadOwner) (action : ThreadOwnerAction) :
    (past ++ [callbackThreadOwner.event s action]).filterMap Event.output
      = past.filterMap Event.output ++ (callbackThreadStep action s).1.toList := by
  rw [List.filterMap_append]
  cases hevent : (callbackThreadStep action s).1 with
  | none => simp [Machine.event, callbackThreadOwner, hevent]
  | some e => simp [Machine.event, callbackThreadOwner, hevent]

/-- The log of every schedule fits to itself, and to the state that it leads to. -/
theorem callbackThread_log (actions : List ThreadOwnerAction) :
    OwnedThread (callbackThreadLog actions) ∧
      ThreadOwnerInv (callbackThreadLog actions) (callbackThreadOwner.run {} actions) := by
  refine callbackThreadOwner.history_induction
    (P := fun past s => OwnedThread (past.filterMap Event.output) ∧
      ThreadOwnerInv (past.filterMap Event.output) s)
    ⟨⟨fun _ _ _ h => by simp at h, .nil⟩, .new⟩ (fun past s action h => ?_) actions
  obtain ⟨howned, hinv⟩ := h
  rw [output_concat]
  refine ⟨?_, hinv.step action⟩
  have hstep := callbackThreadStep_cases action s
  cases hevent : (callbackThreadStep action s).1 with
  | none => simpa using howned
  | some e =>
      rw [hevent] at hstep
      exact howned.concat (hinv.fits hstep) fun _ hgone => hinv.eq_ends_of_gone hstep hgone

/-! ## The worker goes on -/

/-- The worker takes this step itself. -/
def ThreadOwnerAction.ofWorker : ThreadOwnerAction → Bool
  | .release thread | .advance thread => thread = .worker
  | .exit | .finish => true
  | _ => false

/-- What the worker does next: it ends the call that it is in, its function, its references, and
itself. -/
def ThreadOwner.ownAction (s : ThreadOwner) : ThreadOwnerAction :=
  if s.Busy .worker then .advance .worker
  else if s.worker = .running then .exit
  else if .worker ∈ s.holders then .release .worker
  else .finish

/-- The steps that are left in `StopAndJoin`. -/
def StopPhase.left : StopPhase → Nat
  | .away => 0
  | .joining => 1
  | .cancelled => 2
  | .called => 3

/-- The steps that are left of the worker, but for its references. -/
def WorkerPhase.left : WorkerPhase → Nat
  | .running => 2
  | .exiting => 1
  | .unborn | .ended => 0

/-- A bound for the steps of the worker.  The last reference can cost it the destructor. -/
def ThreadOwner.left (s : ThreadOwner) : Nat :=
  6 * s.holders.count .worker + (s.stops .worker).left +
    (if s.destroyer = some .worker then 1 else 0) + s.worker.left

namespace ThreadOwner

variable {s : ThreadOwner}

theorem ownAction_ofWorker (s : ThreadOwner) : s.ownAction.ofWorker = true := by
  unfold ownAction
  split
  · rfl
  · split
    · rfl
    · split
      · rfl
      · rfl

/-- In `StopAndJoin` and in the destructor, the worker goes on: it never joins. -/
theorem Ok.advances (h : s.Ok) (busy : s.Busy .worker) :
    (stopStep .worker s).2.left < s.left ∧ (stopStep .worker s).2.worker = s.worker := by
  unfold stopStep
  cases hphase : s.stops .worker with
  | called =>
      by_cases hdestroyer : s.destroyer = some .worker
      · simp [left, ThreadOwner.moved, hphase, hdestroyer, StopPhase.left]
      · simp [left, ThreadOwner.moved, hphase, hdestroyer, StopPhase.left]
  | cancelled =>
      cases hjoinable : s.joinable with
      | false => simp [left, ThreadOwner.moved, hphase, StopPhase.left]
      | true => simp [left, ThreadOwner.moved, hphase, StopPhase.left]
  | joining => exact absurd hphase h.calm
  | away =>
      have hdestroyer : s.destroyer = some .worker := by
        rcases busy with hstops | hstarting | hdestroyer
        · exact absurd hphase hstops
        · exact absurd rfl (h.starter _ hstarting).2.1
        · exact hdestroyer
      have hjoinable : s.joinable = false := by
        have hdying := h.dying _ hdestroyer
        rw [hphase] at hdying
        simpa using hdying
      simp [left, hphase, hdestroyer, hjoinable]

/-- A worker that is there can take its next step. -/
theorem Ok.goesOn (h : s.Ok) (there : s.worker = .running ∨ s.worker = .exiting) :
    (callbackThreadStep s.ownAction s).2.left < s.left ∧
      (callbackThreadStep s.ownAction s).2.worker ≠ .unborn := by
  have hborn : s.worker ≠ .unborn := by
    rcases there with hthere | hthere
    · simp [hthere]
    · simp [hthere]
  unfold ownAction
  split
  · rename_i hbusy
    obtain ⟨hleft, hworker⟩ := h.advances hbusy
    exact ⟨hleft, hworker ▸ hborn⟩
  · rename_i hidle
    split
    · -- `WorkerExit`
      rename_i hrunning
      cases hjoinable : s.joinable with
      | false => simp [callbackThreadStep, hrunning, hidle, hjoinable, left, WorkerPhase.left]
      | true => simp [callbackThreadStep, hrunning, hidle, hjoinable, left, WorkerPhase.left]
    · rename_i hexits
      have hexiting : s.worker = .exiting := there.resolve_left hexits
      split
      · -- a reference, and behind the last one the destructor
        rename_i hholds
        have hmay : s.MayRelease .worker := ⟨⟨hholds, hidle⟩, fun _ => .inl hexiting⟩
        have hcount : 0 < s.holders.count .worker := List.count_pos_iff.mpr hholds
        obtain ⟨haway, -, hdestroyer⟩ : s.stops .worker = .away ∧ s.starting ≠ some .worker ∧
            s.destroyer ≠ some .worker := by
          simpa [Busy, not_or] using hidle
        by_cases hrest : s.holders.erase .worker = []
        · simp [callbackThreadStep, hmay, hrest, left, ThreadOwner.moved, haway, hdestroyer,
            StopPhase.left, hexiting]
          omega
        · simp [callbackThreadStep, hmay, hrest, left, haway, hdestroyer, hexiting,
            List.count_erase_self]
          omega
      · rename_i hreleased
        simp [callbackThreadStep, hexiting, hreleased, hidle, left, WorkerPhase.left]

/-- A step of the worker leaves the others where they are in `StopAndJoin`. -/
theorem stops_of_ofWorker {action : ThreadOwnerAction} (own : action.ofWorker = true)
    {thread : OwnerThread} (other : thread ≠ .worker) :
    (callbackThreadStep action s).2.stops thread = s.stops thread := by
  cases action with
  | release | advance =>
      obtain rfl := of_decide_eq_true own
      grind [callbackThreadStep, stopStep]
  | exit | finish => grind [callbackThreadStep]
  | share | start | store | cancel | stop | ask => cases own

/-- A worker that is there can end by steps of its own. -/
theorem exists_own_run {log : List ThreadOwnerEvent} (h : ThreadOwnerInv log s)
    (born : s.worker ≠ .unborn) : ∃ own : List ThreadOwnerAction,
      (∀ action ∈ own, action.ofWorker = true) ∧
      (callbackThreadOwner.run s own).worker = .ended ∧
      ∀ thread, thread ≠ .worker →
        (callbackThreadOwner.run s own).stops thread = s.stops thread := by
  have goesOn (t : ThreadOwner)
      (ht : (∃ past, ThreadOwnerInv past t) ∧ t.worker ≠ .unborn ∧
        ∀ thread, thread ≠ .worker → t.stops thread = s.stops thread)
      (hnot : t.worker ≠ .ended) : ∃ action : ThreadOwnerAction, action.ofWorker = true ∧
        ((∃ past, ThreadOwnerInv past (callbackThreadStep action t).2) ∧
          (callbackThreadStep action t).2.worker ≠ .unborn ∧
          ∀ thread, thread ≠ .worker →
            (callbackThreadStep action t).2.stops thread = s.stops thread) ∧
        (callbackThreadStep action t).2.left < t.left := by
    obtain ⟨⟨past, hinv⟩, hborn, hstops⟩ := ht
    have hthere : t.worker = .running ∨ t.worker = .exiting := by
      cases hworker : t.worker with
      | unborn => exact absurd hworker hborn
      | running => exact .inl rfl
      | exiting => exact .inr rfl
      | ended => exact absurd hworker hnot
    obtain ⟨hless, hlater⟩ := hinv.ok.goesOn hthere
    refine ⟨t.ownAction, t.ownAction_ofWorker, ⟨⟨_, hinv.step t.ownAction⟩, hlater, ?_⟩, hless⟩
    intro thread hother
    exact (stops_of_ofWorker t.ownAction_ofWorker hother).trans (hstops thread hother)
  obtain ⟨own, hown, ⟨-, -, hstops⟩, hended⟩ :=
    callbackThreadOwner.exists_run_of_lt goesOn ⟨⟨log, h⟩, born, fun _ _ => rfl⟩
  exact ⟨own, hown, hended, hstops⟩

end ThreadOwner

/-- Whatever the threads do with an owner, its worker is started once, and taken out of `worker`
once: joined by another thread, which has told it to stop and waits until it has ended, or
detached by itself.  When the owner is destroyed the worker has been taken out, and nobody uses
the owner behind that.  The worker never waits for anybody: from every state on, it can go to its
end, after which every thread that joins it returns. -/
theorem callbackThread_owned (actions : List ThreadOwnerAction) :
    OwnedThread (callbackThreadLog actions) ∧
      (.starts ∈ callbackThreadLog actions → ∃ own : List ThreadOwnerAction,
        (∀ action ∈ own, action.ofWorker = true) ∧
        .ends ∈ callbackThreadLog (actions ++ own) ∧
        ∀ thread, (callbackThreadOwner.run {} actions).stops thread = .joining →
          callbackThreadLog (actions ++ own ++ [.advance thread])
            = callbackThreadLog (actions ++ own) ++ [.joined thread]) := by
  obtain ⟨howned, hinv⟩ := callbackThread_log actions
  refine ⟨howned, fun hstarts => ?_⟩
  obtain ⟨own, hown, hended, hstops⟩ := ThreadOwner.exists_own_run hinv (hinv.started.mp hstarts)
  rw [← Machine.run_append] at hended hstops
  obtain ⟨-, hlater⟩ := callbackThread_log (actions ++ own)
  refine ⟨own, hown, hlater.ended.mpr hended, fun thread hjoining => ?_⟩
  have hother : thread ≠ .worker := fun hself => hinv.ok.calm (hself ▸ hjoining)
  have hphase := (hstops thread hother).trans hjoining
  have hstep : (callbackThreadStep (.advance thread)
      (callbackThreadOwner.run {} (actions ++ own))).1 = some (.joined thread) := by
    simp [callbackThreadStep, stopStep, hphase, hended]
  rw [callbackThreadLog, Machine.trace_concat, output_concat, hstep]
  rfl

/-- A caller cancels the login, and waits for the worker. -/
def joinedWorker : List ThreadOwnerAction :=
  [.start (.caller 0), .store, .share (.caller 0) (.caller 1), .stop (.caller 1),
    .advance (.caller 1), .advance (.caller 1)]

/-- A second caller finds the thread taken, and returns while the worker is running. -/
example : let s := callbackThreadOwner.run {} (joinedWorker ++ [.share (.caller 0) (.caller 2),
      .stop (.caller 2), .advance (.caller 2), .advance (.caller 2)])
    s.stops (.caller 2) = .away ∧ s.worker = .running := by
  decide

theorem callbackThread_owned_joined :
    OwnedThread (callbackThreadLog joinedWorker) ∧ ∃ own : List ThreadOwnerAction,
      .ends ∈ callbackThreadLog (joinedWorker ++ own) ∧
      callbackThreadLog (joinedWorker ++ own ++ [.advance (.caller 1)])
        = callbackThreadLog (joinedWorker ++ own) ++ [.joined (.caller 1)] := by
  obtain ⟨howned, hgoes⟩ := callbackThread_owned joinedWorker
  obtain ⟨own, -, hends, hjoins⟩ := hgoes (by decide)
  exact ⟨howned, own, hends, hjoins (.caller 1) (by decide)⟩

end Data360
