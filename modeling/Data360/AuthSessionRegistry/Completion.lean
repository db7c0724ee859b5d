import Data360.AuthSessionRegistry.History

/-!
# Who decides a session

A session that `BeginCompletion` has handed over belongs to the completion
that won it, until that completion finishes it.

* `Completing` and `Decided` say in which phase the session of an identifier
  is.
* `terminal_exec` and `completing_exec` are the two step lemmas, and
  `terminal_run`, `completing_run` and `decided_run` the run lemmas.
* `addressed_exec` and `swept_exec` are the frame: what a call does to the
  sessions it is not addressed to.
* `begins_once` and `begins_exists` say that one of several completions wins.
-/

namespace Data360

open Lib Lib.ByteString

/-! ## Phases -/

/-- The session `id` is being completed. -/
def Completing (id : Bytes) (registry : Registry) : Prop :=
  ∃ s, registry.sessions[id]? = some s ∧ s.status = .completing

/-- The session `id` is authorized or failed. -/
def Decided (id : Bytes) (registry : Registry) : Prop :=
  ∃ s, registry.sessions[id]? = some s ∧ (s.status = .authorized ∨ s.status = .failed)

/-- The call finishes the completion of `id`. -/
def Call.Finishes (call : Call) (id : Bytes) : Prop :=
  call = .onSession id .finishAuthorized ∨ ∃ fault, call = .onSession id (.finishFailed fault)

/-- The event takes session `id` out of the registry: a `Create` evicts it, and
may make a new session of the same identifier. -/
def Replaces (id : Bytes) (e : RegistryEvent) : Prop :=
  e.input.sweepTime.isSome ∧
    ((exec e.input e.before).registry.sessions[id]? = none ∨ ∃ request, Creates id request e)

/-! ## One call -/

variable {call : Call} {registry : Registry} {id : Bytes} {s s' : AuthSession}

/-- A terminal session keeps its status and its fault as long as it is
there. -/
theorem terminal_exec (call : Call) (found : registry.sessions[id]? = some s)
    (isOver : terminal s.status = true) :
    (∃ t, (exec call registry).registry.sessions[id]? = some t ∧
        t.status = s.status ∧ t.fault = s.fault) ∨
      Replaces id (registryMachine.event registry call) := by
  have hentry := exec_entry call registry id
  rw [found] at hentry
  generalize hafter : (exec call registry).registry.sessions[id]? = entry' at hentry
  cases hentry with
  | same _ quiet old => exact .inl ⟨s, rfl, rfl, rfl⟩
  | moved c _ t addressed move =>
      refine .inl ⟨t, rfl, ?_⟩
      generalize (exec call registry).outcome = outcome at move
      cases move with
      | stay owner _ quiet => exact ⟨rfl, rfl⟩
      | ended status fault owner _ active closed authorized completing cause quiet =>
          rw [isOver] at active
          cases active
      | received code now call_eq pending nonempty inTime =>
          rw [pending] at isOver
          cases isOver
      | begun now call_eq ready inTime =>
          rw [ready] at isOver
          cases isOver
  | expired now _ sweep overdue old =>
      exact absurd overdue.2.1 (by simp [isOver])
  | evicted now _ sweep _ old =>
      exact .inr ⟨by simp [registryMachine, Machine.event, sweep], .inl hafter⟩
  | created now request _ sweep creates free =>
      exact .inr ⟨by simp [registryMachine, Machine.event, sweep], .inr ⟨request, creates⟩⟩

/-- A completing session leaves its status only through `FinishAuthorized` and
`FinishFailed` on its own identifier. -/
theorem completing_exec (call : Call) (found : registry.sessions[id]? = some s)
    (completing : s.status = .completing) :
    ∃ t, (exec call registry).registry.sessions[id]? = some t ∧
      (t = { s with callbackOwner := t.callbackOwner } ∨
        call = .onSession id .finishAuthorized ∧ t.status = .authorized ∧ t.fault = none ∨
        ∃ fault, call = .onSession id (.finishFailed fault) ∧ t.status = .failed ∧
          t.fault = some fault) := by
  have hactive : terminal s.status = false := by rw [completing]; rfl
  have hoverdue (now : UInt64) : ¬ s.Overdue now := fun h => h.1 completing
  have hentry := exec_entry call registry id
  rw [found] at hentry
  generalize (exec call registry).registry.sessions[id]? = entry' at hentry
  cases hentry with
  | same _ quiet old => exact ⟨s, rfl, .inl rfl⟩
  | moved c _ t addressed move =>
      refine ⟨t, rfl, ?_⟩
      generalize (exec call registry).outcome = outcome at move
      cases move with
      | stay owner _ quiet => exact .inl rfl
      | ended status fault owner _ active closed authorized hcompleting cause quiet =>
          rcases hcompleting completing with ⟨rfl, rfl, rfl⟩ | ⟨f, rfl, rfl, rfl⟩
          · exact .inr (.inl ⟨addressed, rfl, rfl⟩)
          · exact .inr (.inr ⟨f, addressed, rfl, rfl⟩)
      | received code now call_eq pending nonempty inTime =>
          rw [completing] at pending
          cases pending
      | begun now call_eq ready inTime =>
          rw [completing] at ready
          cases ready
  | expired now _ sweep overdue old => exact absurd overdue (hoverdue now)
  | evicted now _ sweep isOver old =>
      rcases isOver with hterm | hover
      · rw [hactive] at hterm
        cases hterm
      · exact absurd hover (hoverdue now)
  | created now request _ sweep creates free =>
      rcases free s rfl with hterm | hover
      · rw [hactive] at hterm
        cases hterm
      · exact absurd hover (hoverdue now)

/-- A finisher on a completing session succeeds and decides it. -/
theorem finish_exec (h : Completing id registry) (finishes : call.Finishes id) :
    (exec call registry).outcome = .ok .done ∧ Decided id (exec call registry).registry := by
  obtain ⟨s, found, completing⟩ := h
  have hactive : terminal s.status = false := by rw [completing]; rfl
  rcases finishes with rfl | ⟨fault, rfl⟩ <;>
  · rw [exec_onSession_some found]
    simp only [SessionCall.effect, SessionEffect.map, AuthSession.finishAuthorized,
      AuthSession.finishFailed, AuthSession.finish, completing, ne_eq, not_true_eq_false, if_false,
      terminalLocked_of_active hactive, if_true]
    refine ⟨rfl, _, Std.TreeMap.getElem?_insert_self, ?_⟩
    simp

/-- A call that is addressed to one session leaves every other one alone. -/
theorem addressed_exec {other : Bytes} {c : SessionCall} (addressed : call = .onSession other c)
    (hne : other ≠ id) :
    (exec call registry).registry.sessions[id]? = registry.sessions[id]? := by
  have hentry := exec_entry call registry id
  generalize registry.sessions[id]? = entry at hentry ⊢
  generalize (exec call registry).registry.sessions[id]? = entry' at hentry ⊢
  cases hentry with
  | same _ quiet old => rfl
  | moved c' t t' addressed' move =>
      rw [addressed] at addressed'
      cases addressed'
      exact absurd rfl hne
  | expired now t sweep overdue old =>
      exact absurd addressed (Call.not_onSession_of_sweepTime sweep other c)
  | evicted now t sweep isOver old =>
      exact absurd addressed (Call.not_onSession_of_sweepTime sweep other c)
  | created now request _ sweep creates free =>
      exact absurd addressed (Call.not_onSession_of_sweepTime sweep other c)

/-- A call that is addressed to no session does nothing to a session, except
that a `Create` expires an overdue one, and evicts or replaces a terminal or
an overdue one. -/
theorem unaddressed_exec (unaddressed : ∀ c, call ≠ .onSession id c)
    (found : registry.sessions[id]? = some s) :
    (exec call registry).registry.sessions[id]? = some s ∨
      ∃ now, call.sweepTime = some now ∧
        (s.Overdue now ∧ (exec call registry).registry.sessions[id]?
            = some (s.ended .expired (some .sessionExpired) none) ∨
          (terminal s.status = true ∨ s.Overdue now) ∧
            Replaces id (registryMachine.event registry call)) := by
  have hentry := exec_entry call registry id
  rw [found] at hentry
  generalize hafter : (exec call registry).registry.sessions[id]? = entry' at hentry
  cases hentry with
  | same _ quiet old => exact .inl rfl
  | moved c _ t addressed move => exact absurd addressed (unaddressed c)
  | expired now _ sweep overdue old => exact .inr ⟨now, sweep, .inl ⟨overdue, rfl⟩⟩
  | evicted now _ sweep isOver old =>
      exact .inr ⟨now, sweep,
        .inr ⟨isOver, by simp [registryMachine, Machine.event, sweep], .inl hafter⟩⟩
  | created now request _ sweep creates free =>
      exact .inr ⟨now, sweep, .inr ⟨free s rfl, by simp [registryMachine, Machine.event, sweep],
        .inr ⟨request, creates⟩⟩⟩

/-- An identifier without a session gets one only by creation. -/
theorem absent_exec (absent : registry.sessions[id]? = none)
    (old : ∀ request, ¬ Creates id request (registryMachine.event registry call)) :
    (exec call registry).registry.sessions[id]? = none := by
  have hentry := exec_entry call registry id
  rw [absent] at hentry
  generalize (exec call registry).registry.sessions[id]? = entry' at hentry
  cases hentry with
  | same _ quiet _ => rfl
  | created now request _ sweep creates free => exact absurd creates (old request)

/-! ## Runs -/

/-- A terminal session keeps its status and its fault as long as it exists. -/
theorem terminal_run (calls : List Call) (found : registry.sessions[id]? = some s)
    (isOver : terminal s.status = true)
    (kept : ∀ e ∈ registryMachine.trace registry calls, ∀ request, ¬ Creates id request e)
    (still : (registryMachine.run registry calls).sessions[id]? = some s') :
    s'.status = s.status ∧ s'.fault = s.fault := by
  have step (t : Registry) (call : Call)
      (h : ∀ u, t.sessions[id]? = some u → u.status = s.status ∧ u.fault = s.fault)
      (hold : ¬ ∃ request, Creates id request (registryMachine.event t call)) :
      ∀ u, (exec call t).registry.sessions[id]? = some u →
        u.status = s.status ∧ u.fault = s.fault := by
    intro u hu
    cases ht : t.sessions[id]? with
    | none =>
        rw [absent_exec ht (not_exists.mp hold)] at hu
        cases hu
    | some u₀ =>
        obtain ⟨hstatus, hfault⟩ := h u₀ ht
        rcases terminal_exec call ht (by rw [hstatus]; exact isOver) with
          ⟨u₁, hu₁, hstatus₁, hfault₁⟩ | ⟨-, hnone | hcreates⟩
        · rw [hu] at hu₁
          obtain rfl := Option.some.inj hu₁
          exact ⟨hstatus₁.trans hstatus, hfault₁.trans hfault⟩
        · rw [show (exec call t).registry.sessions[id]? = none from hnone] at hu
          cases hu
        · exact absurd hcreates hold
  refine (registryMachine.run_keeps_unless (B := fun e => ∃ request, Creates id request e) step
    ?_ fun e he => not_exists.mpr (kept e he)).1 s' still
  intro u hu
  rw [found] at hu
  obtain rfl := Option.some.inj hu
  exact ⟨rfl, rfl⟩

/-- A session is completing all through a run that does not finish it. -/
theorem completing_run (calls : List Call) (h : Completing id registry)
    (quiet : ∀ call ∈ calls, ¬ call.Finishes id) :
    Completing id (registryMachine.run registry calls) ∧
      ∀ e ∈ registryMachine.trace registry calls, Completing id e.before := by
  have step (t : Registry) (call : Call) (ht : Completing id t) (hcall : ¬ call.Finishes id) :
      Completing id (exec call t).registry := by
    obtain ⟨u, hu, hcompleting⟩ := ht
    obtain ⟨u', hu', hsame | ⟨hfinish, -⟩ | ⟨fault, hfinish, -⟩⟩ :=
      completing_exec call hu hcompleting
    · refine ⟨u', hu', ?_⟩
      rw [hsame]
      exact hcompleting
    · exact absurd (.inl hfinish) hcall
    · exact absurd (.inr ⟨fault, hfinish⟩) hcall
  obtain ⟨hrun, htrace⟩ := registryMachine.run_keeps_unless
    (B := fun e => e.input.Finishes id) step h
    (fun e he => quiet e.input (registryMachine.input_mem_of_mem_trace he))
  exact ⟨hrun, fun e he => (htrace e he).1⟩

/-- A decided session stays decided until a `Create` takes it out. -/
theorem decided_run (calls : List Call) (h : Decided id registry) :
    Decided id (registryMachine.run registry calls) ∨
      ∃ e ∈ registryMachine.trace registry calls, Decided id e.before ∧ Replaces id e := by
  by_cases hout : ∃ e ∈ registryMachine.trace registry calls, Decided id e.before ∧ Replaces id e
  · exact .inr hout
  · refine .inl (registryMachine.run_keeps_unless
      (B := fun e => Decided id e.before ∧ Replaces id e) ?_ h fun e he hb => hout ⟨e, he, hb⟩).1
    intro t call ht hstay
    have ⟨u, hu, hdecided⟩ := ht
    have hover : terminal u.status = true := by
      rcases hdecided with hs | hs <;> rw [hs] <;> rfl
    rcases terminal_exec call hu hover with ⟨u', hu', hstatus, -⟩ | hreplaces
    · exact ⟨u', hu', by rw [hstatus]; exact hdecided⟩
    · exact absurd ⟨ht, hreplaces⟩ hstay

/-! ## One completion wins -/

/-- A session that has been handed over, or is over. -/
def HandedOver (id : Bytes) (registry : Registry) : Prop :=
  ∀ s, registry.sessions[id]? = some s → s.status = .completing ∨ terminal s.status = true

/-- `BeginCompletion` succeeds on a session whose callback has arrived, and
moves it to completing. -/
theorem begins_exec (h : Begins id (registryMachine.event registry call)) :
    ∃ s, registry.sessions[id]? = some s ∧ s.status = .callbackReceived ∧
      Completing id (exec call registry).registry := by
  obtain ⟨now, material, hinput, houtput⟩ := h
  obtain rfl : call = _ := hinput
  have houtput : (exec (.onSession id (.beginCompletion now)) registry).outcome
      = .ok (.material material) := houtput
  cases hs : registry.sessions[id]? with
  | none =>
      obtain ⟨outcome, hexec, hquiet⟩ := exec_onSession_none hs (.beginCompletion now)
      rw [hexec] at houtput
      obtain rfl : outcome = _ := houtput
      cases hquiet
  | some s =>
      rw [exec_onSession_some hs] at houtput ⊢
      have hmove := effect_move (.beginCompletion now) s
      generalize (SessionCall.effect (.beginCompletion now) s).session = s' at hmove
      rw [show (SessionCall.effect (.beginCompletion now) s).outcome = _ from houtput] at hmove
      cases hmove with
      | stay owner _ quiet => cases quiet
      | ended status fault owner _ active closed authorized completing cause quiet => cases quiet
      | begun now' call_eq ready inTime =>
          exact ⟨s, rfl, ready, _, Std.TreeMap.getElem?_insert_self, rfl⟩

/-- Between two creations of an identifier at most one `BeginCompletion` of it
succeeds. -/
theorem begins_once {calls : List Call} {before after : List RegistryEvent} {e : RegistryEvent}
    (h : registryMachine.trace registry calls = before ++ e :: after) (he : Begins id e)
    (kept : ∀ other ∈ after, ∀ request, ¬ Creates id request other) :
    ∀ other ∈ after, ¬ Begins id other := by
  refine registryMachine.trace_unique (I := HandedOver id)
    (B := fun e => ∃ request, Creates id request e) ?_ ?_ ?_ h he
    fun other hother => not_exists.mpr (kept other hother)
  · intro t call hbegins s hs
    obtain ⟨-, -, -, u, hu, hcompleting⟩ := begins_exec hbegins
    obtain rfl := Option.some.inj (hu.symm.trans hs)
    exact .inl hcompleting
  · intro t call hover hbegins
    obtain ⟨s, hs, hready, -⟩ := begins_exec hbegins
    rcases hover s hs with hc | hc <;> rw [hready] at hc <;> cases hc
  · intro t call hover hold s' hs'
    cases ht : t.sessions[id]? with
    | none =>
        have := absent_exec ht (not_exists.mp hold)
        rw [show (exec call t).registry.sessions[id]? = some s' from hs'] at this
        cases this
    | some u =>
        rcases hover u ht with hcompleting | hterm
        · obtain ⟨u', hu', hcases⟩ := completing_exec call ht hcompleting
          obtain rfl := Option.some.inj (hu'.symm.trans hs')
          rcases hcases with hsame | ⟨-, hstatus, -⟩ | ⟨fault, -, hstatus, -⟩
          · exact .inl (by rw [hsame]; exact hcompleting)
          · exact .inr (by rw [hstatus]; rfl)
          · exact .inr (by rw [hstatus]; rfl)
        · rcases terminal_exec call ht hterm with
            ⟨u', hu', hstatus, -⟩ | ⟨-, hnone | hcreates⟩
          · obtain rfl := Option.some.inj (hu'.symm.trans hs')
            exact .inr (by rw [hstatus]; exact hterm)
          · have hnone : (exec call t).registry.sessions[id]? = none := hnone
            rw [show (exec call t).registry.sessions[id]? = some s' from hs'] at hnone
            cases hnone
          · exact absurd hcreates hold

/-- A call that leaves an answered session to its completions: its readings are
before the expiry, and it neither cancels nor fails the session. -/
def Call.Spares (call : Call) (id : Bytes) (expiresAtMs : UInt64) : Prop :=
  (∀ now, call.sweepTime = some now → now < expiresAtMs) ∧
    ∀ c, call = .onSession id c →
      (∀ now, c.reading = some now → now < expiresAtMs) ∧ c ≠ .cancel ∧ ∀ f, c ≠ .fail f

/-- A session whose callback has arrived and that expires at this reading. -/
def Ready (id : Bytes) (expiresAtMs : UInt64) (registry : Registry) : Prop :=
  ∃ s, registry.sessions[id]? = some s ∧ s.status = .callbackReceived ∧
    s.expiresAtMs = expiresAtMs

/-- A sparing call leaves an answered session as it is, or wins it. -/
theorem ready_exec {expiresAtMs : UInt64} (h : Ready id expiresAtMs registry)
    (spares : call.Spares id expiresAtMs) :
    Ready id expiresAtMs (exec call registry).registry ∨
      Begins id (registryMachine.event registry call) := by
  obtain ⟨s, hs, hready, hexpires⟩ := h
  have hintime {now : UInt64} (hlt : now < expiresAtMs) : ¬ s.Overdue now := fun hover =>
    UInt64.not_lt.mpr (hexpires ▸ hover.2.2) hlt
  have hover {now : UInt64} (sweep : call.sweepTime = some now)
      (h : terminal s.status = true ∨ s.Overdue now) : False := by
    rcases h with hterm | hover
    · rw [hready] at hterm
      cases hterm
    · exact hintime (spares.1 now sweep) hover
  have hentry := exec_entry call registry id
  rw [hs] at hentry
  unfold Ready Begins
  simp only [registryMachine, Machine.event]
  generalize (exec call registry).registry.sessions[id]? = entry' at hentry ⊢
  generalize (exec call registry).outcome = outcome at hentry ⊢
  cases hentry with
  | same _ quiet old => exact .inl ⟨s, rfl, hready, hexpires⟩
  | moved c _ t addressed move =>
      obtain ⟨hreading, hcancel, hfail⟩ := spares.2 c addressed
      cases move with
      | stay owner _ quiet => exact .inl ⟨_, rfl, hready, hexpires⟩
      | ended status fault owner _ active closed authorized completing cause quiet =>
          rcases cause with ⟨now, hnow, hover⟩ | hs | hs | hs | ⟨f, hs⟩
          · exact absurd hover (hintime (hreading now hnow))
          · rw [hready] at hs
            cases hs
          · rw [hready] at hs
            cases hs
          · exact absurd hs hcancel
          · exact absurd hs (hfail f)
      | received code now call_eq pending nonempty inTime =>
          rw [hready] at pending
          cases pending
      | begun now call_eq _ inTime =>
          subst call_eq
          exact .inr ⟨now, _, addressed, rfl⟩
  | expired now _ sweep overdue old => exact (hover sweep (.inr overdue)).elim
  | evicted now _ sweep isOver old => exact (hover sweep isOver).elim
  | created now request _ sweep creates free => exact (hover sweep (free s rfl)).elim

/-- `BeginCompletion` in time wins an answered session. -/
theorem ready_begins {expiresAtMs now : UInt64} (h : Ready id expiresAtMs registry)
    (hlt : now < expiresAtMs) :
    Begins id (registryMachine.event registry (.onSession id (.beginCompletion now))) := by
  obtain ⟨s, hs, hready, hexpires⟩ := h
  have hintime : ¬ s.Overdue now := fun hover =>
    UInt64.not_lt.mpr (hexpires ▸ hover.2.2) hlt
  have houtput : (exec (.onSession id (.beginCompletion now)) registry).outcome
      = .ok (.material ⟨s.authorizationCode, s.pkceVerifier, s.loginOrigin, s.clientId,
          s.secretName⟩) := by
    rw [exec_onSession_some hs]
    simp only [SessionCall.effect, SessionEffect.map, AuthSession.beginCompletion,
      expireLocked_eq, hintime, if_false, hready, ne_eq, not_true_eq_false]
    rfl
  exact ⟨now, _, rfl, houtput⟩

/-- Of the completions that race for an answered session one wins, when no
other call takes the session away from them. -/
theorem begins_exists {expiresAtMs : UInt64} {calls : List Call}
    (ready : Ready id expiresAtMs registry)
    (spares : ∀ call ∈ calls, call.Spares id expiresAtMs) {now : UInt64}
    (race : .onSession id (.beginCompletion now) ∈ calls) :
    ∃ e ∈ registryMachine.trace registry calls, Begins id e := by
  induction calls generalizing registry with
  | nil => cases race
  | cons call rest ih =>
      by_cases hwins : Begins id (registryMachine.event registry call)
      · exact ⟨_, List.mem_cons_self, hwins⟩
      · have hspares := spares call List.mem_cons_self
        have hready := (ready_exec ready hspares).resolve_right hwins
        rcases List.mem_cons.mp race with heq | hrest
        · subst heq
          exact absurd (ready_begins ready ((hspares.2 _ rfl).1 now rfl)) hwins
        · obtain ⟨e, he, hbegins⟩ := ih hready
            (fun c hc => spares c (List.mem_cons_of_mem _ hc)) hrest
          exact ⟨e, List.mem_cons_of_mem _ he, hbegins⟩

end Data360
