import Data360.QueryApi.Preparation

/-!
# Handles

A session is owned by one `PreparedQuery` or one `QueryCursor`, which may be
moved from variable to variable.  The variables are numbered slots, and
`QueryWorld.owner` is the one that holds the session; every other handle is
empty, as a moved-from handle is.  When the owner goes, the session goes.

`QueryRun` is every run of `Prepare`, `Execute` and `ExecuteMetadata`, the
first one followed by any calls on handles.

* `handles_keep` is the step lemma, and `queryRun_leaves` the result for runs.
-/

namespace Data360

open Lib Lib.ByteString Lib.Prog Session

variable {env : QueryEnv} {setting : Setting}

/-! ## The calls -/

/-- A variable that holds a `PreparedQuery` or a `QueryCursor`. -/
inductive Handle where
  | prepared (slot : Nat)
  | cursor (slot : Nat)
  deriving DecidableEq, Repr

/-- A call on handles. -/
inductive HandleCall where
  | movePrepared (source target : Nat)
  | moveCursor (source target : Nat)
  | metadata (slot : Nat)
  | openCursor (source target : Nat)
  | isNumberedV3 (slot : Nat)
  | cursorCall (slot : Nat) (call : CursorCall)
  | destroy (handle : Handle)

/-- What a call on handles returns. -/
inductive HandleValue where
  | done
  | metadata (columns : List ColumnMetadata)
  | numbered (flag : Bool)
  | cursor (value : CursorValue)

/-- The session with the handle that owns it. -/
structure QueryWorld where
  client : Client
  owner : Option Handle

/-- The errors of handles without a session. -/
def preparedUnavailable : QueryError := .logicError "Data 360 prepared query is not available"

def cursorUnavailable : QueryError := .logicError "Data 360 query cursor is not available"

variable (env) in
/-- The end of a handle. -/
def destroyHandle (handle : Handle) (w : QueryWorld) : QueryWorld :=
  if w.owner = some handle then { client := cancel env w.client, owner := none } else w

variable (env) in
/-- `target = std::move(source)`: an owner hands the session over, and an empty
source ends what the target held. -/
def moveHandle (source target : Handle) (w : QueryWorld) : QueryWorld :=
  if w.owner = some source then { w with owner := some target } else destroyHandle env target w

/-- A call of `program` on the handle. -/
def callHandle (handle : Handle) (unavailable : QueryError) (program : Query HandleValue)
    (w : QueryWorld) : Outcome QueryError HandleValue × QueryWorld :=
  if w.owner = some handle then
    ((program w.client).1, { w with client := (program w.client).2 })
  else (.raise unavailable, w)

variable (env) in
/-- One call. -/
def HandleCall.step : HandleCall → QueryWorld → Outcome QueryError HandleValue × QueryWorld
  | .movePrepared source target, w =>
      (.ret .done, moveHandle env (.prepared source) (.prepared target) w)
  | .moveCursor source target, w =>
      (.ret .done, moveHandle env (.cursor source) (.cursor target) w)
  | .metadata slot, w =>
      callHandle (.prepared slot) preparedUnavailable (look fun s => .metadata s.metadata) w
  | .openCursor source target, w =>
      if w.owner = some (.prepared source) then
        (.ret .done, { w with owner := some (.cursor target) })
      else (.raise preparedUnavailable, w)
  | .isNumberedV3 slot, w =>
      callHandle (.cursor slot) cursorUnavailable
        (look fun s => .numbered (s.mode = .numberedV3)) w
  | .cursorCall slot call, w =>
      callHandle (.cursor slot) cursorUnavailable
        (do
          let value ← call.program env
          pure (.cursor value)) w
  | .destroy handle, w => (.ret .done, destroyHandle env handle w)

variable (env) in
/-- The machine of the handles of one session. -/
def handleMachine : Machine QueryWorld HandleCall (Outcome QueryError HandleValue) :=
  ⟨HandleCall.step env⟩

/-! ## What the calls keep -/

/-- The session is sound while it has an owner, and destroyed after that. -/
def QueryWorld.Sound (env : QueryEnv) (setting : Setting) (w : QueryWorld) : Prop :=
  if w.owner.isSome then w.client.Sound setting else Destroyed env setting w.client

theorem QueryWorld.Sound.client {w : QueryWorld} (h : w.Sound env setting) :
    w.client.Sound setting := by
  unfold QueryWorld.Sound at h
  split at h
  · exact h
  · obtain ⟨c₀, hc₀, heq⟩ := h
    exact heq ▸ cancel_sound hc₀

theorem destroyHandle_sound {w : QueryWorld} (h : w.Sound env setting) (handle : Handle) :
    (destroyHandle env handle w).Sound env setting := by
  unfold destroyHandle
  split
  · rename_i howner
    rw [QueryWorld.Sound, howner] at h
    exact ⟨w.client, h, rfl⟩
  · exact h

theorem moveHandle_sound {w : QueryWorld} (h : w.Sound env setting) (source target : Handle) :
    (moveHandle env source target w).Sound env setting := by
  unfold moveHandle
  split
  · rename_i howner
    rw [QueryWorld.Sound, howner] at h
    exact h
  · exact destroyHandle_sound h target

theorem callHandle_sound {w : QueryWorld} (h : w.Sound env setting) (handle : Handle)
    (unavailable : QueryError) {program : Query HandleValue}
    (hprogram : Keeps (Client.Sound setting) program) :
    (callHandle handle unavailable program w).2.Sound env setting := by
  unfold callHandle
  split
  · rename_i howner
    rw [QueryWorld.Sound, howner] at h ⊢
    exact wp_final.mp (hprogram w.client h)
  · exact h

/-- Every call keeps the world sound. -/
theorem handles_keep (w : QueryWorld) (call : HandleCall) (h : w.Sound env setting) :
    ((handleMachine env).step call w).2.Sound env setting := by
  cases call with
  | movePrepared source target => exact moveHandle_sound h _ _
  | moveCursor source target => exact moveHandle_sound h _ _
  | metadata slot => exact callHandle_sound h _ _ (keeps_read _)
  | openCursor source target =>
      simp only [handleMachine, HandleCall.step]
      split
      · rename_i howner
        rw [QueryWorld.Sound, howner] at h
        exact h
      · exact h
  | isNumberedV3 slot => exact callHandle_sound h _ _ (keeps_read _)
  | cursorCall slot call =>
      exact callHandle_sound h _ _ (keeps_bind (keeps_cursorCall call) fun _ => keeps_pure _)
  | destroy handle => exact destroyHandle_sound h handle

/-! ## Runs -/

/-- A run of the client, in which the session is still alive or not. -/
inductive QueryRun (env : QueryEnv) (sql : Bytes) (credentials : QueryCredentials)
    (options : QueryOptions) : Bool → Client → Prop
  | preparing {fuel : Nat} {metadataOnly : Bool} {c : Client}
      (run : QueryApiV3Client.prepareInternal env fuel sql credentials metadataOnly options {}
        = (.cut, c)) : QueryRun env sql credentials options true c
  | refused {fuel : Nat} {metadataOnly : Bool} {e : QueryError} {c : Client}
      (run : QueryApiV3Client.prepareInternal env fuel sql credentials metadataOnly options {}
        = (.raise e, c)) : QueryRun env sql credentials options false c
  | handled {fuel : Nat} {metadataOnly : Bool} {c : Client} {slot : Nat}
      (run : QueryApiV3Client.prepareInternal env fuel sql credentials metadataOnly options {}
        = (.ret (), c)) (calls : List HandleCall) :
      QueryRun env sql credentials options
        ((handleMachine env).run ⟨c, some (.prepared slot)⟩ calls).owner.isSome
        ((handleMachine env).run ⟨c, some (.prepared slot)⟩ calls).client
  | executing {fuel : Nat} {c : Client}
      (run : QueryApiV3Client.execute env fuel sql credentials options {} = (.cut, c)) :
      QueryRun env sql credentials options true c
  | executed {fuel : Nat} {outcome : Outcome QueryError QueryResult} {c : Client}
      (run : QueryApiV3Client.execute env fuel sql credentials options {} = (outcome, c))
      (ended : outcome ≠ .cut) : QueryRun env sql credentials options false c
  | describing {fuel : Nat} {c : Client}
      (run : QueryApiV3Client.executeMetadata env fuel sql credentials options {} = (.cut, c)) :
      QueryRun env sql credentials options true c
  | described {fuel : Nat} {outcome : Outcome QueryError QueryResult} {c : Client}
      (run : QueryApiV3Client.executeMetadata env fuel sql credentials options {} = (outcome, c))
      (ended : outcome ≠ .cut) : QueryRun env sql credentials options false c

theorem keeps_executeLoop (fuel : Nat) (chunks : List ResultChunk) :
    Keeps (Client.Sound setting) (QueryApiV3Client.executeLoop env fuel chunks) := by
  induction fuel generalizing chunks with
  | zero => exact keeps_outOfFuel
  | succ fuel ih =>
      refine keeps_bind keeps_nextChunk fun next => ?_
      cases next with
      | some chunk => exact ih _
      | none => exact keeps_pure _

theorem keeps_collectChunks (fuel : Nat) :
    Keeps (Client.Sound setting) (QueryApiV3Client.collectChunks env fuel) :=
  keeps_bind (keeps_read _) fun _ => keeps_bind (keeps_executeLoop fuel []) fun _ => keeps_pure _

/-- How a run of the client leaves its session. -/
def Leaves (env : QueryEnv) (options : QueryOptions) (credentials : QueryCredentials)
    (live : Bool) (c : Client) : Prop :=
  (live = false ∧ Unsent c) ∨
    ∃ setting : Setting, setting.Of options credentials ∧
      QueryWorld.Sound env setting ⟨c, if live then some (.cursor 0) else none⟩

/-- A scope that owns the session after it was prepared. -/
theorem wp_preparedScope {α : Type} {fuel : Nat} {sql : Bytes} {credentials : QueryCredentials}
    {metadataOnly : Bool} {options : QueryOptions} {body : Query α}
    (hbody : ∀ setting, Keeps (Client.Sound setting) body) :
    wp (do
        QueryApiV3Client.prepareInternal env fuel sql credentials metadataOnly options
        withDestructor body (update (cancel env)))
      (fun _ => Leaves env options credentials false)
      (fun _ => Leaves env options credentials false)
      (Leaves env options credentials true) {} := by
  rw [wp_bind]
  refine wp_mono (wp_prepareInternal fuel sql credentials metadataOnly options) ?_ ?_ ?_
  · intro _ c h
    obtain ⟨setting, hof, hprepared⟩ := h
    have hbody' := hbody setting c hprepared.working.sound
    rw [withDestructor, wp_bind, wp_onRaise]
    refine wp_mono hbody' (fun a c' h => ?_) (fun e c' h => ?_) fun c' h => ?_
    · exact .inr ⟨setting, hof, c', h, rfl⟩
    · exact .inr ⟨setting, hof, c', h, rfl⟩
    · exact .inr ⟨setting, hof, h⟩
  · intro e c h
    rcases h with hunsent | ⟨setting, hof, hdestroyed⟩
    · exact .inl ⟨rfl, hunsent⟩
    · exact .inr ⟨setting, hof, hdestroyed⟩
  · intro c h
    obtain ⟨setting, hof, hworking⟩ := h
    exact .inr ⟨setting, hof, hworking.sound⟩

/-- A run of the client leaves a sound session behind, or a destroyed one, or
sent nothing. -/
theorem queryRun_leaves {sql : Bytes} {credentials : QueryCredentials} {options : QueryOptions}
    {live : Bool} {c : Client} (h : QueryRun env sql credentials options live c) :
    Leaves env options credentials live c := by
  have hexecute : ∀ fuel, wp (QueryApiV3Client.execute env fuel sql credentials options)
      (fun _ => Leaves env options credentials false)
      (fun _ => Leaves env options credentials false)
      (Leaves env options credentials true) {} := fun fuel =>
    wp_preparedScope fun _ => keeps_collectChunks fuel
  have hmetadata : ∀ fuel, wp (QueryApiV3Client.executeMetadata env fuel sql credentials options)
      (fun _ => Leaves env options credentials false)
      (fun _ => Leaves env options credentials false)
      (Leaves env options credentials true) {} := fun fuel =>
    wp_preparedScope fun _ => keeps_bind (keeps_read _) fun _ => keeps_pure _
  cases h with
  | @preparing fuel metadataOnly _ run =>
      obtain ⟨setting, hof, hworking⟩ := (wp_iff.mp
        (wp_prepareInternal fuel sql credentials metadataOnly options)).2.2 _ run
      exact .inr ⟨setting, hof, hworking.sound⟩
  | @refused fuel metadataOnly e _ run =>
      rcases (wp_iff.mp (wp_prepareInternal fuel sql credentials metadataOnly options)).2.1 _ _ run
        with hunsent | ⟨setting, hof, hdestroyed⟩
      · exact .inl ⟨rfl, hunsent⟩
      · exact .inr ⟨setting, hof, hdestroyed⟩
  | @handled fuel metadataOnly c₀ slot run calls =>
      obtain ⟨setting, hof, hprepared⟩ := (wp_iff.mp
        (wp_prepareInternal fuel sql credentials metadataOnly options)).1 _ _ run
      have hrun := (handleMachine env).run_keeps (I := QueryWorld.Sound env setting) handles_keep
        (s := ⟨c₀, some (.prepared slot)⟩) hprepared.working.sound calls
      refine .inr ⟨setting, hof, ?_⟩
      unfold QueryWorld.Sound at hrun ⊢
      cases howner : ((handleMachine env).run ⟨c₀, some (.prepared slot)⟩ calls).owner with
      | none => simpa [howner] using hrun
      | some handle => simpa [howner] using hrun
  | @executing fuel _ run => exact (wp_iff.mp (hexecute fuel)).2.2 _ run
  | @executed fuel outcome _ run ended =>
      cases outcome with
      | ret value => exact (wp_iff.mp (hexecute fuel)).1 _ _ run
      | raise e => exact (wp_iff.mp (hexecute fuel)).2.1 _ _ run
      | cut => exact (ended rfl).elim
  | @describing fuel _ run => exact (wp_iff.mp (hmetadata fuel)).2.2 _ run
  | @described fuel outcome _ run ended =>
      cases outcome with
      | ret value => exact (wp_iff.mp (hmetadata fuel)).1 _ _ run
      | raise e => exact (wp_iff.mp (hmetadata fuel)).2.1 _ _ run
      | cut => exact (ended rfl).elim

/-! ## A query that is abandoned -/

/-- Surroundings that answer every request with one direct response. -/
def sampleEnv : QueryEnv :=
  scriptedEnv (fun _ => 0) (fun _ => some { status := 200 }) fun _ => .response
    { state := .complete
      queryId := ascii "q-1"
      metadata := [⟨ascii "id", ascii "bigint", false, false, false, 0, 0⟩]
      chunk := { rows := [[some (ascii "1")]] } }

/-- A query that is prepared in them. -/
def samplePrepared : Outcome QueryError Unit × Client :=
  QueryApiV3Client.prepareInternal sampleEnv 1 (ascii "SELECT 1") sampleCredentials false {} {}

/-- The query, opened, moved and destroyed. -/
def sampleWorld : QueryWorld :=
  (handleMachine sampleEnv).run ⟨samplePrepared.2, some (.prepared 0)⟩
    [.openCursor 0 0, .moveCursor 0 1, .destroy (.cursor 1)]

theorem sampleRun :
    QueryRun sampleEnv (ascii "SELECT 1") sampleCredentials {} false sampleWorld.client := by
  have hreturns : samplePrepared = (.ret (), samplePrepared.2) :=
    run_eq_of_fst (by decide +kernel)
  have hended : sampleWorld.owner.isSome = false := by decide +kernel
  have hrun : QueryRun sampleEnv (ascii "SELECT 1") sampleCredentials {}
      sampleWorld.owner.isSome sampleWorld.client := .handled hreturns _
  rw [hended] at hrun
  exact hrun

end Data360
