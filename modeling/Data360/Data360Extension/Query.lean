import Data360.ScanRuntime
import Data360.SessionCredentials
import Data360.AuthSessionRegistry.ExpiringMap
import Data360.LibcurlTransport.Queries
import Data360.QueryApi.Requests

/-!
# The table function

`data360_query` of `src/data360_extension.cpp`: `Data360QueryBind`,
`Data360QueryInit` and `Data360QueryFunction`, each with its handlers.  They
look up a secret, resolve its handle in the registry, and run a query with the
credentials that they find.

* `Scans`, `queryBind_runs` and `scanned_runs` say that the query client goes through a
  `QueryRun` in each of them, so that what is proved about those runs holds of the table
  function.
* `LiveAt` is a credential that a handle has, and `SpeaksFor` what a request does with it.
* `queries_need_login` says whose credentials a statement uses, and that it sends nothing
  without them.
-/

namespace Data360

open Lib Lib.ByteString Lib.Prog Session

/-! ## What the table function throws -/

/-- An `InterruptException`, what the secret manager threw, a `BinderException`, an
`InvalidInputException`, or a step without a defined behaviour. -/
inductive StatementError where
  | interrupted
  | lookup
  | binder (message : Bytes)
  | invalidInput (message : Bytes)
  | undefinedBehaviour
  deriving DecidableEq, Repr

/-- What happens in the second `try` block of `Data360QueryBind`. -/
inductive BindThrow where
  | query (error : QueryError)
  | binder (message : String)
  deriving DecidableEq, Repr

namespace StatementError

/-- The text of a login that is no longer there. -/
def reauthText : Bytes := ascii (formatSafeFault .reauthRequired)

/-- The text of a query that failed. -/
def failedText : Bytes := ascii "Data 360 query execution failed"

/-- The handlers of `Data360QueryBind`, for a context that is interrupted or not. -/
def ofBind (interrupted : Bool) : BindThrow → StatementError
  | .query .reauthRequired => .binder reauthText
  | .binder message => .binder (ascii message)
  | .query _ => if interrupted then .interrupted else .binder failedText

/-- What `Data360QueryInit` throws, and the Arrow scan, which has the same handlers. -/
def ofTableFunction : TableFunctionError → StatementError
  | .interrupted => .interrupted
  | .invalidInput message => .invalidInput (ascii message)

/-- The handlers of `Data360QueryFunction` around `FillDataChunk`. -/
def ofFill (interrupted : Bool) : FillError QueryError → StatementError
  | .source .reauthRequired => .invalidInput reauthText
  | .invalidInput message => .invalidInput message
  | .outOfBounds => .undefinedBehaviour
  | .source _ => if interrupted then .interrupted else .invalidInput failedText

end StatementError

/-! ## Binding and opening -/

/-- What `SecretManager::GetSecretByName` does. -/
inductive SecretLookup where
  | throws
  | absent
  | found (secret : CatalogSecret)

/-- `Data360BindData`, whole. -/
structure BoundQuery extends Data360BindData where
  sql : Bytes
  credentialId : Bytes
  deriving DecidableEq, Repr

/-- What a call reads besides its arguments: the fuel of its loops, the clock of the
registry, and whether the context is interrupted when a handler asks. -/
structure CallContext where
  fuel : Nat
  now : UInt64
  interrupted : Bool

namespace Data360Query

/-- The checks of `Data360QueryBind` on the secret, and the handle in it. -/
def secretHandle (secretName : Bytes) (secret : CatalogSecret) : Except StatementError Bytes :=
  if secret.secretType ≠ "data360" then
    .error (.binder (ascii "Secret '" ++ secretName ++ ascii "' is not a Data 360 secret"))
  else if secret.provider ≠ "oauth_pkce" then
    .error (.binder (ascii "Data 360 secret '" ++ secretName ++
      ascii "' uses an unsupported provider"))
  else
    match secret.sessionId with
    | none => .error (.binder (ascii "Data 360 OAuth secret is invalid"))
    | some credentialId => .ok credentialId

/-- The second `try` block of `Data360QueryBind`. -/
def bindBody (env : QueryEnv) (fuel : Nat) (sql : Bytes) (credentials : QueryCredentials) :
    Outcome BindThrow Data360BindData × Client :=
  match QueryApiV3Client.executeMetadata env fuel sql credentials {} {} with
  | (.ret result, left) =>
      match data360QueryBind result.metadata with
      | .ok bound => (.ret bound, left)
      | .error message => (.raise (.binder message), left)
  | (.raise e, left) => (.raise (.query e), left)
  | (.cut, left) => (.cut, left)

/-- `Data360QueryBind`: its result, and what it leaves of the registry and of its query
client. -/
def queryBind (env : QueryEnv) (context : CallContext) (lookup : SecretLookup)
    (secretName sql : Bytes) (registry : Registry) :
    Outcome StatementError BoundQuery × Registry × Client :=
  match lookup with
  | .throws => (.raise .lookup, registry, {})
  | .absent =>
      (.raise (.binder (ascii "Data 360 secret '" ++ secretName ++ ascii "' was not found")),
        registry, {})
  | .found secret =>
      match secretHandle secretName secret with
      | .error e => (.raise e, registry, {})
      | .ok credentialId =>
          let effect := registry.resolveCredential credentialId context.now
          match effect.outcome with
          | .error _ =>
              (.raise (if context.interrupted then .interrupted
                else .binder StatementError.reauthText), effect.registry, {})
          | .ok credentials =>
              match bindBody env context.fuel sql credentials with
              | (.ret bound, left) =>
                  (.ret { toData360BindData := bound, sql, credentialId }, effect.registry, left)
              | (.raise e, left) => (.raise (.ofBind context.interrupted e), effect.registry, left)
              | (.cut, left) => (.cut, effect.registry, left)

variable {Row V : Type}

/-- `Data360QueryInit`. -/
def queryInit (env : QueryEnv) (context : CallContext) (bound : BoundQuery) (registry : Registry) :
    Outcome StatementError (Data360GlobalState Row) × Registry × Client :=
  let effect := registry.resolveCredential bound.credentialId context.now
  match effect.outcome with
  | .error _ =>
      (.raise (if context.interrupted then .interrupted
        else .invalidInput StatementError.reauthText), effect.registry, {})
  | .ok credentials =>
      match data360QueryInit env context.fuel bound.toData360BindData bound.sql credentials
        context.interrupted with
      | (.ret state, left) => (.ret state, effect.registry, left)
      | (.raise e, left) => (.raise (.ofTableFunction e), effect.registry, left)
      | (.cut, left) => (.cut, effect.registry, left)

/-! ## Scanning -/

/-- A call of `Data360QueryFunction`: the fuel of its loop, the capacity of the output,
and whether the context is interrupted when a handler asks. -/
structure ScanCall where
  fuel : Nat
  capacity : Nat
  interrupted : Bool

/-- What a call puts into the output. -/
inductive ScanOutput (Row V : Type) where
  | arrow (rows : List Row)
  | json (rows : List (List (Option V)))

/-- `Data360QueryFunction`. -/
def queryFunction (env : QueryEnv) (library : ArrowLibrary Row)
    (castAs : LogicalType → Bytes → Option V) (bound : BoundQuery) (call : ScanCall) :
    Data360GlobalState Row →
      Outcome StatementError (ScanOutput Row V) × Data360GlobalState Row
  | .arrowSource source =>
      match ArrowScanSource.next env library call.fuel source with
      | (.ret rows, left) => (.ret (.arrow (rows.getD [])), .arrowSource left)
      | (.raise e, left) =>
          (.raise (.ofTableFunction (.of call.interrupted e)), .arrowSource left)
      | (.cut, left) => (.cut, .arrowSource left)
  | .source scan =>
      match fillDataChunk (cursorChunkSource env) castAs bound.types bound.names call.capacity
        call.fuel scan with
      | (.ret rows, left) => (.ret (.json rows), .source left)
      | (.raise e, left) => (.raise (.ofFill call.interrupted e), .source left)
      | (.cut, left) => (.cut, .source left)

/-- The machine of the calls of one scan. -/
def statementMachine (env : QueryEnv) (library : ArrowLibrary Row)
    (castAs : LogicalType → Bytes → Option V) (bound : BoundQuery) :
    Machine (Data360GlobalState Row) ScanCall (Outcome StatementError (ScanOutput Row V)) :=
  ⟨queryFunction env library castAs bound⟩

end Data360Query

/-- The query client of an open scan. -/
def Data360GlobalState.client {Row : Type} : Data360GlobalState Row → Client
  | .arrowSource arrow => arrow.client
  | .source scan => scan.source

/-! ## The runs of the query client -/

/-- The session of `sql`, with these credentials, was prepared and has gone through calls
on its cursor. -/
def Scans (env : QueryEnv) (sql : Bytes) (credentials : QueryCredentials) (c : Client) : Prop :=
  ∃ fuel prepared calls, QueryApiV3Client.prepareInternal env fuel sql credentials false {} {} =
    (.ret (), prepared) ∧ c = (cursorMachine env).run prepared calls

section Scans

variable {env : QueryEnv} {sql : Bytes} {credentials : QueryCredentials} {c : Client}

/-- The calls on a cursor, as calls on the handle that owns the session. -/
theorem run_cursorCalls (c : Client) (calls : List CursorCall) :
    (handleMachine env).run ⟨c, some (.cursor 0)⟩ (calls.map (.cursorCall 0)) =
      ⟨(cursorMachine env).run c calls, some (.cursor 0)⟩ := by
  induction calls generalizing c with
  | nil => rfl
  | cons call rest ih =>
      have hcall : ((handleMachine env).step (.cursorCall 0 call) ⟨c, some (.cursor 0)⟩).2 =
          ⟨((cursorMachine env).step call c).2, some (.cursor 0)⟩ := by
        show (callHandle (.cursor 0) cursorUnavailable _ ⟨c, some (.cursor 0)⟩).2 = _
        rw [callHandle, if_pos rfl]
        exact congrArg (QueryWorld.mk · (some (.cursor 0)))
          (bind_pure_snd (call.program env) HandleValue.cursor c)
      show (handleMachine env).run ((handleMachine env).step (.cursorCall 0 call) _).2 _ = _
      rw [hcall]
      exact ih _

/-- The handles of a scan. -/
theorem run_opened (c : Client) (calls : List CursorCall) :
    (handleMachine env).run ⟨c, some (.prepared 0)⟩
        (.openCursor 0 0 :: calls.map (.cursorCall 0)) =
      ⟨(cursorMachine env).run c calls, some (.cursor 0)⟩ :=
  run_cursorCalls c calls

/-- At its end the session is destroyed. -/
theorem Scans.destroyed (h : Scans env sql credentials c) :
    QueryRun env sql credentials {} false (cancel env c) := by
  obtain ⟨fuel, prepared, calls, hprepared, rfl⟩ := h
  have hrun := @QueryRun.handled env sql credentials {} fuel false prepared 0 hprepared
    ((.openCursor 0 0 :: calls.map (.cursorCall 0)) ++ [.destroy (.cursor 0)])
  rw [Machine.run_append, run_opened] at hrun
  exact hrun

/-- One more call on the cursor. -/
theorem Scans.call (h : Scans env sql credentials c) (call : CursorCall) :
    Scans env sql credentials (call.program env c).2 := by
  obtain ⟨fuel, prepared, calls, hprepared, rfl⟩ := h
  refine ⟨fuel, prepared, calls ++ [call], hprepared, ?_⟩
  rw [Machine.run_concat]
  rfl

theorem Scans.nextChunk (h : Scans env sql credentials c) :
    Scans env sql credentials (QueryCursor.nextChunk env c).2 := by
  rw [← bind_pure_snd (QueryCursor.nextChunk env) CursorValue.chunk]
  exact h.call .nextChunk

theorem Scans.nextArrowChunk (h : Scans env sql credentials c) :
    Scans env sql credentials (QueryCursor.nextArrowChunk env c).2 := by
  rw [← bind_pure_snd (QueryCursor.nextArrowChunk env) CursorValue.arrow]
  exact h.call .nextArrowChunk

theorem Scans.reportArrowChunk (h : Scans env sql credentials c) (decodedRows : UInt64) :
    Scans env sql credentials (QueryCursor.reportArrowChunk env decodedRows c).2 := by
  rw [← bind_pure_snd (QueryCursor.reportArrowChunk env decodedRows) fun _ => CursorValue.reported]
  exact h.call (.reportArrowChunk decodedRows)

end Scans

section Calls

variable {Row V : Type} {env : QueryEnv} {sql : Bytes} {credentials : QueryCredentials} {c : Client}

/-- `FillDataChunk` makes calls on the cursor of its source. -/
theorem keeps_fill_scans (castAs : LogicalType → Bytes → Option V) (types : List LogicalType)
    (names : List Bytes) (capacity fuel : Nat) (output : List (List (Option V))) :
    Keeps (fun scan : ScanState Client QueryError => Scans env sql credentials scan.source)
      (fillLoop (cursorChunkSource env) castAs types names capacity fuel output) := by
  have hsource (scan : ScanState Client QueryError) (h : Scans env sql credentials scan.source) :
      Scans env sql credentials (scan.fetched (cursorChunkSource env)).source := by
    have hnext := h.nextChunk
    show Scans env sql credentials (cursorChunkSource env scan.source).2.2
    unfold cursorChunkSource
    split
    · rename_i chunk left hrun
      rwa [hrun] at hnext
    · rename_i left hrun
      rwa [hrun] at hnext
    · rename_i e left hrun
      rwa [hrun] at hnext
    · rename_i left hrun
      exact (nextChunk_ne_cut hrun).elim
  induction fuel generalizing output with
  | zero => exact keeps_outOfFuel
  | succ fuel ih =>
      intro scan h
      rw [fillLoop, wp_bind, wp_read, wp_ite]
      refine ⟨fun _ => h, fun _ => ?_⟩
      rw [wp_ite]
      refine ⟨fun _ => ?_, fun _ => ?_⟩
      · rw [wp_bind]
        refine wp_fetchChunk (fun more _ => ?_) fun _ _ => hsource scan h
        rw [wp_ite]
        exact ⟨fun _ => ih output _ (hsource scan h), fun _ => hsource scan h⟩
      · rw [wp_bind, wp_takeRow, wp_bind, wp_orThrow]
        exact ⟨fun values _ => ih _ _ h, fun _ _ => h⟩

/-- A call on the cursor of an Arrow source. -/
theorem keeps_onCursor {α : Type} {I : Client → Prop} {prog : Query α}
    (h : ∀ c, I c → I (prog c).2) :
    Keeps (fun source : ArrowScanSource Row => I source.client)
      (ArrowScanSource.onCursor prog) := fun source hsource =>
  wp_onCursor.mpr (wp_final.mpr (h source.client hsource))

theorem keeps_readOn {I : Client → Prop} :
    Keeps (fun source : ArrowScanSource Row => I source.client) ArrowScanSource.readOn := by
  intro source h
  have hsame : (ArrowScanSource.readOn source).2.client = source.client := by
    unfold ArrowScanSource.readOn
    split
    · rfl
    · split
      · rfl
      · rfl
      · rfl
  refine wp_final.mpr ?_
  rw [hsame]
  exact h

theorem keeps_orInvalid {α : Type} {I : Client → Prop} (answer : Except String α) :
    Keeps (fun source : ArrowScanSource Row => I source.client)
      (ArrowScanSource.orInvalid answer) := by
  cases answer with
  | ok value => exact keeps_pure _
  | error message => exact keeps_raise _

/-- So does `ArrowScanSource::Next`. -/
theorem keeps_next_scans (library : ArrowLibrary Row) (fuel : Nat) :
    Keeps (fun source : ArrowScanSource Row => Scans env sql credentials source.client)
      (ArrowScanSource.next env library fuel) := by
  induction fuel with
  | zero => exact keeps_outOfFuel
  | succ fuel ih =>
      refine keeps_bind keeps_readOn fun output => ?_
      cases output with
      | some rows => exact keeps_pure _
      | none =>
          refine keeps_bind (keeps_onCursor fun c h => h.nextArrowChunk) fun response => ?_
          cases response with
          | none => exact keeps_pure _
          | some response =>
              refine keeps_bind ?_ fun _ => ih
              refine keeps_bind (keeps_read _) fun source => keeps_bind (keeps_orInvalid _)
                fun validated => ?_
              exact keeps_bind (keeps_onCursor fun c h => h.reportArrowChunk _) fun _ =>
                keeps_update fun _ h => h

namespace Data360Query

/-- A call of `Data360QueryFunction` makes calls on the cursor. -/
theorem queryFunction_scans (library : ArrowLibrary Row) (castAs : LogicalType → Bytes → Option V)
    (bound : BoundQuery) (call : ScanCall) {state : Data360GlobalState Row}
    (h : Scans env sql credentials state.client) :
    Scans env sql credentials (queryFunction env library castAs bound call state).2.client := by
  cases state with
  | arrowSource source =>
      have hnext := wp_final.mp (keeps_next_scans library call.fuel source h)
      rw [queryFunction]
      split
      · rename_i hrun
        rwa [hrun] at hnext
      · rename_i hrun
        rwa [hrun] at hnext
      · rename_i hrun
        rwa [hrun] at hnext
  | source scan =>
      have hfill := wp_final.mp (keeps_fill_scans castAs bound.types bound.names call.capacity
        call.fuel [] scan h)
      rw [queryFunction]
      split
      · rename_i hrun
        rw [fillDataChunk] at hrun
        rwa [hrun] at hfill
      · rename_i hrun
        rw [fillDataChunk] at hrun
        rwa [hrun] at hfill
      · rename_i hrun
        rw [fillDataChunk] at hrun
        rwa [hrun] at hfill

/-- In a scan, the query client goes through a run. -/
theorem scans_run (library : ArrowLibrary Row) (castAs : LogicalType → Bytes → Option V)
    (bound : BoundQuery) {state : Data360GlobalState Row}
    (h : Scans env sql credentials state.client) (calls : List ScanCall) :
    Scans env sql credentials
      ((statementMachine env library castAs bound).run state calls).client :=
  (statementMachine env library castAs bound).run_keeps
    (I := fun state => Scans env sql credentials state.client)
    (fun _ call h => queryFunction_scans library castAs bound call h) h calls

/-- Opening a scan takes the session as it is. -/
theorem wp_openScan (bind : Data360BindData) (c : Client) :
    wp (openScan bind : Prog Client ScanError (Data360GlobalState Row))
      (fun state c' => state.client = c ∧ c' = c) (fun _ c' => c' = c) (fun _ => False) c := by
  rw [openScan, wp_bind, wp_read, wp_bind, wp_raiseIf]
  refine ⟨fun _ => rfl, fun _ => ?_⟩
  rw [wp_ite]
  refine ⟨fun _ => ?_, fun _ => ⟨rfl, rfl⟩⟩
  cases hexpected : expectedArrowSchema c.session.metadata with
  | error message =>
      have hsource : (ArrowScanSource.create c c.session.metadata bind.types :
          Except String (ArrowScanSource Row)) = .error message := by
        rw [ArrowScanSource.create, hexpected]
        rfl
      simp only [id_eq, hsource]
      rfl
  | ok expected =>
      have hsource : (ArrowScanSource.create c c.session.metadata bind.types :
          Except String (ArrowScanSource Row)) =
            .ok { client := c, expected, types := bind.types } := by
        rw [ArrowScanSource.create, hexpected]
        rfl
      simp only [id_eq, hsource]
      exact ⟨rfl, rfl⟩

/-- How the client is left by `Data360QueryInit`. -/
def LeftBy (env : QueryEnv) (sql : Bytes) (credentials : QueryCredentials) (c : Client) :
    Outcome TableFunctionError (Data360GlobalState Row) → Prop
  | .ret state => Scans env sql credentials state.client ∧ c = state.client
  | .raise _ => QueryRun env sql credentials {} false c
  | .cut => QueryRun env sql credentials {} true c

/-- A scan that `Data360QueryInit` opens holds a prepared session; when it opens none, the
session is gone. -/
theorem data360QueryInit_runs (env : QueryEnv) (fuel : Nat) (bind : Data360BindData) (sql : Bytes)
    (credentials : QueryCredentials) (interrupted : Bool) :
    LeftBy env sql credentials
      (@data360QueryInit Row env fuel bind sql credentials interrupted).2
      (@data360QueryInit Row env fuel bind sql credentials interrupted).1 := by
  have hbody : wp (initBody env fuel bind sql credentials)
      (fun state c => Scans env sql credentials (@Data360GlobalState.client Row state) ∧
        c = state.client)
      (fun _ c => QueryRun env sql credentials {} false c)
      (fun c => QueryRun env sql credentials {} true c) {} := by
    rw [initBody, wp_bind]
    rcases hprepare : QueryApiV3Client.prepareInternal env fuel sql credentials false {} {} with
      ⟨outcome, c⟩
    cases outcome with
    | ret value =>
        have hrun :
            onClient (QueryApiV3Client.prepareInternal env fuel sql credentials false {}) {} =
            (.ret value, c) := by rw [onClient, hprepare]
        have hscans : Scans env sql credentials c := ⟨fuel, c, [], hprepare, rfl⟩
        rw [wp_of_ret hrun, wp_onRaise]
        refine wp_mono (wp_openScan bind c) (fun state c' h => ?_) (fun e c' h => ?_)
          fun _ h => h.elim
        · rw [h.1]
          exact ⟨hscans, h.2⟩
        · rw [wp_update, h]
          exact hscans.destroyed
    | raise e =>
        have hrun :
            onClient (QueryApiV3Client.prepareInternal env fuel sql credentials false {}) {} =
            (.raise (.query e), c) := by rw [onClient, hprepare]
        rw [wp_of_raise hrun]
        exact .refused hprepare
    | cut =>
        have hrun :
            onClient (QueryApiV3Client.prepareInternal env fuel sql credentials false {}) {} =
            (.cut, c) := by rw [onClient, hprepare]
        rw [wp, hrun]
        exact .preparing hprepare
  rw [wp_iff] at hbody
  unfold data360QueryInit
  split
  · rename_i state left hrun
    exact hbody.1 _ _ hrun
  · rename_i e left hrun
    exact hbody.2.1 _ _ hrun
  · rename_i left hrun
    exact hbody.2.2 _ hrun

/-- In `Data360QueryBind` the query client does nothing, or goes through a run with the
credentials of the secret's handle. -/
theorem queryBind_runs (env : QueryEnv) (context : CallContext) (lookup : SecretLookup)
    (secretName sql : Bytes) (registry : Registry) :
    (queryBind env context lookup secretName sql registry).2.2 = {} ∨
      ∃ secret id credentials alive, lookup = .found secret ∧
        secretHandle secretName secret = .ok id ∧
        (registry.resolveCredential id context.now).outcome = .ok credentials ∧
        QueryRun env sql credentials {} alive
          (queryBind env context lookup secretName sql registry).2.2 := by
  have hbody (credentials : QueryCredentials) : ∃ alive, QueryRun env sql credentials {} alive
      (bindBody env context.fuel sql credentials).2 := by
    rw [bindBody]
    split
    · rename_i result left hrun
      split
      · exact ⟨false, .described hrun (by simp)⟩
      · exact ⟨false, .described hrun (by simp)⟩
    · rename_i e left hrun
      exact ⟨false, .described hrun (by simp)⟩
    · rename_i left hrun
      exact ⟨true, .describing hrun⟩
  unfold queryBind
  split
  · exact .inl rfl
  · exact .inl rfl
  · rename_i secret
    split
    · exact .inl rfl
    · rename_i id hhandle
      dsimp only
      split
      · exact .inl rfl
      · rename_i credentials hresolved
        obtain ⟨alive, hrun⟩ := hbody credentials
        refine .inr ⟨secret, id, credentials, alive, rfl, hhandle, hresolved, ?_⟩
        split
        · rename_i heq
          rwa [heq] at hrun
        · rename_i heq
          rwa [heq] at hrun
        · rename_i heq
          rwa [heq] at hrun

end Data360Query

end Calls

/-! ## Whose credentials -/

/-- The registry keeps this credential under the handle: it was stored there last, and has
not expired. -/
structure LiveAt (past : List RegistryEvent) (id : Bytes) (now : UInt64)
    (credential : Credential) : Prop where
  stored : StoredLast id past credential
  inTime : now < credential.expiresAtMs

/-- The request is one of the statement `sql`, and carries the token of the credential to
its tenant. -/
structure SpeaksFor (sql : Bytes) (credential : Credential) (r : HttpRequest) : Prop where
  shaped : LibcurlTransport.Shaped sql ⟨credential.instanceUrl, credential.accessToken⟩ {} r
  followRedirects : r.followRedirects = false
  url : ∃ host path, TenantHost host ∧ OriginOf host credential.instanceUrl ∧ QueryTarget path ∧
    r.url = ascii "https://" ++ host ++ path

/-- No call before read a later clock. -/
def NotAfter (earlier : List Call) (now : UInt64) : Prop :=
  ∀ call ∈ earlier, ∀ reading, call.purgeTime = some reading → reading ≤ now

instance (earlier : List Call) (now : UInt64) : Decidable (NotAfter earlier now) :=
  decidable_of_iff
    (∀ call ∈ earlier, (call.purgeTime.all fun reading => reading ≤ now) = true) <| by
    refine forall₂_congr fun call _ => ?_
    cases call.purgeTime with
    | none => simp
    | some reading => simp

section Login

variable {Row V : Type} {env : QueryEnv} {earlier : List Call} {id : Bytes} {now : UInt64}
  {credentials : QueryCredentials} {sql : Bytes}

/-- What a lookup of the handle finds. -/
theorem resolve_outcome_run (clock : NotAfter earlier now) (id : Bytes) :
    ((registryMachine.run {} earlier).resolveCredential id now).outcome =
      resolved (lookup Credential.expiresAtMs
        (latest ((registryMachine.trace {} earlier).map (change id))) now) := by
  rw [resolve_outcome, (stands_run earlier id fun e he reading hreading =>
    clock e.input (registryMachine.input_mem_of_mem_trace he) reading hreading).lookup_eq]

/-- A handle that resolves has a live credential. -/
theorem liveAt_of_resolved (clock : NotAfter earlier now)
    (h : ((registryMachine.run {} earlier).resolveCredential id now).outcome = .ok credentials) :
    ∃ credential, LiveAt (registryMachine.trace {} earlier) id now credential ∧
      credentials = ⟨credential.instanceUrl, credential.accessToken⟩ := by
  rw [resolve_outcome_run clock] at h
  cases hlookup : lookup Credential.expiresAtMs
      (latest ((registryMachine.trace {} earlier).map (change id))) now with
  | none =>
      rw [hlookup] at h
      cases h
  | some credential =>
      rw [hlookup] at h
      obtain ⟨hlatest, hlive⟩ := Option.filter_eq_some_iff.mp hlookup
      exact ⟨credential, ⟨storedLast_iff.mpr hlatest, by simpa using hlive⟩,
        (Except.ok.inj h).symm⟩

/-- A handle without a live credential does not resolve. -/
theorem unresolved_of_dead (clock : NotAfter earlier now)
    (h : ∀ credential, ¬ LiveAt (registryMachine.trace {} earlier) id now credential) :
    ∃ e, ((registryMachine.run {} earlier).resolveCredential id now).outcome = .error e := by
  cases houtcome : ((registryMachine.run {} earlier).resolveCredential id now).outcome with
  | error e => exact ⟨e, rfl⟩
  | ok credentials =>
      obtain ⟨credential, hlive, -⟩ := liveAt_of_resolved clock houtcome
      exact absurd hlive (h credential)

/-- The requests of a run of the query client. -/
theorem speaksFor_of_run {alive : Bool} {c : Client} {credential : Credential}
    (run : QueryRun env sql ⟨credential.instanceUrl, credential.accessToken⟩ {} alive c)
    {r : HttpRequest} (hr : r ∈ sends c.log) : SpeaksFor sql credential r := by
  have hshaped := LibcurlTransport.queryRun_shaped run hr
  rcases queryRun_leaves run with ⟨-, hunsent⟩ | ⟨setting, hof, hworld⟩
  · rw [sends_of_quiet hunsent.log] at hr
    exact absurd hr List.not_mem_nil
  · have hsound := hworld.client
    obtain ⟨host, hhost, hurl, htrim⟩ := tenantHost_of_isTrustedTenantUrl hsound.session.trusted
    rw [hof.credentials] at hurl htrim
    have horigin : setting.origin = ascii "https://" ++ host := by
      rw [Setting.origin, hof.credentials, htrim]
    rcases hsound.log.of_mem_sends hr with hrequest | ⟨id, hcleanup⟩
    · obtain ⟨path, htarget, hpath⟩ := hrequest.url
      exact ⟨hshaped, hrequest.followRedirects, host, path, hhost, hurl, htarget,
        by rw [hpath, horigin]⟩
    · refine ⟨hshaped, hcleanup.followRedirects, host, queryPath ++ id, hhost, hurl,
        .query (queryId_of_isSafeQueryId hcleanup.safe), ?_⟩
      rw [hcleanup.url, horigin, List.append_assoc]

namespace Data360Query

/-- The query client of a scan: opened, called, and destroyed with its global state. -/
def scanned (env : QueryEnv) (library : ArrowLibrary Row)
    (castAs : LogicalType → Bytes → Option V) (context : CallContext) (bound : BoundQuery)
    (registry : Registry) (calls : List ScanCall) : Client :=
  match @queryInit Row env context bound registry with
  | (.ret state, _, _) =>
      cancel env ((statementMachine env library castAs bound).run state calls).client
  | (.raise _, _, left) => left
  | (.cut, _, left) => left

/-- A scan does nothing, or goes through a run with the credentials of its handle. -/
theorem scanned_runs (env : QueryEnv) (library : ArrowLibrary Row)
    (castAs : LogicalType → Bytes → Option V) (context : CallContext) (bound : BoundQuery)
    (registry : Registry) (calls : List ScanCall) :
    scanned env library castAs context bound registry calls = {} ∨
      ∃ credentials alive,
        (registry.resolveCredential bound.credentialId context.now).outcome = .ok credentials ∧
        QueryRun env bound.sql credentials {} alive
          (scanned env library castAs context bound registry calls) := by
  unfold scanned queryInit
  dsimp only
  cases hresolved : (registry.resolveCredential bound.credentialId context.now).outcome with
  | error e => exact .inl rfl
  | ok credentials =>
      have hleft := @data360QueryInit_runs Row env context.fuel bound.toData360BindData
        bound.sql credentials context.interrupted
      right
      dsimp only
      cases hinit : @data360QueryInit Row env context.fuel bound.toData360BindData bound.sql
          credentials context.interrupted with
      | mk outcome left =>
          rw [hinit] at hleft
          cases outcome with
          | ret state =>
              have hscans := scans_run library castAs bound hleft.1 calls
              exact ⟨credentials, false, rfl, hscans.destroyed⟩
          | raise e => exact ⟨credentials, false, rfl, hleft⟩
          | cut => exact ⟨credentials, true, rfl, hleft⟩

/-- Every request of a statement is made with the credential that was stored last under the
handle of its secret, that was not removed and had not expired when the statement looked it
up; it goes to the tenant of that credential and is part of the statement.  Where there is
no such credential the user is asked to log in again. -/
theorem queries_need_login {context : CallContext} (clock : NotAfter earlier context.now)
    (env : QueryEnv) (library : ArrowLibrary Row) (castAs : LogicalType → Bytes → Option V)
    (lookup : SecretLookup) (secretName sql : Bytes) (bound : BoundQuery) (calls : List ScanCall) :
    (∀ r ∈ sends (queryBind env context lookup secretName sql
        (registryMachine.run {} earlier)).2.2.log,
      ∃ secret id credential, lookup = .found secret ∧ secretHandle secretName secret = .ok id ∧
        LiveAt (registryMachine.trace {} earlier) id context.now credential ∧
        SpeaksFor sql credential r) ∧
    (∀ r ∈ sends (scanned env library castAs context bound (registryMachine.run {} earlier)
        calls).log,
      ∃ credential,
        LiveAt (registryMachine.trace {} earlier) bound.credentialId context.now credential ∧
        SpeaksFor bound.sql credential r) ∧
    (∀ secret id, lookup = .found secret → secretHandle secretName secret = .ok id →
      (∀ credential, ¬ LiveAt (registryMachine.trace {} earlier) id context.now credential) →
        (queryBind env context lookup secretName sql (registryMachine.run {} earlier)).1 =
          .raise (if context.interrupted then .interrupted
            else .binder StatementError.reauthText)) ∧
    ((∀ credential,
        ¬ LiveAt (registryMachine.trace {} earlier) bound.credentialId context.now credential) →
      (@queryInit Row env context bound (registryMachine.run {} earlier)).1 =
        .raise (if context.interrupted then .interrupted
          else .invalidInput StatementError.reauthText)) := by
  refine ⟨fun r hr => ?_, fun r hr => ?_, fun secret id hlookup hhandle hdead => ?_,
    fun hdead => ?_⟩
  · rcases queryBind_runs env context lookup secretName sql (registryMachine.run {} earlier) with
      hidle | ⟨secret, id, credentials, alive, hlookup, hhandle, hresolved, hrun⟩
    · rw [hidle] at hr
      exact absurd hr List.not_mem_nil
    · obtain ⟨credential, hlive, rfl⟩ := liveAt_of_resolved clock hresolved
      exact ⟨secret, id, credential, hlookup, hhandle, hlive, speaksFor_of_run hrun hr⟩
  · rcases scanned_runs env library castAs context bound (registryMachine.run {} earlier) calls with
      hidle | ⟨credentials, alive, hresolved, hrun⟩
    · rw [hidle] at hr
      exact absurd hr List.not_mem_nil
    · obtain ⟨credential, hlive, rfl⟩ := liveAt_of_resolved clock hresolved
      exact ⟨credential, hlive, speaksFor_of_run hrun hr⟩
  · obtain ⟨e, houtcome⟩ := unresolved_of_dead clock hdead
    subst hlookup
    simp only [queryBind, hhandle, houtcome]
  · obtain ⟨e, houtcome⟩ := unresolved_of_dead clock hdead
    simp only [queryInit, houtcome]

end Data360Query

end Login

/-- A credential that was stored once. -/
def storedOnce : List Call := [
  .storeCredential (ascii "https://t.c360a.salesforce.com") (ascii "token") 100 10 10
    fun _ => some (Vector.replicate 16 0)]

/-- The query of a column in the sample service. -/
def sampleBound : BoundQuery where
  metadata := [⟨ascii "id", ascii "bigint", false, false, false, 0, 0⟩]
  types := [.bigint]
  names := [ascii "id"]
  sql := ascii "SELECT 1"
  credentialId := loginId

namespace Data360Query

/-- The lookup of a statement in time. -/
def sampleContext : CallContext := ⟨2, 20, false⟩

/-- What the sample service makes of the statement. -/
def boundOnce : Outcome StatementError BoundQuery × Registry × Client :=
  queryBind sampleEnv sampleContext (.found (sessionData360Secret loginId)) (ascii "login")
    (ascii "SELECT 1") (registryMachine.run {} storedOnce)

/-- The scan of it. -/
def scannedOnce : Client :=
  scanned sampleEnv (fun _ => (none : Option (ArrowStream Unit)))
    (fun _ text => some text) sampleContext sampleBound (registryMachine.run {} storedOnce)
    [⟨2, 2048, false⟩, ⟨2, 2048, false⟩]

/-- A statement with one login: it is described, and scanned. -/
theorem queries_need_login_sample :
    boundOnce.1 = .ret sampleBound ∧
    (sends boundOnce.2.2.log).length = 2 ∧ (sends scannedOnce.log).length = 1 ∧
    (∀ r ∈ sends boundOnce.2.2.log, ∃ secret id credential,
      SecretLookup.found (sessionData360Secret loginId) = .found secret ∧
      secretHandle (ascii "login") secret = .ok id ∧
      LiveAt (registryMachine.trace {} storedOnce) id 20 credential ∧
      SpeaksFor (ascii "SELECT 1") credential r) ∧
    ∀ r ∈ sends scannedOnce.log, ∃ credential,
      LiveAt (registryMachine.trace {} storedOnce) loginId 20 credential ∧
        SpeaksFor (ascii "SELECT 1") credential r := by
  have hneeds := @queries_need_login Unit Bytes storedOnce sampleContext (by decide +kernel)
    sampleEnv (fun _ => (none : Option (ArrowStream Unit))) (fun _ text => some text)
    (.found (sessionData360Secret loginId)) (ascii "login") (ascii "SELECT 1") sampleBound
    [⟨2, 2048, false⟩, ⟨2, 2048, false⟩]
  exact ⟨by decide +kernel, by decide +kernel, by decide +kernel, hneeds.1, hneeds.2.1⟩

end Data360Query

end Data360
