import Data360.JsonQueryResponseCodec.Counts
import Data360.QueryApi.Rules

/-!
# Ids that mask a status

In a body, the completion status goes before the id of the query.  In a response it
does not: an id in one of three headers is looked for first, and the body is not
read when there is one.

* `tellsStatus_iff` says when `Decode` reports the status of a body.
* `endsPolling_iff` says which responses end the polling.
* `finished_masked` is a finished query that goes on being polled.
-/

namespace Data360.JsonQueryResponseCodec

open Lib Lib.ByteString Lib.Prog Session

variable {readers : JsonReaders} {response : HttpResponse} {root : List (Bytes × Json.Value)}
  {state : Bytes}

/-- The answer is the state that the status denotes, with the counts of the body, or the
body is refused for a count. -/
inductive TellsStatus (root : List (Bytes × Json.Value)) (state : Bytes) :
    Except CodecError QueryResponse → Prop
  | told {result : QueryResponse} (hstate : result.state = completionState state)
      (hchunks : CountRead root (ascii "chunkCount") result.hasChunkCount result.chunkCount)
      (hrows : CountRead root (ascii "rowCount") result.hasRowCount result.rowCount) :
      TellsStatus root state (.ok result)
  | refused {message : String}
      (hmalformed : Malformed root (ascii "chunkCount") ∨ Malformed root (ascii "rowCount")) :
      TellsStatus root state (.error (.runtimeError message))

/-- A body that is read tells its status. -/
theorem tellsStatus_decodeBody
    (hstate : stringMember root (ascii "completionStatus") = some state) :
    TellsStatus root state (decodeBody root) := by
  have hbody : decodeBody root = decodeStatus ((stringMember root (ascii "queryId")).getD [])
    state root := by
    unfold decodeBody
    simp only [hstate]
  rcases optionalUnsigned_cases root (ascii "chunkCount") with ⟨chunkCount, hchunks,
    hchunkRead, -⟩ | ⟨herror, hchunks⟩
  · rcases optionalUnsigned_cases root (ascii "rowCount") with ⟨rowCount, hrows, hrowRead, -⟩ |
      ⟨herror, hrows⟩
    · rw [hbody, decodeStatus, hchunks, hrows]
      exact .told rfl hchunkRead.countRead hrowRead.countRead
    · rw [hbody, decodeStatus, hchunks, herror]
      exact .refused (.inr hrows)
  · rw [hbody, decodeStatus, herror]
    exact .refused (.inl hchunks)

/-- An id from the headers tells the status of a running query without counts only. -/
theorem tellsStatus_submitted (queryId : Bytes) :
    TellsStatus root state (.ok { state := .running, queryId }) ↔
      state = ascii "RUNNING" ∧ root.lookup (ascii "chunkCount") = none ∧
      root.lookup (ascii "rowCount") = none := by
  have hrunning : completionState state = .running ↔ state = ascii "RUNNING" := by
    unfold completionState
    split_ifs with hfinished hrunning
    · refine iff_of_false (by decide) ?_
      rcases hfinished with rfl | rfl
      · decide
      · decide
    · exact iff_of_true rfl hrunning
    · exact iff_of_false (by decide) hrunning
  constructor
  · rintro (⟨hstate, hchunks, hrows⟩ | _)
    exact ⟨hrunning.mp hstate.symm, hchunks.absent rfl, hrows.absent rfl⟩
  · rintro ⟨hstate, hchunks, hrows⟩
    exact .told (hrunning.mpr hstate).symm ⟨(fun h => by cases h), fun _ => hchunks⟩
      ⟨(fun h => by cases h), fun _ => hrows⟩

/-! ## Polling -/

/-- The loop of `PrepareInternal` ends with this response. -/
def EndsPolling (result : QueryResponse) : Prop :=
  ∀ (env : QueryEnv) (fuel : Nat) (c : Client),
    QueryApiV3Client.poll env (fuel + 1) result c = (.ret result, c)

theorem endsPolling_iff {result : QueryResponse} :
    EndsPolling result ↔ result.state ≠ .running := by
  constructor
  · intro hends hrunning
    -- without a query id, the loop throws when it goes on
    let env : QueryEnv :=
      ⟨fun _ _ => none, fun _ _ => .failure, fun _ => none, fun _ => none, fun _ _ => false⟩
    have hthrows : wp (QueryApiV3Client.poll env 1 result) (fun _ _ => False) (fun _ _ => True)
      (fun _ => True) {} := by
      rw [QueryApiV3Client.poll, if_neg (not_not.mpr hrunning)]
      simp only [wp_bind, wp_look, wp_raiseIf]
      exact ⟨fun _ => trivial, fun hsafe => absurd (by decide) hsafe⟩
    exact (wp_iff.mp hthrows).1 _ _ (hends env 0 {})
  · intro hstate env fuel c
    rw [QueryApiV3Client.poll, if_pos hstate]
    rfl

/-! ## Every response with a status -/

/-- `Decode` tells the status of a body exactly when no header holds an id, or the status is
that of a running query without counts.  A finished body ends the polling exactly when
no header holds an id, unless it is refused. -/
theorem tellsStatus_iff (hsuccess : 200 ≤ response.status ∧ response.status < 300)
    (hbody : readers.raw response.body = some (.object root))
    (hstate : stringMember root (ascii "completionStatus") = some state) :
    (TellsStatus root state (decode readers response) ↔
      headerId readers response.headers = none ∨ state = ascii "RUNNING" ∧
        root.lookup (ascii "chunkCount") = none ∧ root.lookup (ascii "rowCount") = none) ∧
    (state = ascii "FINISHED" ∨ state = ascii "RESULTS_PRODUCED" →
      ((∀ result, decode readers response = .ok result → EndsPolling result) ↔
        headerId readers response.headers = none)) := by
  cases hheaders : headerId readers response.headers with
  | none =>
      have hdecode := decode_of_readsBody ⟨hsuccess, hheaders, hbody⟩
      have htells := tellsStatus_decodeBody hstate
      rw [hdecode]
      refine ⟨iff_of_true htells (.inl rfl),
        fun hfinished => iff_of_true (fun result hresult => ?_) rfl⟩
      rw [hresult] at htells
      cases htells with
      | told hcompletion =>
          rw [endsPolling_iff, hcompletion, completionState, if_pos hfinished]
          decide
  | some queryId =>
      rw [decode_of_headerId hsuccess hheaders, tellsStatus_submitted]
      refine ⟨(or_iff_right (by simp)).symm, fun _ => iff_of_false (fun hends => ?_) (by simp)⟩
      exact endsPolling_iff.mp (hends _ rfl) rfl

/-- The members of a finished body. -/
def maskedRoot :
    List (Bytes × Json.Value) := [(ascii "completionStatus", .string (ascii "FINISHED"))]

/-- The answer to a poll of a finished query, from a server that names the query in the
location header. -/
def maskedResponse : HttpResponse where
  status := 200
  headers := (∅ : StringMap Bytes).insert (ascii "location") (ascii "/api/v3/query/q1")
  body := ascii "\x7b\"completionStatus\":\"FINISHED\"\x7d"

def maskedReaders : JsonReaders := readersOf maskedResponse.body maskedRoot

theorem masked_headerId :
    headerId maskedReaders maskedResponse.headers = some (ascii "q1") := by
  decide +kernel

theorem tellsStatus_iff_masked :
    TellsStatus maskedRoot (ascii "FINISHED") (decode maskedReaders maskedResponse) ↔
      headerId maskedReaders maskedResponse.headers = none ∨
        ascii "FINISHED" = ascii "RUNNING" ∧ maskedRoot.lookup (ascii "chunkCount") = none ∧
          maskedRoot.lookup (ascii "rowCount") = none :=
  (tellsStatus_iff (by decide) readersOf_raw (by decide)).1

/-- The query goes on being polled. -/
theorem finished_masked :
    ¬ TellsStatus maskedRoot (ascii "FINISHED") (decode maskedReaders maskedResponse) ∧
      ∃ result, decode maskedReaders maskedResponse = .ok result ∧ ¬ EndsPolling result := by
  have hdecode := decode_of_headerId (by decide) masked_headerId
  constructor
  · rw [hdecode, tellsStatus_submitted]
    exact fun h => absurd h.1 (by decide)
  · exact ⟨_, hdecode, fun hends => endsPolling_iff.mp hends rfl⟩

end Data360.JsonQueryResponseCodec
