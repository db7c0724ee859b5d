import Data360.QueryApi.Cursor
import Data360.Lib.Json

/-!
# The body of a query

`PrepareInternal` of `src/query_api.cpp` writes its JSON body by hand around
`JsonEscape`.

* `jsonEscape_eq` and `submitBody_eq` say that it writes what the JSON writer
  writes of `queryBody`.
* `submitBody_carries_sql` says what a JSON reader makes of the body.
-/

namespace Data360

open Lib Lib.ByteString QueryApiV3Client

/-- The JSON value that a query submits. -/
def queryBody (sql : Bytes) (rowLimit : Nat) : Json.Value :=
  .object [
    (ascii "sql", .string sql),
    (ascii "transferMode", .string (ascii "ASYNC")),
    (ascii "settings", .object [
      (ascii "timezone", .string (ascii "Etc/UTC")),
      (ascii "language", .string (ascii "en_US"))]),
    (ascii "queryRowLimit", .number (toDecimal rowLimit))]

theorem readable_queryBody (sql : Bytes) (rowLimit : Nat) :
    Json.Readable (queryBody sql rowLimit) := by
  refine .object fun member hmember => ?_
  simp only [List.mem_cons, List.not_mem_nil, or_false] at hmember
  rcases hmember with rfl | rfl | rfl | rfl
  · exact .string sql
  · exact .string _
  · refine .object fun setting hsetting => ?_
    simp only [List.mem_cons, List.not_mem_nil, or_false] at hsetting
    rcases hsetting with rfl | rfl
    · exact .string _
    · exact .string _
  · exact .number (Json.numberLiteral_toDecimal rowLimit)

/-- `JsonEscape` escapes as the JSON writer does. -/
theorem jsonEscape_eq (value : Bytes) : jsonEscape value = Json.escape value := by
  have hbyte : ∀ c, jsonEscapeCharacter c = Json.escapeByte c := fun c =>
    forall_byte (P := fun c => jsonEscapeCharacter c = Json.escapeByte c) (by decide +kernel) c
  rw [jsonEscape, Json.escape, funext hbyte]

/-- The body of a query is the text of its JSON value. -/
theorem submitBody_eq (sql : Bytes) (metadataOnly : Bool) (options : QueryOptions) :
    submitBody sql metadataOnly options
      = Json.write (queryBody sql (if metadataOnly then 1 else options.maxRows.toNat)) := by
  rw [submitBody, jsonEscape_eq]
  have hopen : Json.escape (ascii "sql") = ascii "sql" ∧
      Json.escape (ascii "transferMode") = ascii "transferMode" ∧
      Json.escape (ascii "ASYNC") = ascii "ASYNC" ∧
      Json.escape (ascii "settings") = ascii "settings" ∧
      Json.escape (ascii "timezone") = ascii "timezone" ∧
      Json.escape (ascii "Etc/UTC") = ascii "Etc/UTC" ∧
      Json.escape (ascii "language") = ascii "language" ∧
      Json.escape (ascii "en_US") = ascii "en_US" ∧
      Json.escape (ascii "queryRowLimit") = ascii "queryRowLimit" := by decide
  simp only [queryBody, Json.write, Json.writeMembers, hopen]
  simp [ascii]

/-- A JSON reader gets the SQL text back from the body of a query, next to the
fixed members and the row limit, whatever the text is. -/
theorem submitBody_carries_sql :
    (∀ text, Json.unescape (jsonEscape text) = some text) ∧
    ∀ (sql : Bytes) (credentials : QueryCredentials) (metadataOnly : Bool) (options : QueryOptions),
      ∃ rowLimit : Json.Value,
        Json.parse (submitRequest sql credentials metadataOnly options).body = some (.object [
          (ascii "sql", .string sql),
          (ascii "transferMode", .string (ascii "ASYNC")),
          (ascii "settings", .object [
            (ascii "timezone", .string (ascii "Etc/UTC")),
            (ascii "language", .string (ascii "en_US"))]),
          (ascii "queryRowLimit", rowLimit)]) ∧
        rowLimit.uint = some (if metadataOnly then 1 else options.maxRows) := by
  refine ⟨fun text => ?_, fun sql credentials metadataOnly options => ?_⟩
  · rw [jsonEscape_eq]
    exact Json.unescape_escape text
  · refine ⟨.number (toDecimal (if metadataOnly then 1 else options.maxRows.toNat)), ?_, ?_⟩
    · show Json.parse (submitBody sql metadataOnly options) = _
      rw [submitBody_eq]
      exact Json.parse_write (readable_queryBody sql _)
    · cases metadataOnly with
      | true => exact Json.uint_toDecimal 1
      | false => exact Json.uint_toDecimal options.maxRows

example : jsonEscape (ascii "a\"b\\c\n") = ascii "a\\\"b\\\\c\\n" := by decide

end Data360
