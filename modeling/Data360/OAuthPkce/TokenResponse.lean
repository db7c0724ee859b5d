import Data360.Lib.Json
import Data360.Origins

/-!
# The token response

`ParseOAuthTokenResponse` of `src/oauth_pkce.cpp`: what a login takes out of the
JSON document that the authorization server answers.

The JSON reader is a library outside the repository, so it is a parameter: it
reads a body into a value, or refuses it.
-/

namespace Data360

open Lib Lib.ByteString

/-- The JSON reader: `yyjson_read` and `yyjson_doc_get_root`. -/
abbrev JsonReader := Bytes → Option Json.Value

/-- `OAuthTokenResponse`. -/
structure OAuthTokenResponse where
  accessToken : Bytes
  instanceUrl : Bytes
  expiresInSeconds : UInt64 := 0
  deriving DecidableEq, Repr

/-- The error of a token response that is not accepted. -/
def invalidTokenResponse : OAuthError := ⟨"invalid OAuth token response"⟩

/-- `BoundedJsonString`. -/
def boundedJsonString (value : Option Json.Value) (maximum : Nat) : Except OAuthError Bytes :=
  match value with
  | some (.string text) =>
      if text.length = 0 ∨ text.length > maximum then .error invalidTokenResponse else .ok text
  | _ => .error invalidTokenResponse

/-- The members of a token response, once no name occurs twice. -/
def readTokenResponse (members : List (Bytes × Json.Value)) :
    Except OAuthError OAuthTokenResponse := do
  let accessToken ← boundedJsonString (members.lookup (ascii "access_token")) (16 * 1024)
  let instanceUrl ← boundedJsonString (members.lookup (ascii "instance_url")) 2048
  match members.lookup (ascii "token_type") with
  | none => pure ()
  | some tokenType => do
      let tokenType ← boundedJsonString (some tokenType) 16
      if tokenType ≠ ascii "Bearer" then .error invalidTokenResponse else pure ()
  match members.lookup (ascii "expires_in") with
  | none => pure { accessToken, instanceUrl }
  | some expiresIn =>
      match expiresIn.uint with
      | none => .error invalidTokenResponse
      | some expiresInSeconds =>
          if expiresInSeconds = 0 ∨ expiresInSeconds > 86400 * 365 then .error invalidTokenResponse
          else pure { accessToken, instanceUrl, expiresInSeconds }

/-- `ParseOAuthTokenResponse`. -/
def parseOAuthTokenResponse (readJson : JsonReader) (json : Bytes) :
    Except OAuthError OAuthTokenResponse :=
  if json = [] ∨ json.length > 64 * 1024 then .error invalidTokenResponse
  else
    match readJson json with
    | some (.object members) =>
        if ¬ (members.map Prod.fst).Nodup then .error invalidTokenResponse
        else readTokenResponse members
    | _ => .error invalidTokenResponse

end Data360
