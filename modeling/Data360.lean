import Data360.Lib.Bytes
import Data360.Lib.Prog
import Data360.Lib.Runs
import Data360.Lib.Twin
import Data360.Lib.Collect
import Data360.Lib.Quota
import Data360.Lib.Expiring
import Data360.Lib.Percent
import Data360.Lib.Json
import Data360.Lib.Base64
import Data360.Lib.Batches
import Data360.ErrorCodes
import Data360.OAuthPkce
import Data360.QueryApi.Model
import Data360.AuthSessionRegistry.Model
import Data360.AuthSessionRegistry.Transitions
import Data360.AuthSessionRegistry.Steps
import Data360.AuthSessionRegistry.History
import Data360.AuthSessionRegistry.Ownership
import Data360.AuthSessionRegistry.Completion
import Data360.AuthSessionRegistry.Credentials
import Data360.AuthFunctions
import Data360.AuthCallback
import Data360.AuthExpiry
import Data360.AuthCompletion
import Data360.SessionCredentials
import Data360.TypeMapping
import Data360.Data360Extension
import Data360.Data360Extension.Binding
import Data360.QueryApi.Validators
import Data360.QueryApi.Session
import Data360.QueryApi.Cursor
import Data360.QueryApi.Body
import Data360.QueryApi.Log
import Data360.QueryApi.Rules
import Data360.QueryApi.Sound
import Data360.QueryApi.Preparation
import Data360.QueryApi.Handles
import Data360.QueryApi.Requests
import Data360.QueryApi.Returns
import Data360.QueryApi.Sticky
import Data360.QueryApi.Delivery
import Data360.QueryApi.Calls
import Data360.QueryApi.Submission
import Data360.QueryApi.Accounting
import Data360.QueryApi.Agreement
import Data360.QueryApi.Termination
import Data360.QueryApi.Metadata
import Data360.QueryApi.Lateness
import Data360.QueryApi.Identity
import Data360.QueryApi.Formats
import Data360.ArrowIpcChunkReader
import Data360.ArrowIpcChunkReader.Batches
import Data360.ArrowIpcChunkReader.MediaType
import Data360.ArrowScanSource
import Data360.ScanRuntime
import Data360.ScanRuntime.Failures
import Data360.AuthSessionRegistry.Coherence
import Data360.AuthSessionRegistry.Capacity
import Data360.AuthSessionRegistry.ExpiringMap
import Data360.Origins
import Data360.OAuthPkce.AuthorizationUrl
import Data360.OAuthPkce.TokenResponse
import Data360.AuthStart
import Data360.LoopbackListener.Model
import Data360.LoopbackListener.Decode
import Data360.LoopbackListener.Grammar
import Data360.LoopbackListener.Acceptor
import Data360.LoopbackListener.Listener
import Data360.LibcurlTransport
import Data360.LibcurlTransport.Headers
import Data360.SalesforceOAuthProvider.Model
import Data360.SalesforceOAuthProvider.Parsers
import Data360.SalesforceOAuthProvider.Rules
import Data360.SalesforceOAuthProvider.Secrets
import Data360.SalesforceOAuthProvider.Forms
import Data360.SalesforceOAuthProvider.Usable
import Data360.SalesforceOAuthProvider.Expiry
import Data360.SalesforceOAuthProvider.Faults
import Data360.JsonQueryResponseCodec
import Data360.JsonQueryResponseCodec.Counts
import Data360.JsonQueryResponseCodec.Masking
import Data360.JsonQueryResponseCodec.Rows
import Data360.QueryApi.Reauthorization
import Data360.QueryApi.Service
import Data360.LibcurlTransport.Transfer
import Data360.LibcurlTransport.Queries
import Data360.Data360Extension.Query
import Data360.Data360Extension.Confinement
import Data360.Lib.Handles
import Data360.LoopbackListener.Sockets
import Data360.LoopbackListener.Calls
import Data360.LoopbackListener.Redirect
import Data360.LoginRoundTrip
import Data360.CallbackThreadOwner
