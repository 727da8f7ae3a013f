import LoginGateway.Backend.File
import LoginGateway.Config.Load
import LoginGateway.Gateway.Router
import LoginGateway.Provider.Discovery
import LoginGateway.Store.Persisted
import LoginGateway.Store.Supervised
import LoginGateway.Proofs.Store.Durability
import LoginGateway.Proofs.Gateway.Standing
import LoginGateway.Proofs.Store.Equivalence
import LoginGateway.Proofs.Gateway.Decision
import LoginGateway.Proofs.Token.Presented
import LoginGateway.Proofs.Gateway.Delivery
import LoginGateway.Proofs.Gateway.Lasting
import LoginGateway.Proofs.Gateway.Admission
import LoginGateway.Proofs.Gateway.Credentials
import LoginGateway.Proofs.Gateway.Invariant
import LoginGateway.Proofs.Encoding.Percent
import LoginGateway.Proofs.Provider.AuthorizationUrl
import LoginGateway.Proofs.Http.Fields
import LoginGateway.Proofs.Token.Cookies
import LoginGateway.Proofs.Gateway.Sessions
import LoginGateway.Proofs.Gateway.RoundTrip
import LoginGateway.Proofs.Store.EntryOrder
import LoginGateway.Proofs.Gateway.Separation
import LoginGateway.Proofs.Gateway.Revocation
import LoginGateway.Proofs.Gateway.Secrecy
import LoginGateway.Proofs.Config.Startup
import LoginGateway.Proofs.Gateway.Creation
import LoginGateway.Proofs.Gateway.Rivals
import LoginGateway.Proofs.Token.Verification
import LoginGateway.Proofs.Token.RoundTrip
import LoginGateway.Proofs.Store.Minting
import LoginGateway.Proofs.Store.Schedule
import LoginGateway.Proofs.Token.Unverified
import LoginGateway.Proofs.Provider.TokenAnswers
import LoginGateway.Proofs.Gateway.RefreshTokens
import LoginGateway.Proofs.Gateway.Repetition
import LoginGateway.Proofs.Provider.LoginQuery
import LoginGateway.Proofs.Token.Extraction
import LoginGateway.Proofs.Backend.AtomicSave
import LoginGateway.Proofs.Backend.ApiServer
import LoginGateway.Proofs.Provider.TokenRequests
import LoginGateway.Proofs.Provider.FirstDocument
import LoginGateway.Proofs.Config.Overrides
import LoginGateway.Proofs.Store.Independence
import LoginGateway.Proofs.Store.LoadedIndex
import LoginGateway.Proofs.Json.Layout
import LoginGateway.Proofs.Json.MemberOrder
import LoginGateway.Proofs.Store.TolerantReading
