import LoginGate.Admins
import LoginGate.Config
import LoginGate.Decimal.Double
import LoginGate.Decimal.Plain
import LoginGate.Decimal.Shortest
import LoginGate.Environment.Reader
import LoginGate.Environment.Scalar
import LoginGate.Environment.Tree
import LoginGate.Flow.Callback
import LoginGate.Flow.Error
import LoginGate.Flow.Paths
import LoginGate.Flow.Pending
import LoginGate.Flow.State
import LoginGate.Http.Cookie
import LoginGate.Http.Request
import LoginGate.Http.Response
import LoginGate.Http.Status
import LoginGate.Http.Target
import LoginGate.Identity
import LoginGate.Json.Basic
import LoginGate.Json.Cursor
import LoginGate.Json.Kind
import LoginGate.Json.Literal
import LoginGate.Json.Reader
import LoginGate.Json.Record
import LoginGate.Mailbox
import LoginGate.Page.Error
import LoginGate.Page.Gated
import LoginGate.Page.Markup
import LoginGate.Proofs.Admins.Registry
import LoginGate.Proofs.Config.Origin
import LoginGate.Proofs.Config.Scopes
import LoginGate.Proofs.Decimal.Canonical
import LoginGate.Proofs.Decimal.Numeral
import LoginGate.Proofs.Distinct
import LoginGate.Proofs.Document
import LoginGate.Proofs.Environment.Spelling
import LoginGate.Proofs.Environment.Tree
import LoginGate.Proofs.Except
import LoginGate.Proofs.Flow.Paths
import LoginGate.Proofs.Json.Complete
import LoginGate.Proofs.Json.Digits
import LoginGate.Proofs.Json.Fields
import LoginGate.Proofs.Json.Grammar
import LoginGate.Proofs.Json.Meaning
import LoginGate.Proofs.Json.Printing
import LoginGate.Proofs.Json.Quotation
import LoginGate.Proofs.Json.Scan
import LoginGate.Proofs.Json.Sound
import LoginGate.Proofs.Latest
import LoginGate.Proofs.Mailbox.Alike
import LoginGate.Proofs.Mailbox.Decorated
import LoginGate.Proofs.Mailbox.Normal
import LoginGate.Proofs.Page.Gated
import LoginGate.Proofs.Provider.Body
import LoginGate.Proofs.Provider.Endpoints
import LoginGate.Proofs.Provider.Messages
import LoginGate.Proofs.Redirect.Destination
import LoginGate.Proofs.Redirect.HostName
import LoginGate.Proofs.Redirect.LocalPath
import LoginGate.Proofs.Redirect.SameHost
import LoginGate.Proofs.Redirect.Settled
import LoginGate.Proofs.Redirect.StartPage
import LoginGate.Proofs.Server.Admission
import LoginGate.Proofs.Server.Consistency
import LoginGate.Proofs.Server.Deed
import LoginGate.Proofs.Server.Destination
import LoginGate.Proofs.Server.Failure
import LoginGate.Proofs.Server.FlowTable
import LoginGate.Proofs.Server.Gate
import LoginGate.Proofs.Server.Hooks
import LoginGate.Proofs.Server.Incident
import LoginGate.Proofs.Server.Interference
import LoginGate.Proofs.Server.Lifetime
import LoginGate.Proofs.Server.Location
import LoginGate.Proofs.Server.Request
import LoginGate.Proofs.Server.RoundTrip
import LoginGate.Proofs.Server.Run
import LoginGate.Proofs.Server.StartPage
import LoginGate.Proofs.Server.StateToken
import LoginGate.Proofs.Server.Table
import LoginGate.Proofs.Server.TokenEnd
import LoginGate.Proofs.Server.Track
import LoginGate.Proofs.Server.Verdict
import LoginGate.Proofs.Server.Writes
import LoginGate.Proofs.Session.Eviction
import LoginGate.Proofs.Session.Grant
import LoginGate.Proofs.Session.Store
import LoginGate.Proofs.Session.Values
import LoginGate.Proofs.SessionId.Spelling
import LoginGate.Proofs.Settings
import LoginGate.Proofs.Text.Cut
import LoginGate.Proofs.Text.Trim
import LoginGate.Proofs.Text.Utf8
import LoginGate.Proofs.Time.Calendar
import LoginGate.Proofs.Unicode.Compose
import LoginGate.Proofs.Unicode.Lowercase
import LoginGate.Proofs.Url.Directory
import LoginGate.Proofs.Url.Domain
import LoginGate.Proofs.Url.Form
import LoginGate.Proofs.Url.Margins
import LoginGate.Proofs.Url.Percent
import LoginGate.Proofs.Url.Printable
import LoginGate.Proofs.Url.Punycode
import LoginGate.Proofs.Url.Tail.Authority
import LoginGate.Proofs.Url.Tail.Whole
import LoginGate.Proofs.Url.Web
import LoginGate.Provider.Basic
import LoginGate.Provider.Remote
import LoginGate.Provider.TokenReply
import LoginGate.Provider.UserinfoReply
import LoginGate.Provider.Wire
import LoginGate.Redirect.HostName
import LoginGate.Redirect.Target
import LoginGate.Server.Access
import LoginGate.Server.Basic
import LoginGate.Server.Fault
import LoginGate.Server.Inspection
import LoginGate.Server.Login
import LoginGate.Server.Routes
import LoginGate.Server.Setup
import LoginGate.Server.View
import LoginGate.Session.Basic
import LoginGate.Session.IdJson
import LoginGate.Session.Identity
import LoginGate.Session.Settings
import LoginGate.Session.Store
import LoginGate.Session.Token
import LoginGate.SessionId
import LoginGate.Settings
import LoginGate.Text.Base64
import LoginGate.Text.Basic
import LoginGate.Text.Classes
import LoginGate.Text.Numeral
import LoginGate.Text.Quoted
import LoginGate.Text.Utf8
import LoginGate.Time.Instant
import LoginGate.Time.Rfc3339
import LoginGate.Unicode.Compose
import LoginGate.Unicode.Direction
import LoginGate.Unicode.DomainFold
import LoginGate.Unicode.Joining
import LoginGate.Unicode.Lowercase
import LoginGate.Unicode.LowercaseTable
import LoginGate.Unicode.Ranges
import LoginGate.Url.Address
import LoginGate.Url.Basic
import LoginGate.Url.Domain
import LoginGate.Url.Form
import LoginGate.Url.Origin
import LoginGate.Url.Parser
import LoginGate.Url.Percent
import LoginGate.Url.Punycode
import LoginGate.Word
