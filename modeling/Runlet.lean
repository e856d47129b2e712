import Runlet.Lib.Machine
import Runlet.Json
import Runlet.Wire
import Runlet.Resources
import Runlet.Sidecar
import Runlet.Lib.Text
import Runlet.Lib.Net
import Runlet.Lib.Hex
import Runlet.Lib.Percent
import Runlet.Ssrf
import Runlet.Http
import Runlet.S3.Host
import Runlet.S3.Object
import Runlet.Mongo
import Runlet.Io
import Runlet.Lib.Count
import Runlet.Quota
import Runlet.Concurrency
import Runlet.Lib.Effects
import Runlet.Lib.Interaction
import Runlet.Errors
import Runlet.Identity
import Runlet.Capabilities
import Runlet.Backends
import Runlet.Handler
import Runlet.Gates
import Runlet.Trusted
import Runlet.Grants
import Runlet.Audit
import Runlet.Accounting
import Runlet.Outcome
import Runlet.S3.Store
import Runlet.Budget
import Runlet.Sys
import Runlet.Decimal
import Runlet.Determinism
import Runlet.Lib.Memo
import Runlet.Bytecode
import Runlet.Lib.Pieces
import Runlet.Framing
import Runlet.Serve
import Runlet.Admission
import Runlet.Breaker
import Runlet.Metering
import Runlet.Pool
import Runlet.SaToken
import Runlet.Db.Params
import Runlet.Db.Columns
import Runlet.Db.Query
import Runlet.Lib.Scaled
import Runlet.Money
import Runlet.S3.Query
import Runlet.Lib.Markup
import Runlet.S3.Listing
import Runlet.Mail
import Runlet.Lib.Path
import Runlet.Registry
import Runlet.ByteSize
import Runlet.Date
import Runlet.Latency
import Runlet.Body
import Runlet.Read
import Runlet.Api
import Runlet.Envelope
import Runlet.Throw
import Runlet.Lib.JsonWrite
import Runlet.Serialize
import Runlet.Lib.Channel
import Runlet.Events
import Runlet.Lib.Exposition
import Runlet.Scrape
import Runlet.Lib.Base64
import Runlet.Lib.Collision
import Runlet.S3.Sign
import Runlet.Fabricd
import Runlet.QuicClient
import Runlet.EndToEnd
import Runlet.Startup
import Runlet.Auth
import Runlet.Amq
