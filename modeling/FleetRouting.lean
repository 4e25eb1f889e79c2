import FleetRouting.Access.Keyring
import FleetRouting.Access.Role
import FleetRouting.Binary64.Basic
import FleetRouting.Binary64.Printer
import FleetRouting.Binary64.Reader
import FleetRouting.BitSpan
import FleetRouting.Config.Basic
import FleetRouting.Config.Load
import FleetRouting.Config.Schema
import FleetRouting.Config.Setting
import FleetRouting.Config.Toml
import FleetRouting.Config.Toml.DateTime
import FleetRouting.Config.Toml.Document
import FleetRouting.Config.Toml.Node
import FleetRouting.Config.Toml.Number
import FleetRouting.Config.Toml.Text
import FleetRouting.Config.Toml.Value
import FleetRouting.Digest.Sha256
import FleetRouting.Domain.Label
import FleetRouting.Domain.Mapping
import FleetRouting.Domain.Name
import FleetRouting.Domain.Punycode
import FleetRouting.Event.Basic
import FleetRouting.Event.Bus
import FleetRouting.Head.Basic
import FleetRouting.Head.Size
import FleetRouting.Http.Action
import FleetRouting.Http.App
import FleetRouting.Http.IpAddress
import FleetRouting.Http.MediaType
import FleetRouting.Http.Message
import FleetRouting.Http.Peer
import FleetRouting.Http.Percent
import FleetRouting.Http.Report
import FleetRouting.Http.Target
import FleetRouting.Http.Token
import FleetRouting.Http.Url.Basic
import FleetRouting.Http.Url.Host
import FleetRouting.Http.Url.Path
import FleetRouting.Http.Url.Reader
import FleetRouting.Json.Basic
import FleetRouting.Json.Decode
import FleetRouting.Json.Printer
import FleetRouting.Json.Reader
import FleetRouting.Json.Token
import FleetRouting.Metrics
import FleetRouting.Proofs.CacheTransparency
import FleetRouting.Proofs.Chance
import FleetRouting.Proofs.Heartbeat
import FleetRouting.Proofs.Json.Reader
import FleetRouting.Proofs.Json.Record
import FleetRouting.Proofs.Json.Token
import FleetRouting.Proofs.Numbering
import FleetRouting.Proofs.Registry
import FleetRouting.Proofs.Routing.Cache
import FleetRouting.Proofs.Routing.CacheKey
import FleetRouting.Proofs.Routing.Decide
import FleetRouting.Proofs.Routing.Ranking
import FleetRouting.Proofs.Routing.Steady
import FleetRouting.Proofs.Run
import FleetRouting.Proofs.SortedMap
import FleetRouting.Proofs.Store.Basic
import FleetRouting.Proofs.Store.Fleet
import FleetRouting.Proofs.Store.Records
import FleetRouting.Proofs.StoreIsolation
import FleetRouting.Proofs.Time.Calendar
import FleetRouting.Proofs.Time.Rfc3339
import FleetRouting.Proofs.Wire.Head
import FleetRouting.Proofs.Wire.Routing
import FleetRouting.Proofs.Writes
import FleetRouting.Registry
import FleetRouting.Resilience.Breaker
import FleetRouting.Resilience.Limiter
import FleetRouting.Routing.Cache
import FleetRouting.Routing.Criteria
import FleetRouting.Routing.Ranking
import FleetRouting.Routing.Router
import FleetRouting.Routing.Selection
import FleetRouting.Schema.Fields
import FleetRouting.Service
import FleetRouting.SortedMap
import FleetRouting.Store.Basic
import FleetRouting.Store.Fleet
import FleetRouting.Store.Location
import FleetRouting.Strategy
import FleetRouting.Text.Blank
import FleetRouting.Text.Fold
import FleetRouting.Text.Hex
import FleetRouting.Time.Calendar
import FleetRouting.Time.Duration
import FleetRouting.Time.Rfc3339
import FleetRouting.Time.Timestamp
import FleetRouting.Unicode.Composition
import FleetRouting.Unicode.Decomposition
import FleetRouting.Unicode.Direction
import FleetRouting.Unicode.Joining
import FleetRouting.Unicode.Lowercase
import FleetRouting.Unicode.Mark
import FleetRouting.Unicode.Table
import FleetRouting.Uuid
import FleetRouting.Webhook
import FleetRouting.Wire.Config
import FleetRouting.Wire.Event
import FleetRouting.Wire.Head
import FleetRouting.Wire.Routing
import FleetRouting.Proofs.Persistence
import FleetRouting.Proofs.Lineup
import FleetRouting.Proofs.Restart
import FleetRouting.Proofs.Departure
import FleetRouting.Proofs.Binary64.Rounding
import FleetRouting.Proofs.Binary64.Printer
import FleetRouting.Proofs.Binary64.Text
import FleetRouting.Proofs.Head.Size
import FleetRouting.Proofs.Routing.Separation
import FleetRouting.Proofs.Resilience.History
import FleetRouting.Proofs.CachedHeads
import FleetRouting.Proofs.StoreCircuit
import FleetRouting.Proofs.Resilience.Forgetting
import FleetRouting.Proofs.Resilience.Admission
import FleetRouting.Proofs.HeadHistory
import FleetRouting.Proofs.Routing.Renumbering
import FleetRouting.Proofs.Routing.Resemblance
import FleetRouting.Proofs.Routing.Restriction
import FleetRouting.Proofs.ModelIsolation
import FleetRouting.Proofs.Announcement
import FleetRouting.Proofs.Accounting
import FleetRouting.Proofs.Access
import FleetRouting.Proofs.Json.Reordering
import FleetRouting.Proofs.Uuid
import FleetRouting.Proofs.Wire.Event
import FleetRouting.Proofs.RoundTrip
import FleetRouting.Proofs.Routing.Optimum
import FleetRouting.Proofs.Routing.Turns
import FleetRouting.Proofs.Routing.Fairness
import FleetRouting.Proofs.Sweep
import FleetRouting.Proofs.Resilience.Waiting
import FleetRouting.Proofs.CacheLifetime
import FleetRouting.Proofs.MetricsText
import FleetRouting.Proofs.WebhookIsolation
import FleetRouting.Proofs.Restoring
import FleetRouting.Proofs.Bootstrap
import FleetRouting.Proofs.FanOut
import FleetRouting.Proofs.Authorization
