import NplgMcp.Library.Run
import NplgMcp.Resilience.UpstreamGuard
import NplgMcp.Resilience.CircuitInvariant
import NplgMcp.Resilience.PdfCircuit
import NplgMcp.Resilience.Recovery
import NplgMcp.Lifecycle.ClockHighWater
import NplgMcp.Lifecycle.ClockInterleaving
import NplgMcp.Lifecycle.InsertionOrder
import NplgMcp.Lifecycle.InsertionHistory
import NplgMcp.Library.Utf8
import NplgMcp.Library.Text
import NplgMcp.Library.Pattern
import NplgMcp.Library.Base64
import NplgMcp.Library.JsonText
import NplgMcp.Library.JsonReading
import NplgMcp.Library.JsonSize
import NplgMcp.Library.JsonAscii
import NplgMcp.Library.JsonLoading
import NplgMcp.Library.JsonOrder
import NplgMcp.Library.CodePoints
import NplgMcp.Library.PointJson
import NplgMcp.Library.Triple
import NplgMcp.Json.Preflight
import NplgMcp.Json.Grammar
import NplgMcp.Json.Lexical
import NplgMcp.Json.Completeness
import NplgMcp.Json.Soundness
import NplgMcp.Json.Acceptance
import NplgMcp.Json.RootMembers
import NplgMcp.Encoding
import NplgMcp.Library.Dict
import NplgMcp.Library.Ledger
import NplgMcp.Library.Effect
import NplgMcp.Library.Pacing
import NplgMcp.Library.Lines
import NplgMcp.Library.Framing
import NplgMcp.Library.Eviction
import NplgMcp.Library.Fields
import NplgMcp.Library.Links
import NplgMcp.Library.Segments
import NplgMcp.Library.Url
import NplgMcp.Errors
import NplgMcp.Contracts.Schema
import NplgMcp.Security
import NplgMcp.Network.CnameChain
import NplgMcp.Resilience.RateLimit
import NplgMcp.Resilience.Attempts
import NplgMcp.Markup.Counts
import NplgMcp.Markup.Xml
import NplgMcp.Markup.XmlTally
import NplgMcp.Markup.XmlAgreement
import NplgMcp.Markup.Html
import NplgMcp.Markup.HtmlTally
import NplgMcp.Markup.TextChunks
import NplgMcp.Markup.HtmlReader
import NplgMcp.Markup.HtmlRecount
import NplgMcp.Markup.HtmlAgreement
import NplgMcp.Markup.Record
import NplgMcp.Markup.Oai
import NplgMcp.Markup.OaiTree
import NplgMcp.Markup.OaiRecord
import NplgMcp.Markup.Soup
import NplgMcp.Search.Urls
import NplgMcp.Search.Layout
import NplgMcp.Search.Results
import NplgMcp.Search.Cursor
import NplgMcp.Search.HandleAdmission
import NplgMcp.Search.ItemPage
import NplgMcp.Search.ItemBinding
import NplgMcp.Search.Repository
import NplgMcp.Resilience.RedirectLoops
import NplgMcp.Search.VersionRefresh
import NplgMcp.Search.CursorTokens
import NplgMcp.Http.AssetTokens
import NplgMcp.Search.Pagination
import NplgMcp.Storage.State
import NplgMcp.Storage.Staging
import NplgMcp.Storage.Commit
import NplgMcp.Storage.Transaction
import NplgMcp.Storage.Publication
import NplgMcp.Storage.System
import NplgMcp.Storage.Frame
import NplgMcp.Storage.Quota
import NplgMcp.Storage.Atomicity
import NplgMcp.Storage.Footprint
import NplgMcp.Storage.Inventory
import NplgMcp.Storage.Exclusion
import NplgMcp.Storage.Delivery
import NplgMcp.Storage.Inodes
import NplgMcp.Storage.Registry
import NplgMcp.Storage.Latch
import NplgMcp.Storage.Eviction
import NplgMcp.Storage.OverEviction
import NplgMcp.Storage.Orphans
import NplgMcp.Storage.OrphanRecovery
import NplgMcp.Storage.Budget
import NplgMcp.Storage.Denial
import NplgMcp.Pdf.Messages
import NplgMcp.Pdf.Tiling
import NplgMcp.Pdf.TileGrid
import NplgMcp.Pdf.Binding
import NplgMcp.Pdf.Identity
import NplgMcp.Pdf.Publication
import NplgMcp.Pdf.TileAgreement
import NplgMcp.Pdf.Confinement
import NplgMcp.Pdf.PublicationPlan
import NplgMcp.Pdf.WorkerSlot
import NplgMcp.Pdf.MountTable
import NplgMcp.Malware.Scanner
import NplgMcp.Malware.Version
import NplgMcp.Malware.Acceptance
import NplgMcp.Pdf.Transport
import NplgMcp.Pdf.Frames
import NplgMcp.Pdf.MessageShapes
import NplgMcp.Pdf.TransportLimits
import NplgMcp.Http.Admission
import NplgMcp.Http.Principals
import NplgMcp.Lifecycle.BoundedWork
import NplgMcp.Http.Responses
import NplgMcp.Http.InFlight
import NplgMcp.Http.InlineResources
import NplgMcp.Http.Authority
import NplgMcp.Http.SecurityCall
import NplgMcp.Http.RequestGate
import NplgMcp.Http.Deadline
import NplgMcp.Pdf.Manifest
import NplgMcp.Pdf.Processor
import NplgMcp.Pdf.RenderCaching
