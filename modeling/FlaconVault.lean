import FlaconVault.Lib.Guards
import FlaconVault.Lib.Cells
import FlaconVault.Lib.Runs
import FlaconVault.Lib.Bytes
import FlaconVault.Lib.Layouts
import FlaconVault.Lib.PyText
import FlaconVault.Lib.Tables
import FlaconVault.Lib.Newest
import FlaconVault.Lib.Lowest
import FlaconVault.Ledger.Accounts
import FlaconVault.Flacon.Rules
import FlaconVault.Flacon.Instructions
import FlaconVault.Ledger.Tokens
import FlaconVault.Escrow.Rules
import FlaconVault.Escrow.Instructions
import FlaconVault.Ledger.Steps
import FlaconVault.Flacon.Effects
import FlaconVault.Escrow.Effects
import FlaconVault.Flacon.Counting
import FlaconVault.Flacon.Stickiness
import FlaconVault.Flacon.Precompile
import FlaconVault.Flacon.SealKinds
import FlaconVault.Flacon.RegistryLaw
import FlaconVault.Escrow.Vaults
import FlaconVault.Escrow.Payments
import FlaconVault.Escrow.Custody
import FlaconVault.Escrow.AssetBindings
import FlaconVault.Escrow.Exits
import FlaconVault.Escrow.Guards
import FlaconVault.Verifier.Database
import FlaconVault.Verifier.Grades
import FlaconVault.Verifier.Store
import FlaconVault.Verifier.Confirmation
import FlaconVault.Verifier.Settings
import FlaconVault.Verifier.Taps
import FlaconVault.Verifier.Decoders
import FlaconVault.Verifier.Transactions
import FlaconVault.Verifier.Logs
import FlaconVault.Verifier.Soundness
import FlaconVault.Verifier.Scans
import FlaconVault.Verifier.Events
import FlaconVault.Verifier.Reconcile
import FlaconVault.Verifier.Messages
import FlaconVault.Web.Messages
import FlaconVault.Web.EscrowRules
import FlaconVault.Verifier.Server
import FlaconVault.Verifier.ScanViews
import FlaconVault.Verifier.Rows
import FlaconVault.Verifier.Effects
import FlaconVault.Verifier.Jobs
import FlaconVault.Verifier.Requests
import FlaconVault.Verifier.Shapes
import FlaconVault.Verifier.Backing
import FlaconVault.Verifier.Credits
import FlaconVault.Verifier.Settling
import FlaconVault.Verifier.Replay
import FlaconVault.Verifier.ReplayLaw
import FlaconVault.Verifier.Sightings
import FlaconVault.Verifier.Cycles
import FlaconVault.Verifier.Confirming
import FlaconVault.Verifier.GradeOrder
import FlaconVault.Verifier.GradeMirror
import FlaconVault.Verifier.RateLimit
import FlaconVault.Verifier.RateLimitLaw
import FlaconVault.Lib.Json
import FlaconVault.Lib.JsonDicts
import FlaconVault.Verifier.Bundles
import FlaconVault.Verifier.BundleStability
import FlaconVault.Verifier.BundleHash
import FlaconVault.Verifier.Recompute
import FlaconVault.Verifier.Origins
import FlaconVault.Lib.Schemas
import FlaconVault.Web.Canonical
import FlaconVault.Web.Bundles
import FlaconVault.Lib.Radix
import FlaconVault.Verifier.Base58
import FlaconVault.Lib.Votes
import FlaconVault.Vision.Heat
import FlaconVault.Vision.Combine
import FlaconVault.Web.VerifyApi
import FlaconVault.Web.SendTx
import FlaconVault.Web.Handoff
import FlaconVault.Verifier.BodyLimit
import FlaconVault.Lib.Reading
import FlaconVault.Lib.Utf8
import FlaconVault.Verifier.Borsh
import FlaconVault.Verifier.AccountData
import FlaconVault.Verifier.RoundTrips
import FlaconVault.Verifier.RegistryCache
import FlaconVault.Verifier.MediaStore
import FlaconVault.Verifier.Retention
import FlaconVault.Lib.Loops
import FlaconVault.Verifier.ArchiveQueue
import FlaconVault.Verifier.ArchiveLaw
import FlaconVault.Verifier.PurgeSeed
import FlaconVault.Verifier.PurgeLaw
import FlaconVault.Verifier.PurgeRuns
import FlaconVault.Lib.Placings
import FlaconVault.Verifier.Outcomes
import FlaconVault.Verifier.Listings
import FlaconVault.Verifier.ListingLaw
import FlaconVault.Verifier.Actors
import FlaconVault.Verifier.Issuers
import FlaconVault.Verifier.ActorLaw
import FlaconVault.Lib.Masks
import FlaconVault.Verifier.Views
import FlaconVault.Verifier.Privacy
import FlaconVault.Verifier.Secrecy
import FlaconVault.Lib.Patterns
import FlaconVault.Web.Inputs
import FlaconVault.Lib.Blocks
import FlaconVault.Verifier.Lrp
import FlaconVault.Verifier.LrpStreams
import FlaconVault.Lib.HexText
import FlaconVault.Verifier.Sdm
import FlaconVault.Verifier.SunMessages
import FlaconVault.Verifier.ChipTaps
import FlaconVault.Verifier.Simulator
import FlaconVault.Lib.Outbox
import FlaconVault.Web.PendingEvents
import FlaconVault.Web.PendingLaw
import FlaconVault.Web.AnchorScan
import FlaconVault.Web.FlaconClient
import FlaconVault.Web.SignThenAnchor
import FlaconVault.Web.EscrowIx
import FlaconVault.Web.EscrowPays
import FlaconVault.Web.OrderPage
import FlaconVault.Web.MarketList
