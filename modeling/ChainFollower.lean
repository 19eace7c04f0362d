import ChainFollower.Backend.CacheShelf
import ChainFollower.Backend.ClientCache
import ChainFollower.Backend.Config
import ChainFollower.Chain
import ChainFollower.Config
import ChainFollower.Decimal.Shortest
import ChainFollower.Error
import ChainFollower.Follower
import ChainFollower.Follower.Calls
import ChainFollower.Follower.Fanout
import ChainFollower.Follower.Lending
import ChainFollower.Follower.Opening
import ChainFollower.Follower.Rescan
import ChainFollower.Follower.Run
import ChainFollower.Follower.Schedule
import ChainFollower.Follower.Session
import ChainFollower.Follower.Tip
import ChainFollower.History
import ChainFollower.Json.Decode
import ChainFollower.Json.Number
import ChainFollower.Json.Problem
import ChainFollower.Json.Scan
import ChainFollower.Json.Write
import ChainFollower.Log.Directive
import ChainFollower.Log.Output
import ChainFollower.Log.Pattern
import ChainFollower.Log.Record
import ChainFollower.Network.Coding
import ChainFollower.Network.Endpoint
import ChainFollower.Network.Ip
import ChainFollower.Network.Params
import ChainFollower.Progress.Course
import ChainFollower.Progress.Event
import ChainFollower.Progress.Tracker
import ChainFollower.Proofs.Fanout
import ChainFollower.Proofs.SameSync
import ChainFollower.Proofs.Work
import ChainFollower.Scenario.Answer
import ChainFollower.Scenario.Setup
import ChainFollower.Scenario.Step
import ChainFollower.Script
import ChainFollower.Seed.Bits
import ChainFollower.Seed.Decode
import ChainFollower.Seed.English
import ChainFollower.Seed.Mnemonic
import ChainFollower.Seed.Sha256
import ChainFollower.Text.Alphanumeric
import ChainFollower.Text.Blank
import ChainFollower.Text.Hex
import ChainFollower.Text.Number
import ChainFollower.Text.Numeral
import ChainFollower.Text.Quoted
import ChainFollower.Text.Slice
import ChainFollower.Text.Split
import ChainFollower.Text.Unprintable
import ChainFollower.Time
import ChainFollower.Wallet.Passphrase
import ChainFollower.Proofs.Lending
import ChainFollower.Proofs.SameTasksAndClient
import ChainFollower.Proofs.Building
import ChainFollower.Proofs.SameSessions
import ChainFollower.Proofs.Launching
import ChainFollower.Proofs.Ending
import ChainFollower.Proofs.Moves
import ChainFollower.Proofs.Course
import ChainFollower.Proofs.Exclusion
import ChainFollower.Proofs.FailedStart
import ChainFollower.Proofs.Reporting
import ChainFollower.Proofs.ClosedWallet
import ChainFollower.Proofs.Settling
import ChainFollower.Proofs.PanickedRun
import ChainFollower.Proofs.Elsewhere
import ChainFollower.Proofs.Rescanning
import ChainFollower.Proofs.Accounted
import ChainFollower.Proofs.Bookkeeping
import ChainFollower.Proofs.Stream
import ChainFollower.Proofs.Watch
import ChainFollower.Proofs.Delivery
import ChainFollower.Proofs.PanickedScan
import ChainFollower.Proofs.Trail
import ChainFollower.Proofs.Reactions
import ChainFollower.Proofs.Tokens
import ChainFollower.Proofs.Marks
import ChainFollower.Proofs.Cancelling
import ChainFollower.Proofs.Transitions
import ChainFollower.Proofs.Dialling
import ChainFollower.Proofs.KeptClient
import ChainFollower.Proofs.Weaving
import ChainFollower.Proofs.Tracing
import ChainFollower.Proofs.Rounds
import ChainFollower.Proofs.Hearing
import ChainFollower.Proofs.Voices
import ChainFollower.Proofs.Notices
import ChainFollower.Proofs.Scans
import ChainFollower.Proofs.Peerless
import ChainFollower.Proofs.Confined
import ChainFollower.Proofs.Releasing
import ChainFollower.Proofs.Kinds
import ChainFollower.Proofs.Stranded
import ChainFollower.Proofs.Peers
import ChainFollower.Proofs.Speakers
import ChainFollower.Proofs.Redaction
import ChainFollower.Proofs.Blind
import ChainFollower.Proofs.Passphrases
import ChainFollower.Proofs.Secrecy
import ChainFollower.Proofs.Wiping
import ChainFollower.Proofs.Reclosing
import ChainFollower.Proofs.Opening
import ChainFollower.Proofs.HalfOpened
import ChainFollower.Proofs.Vaults
import ChainFollower.Proofs.Rekeying
import ChainFollower.Proofs.Custody
import ChainFollower.Proofs.Numerals
import ChainFollower.Proofs.Literals
import ChainFollower.Proofs.Canonical
import ChainFollower.Proofs.Cutting
import ChainFollower.Proofs.Hostnames
import ChainFollower.Proofs.Addresses
import ChainFollower.Proofs.Normalizing
import ChainFollower.Proofs.Entries
import ChainFollower.Proofs.Restricting
import ChainFollower.Proofs.Syncers
import ChainFollower.Proofs.Spacing
import ChainFollower.Proofs.Hexadecimal
import ChainFollower.Proofs.Lexicon
import ChainFollower.Proofs.Packing
import ChainFollower.Proofs.Mnemonics
import ChainFollower.Proofs.Lowercase
import ChainFollower.Proofs.Seeds
import ChainFollower.Proofs.Retyping
import ChainFollower.Proofs.Configured
import ChainFollower.Proofs.Capacity
import ChainFollower.Proofs.Milestones
import ChainFollower.Proofs.Deciding
import ChainFollower.Proofs.Installing
import ChainFollower.Proofs.Scalars
import ChainFollower.Proofs.Forms
import ChainFollower.Proofs.Records
import ChainFollower.Proofs.RoundTrip
import ChainFollower.Proofs.Strangers
