import RouteFeed.Archive
import RouteFeed.AsPath
import RouteFeed.Backlog
import RouteFeed.Backoff
import RouteFeed.Calendar
import RouteFeed.Catalogue.Basic
import RouteFeed.Catalogue.Broker
import RouteFeed.Catalogue.DatabaseFile
import RouteFeed.Catalogue.Replay
import RouteFeed.Catalogue.Row
import RouteFeed.Catalogue.Setting
import RouteFeed.Catalogue.SingleFile
import RouteFeed.Catalogue.Source
import RouteFeed.Catalogue.Table
import RouteFeed.Chunk
import RouteFeed.CommandLine.Arguments
import RouteFeed.CommandLine.Configure
import RouteFeed.CommandLine.Render
import RouteFeed.CommandLine.Run
import RouteFeed.Criteria.Basic
import RouteFeed.Criteria.Criterion
import RouteFeed.Criteria.Interval
import RouteFeed.Cursor
import RouteFeed.Database.Basic
import RouteFeed.Database.Cell
import RouteFeed.Database.Location
import RouteFeed.Database.Quantity
import RouteFeed.Discovery.Admission
import RouteFeed.Discovery.Basic
import RouteFeed.Discovery.Registry
import RouteFeed.Duration.Basic
import RouteFeed.Duration.Text
import RouteFeed.Element
import RouteFeed.Feed.Basic
import RouteFeed.Feed.Reading
import RouteFeed.FeedError
import RouteFeed.Json.Basic
import RouteFeed.Json.Chunk
import RouteFeed.Json.Reader
import RouteFeed.Main
import RouteFeed.Merge.Basic
import RouteFeed.Merge.Lane
import RouteFeed.Net.Address
import RouteFeed.Net.Block
import RouteFeed.Numeral
import RouteFeed.Pattern.Automaton
import RouteFeed.Pattern.Basic
import RouteFeed.Pattern.Bracket
import RouteFeed.Pattern.CharSet
import RouteFeed.Pattern.Escape
import RouteFeed.Pattern.Flags
import RouteFeed.Pattern.Group
import RouteFeed.Pattern.Property
import RouteFeed.Pattern.Property.Age
import RouteFeed.Pattern.Property.Basic
import RouteFeed.Pattern.Property.Break
import RouteFeed.Pattern.Property.Category
import RouteFeed.Pattern.Property.Script
import RouteFeed.Pattern.Property.Trait
import RouteFeed.Pattern.Reader
import RouteFeed.Pattern.Size
import RouteFeed.Power
import RouteFeed.Record
import RouteFeed.Seconds
import RouteFeed.Table.Separated
import RouteFeed.Text.Blank
import RouteFeed.Text.Letter
import RouteFeed.Text.Parts
import RouteFeed.Timestamp.Basic
import RouteFeed.Timestamp.Rounding
import RouteFeed.Timestamp.Text
import RouteFeed.Proofs.Interleaving
import RouteFeed.Proofs.Merge.Decoding
import RouteFeed.Proofs.Merge.Drain
import RouteFeed.Proofs.Merge.Deliveries
import RouteFeed.Proofs.Merge.Sorting
import RouteFeed.Proofs.Merge.Testing
import RouteFeed.Proofs.Merge.Account
import RouteFeed.Proofs.Merge.Conservation
import RouteFeed.Proofs.Merge.Positions
import RouteFeed.Proofs.Merge.Ranking
import RouteFeed.Proofs.Seconds
import RouteFeed.Proofs.Backlog
import RouteFeed.Proofs.Batching
import RouteFeed.Proofs.Feed.Run
import RouteFeed.Proofs.Feed.Unloading
import RouteFeed.Proofs.Feed.Asking
import RouteFeed.Proofs.Feed.Delivery
import RouteFeed.Proofs.Timestamp.Order
import RouteFeed.Proofs.Timestamp.Rounding
import RouteFeed.Proofs.Numeral
import RouteFeed.Proofs.Cursor
import RouteFeed.Proofs.Catalogue.Published
import RouteFeed.Proofs.Discovery.Admission
import RouteFeed.Proofs.Catalogue.Steady
import RouteFeed.Proofs.Feed.TimeOrder
import RouteFeed.Proofs.Feed.SetUp
import RouteFeed.Proofs.Interspersing
import RouteFeed.Proofs.Merge.Erasure
import RouteFeed.Proofs.Feed.Isolation
import RouteFeed.Proofs.Discovery.Transparency
import RouteFeed.Proofs.Discovery.Duplicates
import RouteFeed.Proofs.Discovery.Sampling
import RouteFeed.Proofs.Catalogue.Growing
import RouteFeed.Proofs.Merge.Numbering
import RouteFeed.Proofs.Feed.Batches
import RouteFeed.Proofs.Catalogue.Reordering
import RouteFeed.Proofs.Catalogue.Selection
import RouteFeed.Proofs.Catalogue.Agreement
import RouteFeed.Proofs.Catalogue.Alike
import RouteFeed.Proofs.Feed.Reproducible
import RouteFeed.Proofs.Catalogue.Conduct
import RouteFeed.Proofs.Merge.Honesty
import RouteFeed.Proofs.Discovery.Conduct
import RouteFeed.Proofs.Feed.Operations
import RouteFeed.Proofs.Feed.Lifecycle
import RouteFeed.Proofs.Feed.Effects
import RouteFeed.Proofs.Feed.Ending
import RouteFeed.Proofs.Feed.Mode
import RouteFeed.Proofs.Feed.Attempts
import RouteFeed.Proofs.Feed.Translation
import RouteFeed.Proofs.Feed.Questions
import RouteFeed.Proofs.Discovery.Commands
import RouteFeed.Proofs.Merge.Collectors
import RouteFeed.Proofs.Net.Block
import RouteFeed.Proofs.Criteria.Selection
import RouteFeed.Proofs.Criteria.Coverage
import RouteFeed.Proofs.Feed.Reading
import RouteFeed.Proofs.Criteria.HostBits
import RouteFeed.Proofs.Catalogue.Layout
import RouteFeed.Proofs.Catalogue.Polling
import RouteFeed.Proofs.Discovery.Overflow
import RouteFeed.Proofs.Backoff
import RouteFeed.Proofs.Catalogue.Setting
import RouteFeed.Proofs.Result
import RouteFeed.Proofs.Catalogue.Naming
import RouteFeed.Proofs.Discovery.Registry
import RouteFeed.Proofs.Net.Digits
import RouteFeed.Proofs.Net.Text
import RouteFeed.Proofs.CommandLine.Criteria
import RouteFeed.Proofs.CommandLine.Output
