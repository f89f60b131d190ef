import EmbeddedClient.Support.Binary32
import EmbeddedClient.Support.Varint
import EmbeddedClient.Support.Message
import EmbeddedClient.Support.Record
import EmbeddedClient.Support.Runs
import EmbeddedClient.Support.FirstMax
import EmbeddedClient.Support.Ranking
import EmbeddedClient.Support.RunningWorst
import EmbeddedClient.Support.Insertion
import EmbeddedClient.Support.Survivor
import EmbeddedClient.Support.Apart
import EmbeddedClient.Support.FirstFit
import EmbeddedClient.Support.Patches
import EmbeddedClient.Support.Dealing
import EmbeddedClient.Support.Blocks
import EmbeddedClient.Support.LinkedList
import EmbeddedClient.Support.Crc
import EmbeddedClient.Support.Retry
import EmbeddedClient.Support.Provenance
import EmbeddedClient.Model.Types
import EmbeddedClient.Model.Utilities
import EmbeddedClient.Model.ApPlugin
import EmbeddedClient.Model.CellPlugin
import EmbeddedClient.Model.Beacons
import EmbeddedClient.Model.Cache
import EmbeddedClient.Model.Messages
import EmbeddedClient.Model.Ostream
import EmbeddedClient.Model.Proto
import EmbeddedClient.Model.Nanopb
import EmbeddedClient.Model.Session
import EmbeddedClient.Model.Libel
import EmbeddedClient.Model.Run
import EmbeddedClient.Model.Copies
import EmbeddedClient.Model.Indexes
import EmbeddedClient.Model.VirtualGroups
import EmbeddedClient.Model.PluginList
import EmbeddedClient.Model.Client
import EmbeddedClient.Beacons.Validate
import EmbeddedClient.Beacons.Scan
import EmbeddedClient.Beacons.Equality
import EmbeddedClient.Beacons.Macs
import EmbeddedClient.Beacons.List
import EmbeddedClient.Beacons.Frame
import EmbeddedClient.Beacons.Insert
import EmbeddedClient.Beacons.Store
import EmbeddedClient.Beacons.Evict
import EmbeddedClient.Beacons.Add
import EmbeddedClient.Session.Dispatch
import EmbeddedClient.Session.Frame
import EmbeddedClient.Session.Decode
import EmbeddedClient.Session.Lines
import EmbeddedClient.Beacons.Run
import EmbeddedClient.Beacons.Context
import EmbeddedClient.Beacons.Invariant
import EmbeddedClient.Beacons.Capacity
import EmbeddedClient.Beacons.Atomic
import EmbeddedClient.Beacons.Dated
import EmbeddedClient.Beacons.Listed
import EmbeddedClient.Beacons.Adds
import EmbeddedClient.Beacons.CellOrder
import EmbeddedClient.Beacons.Stream
import EmbeddedClient.Beacons.SortedCells
import EmbeddedClient.Beacons.TypeCounts
import EmbeddedClient.Beacons.Duplicates
import EmbeddedClient.Beacons.VirtualAps
import EmbeddedClient.Beacons.Priorities
import EmbeddedClient.Beacons.Zigzag
import EmbeddedClient.Beacons.Connected
import EmbeddedClient.Beacons.Evictions
import EmbeddedClient.Beacons.ScanOrder
import EmbeddedClient.Beacons.Documented
import EmbeddedClient.Beacons.Errno
import EmbeddedClient.Beacons.Siblings
import EmbeddedClient.Beacons.Similar
import EmbeddedClient.Session.Options
import EmbeddedClient.Session.Restore
import EmbeddedClient.Session.Backoff
import EmbeddedClient.Session.Buffers
import EmbeddedClient.Session.Restart
import EmbeddedClient.Session.Damage
import EmbeddedClient.Session.Indexes
import EmbeddedClient.Session.Quiet
import EmbeddedClient.Session.Transactions
import EmbeddedClient.Session.Tokens
import EmbeddedClient.Session.Position
import EmbeddedClient.Session.Undecoded
import EmbeddedClient.Session.Failures
import EmbeddedClient.Session.PluginList
import EmbeddedClient.Wire.Cell
import EmbeddedClient.Wire.Response
import EmbeddedClient.Wire.Sizing
import EmbeddedClient.Wire.Streams
import EmbeddedClient.Wire.Aps
import EmbeddedClient.Wire.UsedAps
import EmbeddedClient.Wire.Vaps
import EmbeddedClient.Wire.Gnss
import EmbeddedClient.Wire.Request
import EmbeddedClient.Wire.Server
import EmbeddedClient.Wire.Exchange
import EmbeddedClient.Client.Rounds
import EmbeddedClient.Client.Serving
import EmbeddedClient.Client.Locate
import EmbeddedClient.Cache.Scan
import EmbeddedClient.Cache.Indexes
import EmbeddedClient.Cache.Search
import EmbeddedClient.Cache.Hit
import EmbeddedClient.Cache.Identical
import EmbeddedClient.Session.CacheHits
import EmbeddedClient.Cache.RoundTrip
import EmbeddedClient.Cache.Origin
import EmbeddedClient.Cache.Provenance
import EmbeddedClient.Cache.Matching
import EmbeddedClient.Cache.Groups
import EmbeddedClient.Cache.Placement
import EmbeddedClient.Cache.Updates
import EmbeddedClient.Cache.Oldest
import EmbeddedClient.Cache.Expiry
import EmbeddedClient.Cache.Free
