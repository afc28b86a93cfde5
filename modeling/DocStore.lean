import DocStore.Connector.Choice
import DocStore.Connector.Shared
import DocStore.Journal.Basic
import DocStore.Proofs.Calendar.Civil
import DocStore.Proofs.Connector.Report
import DocStore.Proofs.Connector.Shared
import DocStore.Proofs.Crowd.Alone
import DocStore.Proofs.Crowd.Apart
import DocStore.Proofs.Crowd.Basic
import DocStore.Proofs.Crowd.Drop
import DocStore.Proofs.Crowd.Progress
import DocStore.Proofs.Crowd.Queue
import DocStore.Proofs.Crowd.Serial
import DocStore.Proofs.Disk.Calm
import DocStore.Proofs.Disk.Replace
import DocStore.Proofs.Engine.Apart
import DocStore.Proofs.Engine.Bare
import DocStore.Proofs.Engine.Batch
import DocStore.Proofs.Engine.Begin
import DocStore.Proofs.Engine.Cached
import DocStore.Proofs.Engine.Calm
import DocStore.Proofs.Engine.Catalogue
import DocStore.Proofs.Engine.Change
import DocStore.Proofs.Engine.Damaged
import DocStore.Proofs.Engine.Durable
import DocStore.Proofs.Engine.Effect
import DocStore.Proofs.Engine.Event
import DocStore.Proofs.Engine.FailedDrop
import DocStore.Proofs.Engine.File
import DocStore.Proofs.Engine.Fresh
import DocStore.Proofs.Engine.Growth
import DocStore.Proofs.Engine.History
import DocStore.Proofs.Engine.Identity
import DocStore.Proofs.Engine.InUse
import DocStore.Proofs.Engine.Isolated
import DocStore.Proofs.Engine.Load
import DocStore.Proofs.Engine.Mirror
import DocStore.Proofs.Engine.Reachable
import DocStore.Proofs.Engine.Refused
import DocStore.Proofs.Engine.Reload
import DocStore.Proofs.Engine.Repeat
import DocStore.Proofs.Engine.Reread
import DocStore.Proofs.Engine.Run
import DocStore.Proofs.Engine.Selection
import DocStore.Proofs.Engine.Stored
import DocStore.Proofs.Engine.Supply
import DocStore.Proofs.Engine.Timed
import DocStore.Proofs.Engine.Times
import DocStore.Proofs.Engine.Turn
import DocStore.Proofs.Engine.Unique
import DocStore.Proofs.Engine.Unstorable
import DocStore.Proofs.Engine.Update
import DocStore.Proofs.Engine.Upsert
import DocStore.Proofs.Extended.Date
import DocStore.Proofs.Extended.Decode
import DocStore.Proofs.Extended.Normal
import DocStore.Proofs.Extended.Own
import DocStore.Proofs.Extended.Plain
import DocStore.Proofs.Extended.Refusal
import DocStore.Proofs.Extended.Refused
import DocStore.Proofs.Extended.Reread
import DocStore.Proofs.Extended.Steady
import DocStore.Proofs.Extended.Unstorable
import DocStore.Proofs.Json.Number
import DocStore.Proofs.Json.Short
import DocStore.Proofs.Json.Text
import DocStore.Proofs.Json.Tree
import DocStore.Proofs.Number.Bound
import DocStore.Proofs.Number.Digits
import DocStore.Proofs.Number.Nearest
import DocStore.Proofs.Number.Place
import DocStore.Proofs.Number.Quantity
import DocStore.Proofs.Number.Shortest
import DocStore.Proofs.Number.Written
import DocStore.Proofs.Order.Canonical
import DocStore.Proofs.Order.Comparand
import DocStore.Proofs.Order.Compare
import DocStore.Proofs.Order.Sign
import DocStore.Proofs.Order.Sort
import DocStore.Proofs.Order.StableSort
import DocStore.Proofs.Order.StableSort.Gallop
import DocStore.Proofs.Order.StableSort.Image
import DocStore.Proofs.Order.StableSort.Merge
import DocStore.Proofs.Order.StableSort.Run
import DocStore.Proofs.Order.Standing
import DocStore.Proofs.Query.Conjunction
import DocStore.Proofs.Query.Digits
import DocStore.Proofs.Query.Refusal
import DocStore.Proofs.Query.Selection
import DocStore.Proofs.Remote.Clients
import DocStore.Proofs.Remote.Command
import DocStore.Proofs.Remote.Course
import DocStore.Proofs.Remote.Duplicate
import DocStore.Proofs.Remote.Holdings
import DocStore.Proofs.Remote.Names
import DocStore.Proofs.Remote.Stamped
import DocStore.Proofs.Remote.Talk
import DocStore.Proofs.Remote.Treats
import DocStore.Proofs.Remote.Upsert
import DocStore.Proofs.Slot.Monitor
import DocStore.Proofs.Slot.Safe
import DocStore.Proofs.Text.Base64
import DocStore.Proofs.Text.Hex
import DocStore.Proofs.Value.Alike
import DocStore.Proofs.Value.Deep
import DocStore.Proofs.Value.Equal
import DocStore.Proofs.Value.Equivalence
import DocStore.Proofs.Value.Fields
import DocStore.Proofs.Value.Stored
import DocStore.Proofs.Work
