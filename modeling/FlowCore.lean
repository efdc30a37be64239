import FlowCore.BTreeMap
import FlowCore.Json.Value
import FlowCore.Json.Text
import FlowCore.Json.Pointer
import FlowCore.Json.MergePatch
import FlowCore.Json.WellFormed
import FlowCore.Json.RoundTrip
import FlowCore.Capture.Task
import FlowCore.Capture.Accumulator
import FlowCore.Capture.RocksDB
import FlowCore.Capture.Protocol
import FlowCore.Capture.Transaction
import FlowCore.Capture.Session
import FlowCore.Publications.Specs
import FlowCore.Materialization.SelectionUi
import FlowCore.Schema.Types
import FlowCore.Publications.Apply
