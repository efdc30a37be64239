import FlowCore.Json.Pointer
import FlowCore.Json.Text

/-!
# Capture: task, transaction and messages (runtime/src/capture)

`protocol.rs` takes `Task` and `Transaction` from `capture/mod.rs` and its messages from
`proto_flow`; neither is in this repository, and they are modelled here by the fields the helpers
read and write. A message field the helpers only test for presence is a `Bool`.

The `doc` crate parses, combines, serializes and infers the shapes of documents. It is not in this
repository either, and enters as the structure `Env`: each operation the helpers call is a field,
and a theorem that needs a law of one takes the law as a hypothesis. The calls that can fail
(spilling a memtable, adding to it, `Task::new`, `Accumulator::new`) are fields too, each giving the
error it fails with, so a result holds however they fail. Documents, their text and JSON pointers
are those of `FlowCore.Json`. `Env.extractAllOwned` is the one operation whose shape the helpers'
contract fixes: the packed tuple of the values that the extractors' pointers select.

Counters and indices are `Nat`. `SystemTime` and `Instant` are nanosecond counts.
-/

namespace FlowCore.Capture

/-- `task::Binding`: what the helpers read of a capture binding. -/
structure Binding where
  collectionName : String
  keyExtractors : List Pointer
  partitionExtractors : List Pointer
  documentUuidPtr : Pointer
deriving DecidableEq, Repr

/-- `task::Task`: the bindings, indexed `0..N`; whether the connector takes acknowledgements;
the `Instant` after which a connector EOF asks for a restart. -/
structure Task where
  bindings : List Binding
  explicitAcknowledgements : Bool
  restart : Nat
deriving DecidableEq, Repr

/-! ## The transaction -/

/-- `ops::stats::DocsAndBytes`. -/
@[ext] structure DocsAndBytes where
  docsTotal : Nat
  bytesTotal : Nat
deriving DecidableEq, Repr

instance : Inhabited DocsAndBytes := ⟨⟨0, 0⟩⟩

@[simp] theorem DocsAndBytes.default_eq : (default : DocsAndBytes) = ⟨0, 0⟩ := rfl

/-- `stats.docs_total += docs; stats.bytes_total += bytes`. -/
def DocsAndBytes.add (s : DocsAndBytes) (docs bytes : Nat) : DocsAndBytes :=
  ⟨s.docsTotal + docs, s.bytesTotal + bytes⟩

/-- `capture::Transaction`. `stats` maps a binding index to its incoming and outgoing counters;
`updatedInferences` is the `BTreeSet` of bindings whose shape widened, a map to `()`; `startedAt`
is the `SystemTime` the transaction started. -/
structure Transaction where
  checkpoints : Nat
  connectorEof : Bool
  capturedBytes : Nat
  stats : List (Nat × (DocsAndBytes × DocsAndBytes))
  updatedInferences : List (Nat × Unit)
  startedAt : Nat
deriving DecidableEq, Repr

/-- `Transaction::new()`, at wall-clock time `now`. -/
def Transaction.new (now : Nat) : Transaction := ⟨0, false, 0, [], [], now⟩

/-! ## Messages -/

/-- `response::Captured`. -/
structure Captured where
  binding : Nat
  docJson : String
deriving DecidableEq, Repr

/-- `flow::ConnectorState`. -/
structure ConnectorState where
  updatedJson : String
  mergePatch : Bool
deriving DecidableEq, Repr

/-- `capture_response_ext::PollResult`. -/
inductive PollResult where
  | invalid
  | ready
  | notReady
  | coolOff
  | restart
deriving DecidableEq, Repr

/-- `ops::stats::Binding`: a collection's incoming (`right`) and outgoing (`out`) counters. -/
structure BindingStats where
  right : DocsAndBytes
  out : DocsAndBytes
deriving DecidableEq, Repr

instance : Inhabited BindingStats := ⟨⟨default, default⟩⟩

@[simp] theorem BindingStats.default_eq : (default : BindingStats) = ⟨default, default⟩ := rfl

/-- `ops::merge_docs_and_bytes(&s, &mut entry)`. -/
def DocsAndBytes.merge (entry s : DocsAndBytes) : DocsAndBytes := entry.add s.docsTotal s.bytesTotal

/-- `ops::Stats`: the fields `send_client_final_checkpoint` computes from the transaction; the
duration is in nanoseconds. -/
structure Stats where
  capture : List (String × BindingStats)
  openSecondsTotal : Nat
  txnCount : Nat
deriving DecidableEq, Repr

/-- `capture::Response`, from the connector or to the client. `checkpoint` is
`Option<response::Checkpoint>`, whose one field is the optional state; the `internal*` fields are
the runtime's extension: the `Opened` runtime checkpoint, the `Captured` packed key and partitions,
and the `Checkpoint` stats and poll result. -/
structure Response (K : Type) where
  spec : Bool := false
  discovered : Bool := false
  validated : Bool := false
  applied : Bool := false
  captured : Option Captured := none
  checkpoint : Option (Option ConnectorState) := none
  internalOpened : Option (List UInt8) := none
  internalCaptured : Option (K × K) := none
  internalCheckpoint : Option (Option Stats × PollResult) := none
deriving DecidableEq, Repr

/-- A binding of `request::Open`'s capture: what `recv_client_open` reads and writes. -/
structure BindingSpec where
  resourcePath : List String
  backfill : Nat
  stateKey : String
deriving DecidableEq, Repr

/-- `request::Open`: the capture's bindings, if the capture is there, and the state. -/
structure Open where
  capture : Option (List BindingSpec)
  stateJson : String
deriving DecidableEq, Repr

/-- `capture::Request`. `startCommit` is the runtime extension's `StartCommit`, with its
`runtime_checkpoint` as the bytes it encodes to. -/
structure Request where
  spec : Bool := false
  discover : Bool := false
  validate : Bool := false
  apply : Bool := false
  «open» : Option Open := none
  acknowledge : Option Nat := none
  startCommit : Option (Option (List UInt8)) := none
deriving DecidableEq, Repr

/-- Modelled from the spec: an `anyhow::Error` of the helpers. `crate::verify(party, expected)`
fails with a protocol mismatch naming the party and the message it should have sent, or with an
end of stream where it should have sent one; other failures carry the helper's context. -/
inductive Error where
  | mismatch (party expected : String)
  | eof (party expected : String)
  | context (message : String)
deriving DecidableEq, Repr

/-! ## The write batch -/

/-- Modelled from the spec: the store's two reserved keys, `RocksDB::CONNECTOR_STATE_KEY` and
`RocksDB::CHECKPOINT_KEY`. -/
inductive StoreKey where
  | connectorState
  | checkpoint
deriving DecidableEq, Repr

/-- A mutation of a `rocksdb::WriteBatch`. -/
inductive BatchOp where
  | put (key : StoreKey) (value : List UInt8)
  | merge (key : StoreKey) (value : String)
deriving DecidableEq, Repr

/-- `rocksdb::WriteBatch`: its mutations in order. -/
structure WriteBatch where
  ops : List BatchOp
deriving DecidableEq, Repr

/-- `WriteBatch::put`. -/
def WriteBatch.put (wb : WriteBatch) (key : StoreKey) (value : List UInt8) : WriteBatch :=
  ⟨wb.ops ++ [.put key value]⟩

/-- `WriteBatch::merge`. -/
def WriteBatch.merge (wb : WriteBatch) (key : StoreKey) (value : String) : WriteBatch :=
  ⟨wb.ops ++ [.merge key value]⟩

/-! ## What the helpers call outside this repository -/

/-- What the helpers call outside this repository: the `doc` crate, `Task::new`,
`crate::UUID_PLACEHOLDER` and `assemble::encode_state_key`. `K` is the type of packed keys and `S`
that of shapes. A call that can fail is given by the error it fails with, as a function of what it
reads, and the results hold for every such function. -/
structure Env (K S : Type) where
  /-- The tuple packing of `doc::Extractor::extract_all_owned`. -/
  pack : List Json → K
  /-- `binding.ser_policy.on_owned(root)`. -/
  onOwned : Binding → Json → Json
  /-- `doc::SerPolicy::default().on_owned(root)`. -/
  onOwnedDefault : Json → Json
  /-- `Shape::widen_owned`: the shape after `root` is seen, and whether it changed. -/
  widenOwned : S → Json → S × Bool
  /-- `enforce_shape_complexity_limit(shape, DEFAULT_SCHEMA_COMPLEXITY_LIMIT)`. -/
  enforceShapeComplexityLimit : S → S
  /-- The reduction that a binding's collection schema gives two documents of one key. -/
  reduce : Binding → Json → Json → Json
  /-- `crate::UUID_PLACEHOLDER`. -/
  uuidPlaceholder : String
  /-- `assemble::encode_state_key(resource_path, backfill)`. -/
  encodeStateKey : List String → Nat → String
  /-- Whether `Accumulator::memtable()` spills the memtable it holds to the spill file before lending
  it, the memtable being over the spill threshold. -/
  spills : List ((Nat ×ₗ K) × Json) → Bool
  /-- The error spilling that memtable fails with, if it does. -/
  spillError : List ((Nat ×ₗ K) × Json) → Option Error
  /-- `MemTable::add(binding, doc, false)`: the error it fails with, given the memtable, the binding
  and the document, if it does (a reduction or a validation the combine spec rejects). -/
  addError : List ((Nat ×ₗ K) × Json) → Nat → Json → Option Error
  /-- `Task::new(&open, &opened)`. -/
  taskNew : Request → Response K → Except Error Task
  /-- `task.binding_shapes_by_index(shapes_by_key)`: the shape of each binding, restored from the one
  kept under its state key. -/
  bindingShapesByIndex : Task → List (String × S) → List S
  /-- `doc::combine::Accumulator::new(task.combine_spec()?, tempfile::tempfile()?)` for the first
  (`0`) and the second (`1`) accumulator: the error of the first of the three calls that fails, if
  one does. -/
  accumulatorError : Task → Nat → Option Error

/-- `doc::Extractor::extract_all_owned(root, extractors, buf)`: the value at each extractor's
pointer, `null` where the document has none, packed. -/
def Env.extractAllOwned {K S : Type} (env : Env K S) (root : Json) (extractors : List Pointer) : K :=
  env.pack (extractors.map fun ptr => (root.query ptr).getD .null)

end FlowCore.Capture
