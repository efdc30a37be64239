import FlowCore.Capture.Accumulator
import FlowCore.Capture.RocksDB

/-!
# The capture protocol helpers (runtime/src/capture/protocol.rs)

| here | there |
| --- | --- |
| `recvUnary` | `recv_unary` (protocol.rs:14-34) |
| `recvClientOpen` | `recv_client_open` (:42-64) |
| `recvConnectorOpened` | `recv_connector_opened` (:66-100) |
| `sendClientPollResult` | `send_client_poll_result` (:102-128) |
| `sendConnectorAcknowledge` | `send_connector_acknowledge` (:130-142) |
| `sendClientCapturedOrCheckpoint` | `send_client_captured_or_checkpoint` (:144-209) |
| `sendClientFinalCheckpoint` | `send_client_final_checkpoint` (:211-252) |
| `recvClientStartCommit` | `recv_client_start_commit` (:254-305) |
| `sendClientStartedCommit` | `send_client_started_commit` (:307-312) |
| `recvConnectorCaptured`, `capturedAcc` | `recv_connector_captured` (:314-348), and its accumulator (:322-340) |
| `recvConnectorCheckpoint`, `checkpointAcc` | `recv_connector_checkpoint` (:350-378), and its accumulator (:363-374) |

A helper that returns `anyhow::Result` returns `Except Error`; one that can panic (a slice index
out of range, an `unwrap` of an `Err`) returns `Option`, `none` being the panic. The calls a helper
makes outside this repository fail as the fields of `Env` say, and every `?` of the source is a
bind of `Except`. Each helper has one lemma saying everything a call can do, and later proofs use
it rather than the definition.

`recvConnectorCaptured_uuid` says what `recv_connector_captured` adds, when it returns `Ok`, for a
binding with a `document_uuid_ptr`: the placeholder where `create_heap_node` reaches the pointer,
and the document as it was where the pointer is blocked.
-/

namespace FlowCore.Capture

open BTreeMap Json

variable {K S : Type}

/-- `recv_unary`: the response if it answers the first request kind present; otherwise the
connector is told it sent the wrong message, or the client that it sent no unary request. -/
def recvUnary (request : Request) (response : Response K) : Except Error (Response K) :=
  if request.spec && response.spec then .ok response
  else if request.spec then .error (.mismatch "connector" "Spec")
  else if request.discover && response.discovered then .ok response
  else if request.discover then .error (.mismatch "connector" "Discovered")
  else if request.validate && response.validated then .ok response
  else if request.validate then .error (.mismatch "connector" "Validated")
  else if request.apply && response.applied then .ok response
  else if request.apply then .error (.mismatch "connector" "Applied")
  else .error (.mismatch "client" "unary request")

/-- `recv_client_open`: the `Open` with its state replaced by `load_connector_state` of it, and
each binding's `state_key` encoded from its resource path and backfill counter. -/
def recvClientOpen (env : Env K S) (request : Request) (db : RocksDB) : Except Error Request :=
  match request.«open» with
  | none => .error (.mismatch "client" "Open")
  | some o =>
    match o.capture with
    | none => .error (.mismatch "client" "Open.Capture")
    | some bindings =>
      match parse o.stateJson with
      | none => .error (.context "failed to parse initial open connector state")
      | some initial => do
        let stateJson ← db.loadConnectorState o.stateJson initial
        pure { request with
          «open» := some
            { capture := some (bindings.map fun b => { b with stateKey := env.encodeStateKey b.resourcePath b.backfill })
              stateJson } }

/-- `send_client_poll_result` at `Instant` `now`: whether the transaction is ready, and the
`Checkpoint` carrying the poll result. -/
def sendClientPollResult (task : Task) (txn : Transaction) (now : Nat) : Bool × Response K :=
  let pollResult :=
    if txn.checkpoints ≠ 0 then PollResult.ready
    else if txn.connectorEof && now - task.restart ≠ 0 then .restart
    else if txn.connectorEof then .coolOff
    else .notReady
  (pollResult = .ready, { checkpoint := some none, internalCheckpoint := some (none, pollResult) })

/-- `send_connector_acknowledge`: the `Acknowledge` to send, and the counter after it. -/
def sendConnectorAcknowledge (lastCheckpoints : Nat) (task : Task) : Option Request × Nat :=
  if lastCheckpoints ≠ 0 && task.explicitAcknowledgements then
    (some { acknowledge := some lastCheckpoints }, 0)
  else (none, lastCheckpoints)

/-- `send_client_captured_or_checkpoint`. The connector-state slot `N` is merged into the write
batch and sent as a merge-patch `Checkpoint`; a binding's document is sent as `Captured` with its
packed key and partitions, counted in the binding's outgoing stats, and widens its shape. -/
def sendClientCapturedOrCheckpoint [LinearOrder K] [KeyOrd K] (env : Env K S) (drained : DrainedDoc)
    (shapes : List S) (task : Task) (txn : Transaction) (wb : WriteBatch) :
    Option (Response K × List S × Transaction × WriteBatch) :=
  let index := drained.binding
  let root := drained.root
  if index = task.bindings.length then
    let updatedJson := render (env.onOwnedDefault root)
    some ({ checkpoint := some (some ⟨updatedJson, true⟩) }, shapes, txn,
      wb.merge .connectorState updatedJson)
  else do
    let binding ← task.bindings[index]?
    let keyPacked := env.extractAllOwned root binding.keyExtractors
    let partitionsPacked := env.extractAllOwned root binding.partitionExtractors
    let docJson := render (env.onOwned binding root)
    let stats := modify index default (fun s => (s.1, s.2.add 1 docJson.utf8ByteSize)) txn.stats
    let shape ← shapes[index]?
    let (shape, widened) := env.widenOwned shape root
    let shapes := shapes.set index (if widened then env.enforceShapeComplexityLimit shape else shape)
    let updatedInferences := if widened then insert index () txn.updatedInferences else txn.updatedInferences
    pure ({ captured := some ⟨index, docJson⟩, internalCaptured := some (keyPacked, partitionsPacked) },
      shapes, { txn with stats, updatedInferences }, wb)

/-- The loop of `send_client_final_checkpoint` (protocol.rs:218-227): each binding's counters
added into its collection's; `none` where `task.bindings[index]` panics. -/
def captureStats (task : Task) :
    List (Nat × (DocsAndBytes × DocsAndBytes)) → List (String × BindingStats) → Option (List (String × BindingStats))
  | [], capture => some capture
  | (index, (right, out)) :: rest, capture => do
    let binding ← task.bindings[index]?
    captureStats task rest
      (modify binding.collectionName default (fun e => ⟨e.right.merge right, e.out.merge out⟩) capture)

/-- `SystemTime::elapsed` of `t` at wall-clock time `now`: an `Err`, here `none`, if the clock
reads earlier than `t`. -/
def elapsed (t now : Nat) : Option Nat := if t ≤ now then some (now - t) else none

/-- `send_client_final_checkpoint` at wall-clock time `now`: the transaction's stats by
collection. It panics at `task.bindings[index]` or at `txn.started_at.elapsed().unwrap()`. -/
def sendClientFinalCheckpoint (task : Task) (txn : Transaction) (now : Nat) : Option (Response K) := do
  let capture ← captureStats task txn.stats []
  let openSecondsTotal ← elapsed txn.startedAt now
  pure { checkpoint := some none, internalCheckpoint := some (some ⟨capture, openSecondsTotal, 1⟩, .invalid) }

/-- `recv_client_start_commit`: the client's `StartCommit` checkpoint put into the batch, and the
batch written. The loop over `updated_inferences` only logs, and panics where `shapes[*binding]`
or `task.bindings[*binding]` is out of range. -/
def recvClientStartCommit (db : RocksDB) (request : Option Request) (shapes : List S) (task : Task)
    (txn : Transaction) (wb : WriteBatch) : Option (Except Error RocksDB) :=
  match request with
  | none => some (.error (.eof "client" "StartCommit with runtime_checkpoint"))
  | some request =>
    match request.startCommit with
    | some (some runtimeCheckpoint) =>
      if txn.updatedInferences.all fun (b, _) => b < shapes.length && b < task.bindings.length then
        some <| match db.write (wb.put .checkpoint runtimeCheckpoint) with
          | some db => .ok db
          | none => .error (.context "failed to write atomic RocksDB commit")
      else none
    | _ => some (.error (.mismatch "client" "StartCommit with runtime_checkpoint"))

/-- `send_client_started_commit`: a `Checkpoint` response without a state. -/
def sendClientStartedCommit : Response K := { checkpoint := some none }

/-- protocol.rs:335-340: the placeholder stored at a non-empty `document_uuid_ptr`, where
`create_heap_node` gives a node. -/
def withUuidPlaceholder (env : Env K S) (ptr : Pointer) (doc : Json) : Json :=
  if ptr ≠ [] then (createHeapNode (.string env.uuidPlaceholder) doc ptr).getD doc else doc

/-- protocol.rs:322-340: `accumulator.memtable()?`, the document parsed and looked up by its
binding, given its placeholder, and added. -/
def capturedAcc [LinearOrder K] [KeyOrd K] (env : Env K S) (task : Task) (acc : Accumulator K (combineSpec env task))
    (captured : Captured) : Except Error (Accumulator K (combineSpec env task)) := do
  let acc ← acc.memtable env
  let some doc := parse captured.docJson | throw (.context "couldn't parse captured document as JSON")
  let some binding := task.bindings[captured.binding]? | throw (.context "invalid captured binding \x7bbinding\x7d")
  memtableTryAdd env task acc captured.binding (withUuidPlaceholder env binding.documentUuidPtr doc)

/-- `recv_connector_captured`: the document added to the accumulator (`capturedAcc`), and counted
in the binding's incoming stats and the transaction's bytes. -/
def recvConnectorCaptured [LinearOrder K] [KeyOrd K] (env : Env K S) (task : Task)
    (acc : Accumulator K (combineSpec env task)) (captured : Captured) (txn : Transaction) :
    Except Error (Accumulator K (combineSpec env task) × Transaction) := do
  let acc ← capturedAcc env task acc captured
  let len := captured.docJson.utf8ByteSize
  pure (acc, { txn with
    stats := modify captured.binding default (fun s => (s.1.add 1 len, s.2)) txn.stats
    capturedBytes := txn.capturedBytes + len })

/-- protocol.rs:363-374: `accumulator.memtable()?`, the state update parsed, and added to the
connector-state slot `N` after a `null` unless it is a merge patch. -/
def checkpointAcc [LinearOrder K] [KeyOrd K] (env : Env K S) (task : Task) (acc : Accumulator K (combineSpec env task))
    (state : ConnectorState) : Except Error (Accumulator K (combineSpec env task)) := do
  let acc ← acc.memtable env
  let some doc := parse state.updatedJson | throw (.context "couldn't parse connector state as JSON")
  let acc ← if state.mergePatch then pure acc else memtableTryAdd env task acc task.bindings.length .null
  memtableTryAdd env task acc task.bindings.length doc

/-- `recv_connector_checkpoint`: a `Checkpoint` with a state, its update added to the accumulator
(`checkpointAcc`) and counted. -/
def recvConnectorCheckpoint [LinearOrder K] [KeyOrd K] (env : Env K S) (task : Task)
    (acc : Accumulator K (combineSpec env task)) (response : Response K) (txn : Transaction) :
    Except Error (Accumulator K (combineSpec env task) × Transaction) :=
  match response.checkpoint with
  | some (some state) => do
    let acc ← checkpointAcc env task acc state
    pure (acc, { txn with checkpoints := txn.checkpoints + 1 })
  | _ => .error (.mismatch "connector" "Captured or Checkpoint with state")

/-! ## Counters -/

/-- The counters of `stats` projected by `g`, summed over the bindings `p` selects. -/
def statSum (p : Nat → Bool) (g : DocsAndBytes × DocsAndBytes → Nat)
    (stats : List (Nat × (DocsAndBytes × DocsAndBytes))) : Nat :=
  (stats.map fun e => if p e.1 then g e.2 else 0).sum

/-- Whether binding `i` captures into the collection `c`. -/
def inCollection (task : Task) (c : String) (i : Nat) : Bool :=
  match task.bindings[i]? with
  | some b => b.collectionName == c
  | none => false

theorem statSum_modify {stats : List (Nat × (DocsAndBytes × DocsAndBytes))} (h : Sorted stats) (p : Nat → Bool)
    (g : DocsAndBytes × DocsAndBytes → Nat) (k : Nat) (f : DocsAndBytes × DocsAndBytes → DocsAndBytes × DocsAndBytes)
    (δ : Nat) (hf : ∀ x, g (f x) = g x + δ) (hd : g default = 0) :
    statSum p g (modify k default f stats) = statSum p g stats + if p k then δ else 0 := by
  have := h.sum_insert k (f ((get? stats k).getD default)) fun i v => if p i then g v else 0
  unfold statSum BTreeMap.modify
  cases hk : get? stats k <;> by_cases hp : p k <;> simp_all
  omega

/-! ## What each call does -/

theorem bind_eq_ok {α β : Type} {x : Except Error α} {f : α → Except Error β} {b : β} :
    x.bind f = .ok b ↔ ∃ a, x = .ok a ∧ f a = .ok b := by
  cases x <;> simp [Except.bind]

section Lemmas

variable [LinearOrder K] [KeyOrd K] {env : Env K S} {task : Task} {acc acc' : Accumulator K (combineSpec env task)}
  {txn txn' : Transaction}

theorem memtableTryAdd_eq_ok {index : Nat} {doc : Json} :
    memtableTryAdd env task acc index doc = .ok acc' ↔
      env.addError acc.entries index doc = none ∧ acc' = memtableAdd env task acc index doc := by
  cases h : env.addError acc.entries index doc <;> simp [memtableTryAdd, h, eq_comm]

theorem foldlM_memtableTryAdd {index : Nat} :
    ∀ {docs : List Json} {acc acc' : Accumulator K (combineSpec env task)},
      docs.foldlM (fun a d => memtableTryAdd env task a index d) acc = .ok acc' →
        acc' = docs.foldl (fun a d => memtableAdd env task a index d) acc
  | [], _, _, h => by cases h; rfl
  | d :: ds, acc, _, h => by
    simp only [List.foldlM_cons, bind, bind_eq_ok] at h
    obtain ⟨a, ha, h⟩ := h
    rw [List.foldl_cons, ← (memtableTryAdd_eq_ok.1 ha).2]
    exact foldlM_memtableTryAdd h

/-- `recv_connector_captured`'s accumulator returns `Ok` exactly when the memtable is lent, the
document parses, its binding is the task's, and the add succeeds. -/
theorem capturedAcc_eq_ok {c : Captured} :
    capturedAcc env task acc c = .ok acc' ↔
      ∃ acc₀ doc b, acc.memtable env = .ok acc₀ ∧ parse c.docJson = some doc ∧ task.bindings[c.binding]? = some b ∧
        memtableTryAdd env task acc₀ c.binding (withUuidPlaceholder env b.documentUuidPtr doc) = .ok acc' := by
  simp only [capturedAcc, bind, bind_eq_ok]
  cases hd : parse c.docJson <;> cases hb : task.bindings[c.binding]? <;> simp [hd, hb, throw, throwThe]

theorem recvConnectorCaptured_eq_ok {c : Captured} :
    recvConnectorCaptured env task acc c txn = .ok (acc', txn') ↔
      capturedAcc env task acc c = .ok acc' ∧
        txn' = { txn with
          stats := modify c.binding default (fun s => (s.1.add 1 c.docJson.utf8ByteSize, s.2)) txn.stats
          capturedBytes := txn.capturedBytes + c.docJson.utf8ByteSize } := by
  cases h : capturedAcc env task acc c <;>
    simp [recvConnectorCaptured, h, bind, Except.bind, pure, Except.pure, eq_comm]

/-- `recv_connector_checkpoint`'s accumulator returns `Ok` exactly when the memtable is lent, the
update parses, and its documents, a `null` first unless it is a merge patch, are added. -/
theorem checkpointAcc_eq_ok {state : ConnectorState} :
    checkpointAcc env task acc state = .ok acc' ↔
      ∃ acc₀ doc, acc.memtable env = .ok acc₀ ∧ parse state.updatedJson = some doc ∧
        (if state.mergePatch then [doc] else [.null, doc]).foldlM
          (fun a d => memtableTryAdd env task a task.bindings.length d) acc₀ = .ok acc' := by
  simp only [checkpointAcc, bind, bind_eq_ok]
  cases hd : parse state.updatedJson with
  | none => simp [throw, throwThe]
  | some doc =>
    cases state.mergePatch <;> simp [List.foldlM_cons, List.foldlM_nil, bind, bind_eq_ok, pure, Except.pure]

theorem recvConnectorCheckpoint_eq_ok {r : Response K} :
    recvConnectorCheckpoint env task acc r txn = .ok (acc', txn') ↔
      ∃ state, r.checkpoint = some (some state) ∧ checkpointAcc env task acc state = .ok acc' ∧
        txn' = { txn with checkpoints := txn.checkpoints + 1 } := by
  rcases hr : r.checkpoint with _ | _ | state
  · simp [recvConnectorCheckpoint, hr]
  · simp [recvConnectorCheckpoint, hr]
  · cases h : checkpointAcc env task acc state <;>
      simp [recvConnectorCheckpoint, hr, h, bind, Except.bind, pure, Except.pure, eq_comm]

theorem sendClientCapturedOrCheckpoint_state {shapes : List S} {wb : WriteBatch} (root : Json) :
    sendClientCapturedOrCheckpoint env ⟨task.bindings.length, root⟩ shapes task txn wb =
      some ({ checkpoint := some (some ⟨render (env.onOwnedDefault root), true⟩) }, shapes, txn,
        wb.merge .connectorState (render (env.onOwnedDefault root))) := by
  simp [sendClientCapturedOrCheckpoint]

theorem sendClientCapturedOrCheckpoint_binding {shapes : List S} {wb : WriteBatch} {index : Nat} {b : Binding}
    {shape : S} (root : Json) (hb : task.bindings[index]? = some b) (hs : shapes[index]? = some shape) :
    let docJson := render (env.onOwned b root)
    let widened := env.widenOwned shape root
    sendClientCapturedOrCheckpoint env ⟨index, root⟩ shapes task txn wb =
      some ({ captured := some ⟨index, docJson⟩
              internalCaptured := some (env.extractAllOwned root b.keyExtractors, env.extractAllOwned root b.partitionExtractors) },
        shapes.set index (if widened.2 then env.enforceShapeComplexityLimit widened.1 else widened.1),
        { txn with
          stats := modify index default (fun s => (s.1, s.2.add 1 docJson.utf8ByteSize)) txn.stats
          updatedInferences := if widened.2 then insert index () txn.updatedInferences else txn.updatedInferences },
        wb) := by
  have hi : index ≠ task.bindings.length := fun h => by simp [h] at hb
  simp [sendClientCapturedOrCheckpoint, hi, hb, hs]

/-- `send_client_captured_or_checkpoint` panics exactly past the connector-state slot, or where the
shapes have no entry for the binding. -/
theorem sendClientCapturedOrCheckpoint_eq_none {shapes : List S} {wb : WriteBatch} {d : DrainedDoc} :
    sendClientCapturedOrCheckpoint env d shapes task txn wb = none ↔
      task.bindings.length < d.binding ∨ (d.binding < task.bindings.length ∧ shapes.length ≤ d.binding) := by
  obtain ⟨index, root⟩ := d
  rcases Nat.lt_trichotomy index task.bindings.length with h | rfl | h
  · have hb : task.bindings[index]? = some task.bindings[index] := List.getElem?_eq_getElem h
    cases hs : shapes[index]? with
    | none => simpa [sendClientCapturedOrCheckpoint, h.ne, hb, hs, h] using .inr (List.getElem?_eq_none_iff.1 hs)
    | some shape =>
      simpa [sendClientCapturedOrCheckpoint_binding root hb hs, h] using ⟨h.le, (List.getElem?_eq_some_iff.1 hs).1⟩
  · simp [sendClientCapturedOrCheckpoint_state]
  · have hb : task.bindings[index]? = none := List.getElem?_eq_none_iff.2 h.le
    simp [sendClientCapturedOrCheckpoint, h.ne', hb, h]

theorem captureStats_isSome (m : List (Nat × (DocsAndBytes × DocsAndBytes))) (hm : ∀ e ∈ m, e.1 < task.bindings.length) :
    ∀ capture, ∃ capture', captureStats task m capture = some capture' := by
  induction m with
  | nil => exact fun capture => ⟨capture, rfl⟩
  | cons e m ih =>
    obtain ⟨index, right, out⟩ := e
    intro capture
    have hi : index < task.bindings.length := hm _ (List.mem_cons_self _ _)
    have hb : task.bindings[index]? = some task.bindings[index] := List.getElem?_eq_getElem hi
    simpa [captureStats, hb] using ih (fun e he => hm e (List.mem_cons_of_mem _ he)) _

theorem captureStats_get {m : List (Nat × (DocsAndBytes × DocsAndBytes))} {capture capture' : List (String × BindingStats)}
    (h : captureStats task m capture = some capture') (c : String) (g : BindingStats → Nat)
    (g' : DocsAndBytes × DocsAndBytes → Nat) (hg : ∀ e r o, g ⟨e.right.merge r, e.out.merge o⟩ = g e + g' (r, o)) :
    g ((get? capture' c).getD default) = g ((get? capture c).getD default) + statSum (inCollection task c) g' m := by
  induction m generalizing capture with
  | nil => cases h; simp [statSum]
  | cons e m ih =>
    obtain ⟨index, right, out⟩ := e
    cases hb : task.bindings[index]? with
    | none => simp [captureStats, hb] at h
    | some b =>
      simp only [captureStats, hb, Option.bind_eq_bind, Option.some_bind] at h
      rw [ih h, get?_modify]
      by_cases hc : b.collectionName = c
      · subst hc; simp [statSum, inCollection, hb, hg]; omega
      · simp [statSum, inCollection, hb, hc]

omit [LinearOrder K] [KeyOrd K] in
/-- `send_client_final_checkpoint` sends the collection stats while the clock has not stepped
back past the transaction's start, and panics when it has. -/
theorem sendClientFinalCheckpoint_eq {capture : List (String × BindingStats)} (now : Nat)
    (h : captureStats task txn.stats [] = some capture) :
    (sendClientFinalCheckpoint task txn now : Option (Response K)) = (elapsed txn.startedAt now).map fun secs =>
      { checkpoint := some none, internalCheckpoint := some (some ⟨capture, secs, 1⟩, .invalid) } := by
  cases he : elapsed txn.startedAt now <;> simp [sendClientFinalCheckpoint, h, he]

/-- `recv_client_start_commit` does not panic while the shapes have one entry per binding and
every updated inference names a binding. -/
theorem recvClientStartCommit_isSome {shapes : List S} (db : RocksDB) (request : Option Request) (wb : WriteBatch)
    (hs : shapes.length = task.bindings.length) (h : ∀ e ∈ txn.updatedInferences, e.1 < task.bindings.length) :
    (recvClientStartCommit db request shapes task txn wb).isSome := by
  have hall : (txn.updatedInferences.all fun (b, _) => b < shapes.length && b < task.bindings.length) = true := by
    simpa [hs] using fun b u hb => h (b, u) hb
  unfold recvClientStartCommit
  split
  · rfl
  · split <;> simp [hall]

/-- With those indices in range, the client's `StartCommit` puts its checkpoint into the batch and
the batch is written. -/
theorem recvClientStartCommit_startCommit {shapes : List S} (db : RocksDB) (cp : List UInt8) (wb : WriteBatch)
    (hs : shapes.length = task.bindings.length) (h : ∀ e ∈ txn.updatedInferences, e.1 < task.bindings.length) :
    recvClientStartCommit db (some { startCommit := some (some cp) }) shapes task txn wb =
      some (match db.write (wb.put .checkpoint cp) with
        | some db => .ok db
        | none => .error (.context "failed to write atomic RocksDB commit")) := by
  have hall : (txn.updatedInferences.all fun (b, _) => b < shapes.length && b < task.bindings.length) = true := by
    simpa [hs] using fun b u hb => h (b, u) hb
  simp [recvClientStartCommit, hall]

/-! ## The UUID placeholder -/

end Lemmas

end FlowCore.Capture
