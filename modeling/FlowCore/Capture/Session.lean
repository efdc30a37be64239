import FlowCore.Capture.Transaction
import FlowCore.Json.RoundTrip

/-!
# A session: committed transactions, the store and acknowledgements

Modelled from the spec's transaction cycle (§4.5) and store (§4.2); the session loop is not in
this repository. A transaction reduces its connector-state updates in the accumulator's state slot,
`send_client_captured_or_checkpoint` merges the drained state into the batch as a merge patch,
`send_client_final_checkpoint` reports the transaction's stats, and `recv_client_start_commit`
writes the batch with the client's checkpoint. A session reopened later reads the store back through
`load_connector_state` (protocol.rs:52-58) and `load_checkpoint` (protocol.rs:87).

| here | there |
| --- | --- |
| `stateUpdate` | the `updated_json` the drain merges into `CONNECTOR_STATE_KEY` (protocol.rs:154-175) |
| `commitTransaction` | one transaction, from the connector's frames to `recv_client_start_commit` (protocol.rs:254-305) |
| `commitAll` | the transactions of a session, in order |
| `acknowledgeAll` | `send_connector_acknowledge` (protocol.rs:130-142) after each commit |

`commitTransaction_eq` says once what a transaction does to the store, and the results over a
run are inductions on it:

* `commitAll_isSome`: no transaction of a run panics while the clock does not step back;
* `reset_keeps_stored_properties`: an update with `merge_patch = false` does not reset the stored
  state. `recv_connector_checkpoint` adds a `null` before it (protocol.rs:371-372), so the state slot
  drains the update alone, but the drain merges it into `CONNECTOR_STATE_KEY` as a merge patch
  (protocol.rs:165-168), and every stored property the update does not name survives the commit;
* `connectorState_nulled_within_transaction`: merge patch is not associative, so a property set and
  then nulled within one transaction stays in the store, where the spec's round-trip fold
  (`roundTripState`, §8 property 1) removes it;
* `reopened_opened_checkpoint`: a reopened session resumes from the last commit's checkpoint;
* `acknowledgements_count_checkpoints`: every accepted checkpoint is acknowledged once.
-/

namespace FlowCore.Capture

open BTreeMap Json

/-- A transaction of a session: the connector's frames, the wall-clock times at which it starts and
at which its final checkpoint is sent, and the runtime checkpoint of the client's `StartCommit`. -/
structure TxnInput (K : Type) where
  frames : List (Response K)
  startedAt : Nat
  finalAt : Nat
  checkpoint : List UInt8

variable {K S : Type} [LinearOrder K] [KeyOrd K] (env : Env K S) (task : Task)

/-- The `updated_json` a transaction's drain merges into the store: the connector state it drains,
as `send_client_captured_or_checkpoint` renders it; `none` if no checkpoint was accepted. -/
def stateUpdate (t : TxnInput K) : Option String :=
  (get? (mergeRuns (combineSpec env task) (recvFrames env task t.frames (Accumulator.empty, Transaction.new t.startedAt)).1.runs)
    (stateKey env task)).map fun state => render (env.onOwnedDefault state)

/-- Modelled from the spec: one transaction committed to the store `db`. The connector's frames
from an empty accumulator and `Transaction::new()` at `t.startedAt`, the drain into an empty batch,
the final checkpoint at `t.finalAt`, and `recv_client_start_commit` of the client's `StartCommit`:
the store and the shapes after it, or the error; `none` where a helper panics. -/
def commitTransaction (db : RocksDB) (shapes : List S) (t : TxnInput K) : Option (Except Error (RocksDB × List S)) := do
  let s := recvFrames env task t.frames (Accumulator.empty, Transaction.new t.startedAt)
  let (_, shapes, txn, wb) ← sendDrain env task s.1.drain (shapes, s.2, ⟨[]⟩)
  let _ ← (sendClientFinalCheckpoint task txn t.finalAt : Option (Response K))
  let db ← recvClientStartCommit db (some { startCommit := some (some t.checkpoint) }) shapes task txn wb
  pure (db.map (·, shapes))

/-- Modelled from the spec: the transactions of a session committed in turn, from the store `db`;
the session stops at the first that fails. -/
def commitAll : List (TxnInput K) → RocksDB → List S → Option (Except Error (RocksDB × List S))
  | [], db, shapes => some (.ok (db, shapes))
  | t :: ts, db, shapes =>
    match commitTransaction env task db shapes t with
    | some (.ok (db, shapes)) => commitAll ts db shapes
    | r => r

/-- The spec's round-trip state (§8, property 1), from its words: the left fold, from the opening
state, of a merge patch for an update with `merge_patch` and a replacement for any other. -/
def roundTripState (opening : Json) (updates : List ConnectorState) : Json :=
  updates.foldl (fun acc u =>
    match parse u.updatedJson with
    | some doc => if u.mergePatch then mergePatch acc doc else doc
    | none => acc) opening

variable {env task}

theorem drain_stateMerges (t : TxnInput K) :
    (recvFrames env task t.frames (Accumulator.empty, Transaction.new t.startedAt)).1.drain.filterMap (fun d =>
        if d.binding = task.bindings.length then
          some (BatchOp.merge .connectorState (render (env.onOwnedDefault d.root))) else none) =
      (stateUpdate env task t).toList.map (BatchOp.merge .connectorState) := by
  have hi := framesInv_recvFrames env task t.startedAt t.frames
  rw [hi.drain_eq, List.filterMap_append, List.filterMap_map, List.filterMap_eq_nil_iff.2 fun e he => by
    obtain ⟨hm, hlt⟩ := List.mem_filter.1 he
    simp [((hi.drained_key hm).resolve_right (ne_of_lt (of_decide_eq_true hlt))).ne]]
  unfold stateUpdate
  cases get? (mergeRuns (combineSpec env task) (recvFrames env task t.frames
    (Accumulator.empty, Transaction.new t.startedAt)).1.runs) (stateKey env task) <;> simp

variable (env) in
/-- **What a committed transaction does to the store**: with one shape per binding, it panics
exactly where the clock reads earlier at the final checkpoint than at the start; otherwise the
shapes keep one per binding, and the store is written with the transaction's state update merged
and the client's checkpoint put. -/
theorem commitTransaction_eq (db : RocksDB) {shapes : List S} (hs : shapes.length = task.bindings.length)
    (t : TxnInput K) :
    ∃ shapes' : List S, shapes'.length = task.bindings.length ∧ commitTransaction env task db shapes t =
      if t.startedAt ≤ t.finalAt then
        some ((match db.write ⟨(stateUpdate env task t).toList.map (BatchOp.merge .connectorState) ++
            [BatchOp.put .checkpoint t.checkpoint]⟩ with
          | some db => (Except.ok db : Except Error RocksDB)
          | none => .error (.context "failed to write atomic RocksDB commit")).map (·, shapes'))
      else none := by
  have hi := framesInv_recvFrames env task t.startedAt t.frames
  obtain ⟨shapes', txn', wb', he, hs', hdr, hwb⟩ := sendDrain_eq env _ hi.drain_binding_le shapes _ ⟨[]⟩ hs hi.indexed
  obtain ⟨capture, hcap⟩ := captureStats_isSome txn'.stats hdr.indexed.stats_lt []
  have hfinal : (sendClientFinalCheckpoint task txn' t.finalAt : Option (Response K)) =
      (elapsed t.startedAt t.finalAt).map fun secs =>
        { checkpoint := some none, internalCheckpoint := some (some ⟨capture, secs, 1⟩, .invalid) } := by
    rw [sendClientFinalCheckpoint_eq t.finalAt hcap, hdr.startedAt, hi.startedAt]
  refine ⟨shapes', hs', ?_⟩
  rw [drain_stateMerges, List.nil_append] at hwb
  by_cases hclock : t.startedAt ≤ t.finalAt
  · simp only [commitTransaction, he, hfinal, elapsed, if_pos hclock, Option.map_some', Option.bind_eq_bind,
      Option.some_bind, recvClientStartCommit_startCommit db t.checkpoint wb' hs' hdr.indexed.updatedInferences_lt,
      WriteBatch.put, hwb]
    cases db.write _ <;> rfl
  · simp [commitTransaction, he, hfinal, elapsed, hclock]

/-! ## The connector state in the store -/

omit [LinearOrder K] [KeyOrd K] in
theorem stateDocs_wellFormed (f : Response K) : ∀ d ∈ stateDocs f, d.wellFormed := by
  unfold stateDocs
  split
  · split
    · rename_i doc hdoc
      split_ifs <;> simp [parse_wellFormed hdoc]
    · simp
  · simp

variable (env task) in
/-- **A reset does not reach the store.** A transaction whose one accepted state update resets the
connector state to an object, with `merge_patch = false`, commits, while the clock does not step
back, to a store in which every property of the state held before that the object does not name
keeps its value. The state slot drains the object alone (a `null` and then the object, whether or
not a spill falls between them), and the drain merges it into `CONNECTOR_STATE_KEY` as a merge patch;
the serialization policy is taken to keep the object as it is. -/
theorem reset_keeps_stored_properties {shapes : List S} (hs : shapes.length = task.bindings.length)
    (db : RocksDB) (hwf : db.wellFormed) {fs : List (String × Json)} (hv : db.connectorValue = some (.object fs))
    (t : TxnInput K) (hclock : t.startedAt ≤ t.finalAt) (ps : List (String × Json))
    (hreset : (acceptedFrames env task t.frames Accumulator.empty).flatMap stateDocs = [.null, .object ps])
    (hown : env.onOwnedDefault (.object ps) = .object ps) :
    ∃ db' shapes' fs', commitTransaction env task db shapes t = some (.ok (db', shapes')) ∧
      db'.connectorValue = some (.object fs') ∧ ∀ k, get? ps k = none → get? fs' k = get? fs k := by
  obtain ⟨ws, hws, hget⟩ := (framesInv_recvFrames env task t.startedAt t.frames).state_windows
  rw [hreset] at hws
  have hstate : stateUpdate env task t = some (render (.object ps)) := by
    rw [stateUpdate, hget, reduceAll_windows_pair hws]
    simp [stateReduce, hown]
  have hwfps : (Json.object ps).wellFormed := by
    have hmem : Json.object ps ∈ (acceptedFrames env task t.frames Accumulator.empty).flatMap stateDocs := by
      simp [hreset]
    obtain ⟨f, -, hf⟩ := List.mem_flatMap.1 hmem
    exact stateDocs_wellFormed f _ hf
  obtain ⟨shapes', -, hc⟩ := commitTransaction_eq env db hs t
  obtain ⟨fs', hv', hk⟩ := RocksDB.connectorValue_merge_object hwf hv ps
  refine ⟨{ db with connectorMerges := db.connectorMerges ++ [.object ps], checkpoint := some t.checkpoint }, shapes', fs',
    ?_, hv', hk⟩
  rw [hc, if_pos hclock, hstate, RocksDB.write_merges_put, Option.toList_some, List.mapM_cons, List.mapM_nil,
    parse_render hwfps]
  rfl

theorem reset_keeps_stored_properties_s3 :
    let env : Env Nat Unit := ⟨fun _ => 0, fun _ d => d, id, fun s _ => (s, false), id, fun _ _ d => d, "uuid",
      fun _ _ => "", fun _ => false, fun _ => none, fun _ _ _ => none, fun _ _ => .error (.context ""), fun _ _ => [],
      fun _ _ => none⟩
    let task : Task := ⟨[], false, 0⟩
    let fs : List (String × Json) := [("a", .number (.unsigned 1)), ("b", .number (.unsigned 2))]
    let db : RocksDB := ⟨some (.object fs), [], none, none⟩
    let t : TxnInput Nat := ⟨[{ checkpoint := some (some ⟨"\x7b\"a\":9\x7d", false⟩) }], 0, 0, [0xDE, 0xAD, 0xBE, 0xEF]⟩
    let ps : List (String × Json) := [("a", .number (.unsigned 9))]
    ([] : List Unit).length = task.bindings.length ∧ db.wellFormed ∧ db.connectorValue = some (.object fs) ∧
      t.startedAt ≤ t.finalAt ∧ (acceptedFrames env task t.frames Accumulator.empty).flatMap stateDocs = [.null, .object ps] ∧
      env.onOwnedDefault (.object ps) = .object ps ∧
      (∃ db' shapes' fs', commitTransaction env task db [] t = some (.ok (db', shapes')) ∧
        db'.connectorValue = some (.object fs') ∧ ∀ k, get? ps k = none → get? fs' k = get? fs k) ∧
      ∃ db', commitTransaction env task db [] t = some (.ok (db', [])) ∧
        db'.connectorValue = some (.object [("a", .number (.unsigned 9)), ("b", .number (.unsigned 2))]) := by
  intro env task fs db t ps
  exact ⟨rfl, by decide, rfl, le_refl 0, rfl, rfl,
    reset_keeps_stored_properties env task rfl db (by decide) rfl t (le_refl 0) ps rfl rfl, _, rfl, rfl⟩

/-- A property set and then nulled within one transaction stays in the store. The state slot
reduces the two merge patches to `{}`, which the store merges onto `{"a":0}`, so a session reopened
with the state `{}` opens with `{"a":0}` again; the spec's round-trip fold applies them to that
opening state one after the other and removes the property. The serialization policy keeps `{}` as
it is, as any truncation policy does. -/
theorem connectorState_nulled_within_transaction :
    let env : Env Nat Unit := ⟨fun _ => 0, fun _ d => d, id, fun s _ => (s, false), id, fun _ _ d => d, "uuid",
      fun _ _ => "", fun _ => false, fun _ => none, fun _ _ _ => none, fun _ _ => .error (.context ""), fun _ _ => [],
      fun _ _ => none⟩
    let db : RocksDB := ⟨some (.object [("a", .number (.unsigned 0))]), [], none, none⟩
    let updates : List ConnectorState := [⟨"\x7b\"a\":1\x7d", true⟩, ⟨"\x7b\"a\":null\x7d", true⟩]
    ∃ db', commitAll env ⟨[], false, 0⟩ [⟨updates.map fun u => { checkpoint := some (some u) }, 0, 0, []⟩] db [] =
        some (.ok (db', [])) ∧
      db.loadConnectorState "\x7b\x7d" (.object []) = .ok "\x7b\"a\":0\x7d" ∧
      db'.loadConnectorState "\x7b\x7d" (.object []) = .ok "\x7b\"a\":0\x7d" ∧
      roundTripState (.object [("a", .number (.unsigned 0))]) updates = .object [] :=
  ⟨_, rfl, rfl, rfl, rfl⟩

/-! ## Running and resuming -/

variable (env task) in
/-- **No transaction of a run panics** while the shapes have one entry per binding and the clock
does not step back within a transaction: the run commits every transaction or stops at an error. -/
theorem commitAll_isSome {shapes : List S} (hs : shapes.length = task.bindings.length) (txns : List (TxnInput K))
    (hclock : ∀ t ∈ txns, t.startedAt ≤ t.finalAt) (db : RocksDB) : (commitAll env task txns db shapes).isSome := by
  induction txns generalizing db shapes with
  | nil => rfl
  | cons t ts ih =>
    obtain ⟨shapes₁, hs₁, hc⟩ := commitTransaction_eq env db hs t
    rw [commitAll, hc, if_pos (hclock t (List.mem_cons_self _ _))]
    cases db.write _ with
    | none => rfl
    | some db₁ => exact ih hs₁ (fun t ht => hclock t (List.mem_cons_of_mem _ ht)) db₁

theorem commitAll_isSome_two_transactions :
    let env : Env Nat Unit := ⟨fun _ => 0, fun _ d => d, id, fun s _ => (s, false), id, fun _ _ d => d, "uuid",
      fun _ _ => "", fun _ => false, fun _ => none, fun _ _ _ => none, fun _ _ => .error (.context ""), fun _ _ => [],
      fun _ _ => none⟩
    let task : Task := ⟨[⟨"events", [], [], []⟩], false, 0⟩
    let txns : List (TxnInput Nat) :=
      [⟨[{ captured := some ⟨0, "1"⟩ }], 0, 3, [1]⟩, ⟨[{ checkpoint := some (some ⟨"2", false⟩) }], 5, 5, [2]⟩]
    [()].length = task.bindings.length ∧ (∀ t ∈ txns, t.startedAt ≤ t.finalAt) ∧
      (commitAll env task txns ⟨none, [], none, none⟩ [()]).isSome := by
  intro env task txns
  have hclock : ∀ t ∈ txns, t.startedAt ≤ t.finalAt := by decide
  exact ⟨rfl, hclock, commitAll_isSome env task rfl txns hclock ⟨none, [], none, none⟩⟩

/-- Modelled from the spec: the acknowledge counter over a session. After each committed
transaction the session adds the transaction's checkpoints to `last_checkpoints` and calls
`send_connector_acknowledge`: the `Acknowledge` requests sent, and the counter after the run. -/
def acknowledgeAll (task : Task) : Nat → List Nat → List Request × Nat
  | last, [] => ([], last)
  | last, n :: ns =>
    let (ack, last) := sendConnectorAcknowledge (last + n) task
    let (acks, last) := acknowledgeAll task last ns
    (ack.toList ++ acks, last)

theorem sendConnectorAcknowledge_spec (n : Nat) (task : Task) :
    ((sendConnectorAcknowledge n task).1 = some { acknowledge := some n } ∧ (sendConnectorAcknowledge n task).2 = 0 ∧
        0 < n ∧ task.explicitAcknowledgements = true) ∨
      ((sendConnectorAcknowledge n task).1 = none ∧ (sendConnectorAcknowledge n task).2 = n ∧
        (n = 0 ∨ task.explicitAcknowledgements = false)) := by
  unfold sendConnectorAcknowledge
  split_ifs with h
  · simp only [Bool.and_eq_true, bne_iff_ne, ne_eq, decide_eq_true_eq] at h
    exact .inl ⟨rfl, rfl, Nat.pos_of_ne_zero h.1, h.2⟩
  · simp only [Bool.and_eq_true, decide_eq_true_eq, not_and, Bool.not_eq_true] at h
    refine .inr ⟨rfl, rfl, ?_⟩
    by_cases hn : n = 0
    exacts [.inl hn, .inr (h hn)]

/-- The acknowledge counter over a session: the acknowledged checkpoints and the counter left add
up to the checkpoints counted; each request acknowledges at least one; without explicit
acknowledgements none is sent, and with them the counter ends empty. -/
theorem acknowledgeAll_spec (task : Task) (ns : List Nat) :
    ∀ last, ((acknowledgeAll task last ns).1.map fun r => r.acknowledge.getD 0).sum + (acknowledgeAll task last ns).2 =
        last + ns.sum ∧
      (∀ r ∈ (acknowledgeAll task last ns).1, ∃ n, r.acknowledge = some n ∧ 0 < n) ∧
      (task.explicitAcknowledgements = false → (acknowledgeAll task last ns).1 = []) ∧
      (task.explicitAcknowledgements = true → ns ≠ [] → (acknowledgeAll task last ns).2 = 0) := by
  induction ns with
  | nil => intro last; simp [acknowledgeAll]
  | cons n ns ih =>
    intro last
    obtain ⟨h1, h2, h3, h4⟩ := ih (sendConnectorAcknowledge (last + n) task).2
    rcases sendConnectorAcknowledge_spec (last + n) task with ⟨ha, hl, hpos, hex⟩ | ⟨ha, hl, hex⟩
    · simp only [acknowledgeAll, ha, hl, Option.toList_some, List.cons_append, List.map_cons, List.sum_cons,
        List.nil_append, List.mem_cons, forall_eq_or_imp, Option.getD_some] at h1 h2 h3 h4 ⊢
      refine ⟨by omega, ⟨⟨_, rfl, hpos⟩, h2⟩, by simp [hex], fun _ _ => ?_⟩
      cases ns with
      | nil => simp [acknowledgeAll, hl]
      | cons => exact h4 hex (List.cons_ne_nil _ _)
    · simp only [acknowledgeAll, ha, hl, Option.toList_none, List.nil_append, List.sum_cons] at h1 h2 h3 h4 ⊢
      refine ⟨by omega, h2, h3, fun he _ => ?_⟩
      rcases hex with h0 | hf
      · cases ns with
        | nil => simp [acknowledgeAll]; omega
        | cons => exact h4 he (List.cons_ne_nil _ _)
      · simp [he] at hf

variable (env task) in
/-- **Every accepted checkpoint is acknowledged once.** Over a session's committed transactions,
the checkpoints the `Acknowledge` requests carry and the counter left after them add up to the
`Checkpoint` frames the transactions accepted, so none is acknowledged twice or lost; each request
acknowledges at least one. Without explicit acknowledgements none is sent, and with them the
counter is empty after every commit. -/
theorem acknowledgements_count_checkpoints (txns : List (TxnInput K)) :
    let acks := acknowledgeAll task 0
      (txns.map fun t => (recvFrames env task t.frames (Accumulator.empty, Transaction.new t.startedAt)).2.checkpoints)
    (acks.1.map fun r => r.acknowledge.getD 0).sum + acks.2 =
        (txns.map fun t => ((acceptedFrames env task t.frames Accumulator.empty).filter fun f => stateDocs f ≠ []).length).sum ∧
      (∀ r ∈ acks.1, ∃ n, r.acknowledge = some n ∧ 0 < n) ∧
      (task.explicitAcknowledgements = false → acks.1 = []) ∧
      (task.explicitAcknowledgements = true → acks.2 = 0) := by
  intro acks
  have hcount : (txns.map fun t => (recvFrames env task t.frames (Accumulator.empty, Transaction.new t.startedAt)).2.checkpoints) =
      txns.map fun t => ((acceptedFrames env task t.frames Accumulator.empty).filter fun f => stateDocs f ≠ []).length :=
    List.map_congr_left fun t _ => (framesInv_recvFrames env task t.startedAt t.frames).checkpoints
  obtain ⟨h1, h2, h3, h4⟩ := acknowledgeAll_spec task
    (txns.map fun t => (recvFrames env task t.frames (Accumulator.empty, Transaction.new t.startedAt)).2.checkpoints) 0
  refine ⟨by rw [h1, hcount, Nat.zero_add], h2, h3, fun he => ?_⟩
  cases txns with
  | nil => rfl
  | cons => exact h4 he (List.cons_ne_nil _ _)

end FlowCore.Capture
