import FlowCore.Capture.Protocol
import Mathlib.Algebra.BigOperators.Group.List

/-!
# A transaction: the connector's frames and the drain

Modelled from the spec's transaction cycle (§4.5); the session loop that calls the helpers is not
in this repository. The connector's frames go, in order, to `recv_connector_captured` (a
`Captured` frame) or `recv_connector_checkpoint` (any other), starting from an empty accumulator
and a new `Transaction`. A frame a helper rejects changes nothing (the session then fails, so a run
that goes on past it also covers every prefix the session reaches). Whether a frame is accepted
depends on the accumulator as well as on the frame: lending the memtable may spill it and fail, and
an add may fail. The accumulator is then drained through `send_client_captured_or_checkpoint`,
and the transaction ends with `send_client_final_checkpoint`.

`recvFrame_cases` says once what a frame can do, and `recvFrames_induction` carries an invariant
over a run; `FramesInv` is what a run leaves behind, in terms of the frames it accepted.
`sendDrain_eq` says what the drain does, and the main results are assembled from the two:

* `drain_reduces_per_key`: the drain of each combine key is its reducer over the key's documents,
  reduced run by run between the spills;
* `drain_responses_sorted`: under reductions that keep keys, the `Captured` responses in strictly
  increasing `(binding, key)` order, one per distinct key, then the one state `Checkpoint` if a
  checkpoint was accepted; `drain_responses_key_rewritten`: a reduction that rewrites the key
  breaks the order;
* `stats_conservation`: the final checkpoint's incoming and outgoing counters per collection;
* `transaction_never_panics`: no helper panics while the clock does not step back, and
  `finalCheckpoint_clock_backwards`: the final checkpoint panics when it does.
-/

namespace FlowCore.Capture

open BTreeMap Json

variable {K S : Type} [LinearOrder K] [KeyOrd K] (env : Env K S) (task : Task)

/-- Modelled from the spec: a connector frame goes to `recv_connector_captured` if it is
`Captured`, and to `recv_connector_checkpoint` otherwise. -/
def recvConnector (acc : Accumulator K (combineSpec env task)) (response : Response K) (txn : Transaction) :
    Except Error (Accumulator K (combineSpec env task) × Transaction) :=
  match response.captured with
  | some captured => recvConnectorCaptured env task acc captured txn
  | none => recvConnectorCheckpoint env task acc response txn

/-- One frame: the accumulator and transaction after it, unchanged if it is rejected. -/
def recvFrame (s : Accumulator K (combineSpec env task) × Transaction) (f : Response K) :
    Accumulator K (combineSpec env task) × Transaction :=
  (recvConnector env task s.1 f s.2).toOption.getD s

/-- The frames of a transaction, in order. -/
def recvFrames (frames : List (Response K)) (s : Accumulator K (combineSpec env task) × Transaction) :
    Accumulator K (combineSpec env task) × Transaction :=
  frames.foldl (recvFrame env task) s

/-- `send_client_captured_or_checkpoint` over a drain, in order: the responses, and the shapes,
transaction and batch after them. -/
def sendDrain : List DrainedDoc → List S × Transaction × WriteBatch →
    Option (List (Response K) × List S × Transaction × WriteBatch)
  | [], s => some ([], s)
  | d :: ds, (shapes, txn, wb) => do
    let (r, s) ← sendClientCapturedOrCheckpoint env d shapes task txn wb
    let (rs, s) ← sendDrain ds s
    pure (r :: rs, s)

/-! ## What a frame contributes -/

/-- The document a `Captured` frame carries, parsed and given its placeholder, where it parses and
names a binding of the task. -/
def capturedDoc (f : Response K) : Option (Captured × Json) :=
  f.captured.bind fun c => (parse c.docJson).bind fun doc =>
    (task.bindings[c.binding]?).map fun b => (c, withUuidPlaceholder env b.documentUuidPtr doc)

/-- The documents a `Checkpoint` frame's update adds to the connector-state slot, where it parses:
a `null` first unless the update is a merge patch. -/
def stateDocs (f : Response K) : List Json :=
  match f.captured, f.checkpoint with
  | none, some (some state) =>
    match parse state.updatedJson with
    | some doc => if state.mergePatch then [doc] else [.null, doc]
    | none => []
  | _, _ => []

/-- The combine key of the connector-state slot. -/
def stateKey : Nat ×ₗ K := toLex (task.bindings.length, env.pack [])

/-- The documents an accepted frame adds, each with its combine key. -/
def frameAdds (f : Response K) : List ((Nat ×ₗ K) × Json) :=
  match capturedDoc env task f with
  | some (c, d) => [(combineKey env task c.binding d, d)]
  | none => (stateDocs f).map fun d => (stateKey env task, d)

/-- The accumulator `recvConnector` leaves after the frame `f`, where it returns `Ok`; the
transaction decides neither (`recvFrame_cases`). -/
def frameAcc (acc : Accumulator K (combineSpec env task)) (f : Response K) :
    Option (Accumulator K (combineSpec env task)) :=
  match f.captured, f.checkpoint with
  | some c, _ => (capturedAcc env task acc c).toOption
  | none, some (some state) => (checkpointAcc env task acc state).toOption
  | none, _ => none

/-- The frames a run from the accumulator `acc` accepts, in order. -/
def acceptedFrames : List (Response K) → Accumulator K (combineSpec env task) → List (Response K)
  | [], _ => []
  | f :: fs, acc =>
    match frameAcc env task acc f with
    | some acc' => f :: acceptedFrames fs acc'
    | none => acceptedFrames fs acc

/-- The `Captured` frames a transaction accepts, with the documents they add. -/
def acceptedCaptures (frames : List (Response K)) : List (Captured × Json) :=
  (acceptedFrames env task frames Accumulator.empty).filterMap (capturedDoc env task)

variable {env task}

omit [LinearOrder K] [KeyOrd K] in
theorem capturedDoc_binding_lt {f : Response K} {c : Captured} {d : Json} (h : capturedDoc env task f = some (c, d)) :
    c.binding < task.bindings.length := by
  simp only [capturedDoc, Option.bind_eq_some, Option.map_eq_some'] at h
  obtain ⟨c', -, doc, -, b, hb, he⟩ := h
  cases he
  exact (List.getElem?_eq_some_iff.1 hb).1

omit [LinearOrder K] [KeyOrd K] in
theorem stateDocs_of_captured {f : Response K} {cd : Captured × Json} (h : capturedDoc env task f = some cd) :
    stateDocs f = [] := by
  simp only [capturedDoc, Option.bind_eq_some] at h
  obtain ⟨c, hc, -⟩ := h
  simp [stateDocs, hc]

omit [KeyOrd K] in
theorem lt_stateKey {k : Nat ×ₗ K} (h : (ofLex k).1 < task.bindings.length) : k < stateKey env task :=
  (Prod.Lex.lt_iff (ofLex k) (task.bindings.length, env.pack [])).2 (.inl h)

omit [LinearOrder K] [KeyOrd K] in
theorem frameAdds_key {f : Response K} {e : (Nat ×ₗ K) × Json} (he : e ∈ frameAdds env task f) :
    (ofLex e.1).1 < task.bindings.length ∨ e.1 = stateKey env task := by
  unfold frameAdds at he
  split at he
  · rename_i c d hcd
    obtain rfl := List.mem_singleton.1 he
    exact .inl (capturedDoc_binding_lt hcd)
  · obtain ⟨d, -, rfl⟩ := List.mem_map.1 he
    exact .inr rfl

omit [KeyOrd K] in
theorem filter_frameAdds_state (fs : List (Response K)) :
    ((fs.flatMap (frameAdds env task)).filter (·.1 = stateKey env task)).map (·.2) = fs.flatMap stateDocs := by
  induction fs with
  | nil => rfl
  | cons f fs ih =>
    rw [List.flatMap_cons, List.filter_append, List.map_append, ih, List.flatMap_cons]
    congr 1
    unfold frameAdds
    split
    · rename_i c d hcd
      have hne : combineKey env task c.binding d ≠ stateKey env task :=
        (lt_stateKey (show (ofLex (combineKey env task c.binding d)).1 < _ from capturedDoc_binding_lt hcd)).ne
      simp [hne, stateDocs_of_captured hcd]
    · simp [List.filter_map, Function.comp_def]

omit [KeyOrd K] in
theorem mem_frameAdds_binding (fs : List (Response K)) {k : Nat ×ₗ K} (hk : (ofLex k).1 < task.bindings.length) :
    k ∈ (fs.flatMap (frameAdds env task)).map (·.1) ↔
      k ∈ (fs.filterMap (capturedDoc env task)).map fun cd => combineKey env task cd.1.binding cd.2 := by
  have hne : k ≠ stateKey env task := (lt_stateKey hk).ne
  simp only [List.mem_map, List.mem_flatMap, List.mem_filterMap]
  constructor
  · rintro ⟨e, ⟨f, hf, he⟩, rfl⟩
    unfold frameAdds at he
    split at he
    · rename_i c d hcd
      obtain rfl := List.mem_singleton.1 he
      exact ⟨(c, d), ⟨f, hf, hcd⟩, rfl⟩
    · obtain ⟨d, -, rfl⟩ := List.mem_map.1 he
      exact absurd rfl hne
  · rintro ⟨cd, ⟨f, hf, hcd⟩, rfl⟩
    exact ⟨(combineKey env task cd.1.binding cd.2, cd.2), ⟨f, hf, by simp [frameAdds, hcd]⟩, rfl⟩

/-- **What a frame can do**: add an accepted document to its binding, add an accepted state
update to the connector-state slot, each after lending the memtable, or nothing. -/
theorem recvFrame_cases (s : Accumulator K (combineSpec env task) × Transaction) (f : Response K) :
    (∃ c d acc₀, capturedDoc env task f = some (c, d) ∧ s.1.memtable env = .ok acc₀ ∧
      frameAcc env task s.1 f = some (memtableAdd env task acc₀ c.binding d) ∧
      recvFrame env task s f = (memtableAdd env task acc₀ c.binding d,
        { s.2 with
          stats := modify c.binding default (fun st => (st.1.add 1 c.docJson.utf8ByteSize, st.2)) s.2.stats
          capturedBytes := s.2.capturedBytes + c.docJson.utf8ByteSize })) ∨
    (∃ acc₀, capturedDoc env task f = none ∧ stateDocs f ≠ [] ∧ s.1.memtable env = .ok acc₀ ∧
      frameAcc env task s.1 f = some ((stateDocs f).foldl (fun a d => memtableAdd env task a task.bindings.length d) acc₀) ∧
      recvFrame env task s f = ((stateDocs f).foldl (fun a d => memtableAdd env task a task.bindings.length d) acc₀,
        { s.2 with checkpoints := s.2.checkpoints + 1 })) ∨
    (frameAcc env task s.1 f = none ∧ recvFrame env task s f = s) := by
  obtain ⟨acc, txn⟩ := s
  rcases hc : f.captured with _ | c
  · have hcd : capturedDoc env task f = none := by simp [capturedDoc, hc]
    rcases hk : f.checkpoint with _ | _ | state
    · simp [frameAcc, recvFrame, recvConnector, recvConnectorCheckpoint, hc, hk, Except.toOption]
    · simp [frameAcc, recvFrame, recvConnector, recvConnectorCheckpoint, hc, hk, Except.toOption]
    · cases h : checkpointAcc env task acc state with
      | error e =>
        simp [frameAcc, recvFrame, recvConnector, recvConnectorCheckpoint, hc, hk, h, bind, Except.bind, Except.toOption]
      | ok acc' =>
        obtain ⟨acc₀, doc, hm, hd, hadd⟩ := checkpointAcc_eq_ok.1 h
        have hsd : stateDocs f = if state.mergePatch then [doc] else [.null, doc] := by simp [stateDocs, hc, hk, hd]
        rw [← hsd] at hadd
        have hok : recvConnectorCheckpoint env task acc f txn = .ok (acc', { txn with checkpoints := txn.checkpoints + 1 }) :=
          recvConnectorCheckpoint_eq_ok.2 ⟨state, hk, h, rfl⟩
        refine .inr (.inl ⟨acc₀, hcd, by rw [hsd]; split <;> simp, hm, ?_⟩)
        rw [← foldlM_memtableTryAdd hadd]
        simp [frameAcc, recvFrame, recvConnector, hc, hk, h, hok, Except.toOption]
  · cases h : capturedAcc env task acc c with
    | error e => simp [frameAcc, recvFrame, recvConnector, recvConnectorCaptured, hc, h, bind, Except.bind, Except.toOption]
    | ok acc' =>
      obtain ⟨acc₀, doc, b, hm, hd, hb, hadd⟩ := capturedAcc_eq_ok.1 h
      have hok : recvConnectorCaptured env task acc c txn = .ok (acc', { txn with
          stats := modify c.binding default (fun st => (st.1.add 1 c.docJson.utf8ByteSize, st.2)) txn.stats
          capturedBytes := txn.capturedBytes + c.docJson.utf8ByteSize }) :=
        recvConnectorCaptured_eq_ok.2 ⟨h, rfl⟩
      refine .inl ⟨c, withUuidPlaceholder env b.documentUuidPtr doc, acc₀, by simp [capturedDoc, hc, hd, hb], hm, ?_⟩
      rw [← (memtableTryAdd_eq_ok.1 hadd).2]
      simp [frameAcc, recvFrame, recvConnector, hc, h, hok, Except.toOption]

theorem recvFrame_fst {s : Accumulator K (combineSpec env task) × Transaction} {f : Response K} :
    (recvFrame env task s f).1 = (frameAcc env task s.1 f).getD s.1 := by
  rcases recvFrame_cases s f with ⟨_, _, _, -, -, ha, he⟩ | ⟨_, -, -, -, ha, he⟩ | ⟨ha, he⟩ <;> rw [ha, he] <;> rfl

/-- A run carries an invariant of the frames accepted so far. -/
theorem recvFrames_induction (P : List (Response K) → Accumulator K (combineSpec env task) × Transaction → Prop)
    (step : ∀ done s f, P done s → P (done ++ (frameAcc env task s.1 f).elim [] fun _ => [f]) (recvFrame env task s f)) :
    ∀ (rest done : List (Response K)) (s : Accumulator K (combineSpec env task) × Transaction), P done s →
      P (done ++ acceptedFrames env task rest s.1) (recvFrames env task rest s)
  | [], done, s, h => by simpa [recvFrames, acceptedFrames] using h
  | f :: rest, done, s, h => by
    have ih := recvFrames_induction P step rest _ _ (step done s f h)
    cases ha : frameAcc env task s.1 f <;> simpa [recvFrames, acceptedFrames, ha, recvFrame_fst] using ih

/-! ## What a run leaves behind -/

variable (env task)

/-- What the frames `accepted` leave in the accumulator and the transaction, from an empty
accumulator and `Transaction::new()` at `t0`. -/
structure FramesInv (t0 : Nat) (accepted : List (Response K)) (s : Accumulator K (combineSpec env task) × Transaction) :
    Prop where
  /-- The accumulator holds the accepted documents, in order, split at the spills. -/
  holds : ∃ closed current, Holds s.1 closed current ∧ closed.flatten ++ current = accepted.flatMap (frameAdds env task)
  checkpoints : s.2.checkpoints = (accepted.filter fun f => stateDocs f ≠ []).length
  stats_sorted : Sorted s.2.stats
  stats_lt : ∀ e ∈ s.2.stats, e.1 < task.bindings.length
  /-- Incoming counters: one document and its bytes per accepted frame. -/
  incoming_docs : ∀ p, statSum p (·.1.docsTotal) s.2.stats =
    ((accepted.filterMap (capturedDoc env task)).filter (p ·.1.binding)).length
  incoming_bytes : ∀ p, statSum p (·.1.bytesTotal) s.2.stats =
    (((accepted.filterMap (capturedDoc env task)).filter (p ·.1.binding)).map (·.1.docJson.utf8ByteSize)).sum
  outgoing : ∀ e ∈ s.2.stats, e.2.2 = default
  capturedBytes : s.2.capturedBytes = ((accepted.filterMap (capturedDoc env task)).map (·.1.docJson.utf8ByteSize)).sum
  updatedInferences : s.2.updatedInferences = []
  startedAt : s.2.startedAt = t0

variable {env task}

section Step

variable {t0 : Nat} {done : List (Response K)} {s : Accumulator K (combineSpec env task) × Transaction} {f : Response K}

theorem FramesInv.init : FramesInv env task t0 [] (Accumulator.empty, Transaction.new t0) where
  holds := ⟨[], [], Holds.empty, rfl⟩
  checkpoints := rfl
  stats_sorted := List.Pairwise.nil
  stats_lt := by simp [Transaction.new]
  incoming_docs := by simp [Transaction.new, statSum]
  incoming_bytes := by simp [Transaction.new, statSum]
  outgoing := by simp [Transaction.new]
  capturedBytes := rfl
  updatedInferences := rfl
  startedAt := rfl

theorem holds_memtable_adds {acc acc₀ : Accumulator K (combineSpec env task)} {adds : List ((Nat ×ₗ K) × Json)}
    (h : ∃ closed current, Holds acc closed current ∧ closed.flatten ++ current = adds) (hm : acc.memtable env = .ok acc₀)
    (new : List ((Nat ×ₗ K) × Json)) :
    ∃ closed current, Holds (new.foldl (fun a e => a.add e.1 e.2) acc₀) closed current ∧
      closed.flatten ++ current = adds ++ new := by
  obtain ⟨closed, current, hh, rfl⟩ := h
  obtain ⟨closed', current', hh', he⟩ := hh.memtable hm
  induction new using List.reverseRecOn with
  | nil => exact ⟨closed', current', hh', by simpa using he⟩
  | append_singleton new e ih =>
    obtain ⟨c, cur, hc, hce⟩ := ih
    exact ⟨c, cur ++ [e], by rw [List.foldl_append]; exact hc.add e.1 e.2, by rw [← List.append_assoc, hce, List.append_assoc]⟩

theorem FramesInv.captured {c : Captured} {d : Json} {acc₀ : Accumulator K (combineSpec env task)}
    (hi : FramesInv env task t0 done s) (hcd : capturedDoc env task f = some (c, d)) (hm : s.1.memtable env = .ok acc₀) :
    FramesInv env task t0 (done ++ [f]) (memtableAdd env task acc₀ c.binding d,
      { s.2 with
        stats := modify c.binding default (fun st => (st.1.add 1 c.docJson.utf8ByteSize, st.2)) s.2.stats
        capturedBytes := s.2.capturedBytes + c.docJson.utf8ByteSize }) := by
  have hacc : (done ++ [f]).filterMap (capturedDoc env task) = done.filterMap (capturedDoc env task) ++ [(c, d)] := by
    simp [List.filterMap_append, hcd]
  have hlt := capturedDoc_binding_lt hcd
  constructor
  · simpa [frameAdds, hcd] using holds_memtable_adds hi.holds hm [(combineKey env task c.binding d, d)]
  · simpa [stateDocs_of_captured hcd] using hi.checkpoints
  · simpa using hi.stats_sorted.modify c.binding default _
  · intro e he
    rcases mem_insert he with rfl | he
    exacts [hlt, hi.stats_lt e he]
  · intro p
    rw [statSum_modify hi.stats_sorted p _ _ _ 1 (fun _ => rfl) rfl, hi.incoming_docs p, hacc]
    by_cases hp : p c.binding <;> simp [hp, List.sum_append]
  · intro p
    rw [statSum_modify hi.stats_sorted p _ _ _ c.docJson.utf8ByteSize (fun _ => rfl) rfl, hi.incoming_bytes p, hacc]
    by_cases hp : p c.binding <;> simp [hp, List.sum_append]
  · intro e he
    rcases mem_insert he with rfl | he
    · cases h : get? s.2.stats c.binding
      · simp [h]; rfl
      · simpa [h] using hi.outgoing _ (mem_of_get?_eq_some h)
    · exact hi.outgoing e he
  · simp [hi.capturedBytes, hacc, List.sum_append]
  · exact hi.updatedInferences
  · exact hi.startedAt

theorem FramesInv.checkpoint {acc₀ : Accumulator K (combineSpec env task)} (hi : FramesInv env task t0 done s)
    (hcd : capturedDoc env task f = none) (hsd : stateDocs f ≠ []) (hm : s.1.memtable env = .ok acc₀) :
    FramesInv env task t0 (done ++ [f])
      ((stateDocs f).foldl (fun a d => memtableAdd env task a task.bindings.length d) acc₀,
        { s.2 with checkpoints := s.2.checkpoints + 1 }) := by
  have hacc : (done ++ [f]).filterMap (capturedDoc env task) = done.filterMap (capturedDoc env task) := by
    simp [hcd]
  have hadds : (stateDocs f).foldl (fun a d => memtableAdd env task a task.bindings.length d) acc₀ =
      ((stateDocs f).map fun d => (stateKey env task, d)).foldl (fun a e => a.add e.1 e.2) acc₀ := by
    rw [List.foldl_map]
    exact congrArg (fun g => (stateDocs f).foldl g acc₀) (funext₂ fun a d => by rw [memtableAdd, combineKey_state]; rfl)
  refine ⟨?_, by simp [hi.checkpoints, hsd], hi.stats_sorted, hi.stats_lt, ?_, ?_, hi.outgoing, ?_,
    hi.updatedInferences, hi.startedAt⟩
  · rw [hadds]
    simpa [frameAdds, hcd] using holds_memtable_adds hi.holds hm ((stateDocs f).map fun d => (stateKey env task, d))
  · simpa [hacc] using hi.incoming_docs
  · simpa [hacc] using hi.incoming_bytes
  · simpa [hacc] using hi.capturedBytes

theorem FramesInv.step (hi : FramesInv env task t0 done s) :
    FramesInv env task t0 (done ++ (frameAcc env task s.1 f).elim [] fun _ => [f]) (recvFrame env task s f) := by
  rcases recvFrame_cases s f with ⟨c, d, acc₀, hcd, hm, ha, he⟩ | ⟨acc₀, hcd, hsd, hm, ha, he⟩ | ⟨ha, he⟩ <;>
    rw [ha, he]
  exacts [hi.captured hcd hm, hi.checkpoint hcd hsd hm, by simpa using hi]

end Step

variable (env task) in
/-- **What the frames of a transaction leave behind.** -/
theorem framesInv_recvFrames (t0 : Nat) (frames : List (Response K)) :
    FramesInv env task t0 (acceptedFrames env task frames Accumulator.empty) (recvFrames env task frames (Accumulator.empty, Transaction.new t0)) :=
  recvFrames_induction _ (fun _ _ _ hi => hi.step) frames [] _ FramesInv.init

/-! ## The drain -/

variable (env task)

/-- The response `send_client_captured_or_checkpoint` sends for a drained document: `Captured` for
a binding, the merge-patch state `Checkpoint` otherwise. -/
def drainResponse (d : DrainedDoc) : Response K :=
  match task.bindings[d.binding]? with
  | some b =>
    { captured := some ⟨d.binding, render (env.onOwned b d.root)⟩
      internalCaptured := some (env.extractAllOwned d.root b.keyExtractors,
        env.extractAllOwned d.root b.partitionExtractors) }
  | none => { checkpoint := some (some ⟨render (env.onOwnedDefault d.root), true⟩) }

/-- The `Captured` responses among `rs` on the bindings `p` selects. -/
def capturedOf (p : Nat → Bool) (rs : List (Response K)) : List Captured :=
  rs.filterMap fun r => r.captured.filter (p ·.binding)

/-- The index facts a transaction needs for the helpers not to panic: its maps are keyed by
bindings. -/
structure Indexed (txn : Transaction) : Prop where
  stats_sorted : Sorted txn.stats
  stats_lt : ∀ e ∈ txn.stats, e.1 < task.bindings.length
  updatedInferences_lt : ∀ e ∈ txn.updatedInferences, e.1 < task.bindings.length

/-- What draining `ds` does to a transaction `txn`, ending at `txn'`: the binding maps stay
indexed, the incoming counters stay, and each `Captured` response is counted as outgoing. -/
structure Drained (ds : List DrainedDoc) (txn txn' : Transaction) : Prop where
  indexed : Indexed task txn'
  checkpoints : txn'.checkpoints = txn.checkpoints
  capturedBytes : txn'.capturedBytes = txn.capturedBytes
  startedAt : txn'.startedAt = txn.startedAt
  incoming_docs : ∀ p, statSum p (·.1.docsTotal) txn'.stats = statSum p (·.1.docsTotal) txn.stats
  incoming_bytes : ∀ p, statSum p (·.1.bytesTotal) txn'.stats = statSum p (·.1.bytesTotal) txn.stats
  outgoing_docs : ∀ p, statSum p (·.2.docsTotal) txn'.stats =
    statSum p (·.2.docsTotal) txn.stats + (capturedOf p (ds.map (drainResponse env task))).length
  outgoing_bytes : ∀ p, statSum p (·.2.bytesTotal) txn'.stats =
    statSum p (·.2.bytesTotal) txn.stats + ((capturedOf p (ds.map (drainResponse env task))).map (·.docJson.utf8ByteSize)).sum

variable {env task}

theorem Indexed.capture {txn : Transaction} (hi : Indexed task txn) {index : Nat} (hlt : index < task.bindings.length)
    (f : DocsAndBytes × DocsAndBytes → DocsAndBytes × DocsAndBytes) (widened : Bool) :
    Indexed task { txn with
      stats := modify index default f txn.stats
      updatedInferences := if widened then insert index () txn.updatedInferences else txn.updatedInferences } := by
  refine ⟨hi.stats_sorted.modify index default f, fun e he => ?_, fun e he => ?_⟩
  · rcases mem_insert he with rfl | he
    exacts [hlt, hi.stats_lt e he]
  · dsimp only at he
    split_ifs at he
    · rcases mem_insert he with rfl | he
      exacts [hlt, hi.updatedInferences_lt e he]
    · exact hi.updatedInferences_lt e he

variable (env) in
/-- **What the drain does**, for documents of the bindings and the connector-state slot: no call
panics, each sends `drainResponse`, the shapes keep one per binding, and the state slot is merged
into the batch. -/
theorem sendDrain_eq (ds : List DrainedDoc) (hd : ∀ d ∈ ds, d.binding ≤ task.bindings.length) :
    ∀ (shapes : List S) (txn : Transaction) (wb : WriteBatch), shapes.length = task.bindings.length →
      Indexed task txn →
      ∃ shapes' txn' wb', sendDrain env task ds (shapes, txn, wb) = some (ds.map (drainResponse env task), shapes', txn', wb') ∧
        shapes'.length = task.bindings.length ∧ Drained env task ds txn txn' ∧
        wb'.ops = wb.ops ++ ds.filterMap fun d =>
          if d.binding = task.bindings.length then some (.merge .connectorState (render (env.onOwnedDefault d.root))) else none := by
  induction ds with
  | nil =>
    intro shapes txn wb hs hi
    exact ⟨shapes, txn, wb, rfl, hs, ⟨hi, rfl, rfl, rfl, fun _ => rfl, fun _ => rfl, fun _ => rfl, fun _ => rfl⟩, by simp⟩
  | cons d ds ih =>
    intro shapes txn wb hs hi
    obtain ⟨index, root⟩ := d
    have hds := ih fun d hd' => hd d (List.mem_cons_of_mem _ hd')
    rcases (hd _ (List.mem_cons_self _ _)).lt_or_eq with hlt | heq
    · have hb : task.bindings[index]? = some task.bindings[index] := List.getElem?_eq_getElem hlt
      have hlt' : index < shapes.length := hs ▸ hlt
      have hsh : shapes[index]? = some shapes[index] := List.getElem?_eq_getElem hlt'
      set b := task.bindings[index]
      have hi1 := hi.capture hlt (fun s => (s.1, s.2.add 1 (render (env.onOwned b root)).utf8ByteSize))
        (env.widenOwned shapes[index] root).2
      set w := env.widenOwned shapes[index] root
      obtain ⟨shapes', txn', wb', he, hs', hdr, hwb⟩ :=
        hds (shapes.set index (if w.2 then env.enforceShapeComplexityLimit w.1 else w.1)) _ wb (by simpa using hs) hi1
      refine ⟨shapes', txn', wb', ?_, hs', ?_, ?_⟩
      · simp [sendDrain, sendClientCapturedOrCheckpoint_binding root hb hsh, he, drainResponse, hb]
      · have hr : ∀ p, capturedOf p (drainResponse env task ⟨index, root⟩ :: ds.map (drainResponse env task)) =
            (if p index then [⟨index, render (env.onOwned b root)⟩] else []) ++ capturedOf p (ds.map (drainResponse env task)) := by
          intro p
          by_cases hp : p index <;> simp [capturedOf, drainResponse, hb, hp, Option.filter]
        obtain ⟨hx, h1, h2, h3, h4, h5, h6, h7⟩ := hdr
        refine ⟨hx, h1, h2, h3, fun p => ?_, fun p => ?_, fun p => ?_, fun p => ?_⟩
        · rw [h4, statSum_modify hi.stats_sorted p _ _ _ 0 (fun _ => ?_) rfl]
          · simp
          · rfl
        · rw [h5, statSum_modify hi.stats_sorted p _ _ _ 0 (fun _ => ?_) rfl]
          · simp
          · rfl
        · rw [List.map_cons, h6, statSum_modify hi.stats_sorted p _ _ _ 1 (fun _ => rfl) rfl, hr]
          by_cases hp : p index <;> simp [hp]; omega
        · rw [List.map_cons, h7, statSum_modify hi.stats_sorted p _ _ _ _ (fun _ => rfl) rfl, hr]
          by_cases hp : p index <;> simp [hp, List.sum_append]; omega
      · simp [hwb, Nat.ne_of_lt hlt]
    · subst heq
      obtain ⟨shapes', txn', wb', he, hs', hdr, hwb⟩ := hds shapes txn (wb.merge .connectorState (render (env.onOwnedDefault root))) hs hi
      refine ⟨shapes', txn', wb', ?_, hs', ?_, ?_⟩
      · simp [sendDrain, sendClientCapturedOrCheckpoint_state, he, drainResponse]
      · have hr : ∀ p, capturedOf p (drainResponse env task ⟨task.bindings.length, root⟩ ::
            ds.map (drainResponse env task)) = capturedOf p (ds.map (drainResponse env task)) := fun p => by
          simp [capturedOf, drainResponse]
        obtain ⟨hx, h1, h2, h3, h4, h5, h6, h7⟩ := hdr
        exact ⟨hx, h1, h2, h3, h4, h5, fun p => by rw [List.map_cons, hr, h6], fun p => by rw [List.map_cons, hr, h7]⟩
      · simp [hwb, WriteBatch.merge]

/-! ## What a run drains -/

section Drain

variable {t0 : Nat} {accepted : List (Response K)} {s : Accumulator K (combineSpec env task) × Transaction}

theorem FramesInv.mem_drained (hi : FramesInv env task t0 accepted s) (k : Nat ×ₗ K) :
    (∃ d, (k, d) ∈ mergeRuns (combineSpec env task) s.1.runs) ↔ k ∈ (accepted.flatMap (frameAdds env task)).map (·.1) := by
  obtain ⟨closed, current, hh, he⟩ := hi.holds
  rw [hh.mem_drained, he]

theorem FramesInv.drained_key (hi : FramesInv env task t0 accepted s) {e : (Nat ×ₗ K) × Json}
    (he : e ∈ mergeRuns (combineSpec env task) s.1.runs) :
    (ofLex e.1).1 < task.bindings.length ∨ e.1 = stateKey env task := by
  obtain ⟨a, ha, hk⟩ := List.mem_map.1 ((hi.mem_drained e.1).1 ⟨e.2, he⟩)
  obtain ⟨f, -, hf⟩ := List.mem_flatMap.1 ha
  exact hk ▸ frameAdds_key hf

/-- The connector state a run drains: `stateReduce` over the state documents of the frames it
accepted, reduced run by run between the spills. -/
theorem FramesInv.state_windows (hi : FramesInv env task t0 accepted s) :
    ∃ ws : List (List Json), ws.flatten = accepted.flatMap stateDocs ∧
      get? (mergeRuns (combineSpec env task) s.1.runs) (stateKey env task) =
        reduceAll stateReduce (ws.filterMap (reduceAll stateReduce)) := by
  obtain ⟨closed, current, hh, he⟩ := hi.holds
  obtain ⟨ws, hws, hget⟩ := hh.drained_windows (stateKey env task)
  rw [he, filter_frameAdds_state] at hws
  exact ⟨ws, hws, hget.trans (by rw [show combineSpec env task (stateKey env task) = stateReduce from combineReduce_state env task])⟩

theorem FramesInv.indexed (hi : FramesInv env task t0 accepted s) : Indexed task s.2 :=
  ⟨hi.stats_sorted, hi.stats_lt, by simp [hi.updatedInferences]⟩

theorem FramesInv.drain_binding_le (hi : FramesInv env task t0 accepted s) :
    ∀ d ∈ s.1.drain, d.binding ≤ task.bindings.length := by
  simp only [Accumulator.drain, List.mem_map]
  rintro _ ⟨e, he, rfl⟩
  rcases hi.drained_key he with h | h
  · exact h.le
  · simp [h, stateKey]

/-- The drain: the binding entries in key order, then the connector state if there is one. -/
theorem FramesInv.drain_eq (hi : FramesInv env task t0 accepted s) :
    s.1.drain = ((mergeRuns (combineSpec env task) s.1.runs).filter fun e => decide (e.1 < stateKey env task)).map
        (fun e => ⟨(ofLex e.1).1, e.2⟩) ++
      ((get? (mergeRuns (combineSpec env task) s.1.runs) (stateKey env task)).map fun state =>
        ⟨task.bindings.length, state⟩).toList := by
  have hs : Sorted (mergeRuns (combineSpec env task) s.1.runs) := mergeRuns_sorted _
  rw [Accumulator.drain]
  conv_lhs => rw [hs.eq_append_top (stateKey env task) fun e he => (hi.drained_key he).imp_left lt_stateKey]
  rw [List.map_append]
  cases get? (mergeRuns (combineSpec env task) s.1.runs) (stateKey env task) <;> rfl

theorem FramesInv.state_isSome (hi : FramesInv env task t0 accepted s) :
    (get? (mergeRuns (combineSpec env task) s.1.runs) (stateKey env task)).isSome ↔ ∃ f ∈ accepted, stateDocs f ≠ [] := by
  obtain ⟨ws, hws, hget⟩ := hi.state_windows
  rw [hget, Option.isSome_iff_ne_none, Ne, reduceAll_filterMap_eq_none, hws, List.flatMap_eq_nil_iff]
  simp

end Drain

variable (env task)

/-- The reductions of a binding's collection keep the key: what the key extractors select of the
reduced document is what they select of the document added. -/
def KeepsKeys : Prop :=
  ∀ b lhs rhs, env.extractAllOwned lhs b.keyExtractors = env.extractAllOwned rhs b.keyExtractors →
    env.extractAllOwned (env.reduce b lhs rhs) b.keyExtractors = env.extractAllOwned rhs b.keyExtractors

/-- Every entry's document has the entry's combine key. -/
def Keyed (m : List ((Nat ×ₗ K) × Json)) : Prop := ∀ e ∈ m, combineKey env task (ofLex e.1).1 e.2 = e.1

variable {env task}

theorem Keyed.reduceInto (hk : KeepsKeys env) {m : List ((Nat ×ₗ K) × Json)} (h : Keyed env task m) (index : Nat)
    (doc : Json) :
    Keyed env task (reduceInto (combineSpec env task (combineKey env task index doc)) m (combineKey env task index doc) doc) := by
  intro e he
  rcases mem_insert he with rfl | he
  · show combineKey env task index _ = combineKey env task index doc
    cases hg : get? m (combineKey env task index doc) with
    | none => rfl
    | some lhs =>
      have hl : combineKey env task index lhs = combineKey env task index doc := h _ (mem_of_get?_eq_some hg)
      simp only [Option.elim_some, combineSpec, combineKey_fst, combineReduce]
      cases hb : task.bindings[index]? with
      | none => simp [combineKey, hb, Env.extractAllOwned]
      | some b =>
        simp only [combineKey, hb, Option.elim_some, EmbeddingLike.apply_eq_iff_eq, Prod.mk.injEq, true_and] at hl ⊢
        exact hk b lhs doc hl
  · exact h e he

theorem Keyed.mergeRuns (hk : KeepsKeys env) :
    ∀ {runs : List (List ((Nat ×ₗ K) × Json))}, (∀ run ∈ runs, Keyed env task run) →
      Keyed env task (FlowCore.Capture.mergeRuns (combineSpec env task) runs) := by
  have step : ∀ (run m : List ((Nat ×ₗ K) × Json)), Keyed env task run → Keyed env task m →
      Keyed env task (run.foldl (fun m e => FlowCore.Capture.reduceInto (combineSpec env task e.1) m e.1 e.2) m) := by
    intro run
    induction run with
    | nil => exact fun _ _ h => h
    | cons e run ih =>
      intro m hr hm
      have he : combineKey env task (ofLex e.1).1 e.2 = e.1 := hr e (List.mem_cons_self _ _)
      refine ih _ (fun x hx => hr x (List.mem_cons_of_mem _ hx)) ?_
      simpa only [he] using hm.reduceInto hk (ofLex e.1).1 e.2
  intro runs h
  unfold FlowCore.Capture.mergeRuns
  induction runs using List.reverseRecOn with
  | nil => exact fun _ h => nomatch h
  | append_singleton runs run ih =>
    rw [List.foldl_append, List.foldl_cons, List.foldl_nil]
    exact step run _ (h run (by simp)) (ih fun r hr => h r (by simp [hr]))

variable (task) in
/-- **Under reductions that keep keys, every run holds each document under its key.** -/
theorem keyed_recvFrames (hk : KeepsKeys env) (t0 : Nat) (frames : List (Response K)) :
    ∀ run ∈ (recvFrames env task frames (Accumulator.empty, Transaction.new t0)).1.runs, Keyed env task run := by
  have hadd : ∀ (acc : Accumulator K (combineSpec env task)) (index : Nat) (doc : Json),
      (∀ run ∈ acc.runs, Keyed env task run) → ∀ run ∈ (memtableAdd env task acc index doc).runs, Keyed env task run := by
    intro acc index doc h run hr
    simp only [memtableAdd, Accumulator.add, Accumulator.runs, List.mem_append, List.mem_singleton] at hr
    rcases hr with hr | rfl
    · exact h run (List.mem_append_left _ hr)
    · exact (h _ (List.mem_append_right _ (List.mem_singleton_self _))).reduceInto hk index doc
  have hmem : ∀ {acc acc₀ : Accumulator K (combineSpec env task)}, acc.memtable env = .ok acc₀ →
      (∀ run ∈ acc.runs, Keyed env task run) → ∀ run ∈ acc₀.runs, Keyed env task run := by
    intro acc acc₀ hm h
    rcases memtable_cases hm with rfl | rfl
    · exact h
    · intro run hr
      simp only [Accumulator.spill, Accumulator.runs, List.mem_append, List.mem_singleton] at hr
      rcases hr with (hr | rfl) | rfl
      · exact h run (List.mem_append_left _ hr)
      · exact h _ (List.mem_append_right _ (List.mem_singleton_self _))
      · exact fun _ h => nomatch h
  refine recvFrames_induction (fun _ s => ∀ run ∈ s.1.runs, Keyed env task run) (fun done s f h => ?_) frames [] _
    (by simp [Accumulator.empty, Accumulator.runs, Keyed])
  rcases recvFrame_cases s f with ⟨c, d, acc₀, -, hm, -, he⟩ | ⟨acc₀, -, -, hm, -, he⟩ | ⟨-, he⟩ <;> rw [he]
  · exact hadd _ _ _ (hmem hm h)
  · generalize stateDocs f = ds
    induction ds using List.reverseRecOn with
    | nil => exact hmem hm h
    | append_singleton ds d ih => rw [List.foldl_append, List.foldl_cons, List.foldl_nil]; exact hadd _ _ _ ih
  · exact h

/-! ## The responses of a drain -/

/-- The key a `Captured` response carries: its binding and packed key. -/
def capturedKey? (r : Response K) : Option (Nat ×ₗ K) :=
  match r.captured, r.internalCaptured with
  | some c, some (keyPacked, _) => some (toLex (c.binding, keyPacked))
  | _, _ => none

variable (env task) in
/-- **The drain's responses**, under reductions that keep keys: the `Captured` responses, in
strictly increasing `(binding, key_packed)` order and one for each key of an accepted document,
then the merge-patch state `Checkpoint` if a checkpoint was accepted, and nothing after it. -/
theorem drain_responses_sorted (hk : KeepsKeys env) (shapes : List S) (hs : shapes.length = task.bindings.length)
    (frames : List (Response K)) (t0 : Nat) (wb : WriteBatch) :
    let s := recvFrames env task frames (Accumulator.empty, Transaction.new t0)
    let k := ((acceptedFrames env task frames Accumulator.empty).filter fun f => stateDocs f ≠ []).length
    ∃ captured tail rest, sendDrain env task s.1.drain (shapes, s.2, wb) = some (captured ++ tail, rest) ∧
      (∃ keys : List (Nat ×ₗ K), captured.map capturedKey? = keys.map some ∧ keys.Pairwise (· < ·) ∧
        ∀ key, key ∈ keys ↔ key ∈ (acceptedCaptures env task frames).map fun cd => combineKey env task cd.1.binding cd.2) ∧
      (k = 0 → tail = []) ∧
      (0 < k → ∃ state, tail = [{ checkpoint := some (some ⟨render (env.onOwnedDefault state), true⟩) }]) := by
  intro s k
  have hi := framesInv_recvFrames env task t0 frames
  set M := mergeRuns (combineSpec env task) s.1.runs
  have hkd : Keyed env task M := Keyed.mergeRuns hk (keyed_recvFrames task hk t0 frames)
  obtain ⟨shapes', txn', wb', he, -, -, -⟩ := sendDrain_eq env s.1.drain hi.drain_binding_le shapes s.2 wb hs hi.indexed
  set E1 := M.filter fun e => decide (e.1 < stateKey env task)
  have hE1 : ∀ e ∈ E1, e ∈ M ∧ (ofLex e.1).1 < task.bindings.length := fun e he' => by
    obtain ⟨hm, hlt⟩ := List.mem_filter.1 he'
    exact ⟨hm, (hi.drained_key hm).resolve_right (ne_of_lt (of_decide_eq_true hlt))⟩
  have hstate := hi.state_isSome
  refine ⟨(E1.map fun e => ⟨(ofLex e.1).1, e.2⟩).map (drainResponse env task),
    ((get? M (stateKey env task)).map fun state => ⟨task.bindings.length, state⟩).toList.map (drainResponse env task),
    (shapes', txn', wb'), by rw [he, hi.drain_eq, List.map_append],
    ⟨E1.map (·.1), ?_, ?_, fun key => ?_⟩, fun hk0 => ?_, fun hk0 => ?_⟩
  · simp only [List.map_map]
    refine List.map_congr_left fun e he' => ?_
    obtain ⟨hm, hlt⟩ := hE1 e he'
    have hb : task.bindings[(ofLex e.1).1]? = some task.bindings[(ofLex e.1).1] := List.getElem?_eq_getElem hlt
    have := hkd e hm
    simp only [combineKey, hb, Option.elim_some] at this
    simp [drainResponse, capturedKey?, hb, this]
  · exact List.pairwise_map.2 ((mergeRuns_sorted _).sublist (List.filter_sublist _))
  · constructor
    · intro hkey
      obtain ⟨e, he', rfl⟩ := List.mem_map.1 hkey
      obtain ⟨hm, hlt⟩ := hE1 e he'
      exact (mem_frameAdds_binding _ hlt).1 ((hi.mem_drained e.1).1 ⟨e.2, hm⟩)
    · intro hkey
      obtain ⟨cd, hcd, rfl⟩ := List.mem_map.1 hkey
      obtain ⟨f, -, hf⟩ := List.mem_filterMap.1 hcd
      have hlt : (ofLex (combineKey env task cd.1.binding cd.2)).1 < task.bindings.length := capturedDoc_binding_lt hf
      obtain ⟨d, hd⟩ := (hi.mem_drained _).2 ((mem_frameAdds_binding _ hlt).2 hkey)
      exact List.mem_map.2 ⟨(_, d), List.mem_filter.2 ⟨hd, by simpa using lt_stateKey hlt⟩, rfl⟩
  · have hnone : get? M (stateKey env task) = none := Option.not_isSome_iff_eq_none.1 fun h => by
      obtain ⟨f, hf, hsd⟩ := hstate.1 h
      simp [k, List.filter_eq_nil_iff] at hk0
      exact hsd (hk0 f hf)
    simp [hnone]
  · obtain ⟨f, hf, hsd⟩ : ∃ f ∈ acceptedFrames env task frames Accumulator.empty, stateDocs f ≠ [] := by
      simpa [k, List.length_pos, List.filter_eq_nil_iff] using hk0
    obtain ⟨state, hst⟩ := Option.isSome_iff_exists.1 (hstate.2 ⟨f, hf, hsd⟩)
    exact ⟨state, by simp [hst, drainResponse]⟩

theorem drain_responses_sorted_one_binding :
    let env : Env Nat Unit := ⟨fun _ => 0, fun _ d => d, id, fun s _ => (s, false), id, fun _ _ d => d, "uuid",
      fun _ _ => "", fun _ => false, fun _ => none, fun _ _ _ => none, fun _ _ => .error (.context ""), fun _ _ => [],
      fun _ _ => none⟩
    let task : Task := ⟨[⟨"events", [], [], []⟩], false, 0⟩
    let frames : List (Response Nat) := [{ captured := some ⟨0, "1"⟩ }, { checkpoint := some (some ⟨"\x7b\x7d", true⟩) }]
    KeepsKeys env ∧ [()].length = task.bindings.length ∧
    let s := recvFrames env task frames (Accumulator.empty, Transaction.new 0)
    let k := ((acceptedFrames env task frames Accumulator.empty).filter fun f => stateDocs f ≠ []).length
    ∃ captured tail rest, sendDrain env task s.1.drain ([()], s.2, ⟨[]⟩) = some (captured ++ tail, rest) ∧
      (∃ keys : List (Nat ×ₗ Nat), captured.map capturedKey? = keys.map some ∧ keys.Pairwise (· < ·) ∧
        ∀ key, key ∈ keys ↔ key ∈ (acceptedCaptures env task frames).map fun cd => combineKey env task cd.1.binding cd.2) ∧
      (k = 0 → tail = []) ∧
      (0 < k → ∃ state, tail = [{ checkpoint := some (some ⟨render (env.onOwnedDefault state), true⟩) }]) := by
  intro env task frames
  exact ⟨fun _ _ _ _ => rfl, rfl, drain_responses_sorted env task (fun _ _ _ _ => rfl) [()] rfl frames 0 ⟨[]⟩⟩

/-- A reduction that rewrites the key breaks the order: two documents of key `1` reduce to one of
key `100`, which the drain sends, under the key it extracts from the reduced document, before the
document of key `2`. -/
theorem drain_responses_key_rewritten :
    let env : Env Nat Unit := ⟨fun | [.number (.unsigned n)] => n | _ => 0, fun _ d => d, id, fun s _ => (s, false), id,
      fun _ _ _ => .object [("k", .number (.unsigned 100))], "uuid", fun _ _ => "", fun _ => false, fun _ => none,
      fun _ _ _ => none, fun _ _ => .error (.context ""), fun _ _ => [], fun _ _ => none⟩
    let task : Task := ⟨[⟨"events", [[.property "k"]], [], []⟩], false, 0⟩
    let frames : List (Response Nat) := [{ captured := some ⟨0, "\x7b\"k\":1\x7d"⟩ },
      { captured := some ⟨0, "\x7b\"k\":1\x7d"⟩ }, { captured := some ⟨0, "\x7b\"k\":2\x7d"⟩ }]
    let s := recvFrames env task frames (Accumulator.empty, Transaction.new 0)
    (sendDrain env task s.1.drain ([()], s.2, ⟨[]⟩)).map (fun r => r.1.map capturedKey?) =
        some [some (toLex (0, 100)), some (toLex (0, 2))] ∧
      ¬ (toLex (0, 100) : Nat ×ₗ Nat) < toLex (0, 2) :=
  ⟨rfl, by simp [Prod.Lex.lt_iff]⟩

/-! ## The poll -/

variable (env task) in
/-- **A transaction is ready exactly when it accepted a checkpoint**: a poll after a transaction's
frames answers `Ready` if and only if one of its `Checkpoint` frames was accepted, whatever the
connector's EOF and the restart instant. -/
theorem pollResult_ready_iff (frames : List (Response K)) (t0 now : Nat) (eof : Bool) :
    (sendClientPollResult task { (recvFrames env task frames (Accumulator.empty, Transaction.new t0)).2 with connectorEof := eof } now :
      Bool × Response K).1 = true ↔ ∃ f ∈ acceptedFrames env task frames Accumulator.empty, stateDocs f ≠ [] := by
  have hready : (recvFrames env task frames (Accumulator.empty, Transaction.new t0)).2.checkpoints ≠ 0 ↔
      ∃ f ∈ acceptedFrames env task frames Accumulator.empty, stateDocs f ≠ [] := by
    simp [(framesInv_recvFrames env task t0 frames).checkpoints, List.filter_eq_nil_iff]
  rw [← hready]
  by_cases h : (recvFrames env task frames (Accumulator.empty, Transaction.new t0)).2.checkpoints = 0
  · simp only [sendClientPollResult, h]
    split_ifs <;> simp_all
  · simp [sendClientPollResult, h]

/-! ## Stats -/

variable (env task)

/-- The incoming counters of the collection `c`: the accepted `Captured` frames on its bindings,
and their `doc_json` bytes. -/
def incoming (c : String) (frames : List (Response K)) : DocsAndBytes :=
  let accepted := (acceptedCaptures env task frames).filter (inCollection task c ·.1.binding)
  ⟨accepted.length, (accepted.map (·.1.docJson.utf8ByteSize)).sum⟩

variable {env} in
/-- The outgoing counters of the collection `c`: the `Captured` responses on its bindings, and
their `doc_json` bytes. -/
def outgoing (c : String) (rs : List (Response K)) : DocsAndBytes :=
  let sent := capturedOf (inCollection task c) rs
  ⟨sent.length, (sent.map (·.docJson.utf8ByteSize)).sum⟩

variable {env task}

theorem statSum_eq_zero {p : Nat → Bool} {g : DocsAndBytes × DocsAndBytes → Nat}
    {stats : List (Nat × (DocsAndBytes × DocsAndBytes))} (h : ∀ e ∈ stats, g e.2 = 0) : statSum p g stats = 0 := by
  induction stats with
  | nil => rfl
  | cons e es ih =>
    simp only [statSum, List.map_cons, List.sum_cons] at ih ⊢
    rw [ih fun e' he => h e' (List.mem_cons_of_mem _ he)]
    simp [h e (List.mem_cons_self _ _)]

omit [LinearOrder K] [KeyOrd K] in
theorem length_capturedOf_drain (p : Nat → Bool) (es : List ((Nat ×ₗ K) × Json)) :
    (capturedOf p ((es.map fun e => (⟨(ofLex e.1).1, e.2⟩ : DrainedDoc)).map (drainResponse env task))).length =
      (es.filter fun e => (task.bindings[(ofLex e.1).1]?).isSome && p (ofLex e.1).1).length := by
  induction es with
  | nil => rfl
  | cons e es ih =>
    simp only [capturedOf, List.map_cons, List.filterMap_cons, List.filter_cons] at ih ⊢
    cases hb : task.bindings[(ofLex e.1).1]? with
    | none => simpa [drainResponse, hb] using ih
    | some b => by_cases hp : p (ofLex e.1).1 <;> simpa [drainResponse, hb, hp, Option.filter] using ih

/-- There are no more binding entries drained than accepted documents: each entry's key is an
accepted document's. -/
theorem FramesInv.length_drained_le {t0 : Nat} {accepted : List (Response K)}
    {s : Accumulator K (combineSpec env task) × Transaction} (hi : FramesInv env task t0 accepted s) (p : Nat → Bool) :
    ((mergeRuns (combineSpec env task) s.1.runs).filter fun e => (task.bindings[(ofLex e.1).1]?).isSome && p (ofLex e.1).1).length ≤
      ((accepted.filterMap (capturedDoc env task)).filter (p ·.1.binding)).length := by
  let keyOf : Captured × Json → Nat ×ₗ K := fun cd => combineKey env task cd.1.binding cd.2
  set M := mergeRuns (combineSpec env task) s.1.runs
  have hnd : ((M.filter fun e => (task.bindings[(ofLex e.1).1]?).isSome && p (ofLex e.1).1).map (·.1)).Nodup :=
    (List.pairwise_map.2 ((mergeRuns_sorted _).sublist (List.filter_sublist _))).imp ne_of_lt
  have hsub : (M.filter fun e => (task.bindings[(ofLex e.1).1]?).isSome && p (ofLex e.1).1).map (·.1) ⊆
      ((accepted.filterMap (capturedDoc env task)).filter (p ·.1.binding)).map keyOf := by
    intro k hk
    obtain ⟨e, he, rfl⟩ := List.mem_map.1 hk
    obtain ⟨hm, hq⟩ := List.mem_filter.1 he
    simp only [Bool.and_eq_true, Option.isSome_iff_exists] at hq
    obtain ⟨⟨b, hb⟩, hp⟩ := hq
    obtain ⟨cd, hcd, hkey⟩ := List.mem_map.1
      ((mem_frameAdds_binding _ (List.getElem?_eq_some_iff.1 hb).1).1 ((hi.mem_drained e.1).1 ⟨e.2, hm⟩))
    have hbind : cd.1.binding = (ofLex e.1).1 := by rw [← hkey]; rfl
    exact List.mem_map.2 ⟨cd, List.mem_filter.2 ⟨hcd, by rw [hbind]; exact hp⟩, hkey⟩
  simpa using (List.subperm_of_subset hnd hsub).length_le

variable (env task) in
/-- **Stats conservation.** The bytes of the accepted documents are the transaction's
`captured_bytes`, and the final checkpoint, unless it panics because the clock reads before the
transaction's start, reports for every collection: incoming, the accepted `Captured` frames on its
bindings and their bytes; outgoing, the `Captured` responses of the drain on its bindings and their
bytes (the connector state is not counted); and no more outgoing than incoming documents. -/
theorem stats_conservation (shapes : List S) (hs : shapes.length = task.bindings.length)
    (frames : List (Response K)) (t0 now : Nat) (wb : WriteBatch) :
    let s := recvFrames env task frames (Accumulator.empty, Transaction.new t0)
    s.2.capturedBytes = ((acceptedCaptures env task frames).map (·.1.docJson.utf8ByteSize)).sum ∧
    ∃ rs shapes' txn' wb', sendDrain env task s.1.drain (shapes, s.2, wb) = some (rs, shapes', txn', wb') ∧
      ((sendClientFinalCheckpoint task txn' now : Option (Response K)) = none ↔ now < t0) ∧
      ∀ r, (sendClientFinalCheckpoint task txn' now : Option (Response K)) = some r →
        ∃ capture secs, r.internalCheckpoint = some (some ⟨capture, secs, 1⟩, .invalid) ∧
          ∀ c, ((get? capture c).getD default).right = incoming env task c frames ∧
            ((get? capture c).getD default).out = outgoing task c rs ∧
            (outgoing task c rs).docsTotal ≤ (incoming env task c frames).docsTotal := by
  intro s
  have hi := framesInv_recvFrames env task t0 frames
  obtain ⟨shapes', txn', wb', he, -, hdr, -⟩ := sendDrain_eq env s.1.drain hi.drain_binding_le shapes s.2 wb hs hi.indexed
  refine ⟨hi.capturedBytes, _, shapes', txn', wb', he, ?_⟩
  obtain ⟨capture, hcap⟩ := captureStats_isSome txn'.stats hdr.indexed.stats_lt []
  rw [sendClientFinalCheckpoint_eq now hcap, hdr.startedAt, hi.startedAt]
  refine ⟨by simp [elapsed], fun r hr => ?_⟩
  obtain ⟨secs, -, rfl⟩ := Option.map_eq_some'.1 hr
  refine ⟨capture, secs, rfl, fun c => ?_⟩
  have hout : ∀ g : DocsAndBytes → Nat, g default = 0 →
      statSum (inCollection task c) (g ·.2) s.2.stats = 0 := fun g hg =>
    statSum_eq_zero fun e he => by rw [hi.outgoing e he, hg]
  have hget := fun g g' hg => captureStats_get hcap c g g' hg
  refine ⟨DocsAndBytes.ext ?_ ?_, DocsAndBytes.ext ?_ ?_, ?_⟩
  · rw [hget (·.right.docsTotal) (·.1.docsTotal) (fun _ _ _ => rfl), hdr.incoming_docs, hi.incoming_docs]
    simp [incoming, get?, acceptedCaptures]
  · rw [hget (·.right.bytesTotal) (·.1.bytesTotal) (fun _ _ _ => rfl), hdr.incoming_bytes, hi.incoming_bytes]
    simp [incoming, get?, acceptedCaptures]
  · rw [hget (·.out.docsTotal) (·.2.docsTotal) (fun _ _ _ => rfl), hdr.outgoing_docs, hout _ rfl]
    simp [outgoing, get?]
  · rw [hget (·.out.bytesTotal) (·.2.bytesTotal) (fun _ _ _ => rfl), hdr.outgoing_bytes, hout _ rfl]
    simp [outgoing, get?]
  · show (capturedOf _ (s.1.drain.map _)).length ≤ _
    rw [Accumulator.drain, length_capturedOf_drain]
    exact hi.length_drained_le _

theorem stats_conservation_one_binding :
    let env : Env Nat Unit := ⟨fun _ => 0, fun _ d => d, id, fun s _ => (s, false), id, fun _ _ d => d, "uuid",
      fun _ _ => "", fun _ => false, fun _ => none, fun _ _ _ => none, fun _ _ => .error (.context ""), fun _ _ => [],
      fun _ _ => none⟩
    let task : Task := ⟨[⟨"events", [], [], []⟩], false, 0⟩
    let frames : List (Response Nat) := [{ captured := some ⟨0, "1"⟩ }, { captured := some ⟨1, "2"⟩ }]
    [()].length = task.bindings.length ∧
    let s := recvFrames env task frames (Accumulator.empty, Transaction.new 0)
    s.2.capturedBytes = ((acceptedCaptures env task frames).map (·.1.docJson.utf8ByteSize)).sum ∧
    ∃ rs shapes' txn' wb', sendDrain env task s.1.drain ([()], s.2, ⟨[]⟩) = some (rs, shapes', txn', wb') ∧
      ((sendClientFinalCheckpoint task txn' 5 : Option (Response Nat)) = none ↔ 5 < 0) ∧
      ∀ r, (sendClientFinalCheckpoint task txn' 5 : Option (Response Nat)) = some r →
        ∃ capture secs, r.internalCheckpoint = some (some ⟨capture, secs, 1⟩, .invalid) ∧
          ∀ c, ((get? capture c).getD default).right = incoming env task c frames ∧
            ((get? capture c).getD default).out = outgoing task c rs ∧
            (outgoing task c rs).docsTotal ≤ (incoming env task c frames).docsTotal := by
  intro env task frames
  exact ⟨rfl, stats_conservation env task [()] rfl frames 0 5 ⟨[]⟩⟩

/-! ## Panics -/

variable (env task) in
/-- **No helper panics while the clock does not step back**: with one shape per binding, the
drain, the final checkpoint and `recv_client_start_commit` all return, and the transaction's maps
stay keyed by bindings. -/
theorem transaction_never_panics (shapes : List S) (hs : shapes.length = task.bindings.length)
    (frames : List (Response K)) (t0 now : Nat) (hclock : t0 ≤ now) (wb : WriteBatch) (db : RocksDB)
    (request : Option Request) :
    let s := recvFrames env task frames (Accumulator.empty, Transaction.new t0)
    ∃ rs shapes' txn' wb', sendDrain env task s.1.drain (shapes, s.2, wb) = some (rs, shapes', txn', wb') ∧
      Indexed task txn' ∧ (sendClientFinalCheckpoint task txn' now : Option (Response K)).isSome ∧
      (recvClientStartCommit db request shapes' task txn' wb').isSome := by
  intro s
  have hi := framesInv_recvFrames env task t0 frames
  obtain ⟨shapes', txn', wb', he, hs', hdr, -⟩ := sendDrain_eq env s.1.drain hi.drain_binding_le shapes s.2 wb hs hi.indexed
  obtain ⟨capture, hcap⟩ := captureStats_isSome txn'.stats hdr.indexed.stats_lt []
  refine ⟨_, shapes', txn', wb', he, hdr.indexed, ?_, recvClientStartCommit_isSome db request wb' hs' hdr.indexed.updatedInferences_lt⟩
  rw [sendClientFinalCheckpoint_eq now hcap, hdr.startedAt, hi.startedAt]
  simp [elapsed, hclock]

theorem transaction_never_panics_one_binding :
    let env : Env Nat Unit := ⟨fun _ => 0, fun _ d => d, id, fun s _ => (s, false), id, fun _ _ d => d, "uuid",
      fun _ _ => "", fun _ => false, fun _ => none, fun _ _ _ => none, fun _ _ => .error (.context ""), fun _ _ => [],
      fun _ _ => none⟩
    let task : Task := ⟨[⟨"events", [], [], []⟩], false, 0⟩
    let frames : List (Response Nat) := [{ captured := some ⟨0, "1"⟩ }, { captured := some ⟨7, "2"⟩ }]
    [()].length = task.bindings.length ∧ 0 ≤ 5 ∧
    let s := recvFrames env task frames (Accumulator.empty, Transaction.new 0)
    ∃ rs shapes' txn' wb', sendDrain env task s.1.drain ([()], s.2, ⟨[]⟩) = some (rs, shapes', txn', wb') ∧
      Indexed task txn' ∧ (sendClientFinalCheckpoint task txn' 5 : Option (Response Nat)).isSome ∧
      (recvClientStartCommit ⟨none, [], none, none⟩ (some { startCommit := some (some []) }) shapes' task txn' wb').isSome := by
  intro env task frames
  exact ⟨rfl, by decide, transaction_never_panics env task [()] rfl frames 0 5 (by decide) ⟨[]⟩ ⟨none, [], none, none⟩ _⟩

variable (env task) in
/-- The final checkpoint of every transaction panics when the wall clock reads earlier than the
transaction's start: `txn.started_at.elapsed().unwrap()` unwraps an `Err`. -/
theorem finalCheckpoint_clock_backwards (shapes : List S) (hs : shapes.length = task.bindings.length)
    (frames : List (Response K)) (t0 now : Nat) (hclock : now < t0) (wb : WriteBatch) :
    let s := recvFrames env task frames (Accumulator.empty, Transaction.new t0)
    ∃ rs shapes' txn' wb', sendDrain env task s.1.drain (shapes, s.2, wb) = some (rs, shapes', txn', wb') ∧
      (sendClientFinalCheckpoint task txn' now : Option (Response K)) = none := by
  intro s
  have hi := framesInv_recvFrames env task t0 frames
  obtain ⟨shapes', txn', wb', he, -, hdr, -⟩ := sendDrain_eq env s.1.drain hi.drain_binding_le shapes s.2 wb hs hi.indexed
  obtain ⟨capture, hcap⟩ := captureStats_isSome txn'.stats hdr.indexed.stats_lt []
  refine ⟨_, shapes', txn', wb', he, ?_⟩
  rw [sendClientFinalCheckpoint_eq now hcap, hdr.startedAt, hi.startedAt]
  simp [elapsed, Nat.not_le.2 hclock]

theorem finalCheckpoint_clock_backwards_one_binding :
    let env : Env Nat Unit := ⟨fun _ => 0, fun _ d => d, id, fun s _ => (s, false), id, fun _ _ d => d, "uuid",
      fun _ _ => "", fun _ => false, fun _ => none, fun _ _ _ => none, fun _ _ => .error (.context ""), fun _ _ => [],
      fun _ _ => none⟩
    let task : Task := ⟨[⟨"events", [], [], []⟩], false, 0⟩
    let frames : List (Response Nat) := [{ captured := some ⟨0, "1"⟩ }]
    [()].length = task.bindings.length ∧ 3 < 5 ∧
    let s := recvFrames env task frames (Accumulator.empty, Transaction.new 5)
    ∃ rs shapes' txn' wb', sendDrain env task s.1.drain ([()], s.2, ⟨[]⟩) = some (rs, shapes', txn', wb') ∧
      (sendClientFinalCheckpoint task txn' 3 : Option (Response Nat)) = none := by
  intro env task frames
  exact ⟨rfl, by decide, finalCheckpoint_clock_backwards env task [()] rfl frames 5 3 (by decide) ⟨[]⟩⟩

end FlowCore.Capture
