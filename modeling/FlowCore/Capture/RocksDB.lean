import FlowCore.Capture.Accumulator
import FlowCore.Json.WellFormed

/-!
# The checkpoint store: `RocksDB` (runtime/src/rocksdb.rs)

Modelled from the spec (§4.2); `rocksdb.rs` is not in this repository. The store keeps its two
reserved keys. `CONNECTOR_STATE_KEY` is kept as RocksDB keeps a key written by merges: a base value
and the operands merged into it since, oldest first. The registered merge operator is JSON merge
patch, and the spec fixes what the key then holds: `jsonMergePatch(b, jsonMergePatch(m1, … mk))`,
the operands combined left to right and merge-patched onto the base `b`, an absent base counting as
`null` (`connectorValue`). `write` applies a batch atomically, every mutation or none; an operand
that is not JSON fails it. A read fails with the store's error where the store is corrupt, and
otherwise finds the stored value, or nothing.

`connectorValue_merge_object` is what the spec's formula does with an object merged onto a stored
object: every property the object does not name keeps its value.
-/

namespace FlowCore.Capture

open BTreeMap

/-- Modelled from the spec: the contents of the checkpoint store. `connectorState` is the base value
of `CONNECTOR_STATE_KEY` and `connectorMerges` the operands merged into it since; `readError` is the
error every read fails with, where the store is corrupt. -/
structure RocksDB where
  connectorState : Option Json
  connectorMerges : List Json
  checkpoint : Option (List UInt8)
  readError : Option Error
deriving DecidableEq, Repr

namespace RocksDB

/-- Modelled from the spec: the value of `CONNECTOR_STATE_KEY`, its operands combined by merge patch
and merged onto its base. -/
def connectorValue (db : RocksDB) : Option Json :=
  (reduceAll Json.mergePatch db.connectorMerges).elim db.connectorState fun m =>
    some (Json.mergePatch (db.connectorState.getD .null) m)

/-- One mutation of a batch; `none` where the store cannot apply it. The helpers write only the
two mutations modelled: a merge into the connector state and a put of the checkpoint. -/
def apply (db : RocksDB) : BatchOp → Option RocksDB
  | .put .checkpoint value => some { db with checkpoint := some value }
  | .merge .connectorState value =>
    (Json.parse value).map fun operand => { db with connectorMerges := db.connectorMerges ++ [operand] }
  | _ => none

/-- `RocksDB::write_opt(wb)`: the batch applied atomically, or `none` if it fails. -/
def write (db : RocksDB) (wb : WriteBatch) : Option RocksDB := wb.ops.foldlM apply db

/-- `RocksDB::load_connector_state(initial)`: the initial state's text if nothing is stored, else
the stored state merge-patched onto the initial document `value` (which `initial` encodes). -/
def loadConnectorState (db : RocksDB) (initial : String) (value : Json) : Except Error String :=
  match db.readError with
  | some e => .error e
  | none => .ok (db.connectorValue.elim initial fun state => Json.render (Json.mergePatch value state))

/-- Every document the store holds is well formed, as the reader builds them. -/
def wellFormed (db : RocksDB) : Bool :=
  db.connectorState.all Json.wellFormed && db.connectorMerges.all Json.wellFormed

theorem write_append (db : RocksDB) (ops ops' : List BatchOp) :
    db.write ⟨ops ++ ops'⟩ = (db.write ⟨ops⟩).bind fun db => db.write ⟨ops'⟩ :=
  List.foldlM_append _ _ _ _

/-- A batch of connector-state merges and then a checkpoint: written when every operand parses,
the parsed operands appended to the key's and the checkpoint stored. -/
theorem write_merges_put (cp : List UInt8) :
    ∀ (db : RocksDB) (operands : List String),
      db.write ⟨operands.map (.merge .connectorState) ++ [.put .checkpoint cp]⟩ =
        (operands.mapM Json.parse).map fun us =>
          { db with connectorMerges := db.connectorMerges ++ us, checkpoint := some cp }
  | db, [] => by rw [List.mapM_nil]; simp [write, apply]
  | db, t :: ts => by
    cases hp : Json.parse t with
    | none => rw [List.mapM_cons, hp]; simp [write, apply, hp]
    | some u =>
      have ih := write_merges_put cp { db with connectorMerges := db.connectorMerges ++ [u] } ts
      simp only [write] at ih
      simp only [write, List.map_cons, List.cons_append, List.foldlM_cons, apply, hp, Option.map_some', Option.some_bind,
        ih, List.mapM_cons, Option.bind_eq_bind]
      cases ts.mapM Json.parse <;> simp

theorem foldl_mergePatch_wellFormed :
    ∀ (ms : List Json) (d : Json), d.wellFormed → (∀ m ∈ ms, m.wellFormed) → (ms.foldl Json.mergePatch d).wellFormed
  | [], _, hd, _ => hd
  | m :: ms, d, hd, h =>
    foldl_mergePatch_wellFormed ms _ (Json.mergePatch_wellFormed m d hd (h m (List.mem_cons_self _ _)))
      fun x hx => h x (List.mem_cons_of_mem _ hx)

theorem reduceAll_mergePatch_wellFormed {ms : List Json} (h : ∀ m ∈ ms, m.wellFormed) :
    ∀ m ∈ reduceAll Json.mergePatch ms, m.wellFormed := by
  cases ms with
  | nil => intro _ h; cases h
  | cons d ds =>
    rintro _ ⟨⟩
    exact foldl_mergePatch_wellFormed ds d (h d (List.mem_cons_self _ _)) fun x hx => h x (List.mem_cons_of_mem _ hx)

/-- **What the spec's merge operator keeps of a stored object.** Merging an object into a
well-formed store that holds an object leaves an object, in which every property the merged object
does not name keeps its value. -/
theorem connectorValue_merge_object {db : RocksDB} (hwf : db.wellFormed) {fs : List (String × Json)}
    (hv : db.connectorValue = some (.object fs)) (ps : List (String × Json)) :
    ∃ fs', { db with connectorMerges := db.connectorMerges ++ [Json.object ps] }.connectorValue = some (.object fs') ∧
      ∀ k, get? ps k = none → get? fs' k = get? fs k := by
  simp only [wellFormed, Bool.and_eq_true, List.all_eq_true] at hwf
  have hb : Sorted (db.connectorState.getD .null).fields := by
    cases h : db.connectorState
    · exact List.Pairwise.nil
    · exact Json.sorted_fields (by simpa [h] using hwf.1)
  unfold connectorValue at hv ⊢
  rw [reduceAll_append_singleton]
  cases hm : reduceAll Json.mergePatch db.connectorMerges with
  | none =>
    rw [hm, Option.elim_none] at hv
    exact ⟨Json.mergeFields fs ps, by simp [hv], fun k hk => Json.get?_mergeFields_of_not_mem fs ps hk⟩
  | some M =>
    rw [hm, Option.elim_some, Option.some.injEq] at hv
    obtain ⟨ms, rfl⟩ : ∃ ms, M = .object ms := by
      cases M <;> simp_all [Json.mergePatch]
    have hms : Sorted ms := Json.sorted_fields (reduceAll_mergePatch_wellFormed hwf.2 _ hm)
    rw [Json.mergePatch_object, Json.object.injEq] at hv
    refine ⟨Json.mergeFields (db.connectorState.getD .null).fields (Json.mergeFields ms ps), by simp, fun k hk => ?_⟩
    rw [← hv, Json.Sorted.get?_mergeFields hb (Json.Sorted.mergeFields hms ps), Json.Sorted.get?_mergeFields hb hms,
      Json.get?_mergeFields_of_not_mem ms ps hk]

end RocksDB

end FlowCore.Capture
