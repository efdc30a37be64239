import FlowCore.Json.Value

/-!
# JSON merge patch: `json_patch::merge` (RFC 7396)

The connector state is kept as a merge patch at three places outside this repository: the reducer
of the accumulator's connector-state slot, the RocksDB merge operator behind
`wb.merge(RocksDB::CONNECTOR_STATE_KEY, ..)` (protocol.rs:162), and `load_connector_state`
(protocol.rs:52-58). The spec names the operation for each (`jsonMergePatch`, §3, §4.2, §4.3). A
patch that is not an object replaces the document. An object patch is applied to the document's
fields, a document that is not an object counting as `{}`: a `null` value removes the property,
and any other value is merged, recursively, into the property's value (`null` if it is missing).

Merge patch is not associative: `mergePatch (mergePatch a p) q` and `mergePatch a (mergePatch p q)`
differ when `q` removes a property `p` sets. `FlowCore.Capture.Session` shows what that does to the
persisted connector state.
-/

namespace FlowCore.Json

open BTreeMap

mutual
/-- `json_patch::merge(doc, patch)`. -/
def mergePatch (doc : Json) : Json → Json
  | .object ps => .object (mergeFields doc.fields ps)
  | patch => patch
/-- The members of an object patch applied in turn to the document's fields. -/
def mergeFields (fs : List (String × Json)) : List (String × Json) → List (String × Json)
  | [] => fs
  | (k, v) :: ps =>
    mergeFields (if v.isNull then remove k fs else insert k (mergePatch ((get? fs k).getD .null) v) fs) ps
end

@[simp] theorem mergePatch_object (doc : Json) (ps : List (String × Json)) :
    mergePatch doc (.object ps) = .object (mergeFields doc.fields ps) := by
  rw [mergePatch]

theorem mergePatch_of_not_object {doc patch : Json} (h : ∀ ps, patch ≠ .object ps) : mergePatch doc patch = patch := by
  cases patch <;> simp_all [mergePatch]

@[simp] theorem mergePatch_null (doc : Json) : mergePatch doc .null = .null := rfl

theorem Sorted.mergeFields {fs : List (String × Json)} (h : Sorted fs) :
    ∀ ps : List (String × Json), Sorted (mergeFields fs ps)
  | [] => by rwa [Json.mergeFields]
  | (k, v) :: ps => by
    rw [Json.mergeFields]
    exact Sorted.mergeFields (by split_ifs; exacts [h.remove k, h.insert _ _]) ps

theorem get?_mergeFields_of_not_mem {k : String} :
    ∀ (fs ps : List (String × Json)), get? ps k = none → get? (mergeFields fs ps) k = get? fs k
  | fs, [], _ => by rw [mergeFields]
  | fs, (k', v) :: ps, h => by
    have hk : k' ≠ k := fun e => by simp [e] at h
    rw [mergeFields, get?_mergeFields_of_not_mem _ ps (by rwa [get?_cons_of_ne _ _ hk] at h)]
    split_ifs
    exacts [get?_remove_of_ne fs hk, by rw [get?_insert, if_neg hk]]

/-- A property of an object patch: removed by a `null`, merged into the document's otherwise. -/
theorem Sorted.get?_mergeFields {k : String} :
    ∀ {fs ps : List (String × Json)}, Sorted fs → Sorted ps →
      get? (Json.mergeFields fs ps) k = (get? ps k).elim (get? fs k) fun v =>
        if v.isNull then none else some (mergePatch ((get? fs k).getD .null) v)
  | fs, [], _, _ => by rw [Json.mergeFields]; rfl
  | fs, (k', v) :: ps, hfs, hps => by
    rw [Json.mergeFields]
    have hfs' : Sorted (if v.isNull then remove k' fs else insert k' (mergePatch ((get? fs k').getD .null) v) fs) := by
      split_ifs
      exacts [hfs.remove k', hfs.insert _ _]
    rw [Sorted.get?_mergeFields hfs' hps.tail, get?_cons]
    by_cases hk : k' = k
    · subst hk
      rw [get?_eq_none_of_lt fun p hp => hps.lt_of_mem hp, if_pos rfl, Option.elim_some]
      by_cases hv : v.isNull
      · rw [if_pos hv, if_pos hv, hfs.get?_remove, if_pos rfl, Option.elim_none]
      · rw [if_neg hv, if_neg hv, get?_insert, if_pos rfl, Option.elim_none]
    · have hfk : get? (if v.isNull then remove k' fs else insert k' (mergePatch ((get? fs k').getD .null) v) fs) k =
          get? fs k := by
        split_ifs
        exacts [get?_remove_of_ne fs hk, by rw [get?_insert, if_neg hk]]
      simp only [hfk, if_neg hk]

example : mergePatch (.object [("a", .number (.unsigned 1)), ("b", .number (.unsigned 2))])
    (.object [("a", .null), ("c", .object [("d", .bool true)])]) =
    .object [("b", .number (.unsigned 2)), ("c", .object [("d", .bool true)])] := by decide

end FlowCore.Json
