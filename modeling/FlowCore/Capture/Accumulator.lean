import FlowCore.Capture.Task
import FlowCore.Json.MergePatch

/-!
# The combining accumulator: `doc::combine::Accumulator` and `Task::combine_spec`

Modelled from the spec (§3 and §4.3); the `doc` crate is not in this repository. An accumulator is
created with its combine spec, the reducer of each combine key, which here indexes its type. It
holds a memtable and the runs it spilled to its spill file, each run the memtable as it was when
spilled. `MemTable::add(binding, doc, false)` reduces the document into the memtable's entry of its
key, the entry's document on the left, or starts the entry; `Accumulator::memtable()` spills the
memtable first when it is over the spill threshold; and the drain merges the runs, reducing each
key's documents across the runs in the order they were written, in ascending key order.

The combine spec gives binding `i < N` its collection's key extractors and reducer. Index `N`, the
connector-state slot, has no key extractors, so all its documents share one key, and it has the
fixed reducer `stateReduce`: a `null` resets the slot, a document after a `null` replaces it, and
any other document is merge-patched into it.

`Holds` says what an accumulator holds in terms of the documents added while each run was the
memtable, and `get?_drained` what the drain yields for a key: the key's reducer folded over each
run's reduction of the key's documents, the runs in order. Where the reducer is associative this is
the fold over all the key's documents, wherever the spills fell (`reduceAll_windows`);
`stateReduce` is not, so the connector state can depend on where they fell.
-/

namespace FlowCore.Capture

open BTreeMap

variable {K S : Type}

/-! ## The combine spec -/

/-- Modelled from the spec: the reducer of the connector-state slot. -/
def stateReduce (lhs rhs : Json) : Json := if lhs = .null then rhs else Json.mergePatch lhs rhs

/-- Modelled from the spec: the combine key of a document added at `index`. A binding's key
extractors are its collection's key; the connector-state slot `N` has none. -/
def combineKey (env : Env K S) (task : Task) (index : Nat) (doc : Json) : Nat ×ₗ K :=
  toLex (index, env.extractAllOwned doc ((task.bindings[index]?).elim [] Binding.keyExtractors))

/-- Modelled from the spec: the reducer of `index`, a binding's or the connector state's. -/
def combineReduce (env : Env K S) (task : Task) (index : Nat) : Json → Json → Json :=
  (task.bindings[index]?).elim stateReduce env.reduce

/-- `task.combine_spec()`: the reducer of each combine key, that of its binding index. -/
def combineSpec (env : Env K S) (task : Task) (key : Nat ×ₗ K) : Json → Json → Json :=
  combineReduce env task (ofLex key).1

theorem combineKey_state (env : Env K S) (task : Task) (doc : Json) :
    combineKey env task task.bindings.length doc = toLex (task.bindings.length, env.pack []) := by
  simp [combineKey, Env.extractAllOwned]

theorem combineReduce_state (env : Env K S) (task : Task) :
    combineReduce env task task.bindings.length = stateReduce := by
  simp [combineReduce]

theorem combineKey_fst (env : Env K S) (task : Task) (index : Nat) (doc : Json) :
    (ofLex (combineKey env task index doc)).1 = index := rfl

/-! ## Reductions -/

/-- The reduction of the documents added to one key, in order. -/
def reduceAll (reduce : Json → Json → Json) : List Json → Option Json
  | [] => none
  | d :: ds => some (ds.foldl reduce d)

theorem reduceAll_eq_none {reduce : Json → Json → Json} {ds : List Json} : reduceAll reduce ds = none ↔ ds = [] := by
  cases ds <;> simp [reduceAll]

theorem reduceAll_append_singleton (reduce : Json → Json → Json) (ds : List Json) (d : Json) :
    reduceAll reduce (ds ++ [d]) = some ((reduceAll reduce ds).elim d fun lhs => reduce lhs d) := by
  cases ds <;> simp [reduceAll, List.foldl_append]

theorem reduceAll_filterMap_eq_none {reduce : Json → Json → Json} {ws : List (List Json)} :
    reduceAll reduce (ws.filterMap (reduceAll reduce)) = none ↔ ws.flatten = [] := by
  simp only [reduceAll_eq_none, List.filterMap_eq_nil_iff, List.flatten_eq_nil_iff]

theorem filterMap_reduceAll_of_flatten_nil {reduce : Json → Json → Json} {ws : List (List Json)} (h : ws.flatten = []) :
    ws.filterMap (reduceAll reduce) = [] :=
  List.filterMap_eq_nil_iff.2 fun w hw => reduceAll_eq_none.2 (List.flatten_eq_nil_iff.1 h w hw)

theorem filterMap_reduceAll_of_flatten_singleton {reduce : Json → Json → Json} {b : Json} :
    ∀ {ws : List (List Json)}, ws.flatten = [b] → ws.filterMap (reduceAll reduce) = [b]
  | [], h => nomatch h
  | w :: ws, h => by
    rw [List.flatten_cons, List.append_eq_cons_iff] at h
    rcases h with ⟨rfl, h⟩ | ⟨w', rfl, h⟩
    · simpa [reduceAll] using filterMap_reduceAll_of_flatten_singleton h
    · obtain ⟨rfl, hn⟩ := List.append_eq_nil.1 h.symm
      simp [reduceAll, filterMap_reduceAll_of_flatten_nil hn]

theorem reduceAll_windows_pair {reduce : Json → Json → Json} {a b : Json} :
    ∀ {ws : List (List Json)}, ws.flatten = [a, b] → reduceAll reduce (ws.filterMap (reduceAll reduce)) = some (reduce a b)
  | [], h => nomatch h
  | w :: ws, h => by
    rw [List.flatten_cons, List.append_eq_cons_iff] at h
    rcases h with ⟨rfl, h⟩ | ⟨w', rfl, h⟩
    · simpa [reduceAll] using reduceAll_windows_pair h
    · rw [eq_comm, List.append_eq_cons_iff] at h
      rcases h with ⟨rfl, h⟩ | ⟨w'', rfl, h⟩
      · simp [reduceAll, filterMap_reduceAll_of_flatten_singleton h]
      · obtain ⟨rfl, hn⟩ := List.append_eq_nil.1 h.symm
        simp [reduceAll, filterMap_reduceAll_of_flatten_nil hn]

variable [LinearOrder K] [KeyOrd K]

/-- A document reduced into a sorted map: into the entry of its key, the entry on the left, or as a
new entry. -/
def reduceInto (reduce : Json → Json → Json) (m : List ((Nat ×ₗ K) × Json)) (key : Nat ×ₗ K) (doc : Json) :
    List ((Nat ×ₗ K) × Json) :=
  insert key ((get? m key).elim doc fun lhs => reduce lhs doc) m

theorem get?_reduceInto (reduce : Json → Json → Json) (m : List ((Nat ×ₗ K) × Json)) (key k : Nat ×ₗ K) (doc : Json) :
    get? (reduceInto reduce m key doc) k = if key = k then some ((get? m key).elim doc fun lhs => reduce lhs doc) else get? m k :=
  get?_insert _ _ _ _

/-! ## The accumulator -/

/-- Modelled from the spec: an accumulator created with the combine spec `spec`. `spilled` are the
runs written to the spill file, oldest first, and `entries` the memtable's, each in key order. -/
structure Accumulator (K : Type) [LinearOrder K] [KeyOrd K] (spec : Nat ×ₗ K → Json → Json → Json) where
  spilled : List (List ((Nat ×ₗ K) × Json))
  spilled_sorted : ∀ run ∈ spilled, Sorted run
  entries : List ((Nat ×ₗ K) × Json)
  sorted : Sorted entries

variable {spec : Nat ×ₗ K → Json → Json → Json}

/-- An accumulator with no documents. -/
def Accumulator.empty : Accumulator K spec := ⟨[], by simp, [], List.Pairwise.nil⟩

/-- `MemTable::add(binding, doc, false)` for a document of key `key`. -/
def Accumulator.add (acc : Accumulator K spec) (key : Nat ×ₗ K) (doc : Json) : Accumulator K spec :=
  { acc with entries := reduceInto (spec key) acc.entries key doc, sorted := acc.sorted.insert _ _ }

/-- The memtable written to the spill file as a run, and an empty memtable in its place. -/
def Accumulator.spill (acc : Accumulator K spec) : Accumulator K spec :=
  ⟨acc.spilled ++ [acc.entries], by simpa [or_imp, forall_and] using ⟨acc.spilled_sorted, acc.sorted⟩, [],
    List.Pairwise.nil⟩

/-- `Accumulator::memtable()`: the accumulator whose memtable the helper adds to, the memtable
spilled first where it is over the spill threshold; the error where that spill fails. -/
def Accumulator.memtable (env : Env K S) (acc : Accumulator K spec) : Except Error (Accumulator K spec) :=
  if env.spills acc.entries then
    match env.spillError acc.entries with
    | some e => .error e
    | none => .ok acc.spill
  else .ok acc

/-- The runs of an accumulator, oldest first: the spilled runs, then the memtable. -/
def Accumulator.runs (acc : Accumulator K spec) : List (List ((Nat ×ₗ K) × Json)) := acc.spilled ++ [acc.entries]

/-- The runs merged: each key's documents reduced across the runs, in the order they were written. -/
def mergeRuns (spec : Nat ×ₗ K → Json → Json → Json) (runs : List (List ((Nat ×ₗ K) × Json))) :
    List ((Nat ×ₗ K) × Json) :=
  runs.foldl (fun m run => run.foldl (fun m e => reduceInto (spec e.1) m e.1 e.2) m) []

/-- `doc::combine::DrainedDoc`: the binding index of `meta.binding()`, and the root. -/
structure DrainedDoc where
  binding : Nat
  root : Json
deriving DecidableEq, Repr

/-- `Accumulator::into_drain()`: the runs merged under the combine spec, in ascending
`(binding, key)` order. -/
def Accumulator.drain (acc : Accumulator K spec) : List DrainedDoc :=
  (mergeRuns spec acc.runs).map fun e => ⟨(ofLex e.1).1, e.2⟩

/-- `memtable.add(index, doc, false)` under the task's combine spec. -/
def memtableAdd (env : Env K S) (task : Task) (acc : Accumulator K (combineSpec env task)) (index : Nat) (doc : Json) :
    Accumulator K (combineSpec env task) :=
  acc.add (combineKey env task index doc) doc

/-- `memtable.add(index, doc, false)?`: the add, or the error it fails with. -/
def memtableTryAdd (env : Env K S) (task : Task) (acc : Accumulator K (combineSpec env task)) (index : Nat)
    (doc : Json) : Except Error (Accumulator K (combineSpec env task)) :=
  match env.addError acc.entries index doc with
  | some e => .error e
  | none => .ok (memtableAdd env task acc index doc)

/-! ## Lookups -/

theorem get?_add (acc : Accumulator K spec) (key k : Nat ×ₗ K) (doc : Json) :
    get? (acc.add key doc).entries k =
      if key = k then some ((get? acc.entries key).elim doc fun lhs => spec key lhs doc) else get? acc.entries k :=
  get?_reduceInto _ _ _ _ _

theorem mem_add {acc : Accumulator K spec} {key : Nat ×ₗ K} {doc : Json} {e : (Nat ×ₗ K) × Json}
    (h : e ∈ (acc.add key doc).entries) :
    e = (key, (get? acc.entries key).elim doc fun lhs => spec key lhs doc) ∨ e ∈ acc.entries :=
  mem_insert h

theorem memtable_cases {env : Env K S} {acc acc' : Accumulator K spec} (h : acc.memtable env = .ok acc') :
    acc' = acc ∨ acc' = acc.spill := by
  unfold Accumulator.memtable at h
  split_ifs at h
  · split at h
    · cases h
    · cases h; exact .inr rfl
  · cases h; exact .inl rfl

theorem get?_foldl_reduceInto (k : Nat ×ₗ K) :
    ∀ (run m : List ((Nat ×ₗ K) × Json)), Sorted run →
      get? (run.foldl (fun m e => reduceInto (spec e.1) m e.1 e.2) m) k =
        (get? run k).elim (get? m k) fun v => some ((get? m k).elim v fun lhs => spec k lhs v)
  | [], m, _ => rfl
  | (k', v') :: run, m, h => by
    rw [List.foldl_cons, get?_foldl_reduceInto k run _ h.tail, get?_reduceInto, get?_cons]
    by_cases hk : k' = k
    · subst hk
      rw [get?_eq_none_of_lt fun p hp => h.lt_of_mem hp]
      simp
    · simp [hk]

/-- **What the drain yields for a key**: the key's reducer folded over the runs' documents for it,
the runs in the order they were written. -/
theorem get?_mergeRuns (runs : List (List ((Nat ×ₗ K) × Json))) (hs : ∀ run ∈ runs, Sorted run) (k : Nat ×ₗ K) :
    get? (mergeRuns spec runs) k = reduceAll (spec k) (runs.filterMap (get? · k)) := by
  induction runs using List.reverseRecOn with
  | nil => rfl
  | append_singleton runs run ih =>
    rw [mergeRuns, List.foldl_append, List.foldl_cons, List.foldl_nil, get?_foldl_reduceInto k run _ (hs run (by simp)),
      ← mergeRuns, ih fun r hr => hs r (by simp [hr]), List.filterMap_append]
    cases h : get? run k <;> simp [h, reduceAll_append_singleton]

theorem mergeRuns_sorted (runs : List (List ((Nat ×ₗ K) × Json))) : Sorted (mergeRuns spec runs) := by
  have step : ∀ (run m : List ((Nat ×ₗ K) × Json)), Sorted m →
      Sorted (run.foldl (fun m e => reduceInto (spec e.1) m e.1 e.2) m) := fun run => by
    induction run with
    | nil => exact fun _ h => h
    | cons e run ih => exact fun m h => ih _ (h.insert _ _)
  unfold mergeRuns
  induction runs using List.reverseRecOn with
  | nil => exact List.Pairwise.nil
  | append_singleton runs run ih => rw [List.foldl_append, List.foldl_cons, List.foldl_nil]; exact step _ _ ih

theorem Accumulator.runs_sorted (acc : Accumulator K spec) : ∀ run ∈ acc.runs, Sorted run := by
  simpa [Accumulator.runs, or_imp, forall_and] using ⟨acc.spilled_sorted, acc.sorted⟩

/-! ## What an accumulator holds -/

/-- The reduction of the documents the pairs `adds` put under `key`, in order. -/
def reduceKey (spec : Nat ×ₗ K → Json → Json → Json) (key : Nat ×ₗ K) (adds : List ((Nat ×ₗ K) × Json)) :
    Option Json :=
  reduceAll (spec key) ((adds.filter (·.1 = key)).map (·.2))

/-- The accumulator holds the documents added while each run was the memtable: `closed` those of
the spilled runs, oldest first, and `current` those of the memtable, each as the `(key, document)`
pairs in the order they were added. -/
def Holds (acc : Accumulator K spec) (closed : List (List ((Nat ×ₗ K) × Json))) (current : List ((Nat ×ₗ K) × Json)) :
    Prop :=
  ∀ k, acc.spilled.map (get? · k) = closed.map (reduceKey spec k) ∧ get? acc.entries k = reduceKey spec k current

theorem Holds.empty : Holds (Accumulator.empty : Accumulator K spec) [] [] := fun _ => ⟨rfl, rfl⟩

theorem Holds.add {acc : Accumulator K spec} {closed current} (h : Holds acc closed current) (key : Nat ×ₗ K) (doc : Json) :
    Holds (acc.add key doc) closed (current ++ [(key, doc)]) := by
  intro k
  refine ⟨(h k).1, ?_⟩
  rw [get?_add, reduceKey, List.filter_append, List.map_append]
  by_cases hk : key = k
  · subst hk
    rw [if_pos rfl, (h key).2, reduceKey]
    simp [reduceAll_append_singleton]
  · rw [if_neg hk, (h k).2, reduceKey]
    simp [hk]

theorem Holds.spill {acc : Accumulator K spec} {closed current} (h : Holds acc closed current) :
    Holds acc.spill (closed ++ [current]) [] :=
  fun k => ⟨by simp [Accumulator.spill, (h k).1, (h k).2], rfl⟩

theorem Holds.memtable {env : Env K S} {acc acc' : Accumulator K spec} {closed current} (h : Holds acc closed current)
    (hm : acc.memtable env = .ok acc') :
    ∃ closed' current', Holds acc' closed' current' ∧ closed'.flatten ++ current' = closed.flatten ++ current := by
  rcases memtable_cases hm with rfl | rfl
  exacts [⟨closed, current, h, rfl⟩, ⟨_, _, h.spill, by simp⟩]

/-- The drain of an accumulator that holds `closed` and `current`: each key's reducer folded over
the reductions of the key's documents within each run. -/
theorem Holds.get?_drained {acc : Accumulator K spec} {closed current} (h : Holds acc closed current) (k : Nat ×ₗ K) :
    get? (mergeRuns spec acc.runs) k = reduceAll (spec k) ((closed ++ [current]).filterMap (reduceKey spec k)) := by
  have hmap : acc.runs.map (get? · k) = (closed ++ [current]).map (reduceKey spec k) := by
    simp [Accumulator.runs, (h k).1, (h k).2]
  rw [get?_mergeRuns _ acc.runs_sorted]
  simpa [List.filterMap_map] using congrArg (fun l => reduceAll (spec k) (l.filterMap id)) hmap

/-- **The drain of a key, run by run**: the key's reducer folded over the reductions of the key's
documents within each run, for a split of those documents, in the order they were added, into the
runs. -/
theorem Holds.drained_windows {acc : Accumulator K spec} {closed current} (h : Holds acc closed current) (k : Nat ×ₗ K) :
    ∃ ws : List (List Json), ws.flatten = ((closed.flatten ++ current).filter (·.1 = k)).map (·.2) ∧
      get? (mergeRuns spec acc.runs) k = reduceAll (spec k) (ws.filterMap (reduceAll (spec k))) :=
  ⟨(closed ++ [current]).map fun w => (w.filter (·.1 = k)).map (·.2),
    by simp [List.filter_flatten, List.map_flatten, Function.comp_def],
    by rw [h.get?_drained, List.filterMap_map]; rfl⟩

theorem Holds.mem_drained {acc : Accumulator K spec} {closed current} (h : Holds acc closed current) (k : Nat ×ₗ K) :
    (∃ d, (k, d) ∈ mergeRuns spec acc.runs) ↔ k ∈ (closed.flatten ++ current).map (·.1) := by
  obtain ⟨ws, hws, hget⟩ := h.drained_windows k
  rw [(mergeRuns_sorted acc.runs).exists_mem_iff, hget, Option.isSome_iff_ne_none, Ne, reduceAll_filterMap_eq_none, hws,
    List.map_eq_nil_iff, List.filter_eq_nil_iff, List.mem_map]
  simp only [decide_eq_true_eq, not_forall, not_not, exists_prop]

end FlowCore.Capture
