import FlowCore.BTreeMap
import Mathlib.Data.List.Sort

/-!
# Publications: `validate_transition` and `split_tag` (agent/src/publications/specs.rs)

| here | there |
| --- | --- |
| `SpecRow`, `CatalogType` | specs.rs:10-29, the fields `validate_transition` reads |
| `Catalog`, `CollectionDef`, `Projection` | `models::Catalog` and friends, what `validate_transition` reads |
| `validateTransition` | `validate_transition` (specs.rs:187-267) |
| `splitTag` | `split_tag` (specs.rs:417-426), used by `apply_updates_for_row` (:349-366) |

A catalog's collections and a collection's projections are `BTreeMap`s, so the structures carry
their sortedness. `validate_transition` walks the two collection maps with `merge_join_by`; over
sorted maps its `Both` entries are exactly the draft collections the live catalog also has
(`filterMap_both_mergeJoinBy`), and comparing the two `partitions` vectors, each in field order,
compares the fields each collection projects as partitions (`partitions_eq_iff`).
`validateTransition_eq` states the result as the list the catalog invariants describe, built
from the rows and the projections directly (`transitionErrors`).

`split_tag` pivots on the first `@sha256:`, else on the first `:`. A registry host with a port puts
a `:` before the repository path, and the split then happens at the port (`splitTag_port`).
-/

namespace FlowCore.Publications

open BTreeMap

/-- `CatalogType` (specs.rs:10-18). -/
inductive CatalogType where
  | collection
  | materialization
  | capture
  | test
deriving DecidableEq, Repr

/-- `{:?}` of a `CatalogType` (derived `Debug`). -/
def CatalogType.debug : CatalogType → String
  | .collection => "Collection"
  | .materialization => "Materialization"
  | .capture => "Capture"
  | .test => "Test"

/-- The fields of a `SpecRow` (specs.rs:20-29) that `validate_transition` reads. -/
structure SpecRow where
  catalogName : String
  draftType : CatalogType
  liveType : CatalogType
deriving DecidableEq, Repr

/-- `models::Projection`: a bare pointer, or an extended projection that may be a partition. -/
inductive Projection where
  | pointer (location : String)
  | extended (location : String) (partition : Bool)
deriving DecidableEq, Repr

/-- A collection of a catalog, as `validate_transition` reads it: its key pointers and its
projections by field. -/
structure CollectionDef where
  key : List String
  projections : List (String × Projection)
  projections_sorted : Sorted projections

/-- The collections of a `models::Catalog`, by name. -/
structure Catalog where
  collections : List (String × CollectionDef)
  collections_sorted : Sorted collections

/-- `super::Error`, with `scope` left at its default. -/
structure Error where
  catalogName : String
  detail : String
  scope : Option String := none
deriving DecidableEq, Repr

/-! ## `{:?}` renderings of the error details -/

/-- `{:?}` of a `str`: quoted, with `"`, `\` and the usual control characters escaped. -/
def debugStr (s : String) : String :=
  "\"" ++ String.join (s.toList.map fun c =>
    if c = '"' then "\\\"" else if c = '\\' then "\\\\" else if c = '\n' then "\\n"
    else if c = '\r' then "\\r" else if c = '\t' then "\\t" else c.toString) ++ "\""

/-- `{:?}` of a `Vec<String>`. -/
def debugList (xs : List String) : String := "[" ++ ", ".intercalate (xs.map debugStr) ++ "]"

/-- `{:?}` of a `models::CompositeKey`, a derived `Debug` over `Vec<JsonPointer>`. -/
def debugKey (key : List String) : String :=
  "CompositeKey([" ++ ", ".intercalate (key.map fun p => "JsonPointer(" ++ debugStr p ++ ")") ++ "])"

/-! ## `validate_transition` -/

/-- The error for a row whose draft and live types differ (specs.rs:201-209). -/
def typeError (row : SpecRow) : Error :=
  { catalogName := row.catalogName,
    detail := "draft has an incompatible " ++ row.draftType.debug ++ " vs current " ++
      row.liveType.debug }

/-- The first loop of `validate_transition` (specs.rs:194-210). -/
def rowErrors (specRows : List SpecRow) : List Error :=
  specRows.filterMap fun row => if row.draftType ≠ row.liveType then some (typeError row) else none

/-- The `partitions` closure (specs.rs:233-250): the fields whose projection is
`Extended { partition: true, .. }`, in field order. -/
def partitions (projections : List (String × Projection)) : List String :=
  projections.filterMap fun
    | (field, .extended _ true) => some field
    | _ => none

/-- The key error (specs.rs:222-231). -/
def keyError (name : String) (draft live : CollectionDef) : Error :=
  { catalogName := name,
    detail := "cannot change key of an established collection from " ++ debugKey live.key ++
      " to " ++ debugKey draft.key }

/-- The partitions error (specs.rs:255-263). -/
def partitionsError (name : String) (draft live : CollectionDef) : Error :=
  { catalogName := name,
    detail := "cannot change partitions of an established collection (from " ++
      debugList (partitions live.projections) ++ " to " ++ debugList (partitions draft.projections) ++ ")" }

/-- The body of the second loop for a collection both catalogs have (specs.rs:222-263). -/
def collectionErrors (name : String) (draft live : CollectionDef) : List Error :=
  (if draft.key ≠ live.key then [keyError name draft live] else []) ++
    (if partitions draft.projections ≠ partitions live.projections then
      [partitionsError name draft live] else [])

/-- One step of the merge join (specs.rs:217-220): only `Both` entries are checked. -/
def joinErrors (eob : EitherOrBoth (String × CollectionDef) (String × CollectionDef)) : List Error :=
  match eob.both? with
  | some ((name, d), (_, l)) => collectionErrors name d l
  | none => []

/-- `validate_transition` (specs.rs:187-267). -/
def validateTransition (live draft : Catalog) (specRows : List SpecRow) : List Error :=
  rowErrors specRows ++ (mergeJoinBy cmpKeys draft.collections live.collections).flatMap joinErrors

/-- Whether the collection projects `field` as `Extended { partition: true, .. }`. -/
def isPartition (c : CollectionDef) (field : String) : Bool :=
  match get? c.projections field with
  | some (.extended _ true) => true
  | _ => false

/-- The two collections project the same fields as partitions. -/
def SamePartitions (d l : CollectionDef) : Prop := ∀ field, isPartition d field = isPartition l field

theorem mem_of_isPartition {c : CollectionDef} {field : String} (h : isPartition c field = true) :
    field ∈ c.projections.map (·.1) := by
  unfold isPartition at h
  split at h
  · rename_i _ hg
    exact List.mem_map.2 ⟨_, mem_of_get?_eq_some hg, rfl⟩
  · cases h

instance (d l : CollectionDef) : Decidable (SamePartitions d l) :=
  decidable_of_iff (∀ f ∈ d.projections.map (·.1) ++ l.projections.map (·.1), isPartition d f = isPartition l f)
    ⟨fun h f => by
      by_cases hf : f ∈ d.projections.map (·.1) ++ l.projections.map (·.1)
      · exact h f hf
      · have hd : isPartition d f ≠ true := fun e => hf (List.mem_append_left _ (mem_of_isPartition e))
        have hl : isPartition l f ≠ true := fun e => hf (List.mem_append_right _ (mem_of_isPartition e))
        simp_all,
     fun h f _ => h f⟩

/-- The errors of a transition, in the words of the catalog invariants: one per row whose draft
type is not its live type; then, for each draft collection the live catalog also has, in name
order, one if the key pointers differ and one if the fields projected as partitions differ. -/
def transitionErrors (live draft : Catalog) (specRows : List SpecRow) : List Error :=
  specRows.flatMap (fun row => if row.draftType = row.liveType then [] else [typeError row]) ++
    draft.collections.flatMap fun (name, d) =>
      match get? live.collections name with
      | some l =>
        (if d.key = l.key then [] else [keyError name d l]) ++
          (if SamePartitions d l then [] else [partitionsError name d l])
      | none => []

theorem rowErrors_eq (specRows : List SpecRow) :
    rowErrors specRows = specRows.flatMap fun row => if row.draftType = row.liveType then [] else [typeError row] := by
  induction specRows with
  | nil => rfl
  | cons row rows ih => by_cases h : row.draftType = row.liveType <;> simp [rowErrors, h] at ih ⊢ <;> exact ih

theorem partitions_sorted {ps : List (String × Projection)} (h : Sorted ps) :
    (partitions ps).Pairwise (· < ·) := by
  induction ps with
  | nil => exact List.Pairwise.nil
  | cons p ps ih =>
    obtain ⟨field, proj⟩ := p
    have hrest : ∀ f ∈ partitions ps, field < f := fun f hf => by
      obtain ⟨⟨g, q⟩, hq, hg⟩ := List.mem_filterMap.1 hf
      have : field < g := h.lt_of_mem hq
      rcases q with _ | ⟨_, _ | _⟩ <;> simp_all
    rcases proj with _ | ⟨_, _ | _⟩ <;>
      simp only [partitions, List.filterMap_cons] at ih ⊢ <;>
      first | exact ih h.tail | exact List.Pairwise.cons hrest (ih h.tail)

theorem mem_partitions (c : CollectionDef) (field : String) :
    field ∈ partitions c.projections ↔ isPartition c field = true := by
  have hs := c.projections_sorted
  simp only [partitions, List.mem_filterMap, isPartition]
  constructor
  · rintro ⟨⟨g, q⟩, hq, hg⟩
    rcases q with _ | ⟨loc, _ | _⟩ <;> simp only [Option.some.injEq, reduceCtorEq] at hg
    subst hg
    rw [hs.get?_eq_some_iff.2 hq]
  · intro h
    split at h
    · rename_i loc hg
      exact ⟨_, mem_of_get?_eq_some hg, rfl⟩
    · cases h

/-- Two partition lists, each in field order, are equal exactly when the collections project the
same fields as partitions. -/
theorem partitions_eq_iff (d l : CollectionDef) :
    partitions d.projections = partitions l.projections ↔ SamePartitions d l := by
  have hsame : SamePartitions d l ↔ ∀ f, f ∈ partitions d.projections ↔ f ∈ partitions l.projections :=
    forall_congr' fun f => by rw [mem_partitions, mem_partitions, Bool.eq_iff_iff]
  rw [hsame]
  refine ⟨fun h f => by rw [h], fun h => ?_⟩
  have sp := partitions_sorted d.projections_sorted
  have sq := partitions_sorted l.projections_sorted
  exact List.eq_of_perm_of_sorted ((List.perm_ext_iff_of_nodup sp.nodup sq.nodup).2 h)
    (sp.imp le_of_lt) (sq.imp le_of_lt)

theorem flatMap_joinErrors (l : List (EitherOrBoth (String × CollectionDef) (String × CollectionDef))) :
    l.flatMap joinErrors =
      (l.filterMap EitherOrBoth.both?).flatMap fun p => collectionErrors p.1.1 p.1.2 p.2.2 := by
  induction l with
  | nil => rfl
  | cons e l ih => cases e <;> rw [List.flatMap_cons, ih] <;> rfl

/-- **`validate_transition` returns exactly the transition's errors**: the type errors of the
rows, then the key and partition errors of the collections both catalogs have, and nothing
about a collection only one of them has. -/
theorem validateTransition_eq (live draft : Catalog) (specRows : List SpecRow) :
    validateTransition live draft specRows = transitionErrors live draft specRows := by
  unfold validateTransition transitionErrors
  rw [rowErrors_eq]
  congr 1
  have hboth := filterMap_both_mergeJoinBy draft.collections live.collections
    draft.collections_sorted live.collections_sorted
  rw [flatMap_joinErrors, hboth]
  induction draft.collections with
  | nil => rfl
  | cons x xs ih =>
    obtain ⟨name, d⟩ := x
    cases hl : get? live.collections name with
    | none => simp [hl, ih]
    | some l =>
      simp only [List.filterMap_cons, hl, Option.map_some', List.flatMap_cons, ih]
      congr 2
      by_cases hk : d.key = l.key <;> by_cases hp : SamePartitions d l <;>
        simp [collectionErrors, hk, hp, partitions_eq_iff]

/-! ## `split_tag` -/

/-- `str::find`: the position of the first occurrence of `pat`. -/
def find (pat : List Char) : List Char → Option Nat
  | [] => if pat = [] then some 0 else none
  | c :: cs => if pat.isPrefixOf (c :: cs) then some 0 else (find pat cs).map (· + 1)

/-- `split_tag` (specs.rs:417-426): split at the first `@sha256:`, else at the first `:`. -/
def splitTag (imageFull : String) : String × String :=
  let image := imageFull.toList
  match (find "@sha256:".toList image).orElse fun _ => find ":".toList image with
  | some pivot => (String.mk (image.take pivot), String.mk (image.drop pivot))
  | none => (String.mk image, "")

theorem find_cons_of_ne {p c : Char} {ps cs : List Char} (h : c ≠ p) :
    find (p :: ps) (c :: cs) = (find (p :: ps) cs).map (· + 1) := by
  simp [find, List.isPrefixOf, h, Ne.symm h]

theorem find_append {p : Char} {ps : List Char} :
    ∀ {xs : List Char} (ys : List Char), p ∉ xs →
      find (p :: ps) (xs ++ ys) = (find (p :: ps) ys).map (· + xs.length)
  | [], ys, _ => by simp
  | x :: xs, ys, h => by
    rw [List.cons_append, find_cons_of_ne (fun e => h (by rw [e]; exact List.mem_cons_self _ _)),
      find_append ys (fun hm => h (List.mem_cons_of_mem _ hm)), Option.map_map]
    rfl

theorem find_self_append (ps ys : List Char) : find ps (ps ++ ys) = some 0 := by
  cases ps <;> cases ys <;> simp [find, List.isPrefixOf_iff_prefix]

theorem find_of_not_mem {p : Char} {ps xs : List Char} (h : p ∉ xs) : find (p :: ps) xs = none := by
  simpa [find] using @find_append p ps xs [] h

/-- `split_tag` splits `name ++ suffix` at the name's end when that is where it pivots. -/
theorem splitTag_at {name suffix : String}
    (h : (find "@sha256:".toList (name.toList ++ suffix.toList)).orElse
      (fun _ => find ":".toList (name.toList ++ suffix.toList)) = some name.length) :
    splitTag (name ++ suffix) = (name, suffix) := by
  have e : (name ++ suffix).toList = name.toList ++ suffix.toList := by simp
  have hn : name.toList.length = name.length := by simp
  simp only [splitTag, e, h, List.take_left' hn, List.drop_left' hn]
  rfl

theorem splitTag_none {image : String}
    (h : (find "@sha256:".toList image.toList).orElse (fun _ => find ":".toList image.toList) = none) :
    splitTag image = (image, "") := by
  simp only [splitTag, h]
  rfl

theorem find_digest {xs : List Char} (rest : List Char) (ha : '@' ∉ xs) :
    find "@sha256:".toList (xs ++ ("@sha256:".toList ++ rest)) = some xs.length := by
  rw [show "@sha256:".toList = '@' :: "sha256:".toList from rfl, find_append _ ha,
    ← show "@sha256:".toList = '@' :: "sha256:".toList from rfl, find_self_append]
  simp

/-- **`split_tag` is right when the repository has no port**: for a name free of `:` and `@`,
the reference splits into the name and its suffix, be it empty, a tag or a digest. -/
theorem splitTag_append (name suffix : String) (hc : ':' ∉ name.toList) (ha : '@' ∉ name.toList)
    (hs : suffix = "" ∨ (∃ tag, suffix.toList = ':' :: tag ∧ '@' ∉ tag) ∨
      "@sha256:".toList <+: suffix.toList) :
    splitTag (name ++ suffix) = (name, suffix) := by
  rcases hs with rfl | ⟨tag, ht, ha'⟩ | ⟨rest, hr⟩
  · rw [String.append_empty]
    apply splitTag_none
    rw [show "@sha256:".toList = '@' :: "sha256:".toList from rfl, find_of_not_mem ha]
    exact find_of_not_mem hc
  · apply splitTag_at
    have h1 : find "@sha256:".toList (name.toList ++ suffix.toList) = none := by
      rw [show "@sha256:".toList = '@' :: "sha256:".toList from rfl, ht]
      refine find_of_not_mem fun hm => ?_
      rcases List.mem_append.1 hm with hm | hm
      · exact ha hm
      · rcases List.mem_cons.1 hm with hm | hm
        · exact absurd hm (by decide)
        · exact ha' hm
    rw [h1, ht]
    show find [':'] (name.toList ++ ':' :: tag) = some name.length
    rw [find_append _ hc, show find [':'] (':' :: tag) = some 0 from find_self_append [':'] tag]
    simp
  · apply splitTag_at
    rw [← hr, find_digest rest ha]
    simp

theorem splitTag_append_tagged :
    ':' ∉ "ghcr.io/estuary/source-hello".toList ∧ '@' ∉ "ghcr.io/estuary/source-hello".toList ∧
      splitTag ("ghcr.io/estuary/source-hello" ++ ":v1") = ("ghcr.io/estuary/source-hello", ":v1") :=
  ⟨by decide, by decide,
    splitTag_append _ _ (by decide) (by decide) (.inr (.inl ⟨"v1".toList, rfl, by decide⟩))⟩

/-- **A digest is split off even after a registry port**: only `@` is excluded from the name. -/
theorem splitTag_digest (name hex : String) (ha : '@' ∉ name.toList) :
    splitTag (name ++ "@sha256:" ++ hex) = (name, "@sha256:" ++ hex) := by
  rw [String.append_assoc]
  apply splitTag_at
  rw [show ("@sha256:" ++ hex).toList = "@sha256:".toList ++ hex.toList by simp,
    find_digest hex.toList ha]
  simp

theorem splitTag_digest_after_port :
    '@' ∉ "localhost:5000/source-hello".toList ∧
      splitTag ("localhost:5000/source-hello" ++ "@sha256:" ++ "ab12") = ("localhost:5000/source-hello", "@sha256:" ++ "ab12") :=
  ⟨by decide, splitTag_digest _ _ (by decide)⟩

/-- With a registry port, `split_tag` splits at the port: the repository it returns is the host,
and the "tag" is the port, the repository path and the tag. -/
theorem splitTag_port :
    splitTag "localhost:5000/flow/source-hello:v1" = ("localhost", ":5000/flow/source-hello:v1") := by
  decide

end FlowCore.Publications
