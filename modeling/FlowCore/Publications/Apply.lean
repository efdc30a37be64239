import FlowCore.Publications.Specs

/-!
# Publications: `extend_catalog`, `apply_updates_for_row` and `insert_errors` (specs.rs)

| here | there |
| --- | --- |
| `Decoders` | `serde_json::from_str` into each spec type of the models crate |
| `ModelsCatalog` | the four maps of `models::Catalog` that `extend_catalog` extends |
| `extendMap`, `extendRow`, `extendCatalog` | `extend_catalog` (specs.rs:135-185): one match arm, one row, the loop |
| `FullSpecRow` | `SpecRow` (specs.rs:20-29) with the fields `apply_updates_for_row` reads |
| `Tables` | the `draft_specs`, `live_specs` and `publication_specs` rows the statements touch |
| `rowLinks` | the `match *draft_type` of `apply_updates_for_row` (:330-385) |
| `applyUpdatesForRow` | `apply_updates_for_row` (:269-415) |
| `insertErrors` | `insert_errors` (:112-133) |
| `liveWrite` | what a successful `apply_updates_for_row` leaves in its `live_specs` row |

`extend_catalog` decodes each row's spec into the catalog map of its type, and pushes an error
for a spec that does not decode. Its four arms differ only in the map and the word in the
message, so they are one definition, `extendMap`, applied to each map. `extendCatalog_errors` is
the run lemma: the errors are those of the rows that fail, in row order, and every other row's
name is in the map of its type afterwards.

`apply_updates_for_row` runs four statements, each fetched with `fetch_one`, so that a statement
matching no row fails with the statement's context; between them it looks the row's spec up in
the catalog with `get(&key).unwrap()`, which panics when the catalog lacks it. A result is
`Option (Except String Tables)`: `none` is the panic and an error is the failing statement's
context. `applyUpdatesForRow_isSome` is the safety result the two functions give together: a
catalog `extend_catalog` built from the rows' draft specs without an error has every spec the
rows look up.

A successful call deletes its own draft row, sets its own `live_specs` row (`liveWrite`) and
appends one publication row (`applyUpdatesForRow_eq_ok`). The spec rows come from a `select`
without an order, so `applyUpdatesForRow_swap` matters: two rows of different catalog names give
the same tables in either order, but for the order of the publication rows.
-/

namespace FlowCore.Publications

open BTreeMap

/-! ## The spec fields `apply_updates_for_row` reads -/

/-- `models::CaptureEndpoint` and `models::MaterializationEndpoint`: a connector and its image,
or another endpoint. -/
inductive Endpoint where
  | connector (image : String)
  | other
deriving DecidableEq, Repr

/-- A collection spec as `apply_updates_for_row` reads it: the source collection of each
transform of its derivation, in transform order, if it has one. -/
structure CollectionSpec where
  derivation : Option (List String)
deriving DecidableEq, Repr

/-- A capture spec: its endpoint, and each binding's target collection. -/
structure CaptureSpec where
  endpoint : Endpoint
  bindings : List String
deriving DecidableEq, Repr

/-- A materialization spec: its endpoint, and each binding's source collection. -/
structure MaterializationSpec where
  endpoint : Endpoint
  bindings : List String
deriving DecidableEq, Repr

/-- `models::TestStep`. -/
inductive TestStep where
  | ingest (collection : String)
  | verify (collection : String)
deriving DecidableEq, Repr

/-! ## `extend_catalog` -/

/-- `serde_json::from_str` into each of the four spec types: the spec, or the `{:?}` text of the
error. -/
structure Decoders (Coll Cap Mat Test : Type) where
  collection : String → Except String Coll
  capture : String → Except String Cap
  materialization : String → Except String Mat
  test : String → Except String Test

/-- The four maps of a `models::Catalog`, each by catalog name. -/
structure ModelsCatalog (Coll Cap Mat Test : Type) where
  collections : List (String × Coll)
  captures : List (String × Cap)
  materializations : List (String × Mat)
  tests : List (String × Test)
deriving DecidableEq, Repr

variable {Coll Cap Mat Test : Type}

/-- One arm of `extend_catalog`'s match: the decoded spec inserted under the catalog name, or the
error `invalid <kind> <name>: <err>` pushed. -/
def extendMap {S : Type} (kind : String) (decode : String → Except String S) (catalogName spec : String)
    (map : List (String × S)) (errors : List Error) : List (String × S) × List Error :=
  match decode spec with
  | .ok spec => (insert catalogName spec map, errors)
  | .error err =>
    let detail := "invalid " ++ kind ++ " " ++ catalogName ++ ": " ++ err
    (map, errors ++ [{ catalogName, detail }])

/-- One row of `extend_catalog`'s loop. -/
def extendRow (d : Decoders Coll Cap Mat Test) (st : ModelsCatalog Coll Cap Mat Test × List Error) :
    CatalogType × String × String → ModelsCatalog Coll Cap Mat Test × List Error
  | (.collection, catalogName, spec) =>
    let (m, errors) := extendMap "collection" d.collection catalogName spec st.1.collections st.2
    ({ st.1 with collections := m }, errors)
  | (.capture, catalogName, spec) =>
    let (m, errors) := extendMap "capture" d.capture catalogName spec st.1.captures st.2
    ({ st.1 with captures := m }, errors)
  | (.materialization, catalogName, spec) =>
    let (m, errors) := extendMap "materialization" d.materialization catalogName spec st.1.materializations st.2
    ({ st.1 with materializations := m }, errors)
  | (.test, catalogName, spec) =>
    let (m, errors) := extendMap "test" d.test catalogName spec st.1.tests st.2
    ({ st.1 with tests := m }, errors)

/-- `extend_catalog`: the extended catalog, and the errors. -/
def extendCatalog (d : Decoders Coll Cap Mat Test) (catalog : ModelsCatalog Coll Cap Mat Test)
    (it : List (CatalogType × String × String)) : ModelsCatalog Coll Cap Mat Test × List Error :=
  it.foldl (extendRow d) (catalog, [])

/-- The word `extend_catalog`'s error message gives a catalog type. -/
def CatalogType.word : CatalogType → String
  | .collection => "collection"
  | .capture => "capture"
  | .materialization => "materialization"
  | .test => "test"

/-- The decoder's error for a spec of a catalog type, if it does not decode. -/
def Decoders.error? (d : Decoders Coll Cap Mat Test) : CatalogType → String → Option String
  | .collection, spec => match d.collection spec with | .ok _ => none | .error err => some err
  | .capture, spec => match d.capture spec with | .ok _ => none | .error err => some err
  | .materialization, spec => match d.materialization spec with | .ok _ => none | .error err => some err
  | .test, spec => match d.test spec with | .ok _ => none | .error err => some err

/-- The error `extend_catalog` reports for a row, if any. -/
def rowError (d : Decoders Coll Cap Mat Test) : CatalogType × String × String → Option Error
  | (catalogType, catalogName, spec) => (d.error? catalogType spec).map fun err =>
    { catalogName, detail := "invalid " ++ catalogType.word ++ " " ++ catalogName ++ ": " ++ err }

/-- The catalog has a spec of the type under the name. -/
def ModelsCatalog.contains (c : ModelsCatalog Coll Cap Mat Test) : CatalogType → String → Bool
  | .collection, name => (get? c.collections name).isSome
  | .capture, name => (get? c.captures name).isSome
  | .materialization, name => (get? c.materializations name).isSome
  | .test, name => (get? c.tests name).isSome

/-! ## `apply_updates_for_row` -/

/-- `SpecRow` with the fields `apply_updates_for_row` reads as well: the draft spec, `none` for a
deletion, and the two patches. -/
structure FullSpecRow extends SpecRow where
  draftSpec : Option String
  specMinPatch : String
  specRevPatch : String
deriving DecidableEq, Repr

/-- The columns of a `live_specs` row that `apply_updates_for_row` sets. -/
structure LiveRow where
  connectorImageName : Option String
  connectorImageTag : Option String
  lastPubId : Nat
  readsFrom : List String
  spec : Option String
  writesTo : List String
deriving DecidableEq, Repr

/-- A `publication_specs` row. -/
structure PublicationRow where
  catalogName : String
  pubId : Nat
  specMinPatch : String
  specRevPatch : String
  specType : CatalogType
deriving DecidableEq, Repr

/-- The rows the statements of `apply_updates_for_row` touch: the `(draft_id, catalog_name)` of
each `draft_specs` row, the `live_specs` rows by catalog name, and the `publication_specs` rows. -/
structure Tables where
  draftSpecs : List (Nat × String)
  liveSpecs : List (String × LiveRow)
  publicationSpecs : List PublicationRow
deriving DecidableEq, Repr

/-- The catalog `apply_updates_for_row` reads. -/
abbrev LinkCatalog := ModelsCatalog CollectionSpec CaptureSpec MaterializationSpec (List TestStep)

/-- The `match *draft_type` of `apply_updates_for_row`: the collections the spec reads from and
writes to, and its connector image split by `split_tag`; `none` where `get(&key).unwrap()`
panics. -/
def rowLinks (catalog : LinkCatalog) (draftType : CatalogType) (catalogName : String) :
    Option (List String × List String × Option (String × String)) :=
  match draftType with
  | .collection => (get? catalog.collections catalogName).map fun c => (c.derivation.getD [], [], none)
  | .capture => (get? catalog.captures catalogName).map fun c =>
    ([], c.bindings, match c.endpoint with
      | .connector image => some (splitTag image)
      | .other => none)
  | .materialization => (get? catalog.materializations catalogName).map fun m =>
    (m.bindings, [], match m.endpoint with
      | .connector image => some (splitTag image)
      | .other => none)
  | .test => (get? catalog.tests catalogName).map fun steps =>
    (steps.filterMap (fun | .verify c => some c | .ingest _ => none),
      steps.filterMap (fun | .ingest c => some c | .verify _ => none), none)

/-- `apply_updates_for_row`. -/
def applyUpdatesForRow (pubId draftId : Nat) (catalog : LinkCatalog) (row : FullSpecRow) (t : Tables) :
    Option (Except String Tables) :=
  if (draftId, row.catalogName) ∉ t.draftSpecs then some (.error "delete from draft_specs") else
  let published : PublicationRow := ⟨row.catalogName, pubId, row.specMinPatch, row.specRevPatch, row.draftType⟩
  let t := { t with
    draftSpecs := t.draftSpecs.filter (· != (draftId, row.catalogName)),
    publicationSpecs := t.publicationSpecs ++ [published] }
  match row.draftSpec with
  | none =>
    if (get? t.liveSpecs row.catalogName).isNone then some (.error "delete from live_specs")
    else some (.ok { t with liveSpecs := remove row.catalogName t.liveSpecs })
  | some spec =>
    (rowLinks catalog row.draftType row.catalogName).map fun (readsFrom, writesTo, imageParts) =>
      let live : LiveRow := ⟨imageParts.map (·.1), imageParts.map (·.2), pubId, readsFrom, some spec, writesTo⟩
      if (get? t.liveSpecs row.catalogName).isNone then .error "update live_specs"
      else .ok { t with liveSpecs := insert row.catalogName live t.liveSpecs }

/-! ## `insert_errors` -/

/-- `insert_errors`: the `draft_errors` rows `(draft_id, scope, detail)` it inserts, the scope
defaulting to the catalog name. -/
def insertErrors (draftId : Nat) (errors : List Error) : List (Nat × String × String) :=
  errors.map fun err => (draftId, err.scope.getD err.catalogName, err.detail)

/-! ## `extend_catalog` accounts for every row -/

section Extend

variable {S : Type} (kind : String) (decode : String → Except String S) (catalogName spec : String)
  (map : List (String × S)) (errors : List Error)

theorem extendMap_snd : (extendMap kind decode catalogName spec map errors).2 = errors ++
    (match decode spec with
      | .ok _ => []
      | .error err => [{ catalogName, detail := "invalid " ++ kind ++ " " ++ catalogName ++ ": " ++ err }]) := by
  unfold extendMap; split <;> simp_all

theorem extendMap_contains_self (h : ∃ v, decode spec = .ok v) :
    (get? (extendMap kind decode catalogName spec map errors).1 catalogName).isSome := by
  obtain ⟨v, hv⟩ := h
  simp [extendMap, hv]

theorem extendMap_contains {k : String} (h : (get? map k).isSome) :
    (get? (extendMap kind decode catalogName spec map errors).1 k).isSome := by
  unfold extendMap
  split
  · rw [get?_insert]; split <;> simp_all
  · exact h

end Extend

variable (d : Decoders Coll Cap Mat Test)

theorem extendRow_snd (st : ModelsCatalog Coll Cap Mat Test × List Error) (row : CatalogType × String × String) :
    (extendRow d st row).2 = st.2 ++ (rowError d row).toList := by
  obtain ⟨catalogType, catalogName, spec⟩ := row
  cases catalogType <;> simp only [extendRow, extendMap_snd, rowError, Decoders.error?] <;> split <;>
    simp_all [CatalogType.word]

theorem contains_extendRow_self (st : ModelsCatalog Coll Cap Mat Test × List Error) {row : CatalogType × String × String}
    (h : rowError d row = none) : (extendRow d st row).1.contains row.1 row.2.1 := by
  obtain ⟨catalogType, catalogName, spec⟩ := row
  cases catalogType <;> simp only [rowError, Decoders.error?, Option.map_eq_none'] at h <;> split at h <;>
    first | exact extendMap_contains_self _ _ _ _ _ _ ⟨_, by assumption⟩ | cases h

theorem contains_extendRow {st : ModelsCatalog Coll Cap Mat Test × List Error} {catalogType : CatalogType} {name : String}
    (h : st.1.contains catalogType name) (row : CatalogType × String × String) :
    (extendRow d st row).1.contains catalogType name := by
  obtain ⟨t, catalogName, spec⟩ := row
  cases t <;> cases catalogType <;> first | exact h | exact extendMap_contains _ _ _ _ _ _ h

theorem foldl_extendRow_snd (rows : List (CatalogType × String × String)) :
    ∀ st, (rows.foldl (extendRow d) st).2 = st.2 ++ rows.filterMap (rowError d) := by
  induction rows with
  | nil => intro; simp
  | cons row rows ih =>
    intro st
    rw [List.foldl_cons, ih, extendRow_snd, List.filterMap_cons]
    cases rowError d row <;> simp

theorem contains_foldl_extendRow {catalogType : CatalogType} {name : String} (rows : List (CatalogType × String × String)) :
    ∀ st : ModelsCatalog Coll Cap Mat Test × List Error, st.1.contains catalogType name →
      (rows.foldl (extendRow d) st).1.contains catalogType name := by
  induction rows with
  | nil => intro _ h; exact h
  | cons row rows ih => intro st h; exact ih _ (contains_extendRow d h row)

theorem contains_foldl_extendRow_of_mem {rows : List (CatalogType × String × String)} {row : CatalogType × String × String}
    (hrow : row ∈ rows) (h : rowError d row = none) :
    ∀ st : ModelsCatalog Coll Cap Mat Test × List Error, (rows.foldl (extendRow d) st).1.contains row.1 row.2.1 := by
  induction rows with
  | nil => cases hrow
  | cons r rows ih =>
    intro st
    rw [List.foldl_cons]
    rcases List.mem_cons.1 hrow with rfl | hmem
    · exact contains_foldl_extendRow d rows _ (contains_extendRow_self d st h)
    · exact ih hmem _

/-- **`extend_catalog` accounts for every row**: it reports exactly the rows whose spec does not
decode, in row order, each with its catalog name and message, and every other row's name is in the
map of its type afterwards. -/
theorem extendCatalog_accounts (catalog : ModelsCatalog Coll Cap Mat Test) (it : List (CatalogType × String × String)) :
    (extendCatalog d catalog it).2 = it.filterMap (rowError d) ∧
      ∀ row ∈ it, rowError d row = none → (extendCatalog d catalog it).1.contains row.1 row.2.1 :=
  ⟨(foldl_extendRow_snd d it _).trans (List.nil_append _),
    fun _ hrow h => contains_foldl_extendRow_of_mem d hrow h _⟩

/-! ## `apply_updates_for_row` panics only at a spec the catalog lacks -/

theorem rowLinks_isSome (catalog : LinkCatalog) (catalogType : CatalogType) (name : String) :
    (rowLinks catalog catalogType name).isSome = catalog.contains catalogType name := by
  cases catalogType <;> simp [rowLinks, ModelsCatalog.contains]

/-- `apply_updates_for_row` panics exactly when its draft row exists, the draft is not a
deletion, and the catalog lacks the spec. -/
theorem applyUpdatesForRow_eq_none_iff (pubId draftId : Nat) (catalog : LinkCatalog) (row : FullSpecRow)
    (t : Tables) : applyUpdatesForRow pubId draftId catalog row t = none ↔
      (draftId, row.catalogName) ∈ t.draftSpecs ∧ row.draftSpec.isSome ∧
        catalog.contains row.draftType row.catalogName = false := by
  unfold applyUpdatesForRow
  by_cases hd : (draftId, row.catalogName) ∈ t.draftSpecs
  · cases hs : row.draftSpec with
    | none => simp only [hd, hs, not_true, if_false]; split <;> simp
    | some spec => simp [hd, hs, ← rowLinks_isSome, Option.map_eq_none']
  · simp [hd]

/-- **A catalog `extend_catalog` built without an error has every spec `apply_updates_for_row`
looks up**: a row whose draft spec was among `extend_catalog`'s input does not panic, whatever
the tables hold. -/
theorem applyUpdatesForRow_isSome {d : Decoders CollectionSpec CaptureSpec MaterializationSpec (List TestStep)}
    {c catalog : LinkCatalog} {it : List (CatalogType × String × String)}
    (hext : extendCatalog d c it = (catalog, [])) {row : FullSpecRow}
    (hrow : ∀ spec, row.draftSpec = some spec → (row.draftType, row.catalogName, spec) ∈ it)
    (pubId draftId : Nat) (t : Tables) : (applyUpdatesForRow pubId draftId catalog row t).isSome := by
  rw [Option.isSome_iff_ne_none, Ne, applyUpdatesForRow_eq_none_iff]
  rintro ⟨-, hs, hc⟩
  obtain ⟨spec, hspec⟩ := Option.isSome_iff_exists.1 hs
  have hfold : it.foldl (extendRow d) (c, []) = (catalog, []) := hext
  have herrs := foldl_extendRow_snd d it (c, [])
  rw [hfold] at herrs
  have hnone := List.filterMap_eq_nil_iff.1 (List.nil_append _ ▸ herrs).symm _ (hrow spec hspec)
  have hcontains := contains_foldl_extendRow_of_mem d (hrow spec hspec) hnone (c, [])
  rw [hfold] at hcontains
  exact absurd hcontains (by simp [hc])

theorem applyUpdatesForRow_isSome_capture :
    extendCatalog (⟨fun _ => .ok ⟨none⟩, fun _ => .ok ⟨.connector "source-hello:v1", ["events"]⟩,
        fun _ => .ok ⟨.other, []⟩, fun _ => .ok []⟩ : Decoders CollectionSpec CaptureSpec MaterializationSpec (List TestStep))
        (⟨[], [], [], []⟩ : LinkCatalog) [(.capture, "hello", "\x7b\x7d")] =
      (⟨[], [("hello", ⟨.connector "source-hello:v1", ["events"]⟩)], [], []⟩, []) ∧
    (applyUpdatesForRow 1 7 ⟨[], [("hello", ⟨.connector "source-hello:v1", ["events"]⟩)], [], []⟩
      ⟨⟨"hello", .capture, .capture⟩, some "\x7b\x7d", "null", "null"⟩ ⟨[], [], []⟩).isSome :=
  (fun hext => ⟨hext, applyUpdatesForRow_isSome hext (fun spec h => by cases h; simp) 1 7 _⟩) (by decide)

/-! ## Rows of different catalog names commute -/

/-- What a successful `apply_updates_for_row` leaves in the `live_specs` row of its catalog name:
nothing for a deletion, the updated row otherwise; `none` where it panics. -/
def liveWrite (pubId : Nat) (catalog : LinkCatalog) (row : FullSpecRow) : Option (Option LiveRow) :=
  match row.draftSpec with
  | none => some none
  | some spec => (rowLinks catalog row.draftType row.catalogName).map fun (readsFrom, writesTo, imageParts) =>
    some ⟨imageParts.map (·.1), imageParts.map (·.2), pubId, readsFrom, some spec, writesTo⟩

/-- What a successful call does: its draft row existed and is deleted, its live row existed and
is set as `liveWrite` says, and one publication row is appended. -/
theorem applyUpdatesForRow_eq_ok {pubId draftId : Nat} {catalog : LinkCatalog} {row : FullSpecRow}
    {t t' : Tables} : applyUpdatesForRow pubId draftId catalog row t = some (.ok t') ↔
      (draftId, row.catalogName) ∈ t.draftSpecs ∧ (get? t.liveSpecs row.catalogName).isSome ∧
      ∃ o, liveWrite pubId catalog row = some o ∧
        t' = ⟨t.draftSpecs.filter (· != (draftId, row.catalogName)), set row.catalogName o t.liveSpecs,
          t.publicationSpecs ++ [⟨row.catalogName, pubId, row.specMinPatch, row.specRevPatch, row.draftType⟩]⟩ := by
  unfold applyUpdatesForRow liveWrite
  by_cases hd : (draftId, row.catalogName) ∈ t.draftSpecs
  swap
  · simp [hd]
  rw [if_neg (not_not.2 hd)]
  by_cases hl : (get? t.liveSpecs row.catalogName).isSome
  swap
  · have hn : (get? t.liveSpecs row.catalogName).isNone = true := by simpa using hl
    cases row.draftSpec with
    | none => simp [hn, hl]
    | some spec => cases rowLinks catalog row.draftType row.catalogName <;> simp [hn, hl]
  have hn : (get? t.liveSpecs row.catalogName).isNone = false := by simpa using hl
  cases row.draftSpec with
  | none =>
    simp only [hn, if_false, Bool.false_eq_true]
    exact ⟨fun h => ⟨hd, hl, none, rfl, (Except.ok.inj (Option.some.inj h)).symm⟩,
      fun ⟨_, _, o, ho, h⟩ => by cases ho; rw [h]; rfl⟩
  | some spec =>
    cases rowLinks catalog row.draftType row.catalogName with
    | none => simp
    | some links =>
      simp only [Option.map_some', hn, if_false, Bool.false_eq_true]
      exact ⟨fun h => ⟨hd, hl, _, rfl, (Except.ok.inj (Option.some.inj h)).symm⟩,
        fun ⟨_, _, o, ho, h⟩ => by cases ho; rw [h]; rfl⟩

/-- **Two rows of different catalog names can be applied in either order**: if applying `r₁`
then `r₂` succeeds, applying `r₂` then `r₁` succeeds too, and leaves the same `draft_specs` and
`live_specs` rows, and the same `publication_specs` rows up to their order. -/
theorem applyUpdatesForRow_swap {pubId draftId : Nat} {catalog : LinkCatalog} {r₁ r₂ : FullSpecRow}
    {t t₁ t₁₂ : Tables} (hne : r₁.catalogName ≠ r₂.catalogName) (hs : Sorted t.liveSpecs)
    (h₁ : applyUpdatesForRow pubId draftId catalog r₁ t = some (.ok t₁))
    (h₂ : applyUpdatesForRow pubId draftId catalog r₂ t₁ = some (.ok t₁₂)) :
    ∃ t₂ t₂₁, applyUpdatesForRow pubId draftId catalog r₂ t = some (.ok t₂) ∧
      applyUpdatesForRow pubId draftId catalog r₁ t₂ = some (.ok t₂₁) ∧
      t₂₁.draftSpecs = t₁₂.draftSpecs ∧ t₂₁.liveSpecs = t₁₂.liveSpecs ∧
      t₂₁.publicationSpecs.Perm t₁₂.publicationSpecs := by
  obtain ⟨hd₁, hl₁, o₁, hw₁, rfl⟩ := applyUpdatesForRow_eq_ok.1 h₁
  obtain ⟨hd₂, hl₂, o₂, hw₂, rfl⟩ := applyUpdatesForRow_eq_ok.1 h₂
  rw [hs.get?_set, if_neg hne] at hl₂
  refine ⟨_, _, applyUpdatesForRow_eq_ok.2 ⟨(List.mem_filter.1 hd₂).1, hl₂, o₂, hw₂, rfl⟩,
    applyUpdatesForRow_eq_ok.2 ⟨List.mem_filter.2 ⟨hd₁, by simpa using hne⟩,
      by rwa [hs.get?_set, if_neg (Ne.symm hne)], o₁, hw₁, rfl⟩, ?_, hs.set_comm hne _ _, ?_⟩
  · simp only [List.filter_filter, Bool.and_comm]
  · simpa only [List.append_assoc] using List.perm_append_comm.append_left t.publicationSpecs

theorem applyUpdatesForRow_swap_two_deletions :
    "a" ≠ "b" ∧ Sorted [("a", (⟨none, none, 0, [], none, []⟩ : LiveRow)), ("b", ⟨none, none, 0, [], none, []⟩)] ∧
    applyUpdatesForRow 9 7 ⟨[], [], [], []⟩ ⟨⟨"a", .test, .test⟩, none, "", ""⟩
        ⟨[(7, "a"), (7, "b")], [("a", ⟨none, none, 0, [], none, []⟩), ("b", ⟨none, none, 0, [], none, []⟩)], []⟩ =
      some (.ok ⟨[(7, "b")], [("b", ⟨none, none, 0, [], none, []⟩)], [⟨"a", 9, "", "", .test⟩]⟩) ∧
    applyUpdatesForRow 9 7 ⟨[], [], [], []⟩ ⟨⟨"b", .test, .test⟩, none, "", ""⟩
        ⟨[(7, "b")], [("b", ⟨none, none, 0, [], none, []⟩)], [⟨"a", 9, "", "", .test⟩]⟩ =
      some (.ok ⟨[], [], [⟨"a", 9, "", "", .test⟩, ⟨"b", 9, "", "", .test⟩]⟩) ∧
    ∃ t₂ t₂₁, applyUpdatesForRow 9 7 ⟨[], [], [], []⟩ ⟨⟨"b", .test, .test⟩, none, "", ""⟩
        ⟨[(7, "a"), (7, "b")], [("a", ⟨none, none, 0, [], none, []⟩), ("b", ⟨none, none, 0, [], none, []⟩)], []⟩ =
        some (.ok t₂) ∧
      applyUpdatesForRow 9 7 ⟨[], [], [], []⟩ ⟨⟨"a", .test, .test⟩, none, "", ""⟩ t₂ = some (.ok t₂₁) ∧
      t₂₁.draftSpecs = [] ∧ t₂₁.liveSpecs = [] ∧
      t₂₁.publicationSpecs.Perm [⟨"a", 9, "", "", .test⟩, ⟨"b", 9, "", "", .test⟩] :=
  (fun hne hs h₁ h₂ => ⟨hne, hs, h₁, h₂, applyUpdatesForRow_swap hne hs h₁ h₂⟩)
    (by decide) (by decide) rfl rfl

end FlowCore.Publications
