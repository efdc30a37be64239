import FlowCore.BTreeMap
import Mathlib.Data.List.Nodup

/-!
# The default field selection: `DefaultPreSelector` (materialization/src/selection_ui.rs)

| here | there |
| --- | --- |
| `Projection` | `protocol::flow::Projection`, the fields the selector reads |
| `insertUserProvided`, `insertKeys` | the two loops of `DefaultPreSelector::from_fields` (selection_ui.rs:279-289) |
| `byLocation` | its `by_location` map (:275-289) |
| `fromFields` | `DefaultPreSelector::from_fields` (:274-295) |
| `shouldSelect` | `Selector::should_select` (:298-307) |

`from_fields` keeps one projection per JSON pointer in a `HashMap`: first every user-provided
projection, a later one replacing an earlier one of its pointer, then each key projection whose
pointer is not there yet. The map is modelled by the `BTreeMap` model, since nothing reads its
order, and the `HashSet` of the kept projections' fields by a list, since `should_select` reads
only membership.

`get?_byLocation` says which projection each pointer keeps, and `fromFields_selects` what the
default selection is: one projection per pointer, the last user-provided one there, else the first
key one.
-/

namespace FlowCore.Materialization

open BTreeMap

/-- `protocol::flow::Projection`: the fields the selector reads. -/
structure Projection where
  field : String
  ptr : String
  userProvided : Bool
  isPrimaryKey : Bool
deriving DecidableEq, Repr

/-- The first loop of `from_fields`: each user-provided projection inserted at its pointer. -/
def insertUserProvided (m : List (String × Projection)) (ps : List Projection) : List (String × Projection) :=
  ps.foldl (fun m p => insert p.ptr p m) m

/-- The second loop: each key projection inserted at its pointer unless one is there already. -/
def insertKeys (m : List (String × Projection)) (ps : List Projection) : List (String × Projection) :=
  ps.foldl (fun m p => if (get? m p.ptr).isSome then m else insert p.ptr p m) m

/-- The `by_location` map of `from_fields`. -/
def byLocation (projections : List Projection) : List (String × Projection) :=
  insertKeys (insertUserProvided [] (projections.filter (·.userProvided))) (projections.filter (·.isPrimaryKey))

/-- `DefaultPreSelector::from_fields`: the fields of the projections `by_location` keeps. -/
def fromFields (projections : List Projection) : List String :=
  (byLocation projections).map (·.2.field)

/-- `should_select`: whether an item's projection has one of the default fields. -/
def shouldSelect (defaults : List String) (p : Projection) : Bool :=
  defaults.contains p.field

/-! ## Which projection a pointer keeps -/

/-- After the first loop a pointer holds the last projection inserted at it, if any. -/
theorem get?_insertUserProvided (k : String) (ps : List Projection) :
    ∀ m, get? (insertUserProvided m ps) k = (ps.reverse.find? (·.ptr == k)).or (get? m k) := by
  induction ps with
  | nil => simp [insertUserProvided]
  | cons p ps ih =>
    intro m
    simp only [insertUserProvided, List.foldl_cons] at ih ⊢
    rw [ih, get?_insert]
    by_cases h : p.ptr = k <;> simp [h, Option.or_assoc]

/-- After the second loop a pointer holds what it held, else the first projection inserted at it. -/
theorem get?_insertKeys (k : String) (ps : List Projection) :
    ∀ m, get? (insertKeys m ps) k = (get? m k).or (ps.find? (·.ptr == k)) := by
  induction ps with
  | nil => simp [insertKeys]
  | cons p ps ih =>
    intro m
    simp only [insertKeys, List.foldl_cons] at ih ⊢
    rw [ih]
    by_cases h : p.ptr = k
    · subst h
      cases hm : get? m p.ptr <;> simp [hm]
    · split_ifs <;> simp [h]

/-- **Which projection each location keeps**: the last user-provided projection at the pointer,
else the first key projection there, else none. -/
theorem get?_byLocation (projections : List Projection) (k : String) :
    get? (byLocation projections) k =
      ((projections.filter (·.userProvided)).reverse.find? (·.ptr == k)).or
        ((projections.filter (·.isPrimaryKey)).find? (·.ptr == k)) := by
  simp [byLocation, get?_insertKeys, get?_insertUserProvided]

theorem byLocation_sorted (projections : List Projection) : Sorted (byLocation projections) := by
  have hu : ∀ (ps : List Projection) m, Sorted m → Sorted (insertUserProvided m ps) := fun ps => by
    induction ps with
    | nil => exact fun _ h => h
    | cons p ps ih => exact fun m h => ih _ (h.insert _ _)
  have hk : ∀ (ps : List Projection) m, Sorted m → Sorted (insertKeys m ps) := fun ps => by
    induction ps with
    | nil => exact fun _ h => h
    | cons p ps ih =>
      intro m h
      exact ih _ (by dsimp only; split_ifs; exacts [h, h.insert _ _])
  exact hk _ _ (hu _ _ List.Pairwise.nil)

theorem mem_byLocation {projections : List Projection} {k : String} {q : Projection}
    (h : (k, q) ∈ byLocation projections) :
    q ∈ projections ∧ (q.userProvided ∨ q.isPrimaryKey) ∧ q.ptr = k := by
  rw [← (byLocation_sorted projections).get?_eq_some_iff, get?_byLocation, Option.or_eq_some] at h
  rcases h with h | ⟨-, h⟩
  · obtain ⟨hm, hp⟩ := List.mem_filter.1 (List.mem_reverse.1 (List.mem_of_find?_eq_some h))
    exact ⟨hm, .inl hp, by simpa using List.find?_some h⟩
  · obtain ⟨hm, hp⟩ := List.mem_filter.1 (List.mem_of_find?_eq_some h)
    exact ⟨hm, .inr hp, by simpa using List.find?_some h⟩

/-- **Exactly one projection per location is selected by default**: when the projections' fields
are distinct, a projection is selected exactly when it is the last user-provided projection at its
pointer, or, where there is none, the first key projection there. -/
theorem fromFields_selects (projections : List Projection) (hfields : (projections.map (·.field)).Nodup) :
    ∀ q ∈ projections, shouldSelect (fromFields projections) q = true ↔
      ((projections.filter (·.userProvided)).reverse.find? (·.ptr == q.ptr)).or
        ((projections.filter (·.isPrimaryKey)).find? (·.ptr == q.ptr)) = some q := by
  intro q hq
  rw [← get?_byLocation]
  constructor
  · intro hsel
    obtain ⟨⟨k, q'⟩, hkq, hf⟩ := List.mem_map.1 (List.elem_iff.1 hsel)
    obtain ⟨hm, -, hk⟩ := mem_byLocation hkq
    have hqq : q' = q := List.inj_on_of_nodup_map hfields hm hq hf
    subst hqq hk
    exact (byLocation_sorted projections).get?_eq_some_iff.2 hkq
  · intro h
    exact List.elem_iff.2 (List.mem_map.2 ⟨(q.ptr, q), mem_of_get?_eq_some h, rfl⟩)

theorem fromFields_selects_last_user :
    let ps : List Projection := [⟨"a", "/id", true, false⟩, ⟨"k", "/id", false, true⟩, ⟨"b", "/id", true, false⟩]
    (ps.map (·.field)).Nodup ∧ ⟨"b", "/id", true, false⟩ ∈ ps ∧
      (shouldSelect (fromFields ps) ⟨"b", "/id", true, false⟩ = true ↔
        ((ps.filter (·.userProvided)).reverse.find? (·.ptr == "/id")).or
          ((ps.filter (·.isPrimaryKey)).find? (·.ptr == "/id")) = some ⟨"b", "/id", true, false⟩) :=
  ⟨by decide, by decide, fromFields_selects _ (by decide) _ (by decide)⟩

example : fromFields [⟨"id", "/id", false, true⟩, ⟨"key", "/id", true, false⟩, ⟨"v", "/v", false, false⟩] =
    ["key"] := by decide

end FlowCore.Materialization
