import FlowCore.Json.RoundTrip

/-!
# JSON type sets: `json::schema::types` (json/schema/types.rs)

| here | there |
| --- | --- |
| `Set`, `INVALID` … `ANY`, `ALL` | `Set(u32)` and its constants (types.rs:5-18) |
| `|||`, `&&&`, `~~~` on `Set` | `BitOr`, `BitAnd`, `Not` (:20-44) |
| `Iter`, `Iter.loop`, `Iter.next`, `Iter.collect` | `Iter` and `Iterator::next` (:46-78), `collect` |
| `Set.iter`, `Set.names` | `Set::iter` (:95-100), `iter().collect::<Vec<_>>()` |
| `Set.fmt`, `Set.toJsonArray`, `Set.serialize` | `Display` (:173-178), `to_json_array` (:102-104), `Serialize` (:180-189) |
| `Set.forTypeName`, `Set.forValue`, `Set.overlaps` | :106-136 |
| `Set.isSingleScalarType` | :138-163 |
| `Built` | the sets code outside the module can make, the field of `Set` being private |
| `forValue_integer_iff` | `for_value` on a number the reader read |

A set has one bit for each of the seven JSON types; `ALL` lists them in bit order, and what a set
holds is read through `overlaps` with a member of `ALL`, which is a test of that member's bit
(`overlaps_ALL`). `Not` masks the complement with `ANY`, so it complements the seven types and sets
no other bit (`overlaps_not`); on the names a set lists, `|`, `&` and `!` are union, intersection
and complement within the seven names (`names_or_and_not`).

`Iter::next` loops over `ALL` from its index and returns the name of the first type the set
overlaps; `collect_eq` is the run lemma: collecting lists the names of the types the set overlaps,
in `ALL`'s order (`names_eq`). Reading those names back with `for_type_name` and or-ing the types
gives the set back without its unused bits (`names_forTypeName`); `to_json_array`'s text reads as
the JSON value `Serialize` writes (`parse_toJsonArray`); and `is_single_scalar_type` holds exactly
when the names other than `"null"` are one scalar type's (`isSingleScalarType_iff`). A set built
from the constants and the operators never has an unused bit (`Built.and_ANY`, by induction on how
it is built), so its names determine it (`built_names_iff`). `for_value` types a number by how
`json::Number::from` classifies it, and for a number the reader read that is a fact of its literal:
`integer` is added exactly when the literal has no fraction and no exponent and its value fits
(`forValue_integer_iff`).
-/

namespace FlowCore.Schema.Types

open Json

/-- `Set(u32)`: one bit for each JSON type. -/
@[ext]
structure Set where
  bits : BitVec 32
deriving DecidableEq, Repr

def INVALID : Set := ⟨0b0000000#32⟩
def ARRAY : Set := ⟨0b0000001#32⟩
def BOOLEAN : Set := ⟨0b0000010#32⟩
def INTEGER : Set := ⟨0b0000100#32⟩
def NULL : Set := ⟨0b0001000#32⟩
def NUMBER : Set := ⟨0b0010000#32⟩
def OBJECT : Set := ⟨0b0100000#32⟩
def STRING : Set := ⟨0b1000000#32⟩
def ANY : Set :=
  ⟨ARRAY.bits ||| BOOLEAN.bits ||| INTEGER.bits ||| NULL.bits ||| NUMBER.bits ||| OBJECT.bits ||| STRING.bits⟩

/-- `ALL`: the seven types, in bit order. -/
def ALL : List Set := [ARRAY, BOOLEAN, INTEGER, NULL, NUMBER, OBJECT, STRING]

/-- `BitOr for Set`. -/
instance instBitOr : OrOp Set := ⟨fun a b => ⟨a.bits ||| b.bits⟩⟩

/-- `BitAnd for Set`. -/
instance instBitAnd : AndOp Set := ⟨fun a b => ⟨a.bits &&& b.bits⟩⟩

/-- `Not for Set`: the complement, and-ed with `ANY` so that no unused bit is set. -/
instance instNot : Complement Set := ⟨fun a => ⟨~~~a.bits &&& ANY.bits⟩⟩

@[simp] theorem bits_or (a b : Set) : (a ||| b).bits = a.bits ||| b.bits := rfl
@[simp] theorem bits_and (a b : Set) : (a &&& b).bits = a.bits &&& b.bits := rfl
@[simp] theorem bits_not (a : Set) : (~~~a).bits = ~~~a.bits &&& ANY.bits := rfl

namespace Set

/-- `Set::overlaps`. -/
def overlaps (self other : Set) : Bool := self &&& other != INVALID

/-- `Set::for_type_name`. -/
def forTypeName (strVal : String) : Option Set :=
  if strVal = "array" then some ARRAY
  else if strVal = "boolean" then some BOOLEAN
  else if strVal = "integer" then some INTEGER
  else if strVal = "null" then some NULL
  else if strVal = "number" then some NUMBER
  else if strVal = "object" then some OBJECT
  else if strVal = "string" then some STRING
  else none

/-- `Set::for_value`: an integer, signed or unsigned, is both a number and an integer. -/
def forValue : Json → Set
  | .array _ => ARRAY
  | .bool _ => BOOLEAN
  | .null => NULL
  | .number (.float _) => NUMBER
  | .number (.signed _) | .number (.unsigned _) => NUMBER ||| INTEGER
  | .object _ => OBJECT
  | .string _ => STRING

/-- `Set::is_single_scalar_type`. -/
def isSingleScalarType (self : Set) : Bool :=
  let withoutNull := self &&& ~~~NULL
  withoutNull = INTEGER || withoutNull = BOOLEAN || withoutNull = STRING || withoutNull = NUMBER

end Set

/-! ## `Iter` -/

/-- The arms of the `match *ty` in `Iter::next`; `none` is the `unreachable!()` arm, which no
member of `ALL` reaches (`typeName_ALL`). -/
def typeName (ty : Set) : Option String :=
  if ty = ARRAY then some "array"
  else if ty = BOOLEAN then some "boolean"
  else if ty = INTEGER then some "integer"
  else if ty = NULL then some "null"
  else if ty = NUMBER then some "number"
  else if ty = OBJECT then some "object"
  else if ty = STRING then some "string"
  else none

/-- `Iter`: the set, and the index in `ALL` of the next type to look at. -/
structure Iter where
  types : Set
  index : Nat
deriving DecidableEq, Repr

/-- The `loop` of `Iter::next` over `rest`, the types of `ALL` from `index` on: the name of the
first type the set overlaps, and the index past it. -/
def Iter.loop (types : Set) : List Set → Nat → Option (String × Nat)
  | [], _ => none
  | ty :: rest, index =>
    if types.overlaps ty then (typeName ty).map (·, index + 1) else loop types rest (index + 1)

/-- `Iterator::next` for `Iter`. -/
def Iter.next (it : Iter) : Option (String × Iter) :=
  (Iter.loop it.types (ALL.drop it.index) it.index).map fun (name, index) => (name, ⟨it.types, index⟩)

/-- `Iterator::collect` on an `Iter`: the names `next` returns until it returns `None`, within
`fuel` calls; every call moves the index on, so `ALL.length + 1` calls reach the end. -/
def Iter.collect : Nat → Iter → List String
  | 0, _ => []
  | fuel + 1, it =>
    match it.next with
    | some (name, it) => name :: collect fuel it
    | none => []

namespace Set

/-- `Set::iter`. -/
def iter (self : Set) : Iter := ⟨self, 0⟩

/-- `self.iter().collect::<Vec<&'static str>>()`. -/
def names (self : Set) : List String := self.iter.collect (ALL.length + 1)

/-- `<str as Debug>::fmt` of a type name: the name between quotes (no name has a character that
`escape_debug` rewrites). -/
def debugName (name : String) : String := "\"" ++ name ++ "\""

/-- `Display for Set`: `{:?}` of `self.iter().format(", ")`, which writes the first name, then
`", "` and the name for each further one, every name with `{:?}`. -/
def fmt (self : Set) : String :=
  match self.names with
  | [] => ""
  | first :: rest => debugName first ++ String.join (rest.map fun elt => ", " ++ debugName elt)

/-- `Set::to_json_array`: `format!("[{}]", self)`. -/
def toJsonArray (self : Set) : String := "[" ++ self.fmt ++ "]"

/-- `Serialize for Set`: the names, as a sequence. -/
def serialize (self : Set) : Json := .array (self.names.map .string)

end Set

example : (ARRAY ||| OBJECT ||| NULL).names = ["array", "null", "object"] ∧ INVALID.iter.next = none := by
  decide

example : STRING.isSingleScalarType ∧ INTEGER.isSingleScalarType ∧ BOOLEAN.isSingleScalarType ∧
    NUMBER.isSingleScalarType ∧ (STRING ||| NULL).isSingleScalarType ∧ !NULL.isSingleScalarType ∧
    !OBJECT.isSingleScalarType ∧ !ARRAY.isSingleScalarType ∧ !INVALID.isSingleScalarType ∧
    !(OBJECT ||| INTEGER).isSingleScalarType ∧ !(STRING ||| BOOLEAN).isSingleScalarType := by
  decide

/-! ## What a set holds -/

/-- Each type of `ALL` is one bit below the seventh, and has a name that `for_type_name` reads
back as it. -/
theorem ALL_spec : ∀ ty ∈ ALL, ty ≠ INVALID ∧ (∃ i, i < 7 ∧ ty.bits = BitVec.twoPow 32 i) ∧
    ∃ name, typeName ty = some name ∧ Set.forTypeName name = some ty := by
  decide

theorem typeName_ALL {ty : Set} (h : ty ∈ ALL) : (typeName ty).isSome := by
  obtain ⟨name, hn, -⟩ := (ALL_spec ty h).2.2
  simp [hn]

theorem and_ALL {ty : Set} (h : ty ∈ ALL) :
    ∃ i, i < 7 ∧ ∀ s : Set, s &&& ty = if s.bits.getLsbD i then ty else INVALID := by
  obtain ⟨-, ⟨i, hi, hty⟩, -⟩ := ALL_spec ty h
  refine ⟨i, hi, fun s => ?_⟩
  have hb : s.bits &&& ty.bits = if s.bits.getLsbD i then ty.bits else 0#32 := hty ▸ BitVec.and_twoPow s.bits i
  show Set.mk _ = _
  by_cases hc : s.bits.getLsbD i <;> simp only [hb, hc] <;> rfl

theorem overlaps_ALL {ty : Set} (h : ty ∈ ALL) :
    ∃ i, i < 7 ∧ ∀ s : Set, s.overlaps ty = s.bits.getLsbD i := by
  obtain ⟨i, hi, hand⟩ := and_ALL h
  refine ⟨i, hi, fun s => ?_⟩
  by_cases hc : s.bits.getLsbD i <;> simp [Set.overlaps, hand, hc, (ALL_spec ty h).1]

theorem and_eq_ite {ty : Set} (h : ty ∈ ALL) (s : Set) : s &&& ty = if s.overlaps ty then ty else INVALID := by
  obtain ⟨i, -, hand⟩ := and_ALL h
  rw [Set.overlaps, hand]
  by_cases hc : s.bits.getLsbD i <;> simp [hc, (ALL_spec ty h).1]

theorem overlaps_and {ty : Set} (h : ty ∈ ALL) (s t : Set) :
    (s &&& t).overlaps ty = (s.overlaps ty && t.overlaps ty) := by
  obtain ⟨i, -, hi⟩ := overlaps_ALL h
  simp [hi]

theorem overlaps_or {ty : Set} (h : ty ∈ ALL) (s t : Set) :
    (s ||| t).overlaps ty = (s.overlaps ty || t.overlaps ty) := by
  obtain ⟨i, -, hi⟩ := overlaps_ALL h
  simp [hi]

theorem overlaps_ANY : ∀ ty ∈ ALL, ANY.overlaps ty := by decide

theorem overlaps_not {ty : Set} (h : ty ∈ ALL) (s : Set) : (~~~s).overlaps ty = !s.overlaps ty := by
  obtain ⟨i, hi, hov⟩ := overlaps_ALL h
  have hany := overlaps_ANY ty h
  rw [hov] at hany
  simp [hov, hany, hi.trans (by decide : 7 < 32)]

/-! ## Collecting the names -/

/-- One call of `Iter::next`'s loop that finds nothing leaves no name in `rest`. -/
theorem loop_eq_none {types : Set} {index : Nat} :
    ∀ {rest : List Set}, (∀ ty ∈ rest, (typeName ty).isSome) → Iter.loop types rest index = none →
      (rest.filter types.overlaps).filterMap typeName = []
  | [], _, _ => rfl
  | ty :: rest, hs, hl => by
    have hty := hs ty (List.mem_cons_self _ _)
    by_cases ho : types.overlaps ty
    · obtain ⟨n, hn⟩ := Option.isSome_iff_exists.1 hty
      simp [Iter.loop, ho, hn] at hl
    · rw [Iter.loop, if_neg ho] at hl
      rw [List.filter_cons_of_neg (by simpa using ho)]
      exact loop_eq_none (fun t ht => hs t (List.mem_cons_of_mem _ ht)) hl

/-- One call of `Iter::next`'s loop that returns a name passes `k + 1` types of `rest`, and the
name is the first of `rest`'s names. -/
theorem loop_eq_some {types : Set} {name : String} {index' : Nat} :
    ∀ {rest : List Set} {index : Nat}, Iter.loop types rest index = some (name, index') →
      ∃ k, k < rest.length ∧ index' = index + k + 1 ∧
        (rest.filter types.overlaps).filterMap typeName =
          name :: ((rest.drop (k + 1)).filter types.overlaps).filterMap typeName
  | [], _, hl => by cases hl
  | ty :: rest, index, hl => by
    by_cases ho : types.overlaps ty
    · rw [Iter.loop, if_pos ho] at hl
      obtain ⟨n, hn, he⟩ := Option.map_eq_some'.1 hl
      obtain ⟨rfl, rfl⟩ := Prod.mk.inj he
      exact ⟨0, by simp, rfl, by simp [List.filter_cons_of_pos ho, hn]⟩
    · rw [Iter.loop, if_neg ho] at hl
      obtain ⟨k, hk, rfl, hr⟩ := loop_eq_some hl
      exact ⟨k + 1, by simpa using hk, by omega, by simpa [List.filter_cons_of_neg, ho] using hr⟩

/-- **`collect` lists the names of the types of `ALL`, from the index on, that the set overlaps**,
given a call for each type left and one for the final `None`. -/
theorem collect_eq : ∀ (fuel : Nat) (it : Iter), ALL.length - it.index < fuel →
    it.collect fuel = ((ALL.drop it.index).filter it.types.overlaps).filterMap typeName
  | 0, _, h => absurd h (Nat.not_lt_zero _)
  | fuel + 1, ⟨types, index⟩, h => by
    have hnames : ∀ ty ∈ ALL.drop index, (typeName ty).isSome :=
      fun ty hty => typeName_ALL (List.mem_of_mem_drop hty)
    replace h : ALL.length - index < fuel + 1 := h
    rw [Iter.collect, Iter.next]
    cases hl : Iter.loop types (ALL.drop index) index with
    | none => exact (loop_eq_none hnames hl).symm
    | some p =>
      obtain ⟨name, index'⟩ := p
      obtain ⟨k, hk, rfl, hr⟩ := loop_eq_some hl
      rw [List.length_drop] at hk
      show name :: Iter.collect fuel ⟨types, index + k + 1⟩ = _
      rw [collect_eq fuel _ (show ALL.length - (index + k + 1) < fuel by omega), hr, List.drop_drop,
        ← Nat.add_assoc]

/-- The names of a set are those of the types of `ALL` it overlaps, in `ALL`'s order. -/
theorem names_eq (s : Set) : s.names = (ALL.filter s.overlaps).filterMap typeName :=
  collect_eq _ s.iter (by simp [Set.iter])

theorem typeName_inj : ∀ ty ∈ ALL, ∀ ty' ∈ ALL, typeName ty = typeName ty' → ty = ty' := by decide

theorem mem_names {ty : Set} (h : ty ∈ ALL) {name : String} (hn : typeName ty = some name) (s : Set) :
    name ∈ s.names ↔ s.overlaps ty := by
  rw [names_eq, List.mem_filterMap]
  constructor
  · rintro ⟨ty', hty', hn'⟩
    obtain ⟨hmem, hov⟩ := List.mem_filter.1 hty'
    rwa [← typeName_inj ty' hmem ty h (hn'.trans hn.symm)]
  · exact fun hov => ⟨ty, List.mem_filter.2 ⟨h, hov⟩, hn⟩

/-- The names of the seven types, in `ALL`'s order. -/
def typeNames : List String := ALL.filterMap typeName

/-- A set whose `overlaps` with each type of `ALL` is a predicate of the type's name lists the
type names that satisfy it. -/
theorem names_eq_filter (u : Set) (q : String → Prop) [DecidablePred q]
    (hq : ∀ ty ∈ ALL, ∀ name, typeName ty = some name → (u.overlaps ty ↔ q name)) :
    u.names = typeNames.filter fun n => decide (q n) := by
  rw [names_eq, typeNames, List.filter_filterMap, List.filterMap_filter]
  refine List.filterMap_congr fun ty hty => ?_
  obtain ⟨-, -, name, hn, -⟩ := ALL_spec ty hty
  have h := hq ty hty name hn
  by_cases hu : u.overlaps ty <;> simp_all [Option.filter]

/-- **`|`, `&` and `!` are union, intersection and complement of the names**: for every two sets,
the names `s | t` lists are the type names either lists, those of `s & t` the names both list, and
those of `!s` the type names `s` does not list. -/
theorem names_or_and_not (s t : Set) :
    (s ||| t).names = typeNames.filter (fun n => n ∈ s.names ∨ n ∈ t.names) ∧
      (s &&& t).names = typeNames.filter (fun n => n ∈ s.names ∧ n ∈ t.names) ∧
      (~~~s).names = typeNames.filter (fun n => n ∉ s.names) := by
  refine ⟨names_eq_filter _ _ fun ty hty name hn => ?_, names_eq_filter _ _ fun ty hty name hn => ?_,
    names_eq_filter _ _ fun ty hty name hn => ?_⟩ <;>
    simp [overlaps_or hty, overlaps_and hty, overlaps_not hty, mem_names hty hn]

/-! ## Reading the names back -/

@[simp] theorem or_INVALID (a : Set) : a ||| INVALID = a := Set.ext BitVec.or_zero
@[simp] theorem INVALID_or (a : Set) : INVALID ||| a = a := Set.ext BitVec.zero_or

/-- `for_type_name` reads the names of a set back as the types of `ALL` it overlaps. -/
theorem names_mapM (s : Set) : s.names.mapM Set.forTypeName = some (ALL.filter s.overlaps) := by
  have h : ∀ l : List Set, (∀ ty ∈ l, ty ∈ ALL) → (l.filterMap typeName).mapM Set.forTypeName = some l := by
    intro l
    induction l with
    | nil => intro; rfl
    | cons ty l ih =>
      intro hl
      obtain ⟨-, -, name, hn, hf⟩ := ALL_spec ty (hl ty (List.mem_cons_self _ _))
      rw [List.filterMap_cons_some hn, List.mapM_cons, hf, ih fun t ht => hl t (List.mem_cons_of_mem _ ht)]
      rfl
  exact names_eq s ▸ h _ fun ty hty => List.mem_of_mem_filter hty

theorem foldl_or_filter_ALL (s : Set) : (ALL.filter s.overlaps).foldl (· ||| ·) INVALID = s &&& ANY := by
  have hstep : ∀ (l : List Set) (acc : Set), (∀ ty ∈ l, ty ∈ ALL) →
      (l.filter s.overlaps).foldl (· ||| ·) acc = l.foldl (fun acc ty => acc ||| (s &&& ty)) acc := by
    intro l
    induction l with
    | nil => intros; rfl
    | cons ty l ih =>
      intro acc hl
      have hl' : ∀ t ∈ l, t ∈ ALL := fun t ht => hl t (List.mem_cons_of_mem _ ht)
      rw [List.foldl_cons, and_eq_ite (hl ty (List.mem_cons_self _ _)), List.filter_cons]
      by_cases ho : s.overlaps ty <;> simp [ho, ih _ hl']
  rw [hstep ALL INVALID fun _ h => h]
  ext1
  simp only [ALL, ANY, List.foldl_cons, List.foldl_nil, bits_or, bits_and]
  ext j
  simp only [BitVec.getLsbD_or, BitVec.getLsbD_and, INVALID, BitVec.getLsbD_zero]
  cases s.bits.getLsbD j <;> simp

/-- **`for_type_name` reads every name a set lists, and or-ing the types it gives rebuilds the
set's seven type bits.** -/
theorem names_forTypeName (s : Set) :
    (s.names.mapM Set.forTypeName).map (·.foldl (· ||| ·) INVALID) = some (s &&& ANY) := by
  rw [names_mapM, Option.map_some', foldl_or_filter_ALL]

/-! ## One scalar type besides null -/

theorem overlaps_NULL : ∀ ty ∈ ALL, NULL.overlaps ty = (typeName ty == some "null") := by decide

theorem names_and_not_NULL (s : Set) : (s &&& ~~~NULL).names = s.names.filter (· != "null") := by
  rw [names_eq, names_eq, List.filter_filterMap, List.filterMap_filter, List.filterMap_filter]
  refine List.filterMap_congr fun ty hty => ?_
  obtain ⟨-, -, name, hn, -⟩ := ALL_spec ty hty
  have hnull := overlaps_NULL ty hty
  rw [hn] at hnull
  by_cases ho : s.overlaps ty <;> by_cases hname : name = "null" <;>
    simp_all [overlaps_and hty, overlaps_not hty, Option.filter]

theorem and_not_NULL_and_ANY (s : Set) : s &&& ~~~NULL &&& ANY = s &&& ~~~NULL :=
  Set.ext (by simp [BitVec.and_assoc])

theorem forTypeName_scalar : ∀ n ∈ ["integer", "boolean", "string", "number"],
    ∃ t, Set.forTypeName n = some t ∧ t ∈ [INTEGER, BOOLEAN, STRING, NUMBER] := by decide

theorem names_scalar : ∀ t ∈ [INTEGER, BOOLEAN, STRING, NUMBER],
    ∃ n ∈ ["integer", "boolean", "string", "number"], t.names = [n] := by decide

/-- **`is_single_scalar_type` holds exactly when the set's names other than `"null"` are the name
of one scalar type.** -/
theorem isSingleScalarType_iff (s : Set) : s.isSingleScalarType ↔
    ∃ n ∈ ["integer", "boolean", "string", "number"], s.names.filter (· != "null") = [n] := by
  rw [← names_and_not_NULL]
  have hsingle : s.isSingleScalarType ↔ s &&& ~~~NULL ∈ [INTEGER, BOOLEAN, STRING, NUMBER] := by
    simp [Set.isSingleScalarType, or_assoc]
  rw [hsingle]
  constructor
  · exact names_scalar _
  · rintro ⟨n, hn, hnames⟩
    obtain ⟨t, ht, hmem⟩ := forTypeName_scalar n hn
    have hm := names_mapM (s &&& ~~~NULL)
    rw [hnames, List.mapM_cons, ht] at hm
    have hfilter : ALL.filter (s &&& ~~~NULL).overlaps = [t] := (Option.some.inj hm).symm
    rwa [← and_not_NULL_and_ANY, ← foldl_or_filter_ALL, hfilter, List.foldl_cons, List.foldl_nil, INVALID_or]

/-! ## `to_json_array` against `Serialize` -/

theorem names_debugName : ∀ ty ∈ ALL, (typeName ty).all fun n => Set.debugName n = quote n := by decide

/-- `{:?}` writes each of a set's names as `serde_json` would. -/
theorem debugName_eq_quote {s : Set} {n : String} (h : n ∈ s.names) : Set.debugName n = quote n := by
  rw [names_eq, List.mem_filterMap] at h
  obtain ⟨ty, hty, hn⟩ := h
  simpa [hn] using names_debugName ty (List.mem_of_mem_filter hty)

theorem parseValue_quote (n : Nat) (s : String) (rest : List Char) :
    parseValue (n + 1) ((quote s).data ++ rest) = some (.string s, rest) := by
  rw [quote_data_cons, List.cons_append, parseValue_string, parseStr_quote]
  rfl

theorem parseValue_space (n : Nat) (cs : List Char) : parseValue n (' ' :: cs) = parseValue n cs := by
  cases n with
  | zero => rfl
  | succ n => simp only [parseValue, skipWs, true_or, if_true]

theorem parseItems_space (n : Nat) (acc : List Json) (cs : List Char) :
    parseItems n acc (' ' :: cs) = parseItems n acc cs := by
  cases n with
  | zero => rfl
  | succ n => simp only [parseItems, parseValue_space]

theorem length_le_join (ss : List String) :
    ss.length ≤ (String.join (ss.map fun e => ", " ++ quote e)).length := by
  rw [String.join_eq, String.length_mk]
  induction ss with
  | nil => simp
  | cons e ss ih =>
    rw [List.map_cons, List.map_cons, List.flatten_cons, List.length_append, List.length_cons]
    have : (", " ++ quote e).data = ',' :: ' ' :: (quote e).data := rfl
    rw [this, List.length_cons]
    omega

/-- String literals with `", "` between two read as the array of the strings. -/
theorem parseItems_quoted (rest : List Char) : ∀ (ss : List String) (s : String) (acc : List Json) (n : Nat),
    ss.length < n →
    parseItems (n + 1) acc ((quote s).data ++ (String.join (ss.map fun e => ", " ++ quote e)).data ++ ']' :: rest) =
      some (.array (acc.reverse ++ .string s :: ss.map .string), rest)
  | [], s, acc, n + 1, _ => by
    simp [parseItems, parseValue_quote, skipWs]
  | e :: ss, s, acc, n + 1, h => by
    have hd : (quote s).data ++ (String.join ((e :: ss).map fun e => ", " ++ quote e)).data ++ ']' :: rest =
        (quote s).data ++ ',' :: ' ' :: ((quote e).data ++ (String.join (ss.map fun e => ", " ++ quote e)).data ++
          ']' :: rest) := by
      simp
    rw [hd, parseItems, parseValue_quote]
    simp only [skipWs, show (',' = ' ' ∨ ',' = '\t' ∨ ',' = '\n' ∨ ',' = '\r') = False by decide, if_false]
    rw [parseItems_space, parseItems_quoted rest ss e _ n (by simpa using h)]
    simp

/-- **`to_json_array`'s text reads as the JSON value `Serialize` writes for the set.** -/
theorem parse_toJsonArray (s : Set) : parse s.toJsonArray = some s.serialize := by
  have hq : ∀ n ∈ s.names, Set.debugName n = quote n := fun _ h => debugName_eq_quote h
  unfold Set.toJsonArray Set.fmt Set.serialize
  generalize s.names = ns at hq ⊢
  cases ns with
  | nil => decide
  | cons first rest =>
    dsimp only
    rw [hq first (List.mem_cons_self _ _),
      List.map_congr_left fun e he => by rw [hq e (List.mem_cons_of_mem _ he)]]
    set text := "[" ++ (quote first ++ String.join (rest.map fun e => ", " ++ quote e)) ++ "]"
    have hdata : text.data = '[' :: '"' :: ((quote first).data.tail ++
        (String.join (rest.map fun e => ", " ++ quote e)).data ++ [']']) := by
      rw [show text.data = '[' :: ((quote first).data ++ (String.join (rest.map fun e => ", " ++ quote e)).data ++
        [']']) from rfl, quote_data_cons]
      rfl
    obtain ⟨m, hm, hlt⟩ : ∃ m, text.length = m + 1 ∧ rest.length < m := by
      have hj := length_le_join rest
      have hql : (quote first).length = (quote first).data.length := rfl
      rw [quote_data] at hql
      refine ⟨text.length - 1, ?_, ?_⟩ <;> simp [text, show "[".length = 1 from rfl, hql] at hj ⊢ <;> omega
    have hr := parseItems_quoted [] rest first [] m hlt
    rw [quote_data_cons, List.cons_append, List.cons_append] at hr
    simp only [parse, String.toList, hdata, hm, @parseValue_array '"' (by decide) (by decide), hr]
    simp [skipWs]

/-! ## The sets code can build -/

/-- The sets code outside types.rs can build: the field of `Set` is private, so every set comes
from the constants (`for_type_name` and `for_value` return constants or their union) and the three
operators. -/
inductive Built : Set → Prop
  | const {s : Set} : s ∈ INVALID :: ANY :: ALL → Built s
  | or {a b : Set} : Built a → Built b → Built (a ||| b)
  | and {a b : Set} : Built a → Built b → Built (a &&& b)
  | not {a : Set} : Built a → Built (~~~a)

theorem const_and_ANY : ∀ s ∈ INVALID :: ANY :: ALL, s &&& ANY = s := by decide

theorem Built.and_ANY {s : Set} (h : Built s) : s &&& ANY = s := by
  induction h with
  | const hs => exact const_and_ANY _ hs
  | or _ _ iha ihb =>
    ext1
    rw [← iha, ← ihb]
    simp only [bits_or, bits_and]
    ext j
    simp only [BitVec.getLsbD_and, BitVec.getLsbD_or]
    cases ANY.bits.getLsbD j <;> simp
  | and _ _ _ ihb => rw [← ihb]; exact Set.ext (by simp [BitVec.and_assoc])
  | not _ => exact Set.ext (by simp [BitVec.and_assoc])

/-- **A set code builds is determined by its names**, and `for_type_name` reads them back as the
set itself: no bit outside the seven types is ever set, so serializing loses nothing. -/
theorem built_names_iff {s t : Set} (hs : Built s) (ht : Built t) :
    s.names = t.names ↔ s = t := by
  refine ⟨fun h => ?_, fun h => h ▸ rfl⟩
  have hfold : ∀ u : Set, (u.names.mapM Set.forTypeName).map (·.foldl (· ||| ·) INVALID) = some (u &&& ANY) :=
    fun u => by rw [names_mapM, Option.map_some', foldl_or_filter_ALL]
  have := (hfold s).symm.trans (h ▸ hfold t)
  rwa [hs.and_ANY, ht.and_ANY, Option.some_inj] at this

/-! ## `for_value` of a number the reader read -/

/-- A number literal the reader accepted is an optional minus, digits, and a rest that is empty
or starts with the point of a fraction or the `e` of an exponent. -/
theorem numberText_parts {cs t r : List Char} (h : numberText cs = some (t, r)) :
    ∃ sign int rest, t = sign ++ (int ++ rest) ∧ (sign = [] ∨ sign = ['-']) ∧ int ≠ [] ∧
      (∀ c ∈ int, c.isDigit) ∧ (rest = [] ∨ ∃ x xs, rest = x :: xs ∧ (x = '.' ∨ x = 'e' ∨ x = 'E')) := by
  simp only [numberText] at h
  split_ifs at h with hint
  obtain ⟨⟨frac, r₃⟩, hf, h⟩ := Option.bind_eq_some.1 h
  obtain ⟨⟨exp, r₄⟩, he, h⟩ := Option.map_eq_some'.1 h
  obtain ⟨rfl, -⟩ := Prod.mk.inj h
  refine ⟨(signText ['-'] cs).1, ((signText ['-'] cs).2.span Char.isDigit).1, frac ++ exp,
    by simp only [List.append_assoc], ?_, (not_or.1 hint).1, all_isDigit_span_fst _, ?_⟩
  · rcases signText_fst ['-'] cs with hs | ⟨c, hc, hs⟩
    · exact .inl hs
    · exact .inr (by rw [hs, List.mem_singleton.1 hc])
  · rcases fracText_shape hf with rfl | ⟨d, rfl, -⟩
    · rcases expText_shape he with rfl | ⟨e, s, d, rfl, he, -⟩
      · exact .inl rfl
      · exact .inr ⟨e, s ++ d, rfl, .inr he⟩
    · exact .inr ⟨'.', _, rfl, .inl rfl⟩

theorem overlaps_INTEGER_forValue (n : Number) :
    (Set.forValue (.number n)).overlaps INTEGER = match n with | .float _ => false | _ => true := by
  cases n <;> simp only [Set.forValue] <;> decide

/-- **`for_value` adds `integer` to a number the reader read exactly when its literal has no
fraction and no exponent and its value is a `u64` or a negative `i64`**: `1.0`, `1e2` and `-0`
are numbers only. -/
theorem forValue_integer_iff {cs t r : List Char} (h : numberText cs = some (t, r)) :
    (Set.forValue (.number (numberOfText t))).overlaps INTEGER ↔
      ('.' ∉ t ∧ 'e' ∉ t ∧ 'E' ∉ t) ∧
        if t.head? = some '-' then 0 < digitsVal t.tail ∧ digitsVal t.tail ≤ 2 ^ 63
        else digitsVal t < 2 ^ 64 := by
  obtain ⟨sign, int, rest, rfl, hsign, hint, hdig, hrest⟩ := numberText_parts h
  have hsign' : ∀ c ∈ sign, c = '-' := by rcases hsign with rfl | rfl <;> simp
  have hfree : ('.' ∉ sign ++ (int ++ rest) ∧ 'e' ∉ sign ++ (int ++ rest) ∧ 'E' ∉ sign ++ (int ++ rest)) ↔
      (int ++ rest).all Char.isDigit := by
    rcases hrest with rfl | ⟨x, xs, rfl, hx⟩
    · have hno : ∀ c ∈ sign ++ int, c ≠ '.' ∧ c ≠ 'e' ∧ c ≠ 'E' := by
        intro c hc
        rcases List.mem_append.1 hc with hc | hc
        · rw [hsign' c hc]; decide
        · have := hdig c hc
          refine ⟨?_, ?_, ?_⟩ <;> rintro rfl <;> exact absurd this (by decide)
      simp only [List.append_nil, List.all_eq_true]
      exact ⟨fun _ => hdig, fun _ => ⟨fun h => (hno _ h).1 rfl, fun h => (hno _ h).2.1 rfl,
        fun h => (hno _ h).2.2 rfl⟩⟩
    · have hxd : x.isDigit = false := by rcases hx with rfl | rfl | rfl <;> rfl
      have hxt : x ∈ sign ++ (int ++ x :: xs) := by simp
      simp only [List.all_eq_true]
      refine ⟨fun ⟨h1, h2, h3⟩ => absurd hxt (by rcases hx with rfl | rfl | rfl <;> assumption),
        fun hall => absurd (hall x (by simp)) (by simp [hxd])⟩
  obtain ⟨x, xs, hx⟩ := List.exists_cons_of_ne_nil hint
  have hxm : x ≠ '-' := fun hm => absurd (hdig x (by simp [hx])) (by rw [hm]; decide)
  rw [hfree, overlaps_INTEGER_forValue]
  rcases hsign with rfl | rfl
  · have hhead : (int ++ rest).head? ≠ some '-' := by simp [hx, hxm]
    simp only [List.nil_append, numberOfText, if_neg hhead]
    by_cases hg : (int ++ rest).all Char.isDigit ∧ digitsVal (int ++ rest) < 2 ^ 64
    · rw [if_pos hg]; exact iff_of_true rfl hg
    · rw [if_neg hg]; exact iff_of_false Bool.false_ne_true hg
  · simp only [List.singleton_append, numberOfText, List.head?_cons, if_true, List.tail_cons]
    by_cases hg : (int ++ rest).all Char.isDigit ∧ 0 < digitsVal (int ++ rest) ∧
        digitsVal (int ++ rest) ≤ 2 ^ 63
    · rw [if_pos hg]; exact iff_of_true rfl (by simpa only [and_assoc] using hg)
    · rw [if_neg hg]; exact iff_of_false Bool.false_ne_true (by simpa only [and_assoc] using hg)

theorem forValue_integer_iff_minus_zero :
    numberText "-0".toList = some ("-0".toList, []) ∧
      ((Set.forValue (.number (numberOfText "-0".toList))).overlaps INTEGER ↔
        ('.' ∉ "-0".toList ∧ 'e' ∉ "-0".toList ∧ 'E' ∉ "-0".toList) ∧
          if "-0".toList.head? = some '-' then 0 < digitsVal "-0".toList.tail ∧ digitsVal "-0".toList.tail ≤ 2 ^ 63
          else digitsVal "-0".toList < 2 ^ 64) :=
  (fun h => ⟨h, forValue_integer_iff h⟩) (by decide)

example : (Set.forValue (.number (numberOfText "-0".toList))).overlaps INTEGER = false ∧
    (Set.forValue (.number (numberOfText "1.0".toList))).overlaps INTEGER = false ∧
    (Set.forValue (.number (numberOfText "-1".toList))).overlaps INTEGER = true := by
  decide

end FlowCore.Schema.Types
