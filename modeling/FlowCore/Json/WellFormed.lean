import Mathlib.Algebra.Order.Ring.Int
import FlowCore.Json.Text
import FlowCore.Json.MergePatch

/-!
# Well-formed documents: what the reader builds and merge patch keeps

A `serde_json::Value` holds integers in the range of their case and objects as maps, whose keys
`serde_json::Map` keeps in order. `wellFormed` says this of a `Json`, and a float's text must be a
number literal that does not read as an integer, so that the float reads back as itself.

| here | there |
| --- | --- |
| `Number.WellFormed`, `wellFormed` | what a `serde_json::Value` can hold |
| `numberText_self` | a number literal `serde_json` accepted reads back alone as itself |
| `BuildsValues`, `BuildsItems`, `BuildsFields` | what `parseValue`, `parseItems`, `parseFields` build at a given fuel |
| `parse_wellFormed` | `parse_json_str` builds only well-formed documents |
| `mergePatch_wellFormed` | `json_patch::merge` of well-formed documents is well formed |

The reader's three functions recurse on fuel, so `parsed_wellFormed` is an induction on the fuel,
one step lemma for each function (`buildsValues_succ`, `buildsItems_succ`, `buildsFields_succ`);
merge patch recurses into the patch's values, so `mergePatch_wellFormed` recurses on the patch's
size.
-/

namespace FlowCore

open Json in
/-- A number that reads back as itself from its text. -/
def Number.WellFormed : Number → Prop
  | .unsigned n => n < 2 ^ 64
  | .signed n => -2 ^ 63 ≤ n ∧ n < 0
  | .float text => numberText text.data = some (text.data, []) ∧ numberOfText text.data = .float text

instance : DecidablePred Number.WellFormed := fun n => by
  cases n <;> unfold Number.WellFormed <;> infer_instance

namespace Json

open BTreeMap

mutual
/-- A document whose numbers read back as themselves and whose objects keep their keys in order. -/
def wellFormed : Json → Bool
  | .number n => decide n.WellFormed
  | .array items => wellFormedItems items
  | .object fs => decide (Sorted fs) && wellFormedFields fs
  | .null | .bool _ | .string _ => true
def wellFormedItems : List Json → Bool
  | [] => true
  | x :: xs => wellFormed x && wellFormedItems xs
def wellFormedFields : List (String × Json) → Bool
  | [] => true
  | (_, v) :: fs => wellFormed v && wellFormedFields fs
end

@[simp] theorem wellFormedItems_iff (xs : List Json) : wellFormedItems xs ↔ ∀ x ∈ xs, x.wellFormed := by
  induction xs with
  | nil => simp [wellFormedItems]
  | cons x xs ih => simp [wellFormedItems, ih]

@[simp] theorem wellFormedFields_iff (fs : List (String × Json)) :
    wellFormedFields fs ↔ ∀ e ∈ fs, e.2.wellFormed := by
  induction fs with
  | nil => simp [wellFormedFields]
  | cons e fs ih => obtain ⟨k, v⟩ := e; simp [wellFormedFields, ih]

@[simp] theorem wellFormed_null : Json.null.wellFormed := rfl

@[simp] theorem wellFormed_string (s : String) : (Json.string s).wellFormed := rfl

@[simp] theorem wellFormed_array (items : List Json) :
    (Json.array items).wellFormed ↔ ∀ x ∈ items, x.wellFormed := by
  simp [wellFormed]

@[simp] theorem wellFormed_object (fs : List (String × Json)) :
    (Json.object fs).wellFormed ↔ Sorted fs ∧ ∀ e ∈ fs, e.2.wellFormed := by
  simp [wellFormed]

/-! ## Number literals -/

theorem span_isDigit_of_all {d : List Char} (h : ∀ c ∈ d, c.isDigit) : d.span Char.isDigit = (d, []) := by
  rw [List.span_eq_take_drop, List.takeWhile_eq_self_iff.2 h, List.dropWhile_eq_nil_iff.2 h]

/-- Digits followed by a text that does not start with one are read as those digits. -/
theorem span_isDigit_append_of_all {d z : List Char} (h : ∀ c ∈ d, c.isDigit)
    (hz : ∀ c ∈ z.head?, c.isDigit = false) : (d ++ z).span Char.isDigit = (d, z) := by
  simp only [List.span_eq_take_drop, Prod.mk.injEq]
  induction d with
  | nil =>
    cases z with
    | nil => simp
    | cons c z => simp [List.takeWhile_cons, List.dropWhile_cons, hz c rfl]
  | cons c d ih =>
    have ⟨hd, ht⟩ := ih fun x hx => h x (List.mem_cons_of_mem _ hx)
    simp [List.takeWhile_cons, List.dropWhile_cons, h c (List.mem_cons_self _ _), hd, ht]

theorem all_isDigit_span_fst (l : List Char) : ∀ c ∈ (l.span Char.isDigit).1, c.isDigit := by
  rw [List.span_eq_take_drop]; exact fun c hc => List.mem_takeWhile_imp hc

theorem signText_fst (signs cs : List Char) :
    (signText signs cs).1 = [] ∨ ∃ c ∈ signs, (signText signs cs).1 = [c] := by
  cases cs with
  | nil => exact .inl rfl
  | cons c r => by_cases h : c ∈ signs <;> simp [signText, h]

theorem signText_spec (signs cs : List Char) :
    (signText signs cs).1 ++ (signText signs cs).2 = cs ∧
      ((signText signs cs).1 = [] → ∀ c ∈ cs.head?, c ∉ signs) := by
  cases cs with
  | nil => simp [signText]
  | cons c r => by_cases h : c ∈ signs <;> simp [signText, h]

/-- What `fracText` reads: nothing, or a point and at least one digit. -/
theorem fracText_shape {x frac y : List Char} (h : fracText x = some (frac, y)) :
    frac = [] ∨ ∃ d, frac = '.' :: d ∧ d ≠ [] ∧ ∀ c ∈ d, c.isDigit := by
  cases x with
  | nil => cases h; exact .inl rfl
  | cons c r =>
    simp only [fracText] at h
    split_ifs at h with hc hd
    · obtain ⟨rfl, -⟩ := Prod.mk.inj (Option.some.inj h)
      exact .inr ⟨_, rfl, hd, all_isDigit_span_fst r⟩
    · exact .inl (Prod.mk.inj (Option.some.inj h)).1.symm

/-- What `expText` reads: nothing, or an `e`, an optional sign and at least one digit. -/
theorem expText_shape {x exp y : List Char} (h : expText x = some (exp, y)) :
    exp = [] ∨ ∃ e s d, exp = e :: s ++ d ∧ (e = 'e' ∨ e = 'E') ∧ (s = [] ∨ ∃ c ∈ ['+', '-'], s = [c]) ∧
      d ≠ [] ∧ ∀ c ∈ d, c.isDigit := by
  cases x with
  | nil => cases h; exact .inl rfl
  | cons e r =>
    simp only [expText] at h
    split_ifs at h with he hd
    · obtain ⟨rfl, -⟩ := Prod.mk.inj (Option.some.inj h)
      exact .inr ⟨e, _, _, rfl, he, signText_fst _ r, hd, all_isDigit_span_fst _⟩
    · exact .inl (Prod.mk.inj (Option.some.inj h)).1.symm

theorem signText_digit {signs : List Char} (hs : ∀ c ∈ signs, c.isDigit = false) {c : Char}
    (hc : c.isDigit) (r : List Char) : signText signs (c :: r) = ([], c :: r) := by
  have : c ∉ signs := fun h => by simp [hs c h] at hc
  simp [signText, this]

theorem expText_self {x exp y : List Char} (h : expText x = some (exp, y)) : expText exp = some (exp, []) := by
  rcases expText_shape h with rfl | ⟨e, s, d, rfl, he, hs, hd, hdig⟩
  · rfl
  · have hsd : signText ['+', '-'] (s ++ d) = (s, d) := by
      rcases hs with rfl | ⟨c, hc, rfl⟩
      · obtain ⟨x, xs, rfl⟩ := List.exists_cons_of_ne_nil hd
        exact signText_digit (by decide) (hdig x (List.mem_cons_self _ _)) xs
      · simp [signText, hc]
    simp only [List.cons_append, expText, if_pos he, hsd, span_isDigit_of_all hdig, if_neg hd]

/-- **A number literal the reader accepted reads back alone as itself.** -/
theorem numberText_self {cs t r : List Char} (h : numberText cs = some (t, r)) : numberText t = some (t, []) := by
  simp only [numberText] at h
  split_ifs at h with hint
  obtain ⟨⟨frac, r₃⟩, hf, h⟩ := Option.bind_eq_some.1 h
  obtain ⟨⟨exp, r₄⟩, he, h⟩ := Option.map_eq_some'.1 h
  obtain ⟨rfl, -⟩ := Prod.mk.inj h
  have hdig := all_isDigit_span_fst (signText ['-'] cs).2
  obtain ⟨x, xs, hx⟩ := List.exists_cons_of_ne_nil (not_or.1 hint).1
  have hexp : ∀ c ∈ exp.head?, c = 'e' ∨ c = 'E' := by
    rcases expText_shape he with rfl | ⟨e, s, d, rfl, he, -⟩
    · simp
    · simpa using he
  have hfe : ∀ c ∈ (frac ++ exp).head?, c.isDigit = false := by
    rcases fracText_shape hf with rfl | ⟨d, rfl, -⟩
    · intro c hc; rcases hexp c (by simpa using hc) with rfl | rfl <;> rfl
    · intro c hc; cases hc; rfl
  have h₁ : signText ['-'] ((signText ['-'] cs).1 ++ (x :: xs ++ (frac ++ exp))) =
      ((signText ['-'] cs).1, x :: xs ++ (frac ++ exp)) := by
    rcases signText_fst ['-'] cs with hs | ⟨c, hc, hs⟩
    · rw [hs]; exact signText_digit (by decide) (hdig x (by rw [hx]; exact List.mem_cons_self _ _)) _
    · rw [hs]; simp [signText, List.mem_singleton.1 hc]
  have h₃ : fracText (frac ++ exp) = some (frac, exp) := by
    rcases fracText_shape hf with rfl | ⟨d, rfl, hd, hdd⟩
    · cases exp with
      | nil => rfl
      | cons c r => rcases hexp c rfl with rfl | rfl <;> rfl
    · have hz : ∀ c ∈ exp.head?, c.isDigit = false := fun c hc => by rcases hexp c hc with rfl | rfl <;> rfl
      simp only [List.cons_append, fracText, if_pos rfl, span_isDigit_append_of_all hdd hz, if_neg hd, if_true]
  rw [hx] at hint hdig ⊢
  simp only [numberText, List.append_assoc, h₁, span_isDigit_append_of_all hdig hfe, hint, if_false, h₃,
    Option.some_bind, expText_self he, Option.map_some']

theorem numberOfText_wellFormed {cs t r : List Char} (h : numberText cs = some (t, r)) :
    (numberOfText t).WellFormed := by
  have hself := numberText_self h
  by_cases h1 : t.head? = some '-'
  · simp only [numberOfText, if_pos h1]
    split_ifs with h2
    · obtain ⟨-, hpos, hle⟩ := h2
      show -2 ^ 63 ≤ -(digitsVal t.tail : Int) ∧ -(digitsVal t.tail : Int) < 0
      omega
    · exact ⟨hself, by simp only [numberOfText, if_pos h1, if_neg h2]⟩
  · simp only [numberOfText, if_neg h1]
    split_ifs with h2
    · exact h2.2
    · exact ⟨hself, by simp only [numberOfText, if_neg h1, if_neg h2]⟩

/-! ## What the reader builds -/

/-- `parseValue n` builds only well-formed documents. -/
def BuildsValues (n : Nat) : Prop := ∀ cs j r, parseValue n cs = some (j, r) → j.wellFormed

/-- `parseItems n` builds only well-formed arrays from well-formed items read so far. -/
def BuildsItems (n : Nat) : Prop :=
  ∀ acc cs j r, (∀ x ∈ acc, x.wellFormed) → parseItems n acc cs = some (j, r) → j.wellFormed

/-- `parseFields n` builds only well-formed objects from well-formed fields read so far. -/
def BuildsFields (n : Nat) : Prop :=
  ∀ acc cs j r, Sorted acc → (∀ e ∈ acc, e.2.wellFormed) → parseFields n acc cs = some (j, r) → j.wellFormed

theorem buildsValues_succ {n : Nat} (hi : BuildsItems n) (hf : BuildsFields n) : BuildsValues (n + 1) := by
  intro cs j r h
  simp only [parseValue] at h
  split at h
  · cases h
  next c rest _ =>
    by_cases hq : c = '"'
    · rw [if_pos hq] at h
      obtain ⟨_, -, h⟩ := Option.map_eq_some'.1 h; cases h; rfl
    rw [if_neg hq] at h
    by_cases ha : c = '['
    · rw [if_pos ha] at h
      split at h
      · split_ifs at h
        · cases h; rfl
        · exact hi [] _ _ _ (by simp) h
      · exact hi [] _ _ _ (by simp) h
    rw [if_neg ha] at h
    by_cases ho : c = '\x7b'
    · rw [if_pos ho] at h
      split at h
      · split_ifs at h
        · cases h; rfl
        · exact hf [] _ _ _ List.Pairwise.nil (by simp) h
      · exact hf [] _ _ _ List.Pairwise.nil (by simp) h
    rw [if_neg ho] at h
    by_cases hnull : (c :: rest).take 4 = "null".toList
    · rw [if_pos hnull] at h; cases h; rfl
    rw [if_neg hnull] at h
    by_cases htrue : (c :: rest).take 4 = "true".toList
    · rw [if_pos htrue] at h; cases h; rfl
    rw [if_neg htrue] at h
    by_cases hfalse : (c :: rest).take 5 = "false".toList
    · rw [if_pos hfalse] at h; cases h; rfl
    rw [if_neg hfalse] at h
    obtain ⟨⟨t, r'⟩, ht, h⟩ := Option.map_eq_some'.1 h
    cases h
    simpa [wellFormed] using numberOfText_wellFormed ht

theorem buildsItems_succ {n : Nat} (hv : BuildsValues n) (hi : BuildsItems n) : BuildsItems (n + 1) := by
  intro acc cs j r hacc h
  simp only [parseItems] at h
  split at h
  · rename_i v r' hpv
    have hacc' : ∀ x ∈ v :: acc, x.wellFormed := fun x hx => by
      rcases List.mem_cons.1 hx with rfl | hx
      exacts [hv _ _ _ hpv, hacc x hx]
    split at h
    · exact hi _ _ _ _ hacc' h
    · cases h; exact (wellFormed_array _).2 fun x hx => hacc' x (List.mem_reverse.1 hx)
    · cases h
  · cases h

theorem buildsFields_succ {n : Nat} (hv : BuildsValues n) (hf : BuildsFields n) : BuildsFields (n + 1) := by
  intro acc cs j r hs hacc h
  simp only [parseFields] at h
  split at h
  · split at h
    · rename_i k _ _
      split at h
      · split at h
        · rename_i v r' hpv
          have hs' := hs.insert k v
          have hacc' : ∀ e ∈ insert k v acc, e.2.wellFormed := fun e he => by
            rcases mem_insert he with rfl | he
            exacts [hv _ _ _ hpv, hacc e he]
          split at h
          · exact hf _ _ _ _ hs' hacc' h
          · cases h; exact (wellFormed_object _).2 ⟨hs', hacc'⟩
          · cases h
        · cases h
      · cases h
    · cases h
  · cases h

theorem parsed_wellFormed : ∀ n, BuildsValues n ∧ BuildsItems n ∧ BuildsFields n
  | 0 => ⟨(fun _ _ _ h => by cases h), (fun _ _ _ _ _ h => by cases h), fun _ _ _ _ _ _ h => by cases h⟩
  | n + 1 =>
    have ⟨hv, hi, hf⟩ := parsed_wellFormed n
    ⟨buildsValues_succ hi hf, buildsItems_succ hv hi, buildsFields_succ hv hf⟩

/-- **`parse_json_str` builds only well-formed documents.** -/
theorem parse_wellFormed {s : String} {j : Json} (h : parse s = some j) : j.wellFormed := by
  simp only [parse] at h
  split at h
  · split_ifs at h
    cases h
    exact (parsed_wellFormed _).1 _ _ _ (by assumption)
  · cases h

/-! ## Merge patch -/

theorem sorted_fields {d : Json} (h : d.wellFormed) : Sorted d.fields := by
  cases d with
  | object fs => exact ((wellFormed_object fs).1 h).1
  | _ => exact List.Pairwise.nil

theorem getD_get?_wellFormed {fs : List (String × Json)} (h : ∀ e ∈ fs, e.2.wellFormed) (k : String) :
    ((get? fs k).getD .null).wellFormed := by
  cases hk : get? fs k with
  | none => rfl
  | some v => exact h _ (mem_of_get?_eq_some hk)

/-- Merging patch fields keeps every field well formed, when merging each patch value does. -/
theorem mergeFields_wellFormed (ps : List (String × Json))
    (hps : ∀ e ∈ ps, e.2.wellFormed ∧ ∀ d : Json, d.wellFormed → (mergePatch d e.2).wellFormed) :
    ∀ fs : List (String × Json), (∀ e ∈ fs, e.2.wellFormed) → ∀ e ∈ mergeFields fs ps, e.2.wellFormed := by
  induction ps with
  | nil => intro fs hfs; rwa [mergeFields]
  | cons p ps ih =>
    obtain ⟨k, v⟩ := p
    intro fs hfs
    rw [mergeFields]
    refine ih (fun e he => hps e (List.mem_cons_of_mem _ he)) _ fun e he => ?_
    split_ifs at he
    · exact hfs e ((remove_sublist k fs).subset he)
    · rcases mem_insert he with rfl | he
      exacts [(hps _ (List.mem_cons_self _ _)).2 _ (getD_get?_wellFormed hfs k), hfs e he]

/-- **`json_patch::merge` of well-formed documents is well formed.** -/
theorem mergePatch_wellFormed :
    ∀ patch doc : Json, doc.wellFormed → patch.wellFormed → (mergePatch doc patch).wellFormed
  | .object ps, doc, hd, hp => by
    obtain ⟨hsort, hps⟩ := (wellFormed_object ps).1 hp
    have hdoc : Sorted doc.fields ∧ ∀ e ∈ doc.fields, e.2.wellFormed := by
      cases doc with
      | object fs => exact (wellFormed_object fs).1 hd
      | _ => exact ⟨List.Pairwise.nil, by simp [fields]⟩
    rw [mergePatch_object, wellFormed_object]
    exact ⟨Sorted.mergeFields hdoc.1 ps, mergeFields_wellFormed ps
      (fun e he => ⟨hps e he, fun d hd' => mergePatch_wellFormed e.2 d hd' (hps e he)⟩) _ hdoc.2⟩
  | .null, _, _, hp | .bool _, _, _, hp | .number _, _, _, hp | .string _, _, _, hp | .array _, _, _, hp => hp
termination_by patch => sizeOf patch
decreasing_by
  have := List.sizeOf_lt_of_mem he
  obtain ⟨k, v⟩ := e
  simp at this ⊢; omega

end Json

end FlowCore
