import Mathlib.Data.Nat.Digits
import FlowCore.Json.WellFormed

/-!
# Reading back what is written: `parse_json_str (to_string v) = v`

The capture writes every state update as text (`serde_json::to_string` of the reduced state,
protocol.rs:158-165), and the store's merge operator, outside this repository, reads it back
(`FlowCore.Capture.RocksDB`). This module proves the two agree: `render` followed by `parse` is
the identity on every well-formed document, and no other document is read back as itself.

| here | there |
| --- | --- |
| `Number.WellFormed`, `wellFormed` | what a `serde_json::Value` can hold: integers in range, object keys in order |
| `Delimited` | the text after a value inside an array, an object, or at the end of a document |
| `strChar_escapeChar`, `parseStr_quote` | one escaped character, and a whole string literal, read back |
| `numberText_append`, `numberText_render` | a number literal read back up to the text after it |
| `ReadsValues`, `ReadsItems`, `ReadsFields` | what `parseValue`, `parseItems`, `parseFields` read back at a given fuel |
| `parse_render`, `wellFormed_iff_parse_render` | the round trip, which is `serde_json`'s for documents without floats |

A document is well formed when each of its numbers reads back as itself (an integer in the range
of its case, or a float whose text is a number literal that does not read as an integer) and each
of its objects has its keys strictly increasing, as a `serde_json::Map` keeps them.

The readers recurse on fuel, so the round trip is proved by induction on the fuel: each reader
reads back at `n + 1` what the readers it calls read back at `n` (`readsValues_succ`,
`readsItems_succ`, `readsFields_succ`). The fuel `parse` gives, one unit per character, is enough
because every nested value's text is shorter than its parent's.
-/

namespace FlowCore

namespace Json

/-- The text after a value: nothing, or the separator or bracket that follows a value inside an
array or an object. -/
def Delimited (rest : List Char) : Prop := ∀ c ∈ rest.head?, c = ',' ∨ c = ']' ∨ c = '\x7d'

theorem Delimited.cases {rest : List Char} (h : Delimited rest) :
    rest = [] ∨ ∃ c r, rest = c :: r ∧ (c = ',' ∨ c = ']' ∨ c = '\x7d') := by
  cases rest with
  | nil => exact .inl rfl
  | cons c r => exact .inr ⟨c, r, rfl, h c rfl⟩

theorem skipWs_cons {c : Char} (hc : ¬(c = ' ' ∨ c = '\t' ∨ c = '\n' ∨ c = '\r')) (cs : List Char) :
    skipWs (c :: cs) = c :: cs := by
  simp only [skipWs, if_neg hc]

/-! ## Strings -/

theorem hexVal_digitChar : ∀ d < 16, hexVal (Nat.digitChar d) = some d := by decide

theorem hex4_data (n : Nat) : (hex4 n).data =
    [Nat.digitChar (n / 4096 % 16), Nat.digitChar (n / 256 % 16), Nat.digitChar (n / 16 % 16),
      Nat.digitChar (n % 16)] := by
  simp [hex4, List.range, List.range.loop]

theorem hex4Val_hex4 {n : Nat} (h : n < 65536) :
    hex4Val (Nat.digitChar (n / 4096 % 16)) (Nat.digitChar (n / 256 % 16))
      (Nat.digitChar (n / 16 % 16)) (Nat.digitChar (n % 16)) = some n := by
  simp only [hex4Val, hexVal_digitChar _ (Nat.mod_lt _ (by decide : 16 > 0)), Option.pure_def,
    Option.bind_eq_bind, Option.some_bind, Option.some.injEq]
  omega

/-- **One escaped character reads back**: `strChar` undoes each case of `escapeChar`. -/
theorem strChar_escapeChar (c : Char) (r : List Char) :
    strChar ((escapeChar c).data ++ r) = some (c, r) := by
  have hc : ∀ d : Nat, c.toNat = d → c = Char.ofNat d := fun d h => by rw [← h, Char.ofNat_toNat]
  by_cases h1 : c = '"'
  · subst h1; rfl
  by_cases h2 : c = '\\'
  · subst h2; rfl
  by_cases h3 : c = '\n'
  · subst h3; rfl
  by_cases h4 : c = '\r'
  · subst h4; rfl
  by_cases h5 : c = '\t'
  · subst h5; rfl
  by_cases h6 : c.toNat = 8
  · rw [hc 8 h6]; rfl
  by_cases h7 : c.toNat = 12
  · rw [hc 12 h7]; rfl
  rw [escapeChar, if_neg h1, if_neg h2, if_neg h3, if_neg h4, if_neg h5, if_neg h6, if_neg h7]
  by_cases h8 : c.toNat < 32
  · rw [if_pos h8]
    simp only [strChar, String.data_append, hex4_data, List.cons_append, List.nil_append, unicodeEscape,
      hex4Val_hex4 (show c.toNat < 65536 by omega), Option.some_bind,
      show ¬ (55296 ≤ c.toNat ∧ c.toNat < 56320) by omega, show ¬ (56320 ≤ c.toNat ∧ c.toNat < 57344) by omega,
      if_false, Char.ofNat_toNat]
    rfl
  · rw [if_neg h8]
    show strChar (c :: r) = some (c, r)
    simp only [strChar, if_neg h2, if_neg h8]

/-- An escaped character is written as at least one character, the first not a quote: a quote
alone would read back as a quote, which `escapeChar` escapes. -/
theorem escapeChar_data (c : Char) : ∃ x xs, (escapeChar c).data = x :: xs ∧ x ≠ '"' := by
  have h := strChar_escapeChar c []
  rcases hd : (escapeChar c).data with _ | ⟨x, xs⟩
  · rw [hd] at h; cases h
  · refine ⟨x, xs, rfl, fun hx => ?_⟩
    subst hx
    rw [hd, List.append_nil, show strChar ('"' :: xs) = some ('"', xs) from rfl] at h
    obtain ⟨rfl, rfl⟩ := Prod.mk.inj (Option.some.inj h)
    exact absurd hd (by decide)

theorem length_le_escaped (s : List Char) :
    s.length ≤ (s.map fun c => (escapeChar c).data).flatten.length := by
  induction s with
  | nil => simp
  | cons c s ih =>
    obtain ⟨x, xs, hx, -⟩ := escapeChar_data c
    rw [List.map_cons, List.flatten_cons, List.length_append, hx, List.length_cons, List.length_cons]
    omega

theorem parseStr_escaped (rest : List Char) : ∀ (s acc : List Char) (n : Nat), s.length < n →
    parseStr n acc ((s.map fun c => (escapeChar c).data).flatten ++ '"' :: rest) =
      some (String.mk (acc.reverse ++ s), rest)
  | [], acc, n + 1, _ => by simp [parseStr]
  | c :: s, acc, n + 1, h => by
    obtain ⟨x, xs, hx, hq⟩ := escapeChar_data c
    have hc := strChar_escapeChar c ((s.map fun c => (escapeChar c).data).flatten ++ '"' :: rest)
    rw [hx, List.cons_append] at hc
    rw [List.map_cons, List.flatten_cons, hx, List.cons_append, List.cons_append, List.append_assoc,
      parseStr, if_neg hq, hc, Option.some_bind]
    exact (parseStr_escaped rest s (c :: acc) n (by simpa using h)).trans (by simp)

theorem quote_data (s : String) : (quote s).data =
    '"' :: (s.data.map fun c => (escapeChar c).data).flatten ++ ['"'] := by
  simp [quote, Function.comp_def]

/-- **A string literal reads back**, with the fuel `parseValue` gives it. -/
theorem parseStr_quote (s : String) (rest : List Char) :
    parseStr ((quote s).data.tail ++ rest).length [] ((quote s).data.tail ++ rest) = some (s, rest) := by
  have hl := length_le_escaped s.data
  rw [quote_data, List.cons_append, List.tail_cons, List.append_assoc, List.singleton_append,
    parseStr_escaped rest s.data [] _ (by rw [List.length_append, List.length_cons]; omega)]
  rfl

/-! ## Numbers -/

theorem span_isDigit_append {rest : List Char} (h : Delimited rest) (l : List Char) :
    (l ++ rest).span Char.isDigit = ((l.span Char.isDigit).1, (l.span Char.isDigit).2 ++ rest) := by
  simp only [List.span_eq_take_drop, Prod.mk.injEq]
  induction l with
  | nil =>
    rcases h.cases with rfl | ⟨c, r, rfl, hc⟩
    · exact ⟨rfl, rfl⟩
    · rcases hc with rfl | rfl | rfl <;> exact ⟨rfl, rfl⟩
  | cons c l ih =>
    by_cases hc : c.isDigit <;> simp [List.takeWhile_cons, List.dropWhile_cons, hc, ih.1, ih.2]

theorem signText_append {rest : List Char} (h : Delimited rest) (signs : List Char)
    (hs : ∀ c ∈ signs, c = '+' ∨ c = '-') (l : List Char) :
    signText signs (l ++ rest) = ((signText signs l).1, (signText signs l).2 ++ rest) := by
  cases l with
  | cons c l => by_cases hc : c ∈ signs <;> simp [signText, hc]
  | nil =>
    rcases h.cases with rfl | ⟨c, r, rfl, hc⟩
    · rfl
    · have : c ∉ signs := fun hm => by
        rcases hs c hm with rfl | rfl <;> rcases hc with h | h | h <;> cases h
      simp [signText, this]

theorem fracText_append {rest : List Char} (h : Delimited rest) (l : List Char) :
    fracText (l ++ rest) = (fracText l).map fun p => (p.1, p.2 ++ rest) := by
  cases l with
  | cons c l =>
    by_cases hc : c = '.'
    · simp only [List.cons_append, fracText, hc, if_true, span_isDigit_append h]
      split_ifs <;> rfl
    · simp [fracText, hc]
  | nil =>
    rcases h.cases with rfl | ⟨c, r, rfl, hc⟩
    · rfl
    · rcases hc with rfl | rfl | rfl <;> rfl

theorem expText_append {rest : List Char} (h : Delimited rest) (l : List Char) :
    expText (l ++ rest) = (expText l).map fun p => (p.1, p.2 ++ rest) := by
  cases l with
  | cons c l =>
    by_cases hc : c = 'e' ∨ c = 'E'
    · simp only [List.cons_append, expText, hc, if_true, signText_append h ['+', '-'] (by decide),
        span_isDigit_append h]
      split_ifs <;> rfl
    · simp [expText, hc]
  | nil =>
    rcases h.cases with rfl | ⟨c, r, rfl, hc⟩
    · rfl
    · rcases hc with rfl | rfl | rfl <;> rfl

/-- **A number literal stops where its text does**: the text after it, when it is delimited, is
left as it is. -/
theorem numberText_append {rest : List Char} (h : Delimited rest) (cs : List Char) :
    numberText (cs ++ rest) = (numberText cs).map fun p => (p.1, p.2 ++ rest) := by
  simp only [numberText, signText_append h ['-'] (by decide), span_isDigit_append h]
  split_ifs
  · rfl
  · rw [fracText_append h]
    cases fracText (((signText ['-'] cs).2.span Char.isDigit).2) with
    | none => rfl
    | some p => simp [expText_append h, Function.comp_def]

theorem numberText_head {cs t r : List Char} (h : numberText cs = some (t, r)) :
    ∃ c t', t = c :: t' ∧ (c = '-' ∨ c.isDigit) := by
  simp only [numberText] at h
  split_ifs at h with hint
  obtain ⟨⟨frac, r'⟩, -, h⟩ := Option.bind_eq_some.1 h
  obtain ⟨⟨exp, r''⟩, -, h⟩ := Option.map_eq_some'.1 h
  obtain ⟨rfl, -⟩ := Prod.mk.inj h
  obtain ⟨x, xs, hx⟩ := List.exists_cons_of_ne_nil (not_or.1 hint).1
  have hdx : x.isDigit := by
    rw [List.span_eq_take_drop] at hx
    exact List.mem_takeWhile_imp (hx ▸ List.mem_cons_self x xs)
  rcases signText_fst ['-'] cs with hs | ⟨c, hc, hs⟩
  · exact ⟨x, xs ++ frac ++ exp, by rw [hs, hx]; simp, .inr hdx⟩
  · exact ⟨c, x :: xs ++ frac ++ exp, by rw [hs, hx]; simp, .inl (by simpa using hc)⟩

theorem digitChar_isDigit : ∀ d < 10, (Nat.digitChar d).isDigit := by decide

theorem digitChar_sub_zero : ∀ d < 10, (Nat.digitChar d).toNat - '0'.toNat = d := by decide

theorem digitsVal_append_singleton (d : List Char) (c : Char) :
    digitsVal (d ++ [c]) = 10 * digitsVal d + (c.toNat - '0'.toNat) := by
  simp [digitsVal, List.foldl_append]

/-- With enough fuel `Nat.toDigitsCore` writes the decimal digits of `n`, without a leading zero,
before `ds`. -/
theorem toDigitsCore_decimal : ∀ (f n : Nat) (ds : List Char), n < f →
    ∃ d, Nat.toDigitsCore 10 f n ds = d ++ ds ∧ d ≠ [] ∧ (∀ c ∈ d, c.isDigit) ∧
      digitsVal d = n ∧ (d.head? = some '0' → d.length = 1)
  | 0, _, _, h => absurd h (Nat.not_lt_zero _)
  | f + 1, n, ds, h => by
    have hd : n % 10 < 10 := Nat.mod_lt _ (by decide)
    simp only [Nat.toDigitsCore]
    split_ifs with h0
    · refine ⟨[Nat.digitChar (n % 10)], rfl, by simp, by simpa using digitChar_isDigit _ hd, ?_, by simp⟩
      have := digitChar_sub_zero _ hd
      simp only [digitsVal, List.foldl] at this ⊢; omega
    · obtain ⟨d, hds, hne, hdig, hval, hhead⟩ :=
        toDigitsCore_decimal f (n / 10) (Nat.digitChar (n % 10) :: ds) (by omega)
      refine ⟨d ++ [Nat.digitChar (n % 10)], by simp [hds], by simp, ?_, ?_, ?_⟩
      · simp only [List.mem_append, List.mem_singleton]
        rintro c (hc | rfl)
        exacts [hdig c hc, digitChar_isDigit _ hd]
      · rw [digitsVal_append_singleton, hval, digitChar_sub_zero _ hd]; omega
      · obtain ⟨x, xs, rfl⟩ := List.exists_cons_of_ne_nil hne
        intro hx
        have hx' : x = '0' := by simpa using hx
        have hxs : xs = [] := by simpa using hhead (by simp [hx'])
        subst hx' hxs
        exact absurd hval.symm (by simpa [digitsVal] using h0)

theorem toString_decimal (n : Nat) :
    (toString n).data ≠ [] ∧ (∀ c ∈ (toString n).data, c.isDigit) ∧ digitsVal (toString n).data = n ∧
      ((toString n).data.head? = some '0' → (toString n).data.length = 1) := by
  obtain ⟨d, hd, h⟩ := toDigitsCore_decimal (n + 1) n [] (Nat.lt_succ_self n)
  have hd' : (toString n).data = d := hd.trans (List.append_nil d)
  rw [hd']
  exact h

theorem numberText_decimal {d : List Char} (hne : d ≠ []) (hdig : ∀ c ∈ d, c.isDigit)
    (hz : d.head? = some '0' → d.length = 1) :
    numberText d = some (d, []) ∧ numberText ('-' :: d) = some ('-' :: d, []) := by
  obtain ⟨x, xs, rfl⟩ := List.exists_cons_of_ne_nil hne
  have hx : x ∉ ['-'] := fun h => by simp at h; simpa [h] using hdig x (by simp)
  have hint : ¬ ((x :: xs).length > 1 ∧ (x :: xs).head? = some '0') := fun ⟨hl, h0⟩ => by
    simp [hz h0] at hl
  have hs : signText ['-'] (x :: xs) = ([], x :: xs) := by simp only [signText, if_neg hx]
  have hs' : signText ['-'] ('-' :: x :: xs) = (['-'], x :: xs) := by simp [signText]
  simp only [numberText, hs, hs', span_isDigit_of_all hdig, List.cons_ne_nil, false_or, hint, if_false,
    fracText, expText, Option.some_bind, Option.map_some', List.append_nil, List.nil_append,
    List.singleton_append, and_self]

/-- **A well-formed number reads back from its text.** -/
theorem numberText_render {x : Number} (hx : x.WellFormed) :
    numberText x.render.data = some (x.render.data, []) ∧ numberOfText x.render.data = x := by
  match x, hx with
  | .unsigned n, hx =>
    obtain ⟨hne, hdig, hval, hz⟩ := toString_decimal n
    obtain ⟨c, cs, hcs⟩ := List.exists_cons_of_ne_nil hne
    have hhead : (toString n).data.head? ≠ some '-' := fun h => by
      rw [hcs, List.head?_cons, Option.some.injEq] at h
      simpa [h] using hdig c (by simp [hcs])
    have hx : n < 2 ^ 64 := hx
    refine ⟨(numberText_decimal hne hdig hz).1, ?_⟩
    simp only [Number.render, numberOfText, if_neg hhead, List.all_eq_true.2 hdig, hval, hx, and_self,
      if_true]
  | .signed n, ⟨hlo, hhi⟩ =>
    obtain ⟨k, rfl⟩ := Int.eq_negSucc_of_lt_zero hhi
    obtain ⟨hne, hdig, hval, hz⟩ := toString_decimal (k + 1)
    have hdata : (Number.signed (Int.negSucc k)).render.data = '-' :: (toString (k + 1)).data := rfl
    have hk : k + 1 ≤ 2 ^ 63 := by rw [Int.negSucc_coe] at hlo; omega
    rw [hdata]
    refine ⟨(numberText_decimal hne hdig hz).2, ?_⟩
    simp only [numberOfText, List.head?_cons, List.tail_cons, if_true, List.all_eq_true.2 hdig, hval,
      hk, Nat.succ_pos, and_self, Int.negSucc_coe]
  | .float text, hx => exact hx

theorem ne_of_isDigit {c d : Char} (hc : c.isDigit) (hd : d.isDigit = false) : c ≠ d := by
  rintro rfl; simp_all

theorem parseValue_number {c : Char} {t rest : List Char} (hc : c = '-' ∨ c.isDigit)
    (h : numberText (c :: t ++ rest) = some (c :: t, rest)) (n : Nat) :
    parseValue (n + 1) (c :: t ++ rest) = some (.number (numberOfText (c :: t)), rest) := by
  rw [List.cons_append] at h
  rcases hc with rfl | hc
  · simp [parseValue, skipWs, h]
  · have hne : ∀ d : Char, d.isDigit = false → c ≠ d := fun d hd => ne_of_isDigit hc hd
    have hws : ¬(c = ' ' ∨ c = '\t' ∨ c = '\n' ∨ c = '\r') := by
      simp only [not_or]; exact ⟨hne _ rfl, hne _ rfl, hne _ rfl, hne _ rfl⟩
    simp [parseValue, skipWs_cons hws, hne '"' rfl, hne '[' rfl, hne '\x7b' rfl, hne 'n' rfl, hne 't' rfl,
      hne 'f' rfl, h]

/-! ## Documents -/

/-- A well-formed document's text starts with a character that is neither whitespace nor a
closing bracket. -/
theorem render_data_cons {j : Json} (h : j.wellFormed) :
    ∃ c t, (render j).data = c :: t ∧ ¬(c = ' ' ∨ c = '\t' ∨ c = '\n' ∨ c = '\r') ∧ c ≠ ']' := by
  cases j with
  | number x =>
    have hx : x.WellFormed := by simpa [wellFormed] using h
    obtain ⟨c, t, ht, hc⟩ := numberText_head (numberText_render hx).1
    refine ⟨c, t, ht, ?_⟩
    rcases hc with rfl | hc
    · decide
    · have hne : ∀ d : Char, d.isDigit = false → c ≠ d := fun d hd => ne_of_isDigit hc hd
      exact ⟨by simp only [not_or]; exact ⟨hne _ rfl, hne _ rfl, hne _ rfl, hne _ rfl⟩, hne _ rfl⟩
  | bool b => cases b <;> exact ⟨_, _, rfl, by decide⟩
  | null => exact ⟨_, _, rfl, by decide⟩
  | string s => exact ⟨_, _, rfl, by decide⟩
  | array items => exact ⟨_, _, rfl, by decide⟩
  | object fs => exact ⟨_, _, rfl, by decide⟩

theorem renderItems_data_cons (x : Json) (xs : List Json) :
    ∃ t, (renderItems (x :: xs)).data = (render x).data ++ t := by
  cases xs with
  | nil => exact ⟨[], by simp [renderItems]⟩
  | cons y ys => exact ⟨',' :: (renderItems (y :: ys)).data, by simp [renderItems]⟩

theorem renderFields_data_cons (f : String × Json) (fs : List (String × Json)) :
    ∃ t, (renderFields (f :: fs)).data = '"' :: t := by
  cases fs with
  | nil => exact ⟨_, rfl⟩
  | cons g gs => exact ⟨_, rfl⟩

/-- `parseValue n` reads back every well-formed document whose text is shorter than `n`. -/
def ReadsValues (n : Nat) : Prop :=
  ∀ j : Json, j.wellFormed → (render j).length < n → ∀ rest, Delimited rest →
    parseValue n ((render j).data ++ rest) = some (j, rest)

/-- `parseItems n` reads back the rest of a well-formed array, after what it has read. -/
def ReadsItems (n : Nat) : Prop :=
  ∀ (x : Json) (xs acc : List Json), wellFormedItems (x :: xs) →
    (renderItems (x :: xs)).length + 2 ≤ n → ∀ rest,
    parseItems n acc ((renderItems (x :: xs)).data ++ ']' :: rest) = some (.array (acc.reverse ++ x :: xs), rest)

/-- `parseFields n` reads back the rest of a well-formed object, after the fields it has read
when all of them have smaller keys. -/
def ReadsFields (n : Nat) : Prop :=
  ∀ (f : String × Json) (fs acc : List (String × Json)), wellFormedFields (f :: fs) →
    BTreeMap.Sorted (acc ++ f :: fs) → (renderFields (f :: fs)).length + 2 ≤ n → ∀ rest,
    parseFields n acc ((renderFields (f :: fs)).data ++ '\x7d' :: rest) = some (.object (acc ++ f :: fs), rest)

theorem quote_data_cons (s : String) : (quote s).data = '"' :: (quote s).data.tail := by
  rw [quote_data]; rfl

theorem parseValue_array {c : Char} (hws : ¬(c = ' ' ∨ c = '\t' ∨ c = '\n' ∨ c = '\r')) (hbr : c ≠ ']')
    (n : Nat) (u : List Char) : parseValue (n + 1) ('[' :: c :: u) = parseItems n [] (c :: u) := by
  have h : skipWs ('[' :: c :: u) = '[' :: c :: u := skipWs_cons (by decide) _
  simp [parseValue, h, skipWs_cons hws, hbr]

theorem parseValue_string (n : Nat) (r : List Char) :
    parseValue (n + 1) ('"' :: r) = (parseStr r.length [] r).map fun p => (.string p.1, p.2) := by
  simp [parseValue, skipWs]

theorem parseValue_object (n : Nat) (u : List Char) :
    parseValue (n + 1) ('\x7b' :: '"' :: u) = parseFields n [] ('"' :: u) := by
  simp [parseValue, skipWs]

/-- After a field's key, its colon and its value, `parseFields` reads on after a comma and stops
after a closing brace. -/
theorem parseFields_key {n : Nat} {acc : List (String × Json)} {k : String} {r : List Char} {v : Json}
    {c : Char} {r' : List Char} (h : parseValue n r = some (v, c :: r')) (hc : c = ',' ∨ c = '\x7d') :
    parseFields (n + 1) acc ((quote k).data ++ ':' :: r) =
      if c = ',' then parseFields n (BTreeMap.insert k v acc) r'
      else some (.object (BTreeMap.insert k v acc), r') := by
  have hq : skipWs ((quote k).data ++ ':' :: r) = (quote k).data ++ ':' :: r := by
    rw [quote_data_cons, List.cons_append]; exact skipWs_cons (by decide) _
  have hcolon : skipWs (':' :: r) = ':' :: r := skipWs_cons (by decide) r
  rw [parseFields, hq, quote_data_cons, List.cons_append]
  simp only [parseStr_quote, hcolon, h]
  rcases hc with rfl | rfl <;> simp [skipWs]

theorem readsValues_succ {n : Nat} (hi : ReadsItems n) (hf : ReadsFields n) : ReadsValues (n + 1) := by
  intro j hj hlen rest hrest
  match j, hj, hlen with
  | .null, _, _ => simp [render, parseValue, skipWs]
  | .bool true, _, _ => simp [render, parseValue, skipWs]
  | .bool false, _, _ => simp [render, parseValue, skipWs]
  | .number x, hj, _ =>
    have hx : x.WellFormed := by simpa [wellFormed] using hj
    obtain ⟨htext, hval⟩ := numberText_render hx
    obtain ⟨c, t, ht, hc⟩ := numberText_head htext
    have h := numberText_append hrest x.render.data
    rw [htext, ht] at h
    rw [show (render (.number x)).data = c :: t from ht, parseValue_number hc h n, ← ht, hval]
  | .string s, _, _ =>
    rw [show (render (.string s)).data = '"' :: (quote s).data.tail from quote_data_cons s, List.cons_append,
      parseValue_string, parseStr_quote]
    rfl
  | .array [], _, _ => simp [render, renderItems, parseValue, skipWs]
  | .array (x :: xs), hj, hlen =>
    have hwf : wellFormedItems (x :: xs) := by simpa [wellFormed] using hj
    obtain ⟨c, t, hct, hws, hbr⟩ :=
      render_data_cons (by simp only [wellFormedItems, Bool.and_eq_true] at hwf; exact hwf.1)
    obtain ⟨t', ht'⟩ := renderItems_data_cons x xs
    have hdata : (render (.array (x :: xs))).data ++ rest =
        '[' :: ((renderItems (x :: xs)).data ++ ']' :: rest) := by simp [render]
    have hr : (renderItems (x :: xs)).data ++ ']' :: rest = c :: (t ++ t' ++ ']' :: rest) := by
      rw [ht', hct]; simp
    have hlen' : (renderItems (x :: xs)).length + 2 ≤ n := by
      simp [render, show "[".length = 1 from rfl, show "]".length = 1 from rfl] at hlen; omega
    rw [hdata, hr, parseValue_array hws hbr, ← hr, hi x xs [] hwf hlen']
    rfl
  | .object [], _, _ => simp [render, renderFields, parseValue, skipWs]
  | .object (f :: fs), hj, hlen =>
    have hwf : BTreeMap.Sorted (f :: fs) ∧ wellFormedFields (f :: fs) := by simpa [wellFormed] using hj
    obtain ⟨t, ht⟩ := renderFields_data_cons f fs
    have hdata : (render (.object (f :: fs))).data ++ rest =
        '\x7b' :: ((renderFields (f :: fs)).data ++ '\x7d' :: rest) := by simp [render]
    have hlen' : (renderFields (f :: fs)).length + 2 ≤ n := by
      simp [render, show "\x7b".length = 1 from rfl, show "\x7d".length = 1 from rfl] at hlen; omega
    rw [hdata, ht, List.cons_append, parseValue_object, ← List.cons_append, ← ht,
      hf f fs [] hwf.2 hwf.1 hlen']
    rfl

theorem readsItems_succ {n : Nat} (hv : ReadsValues n) (hi : ReadsItems n) : ReadsItems (n + 1) := by
  intro x xs acc hwf hlen rest
  simp only [wellFormedItems, Bool.and_eq_true] at hwf
  cases xs with
  | nil =>
    rw [show renderItems [x] = render x by simp [renderItems]] at hlen ⊢
    rw [parseItems, hv x hwf.1 (by omega) (']' :: rest) (by simp [Delimited])]
    simp [skipWs]
  | cons y ys =>
    have hd : (renderItems (x :: y :: ys)).data ++ ']' :: rest =
        (render x).data ++ ',' :: ((renderItems (y :: ys)).data ++ ']' :: rest) := by simp [renderItems]
    have hl : (renderItems (x :: y :: ys)).length =
        (render x).length + 1 + (renderItems (y :: ys)).length := by
      simp [renderItems, show ",".length = 1 from rfl]
    rw [hd, parseItems, hv x hwf.1 (by omega) _ (by simp [Delimited])]
    simp [skipWs, hi y ys (x :: acc) hwf.2 (by omega)]

theorem readsFields_succ {n : Nat} (hv : ReadsValues n) (hf : ReadsFields n) : ReadsFields (n + 1) := by
  rintro ⟨k, v⟩ fs acc hwf hsort hlen rest
  simp only [wellFormedFields, Bool.and_eq_true] at hwf
  have hlt : ∀ e ∈ acc, e.1 < k := fun e he =>
    (List.pairwise_append.1 hsort).2.2 e he (k, v) (List.mem_cons_self _ _)
  cases fs with
  | nil =>
    have hd : (renderFields [(k, v)]).data ++ '\x7d' :: rest =
        (quote k).data ++ ':' :: ((render v).data ++ '\x7d' :: rest) := by simp [renderFields]
    have hl : (renderFields [(k, v)]).length = (quote k).length + 1 + (render v).length := by
      simp [renderFields, show ",".length = 1 from rfl, show ":".length = 1 from rfl]
    rw [hd, parseFields_key (hv v hwf.1 (by omega) _ (by simp [Delimited])) (.inr rfl)]
    simp [BTreeMap.insert_of_forall_lt v hlt]
  | cons g gs =>
    have hd : (renderFields ((k, v) :: g :: gs)).data ++ '\x7d' :: rest =
        (quote k).data ++ ':' :: ((render v).data ++ ',' :: ((renderFields (g :: gs)).data ++ '\x7d' :: rest)) := by
      simp [renderFields]
    have hl : (renderFields ((k, v) :: g :: gs)).length =
        (quote k).length + 1 + (render v).length + 1 + (renderFields (g :: gs)).length := by
      simp [renderFields, show ",".length = 1 from rfl, show ":".length = 1 from rfl]
    have hs : BTreeMap.Sorted (acc ++ [(k, v)] ++ g :: gs) := by
      rwa [List.append_assoc, List.singleton_append]
    rw [hd, parseFields_key (hv v hwf.1 (by omega) _ (by simp [Delimited])) (.inl rfl), if_pos rfl,
      BTreeMap.insert_of_forall_lt v hlt, hf g gs _ hwf.2 hs (by omega), List.append_assoc, List.singleton_append]

theorem reads_all : ∀ n, ReadsValues n ∧ ReadsItems n ∧ ReadsFields n
  | 0 => ⟨fun _ _ h => absurd h (Nat.not_lt_zero _), fun _ _ _ _ h => absurd h (by omega),
      fun _ _ _ _ _ h => absurd h (by omega)⟩
  | n + 1 =>
    have ⟨hv, hi, hf⟩ := reads_all n
    ⟨readsValues_succ hi hf, readsItems_succ hv hi, readsFields_succ hv hf⟩

/-- **`parse_json_str` reads back `serde_json::to_string`'s text** of every well-formed document. -/
theorem parse_render {j : Json} (h : j.wellFormed) : parse (render j) = some j := by
  have hr := (reads_all ((render j).length + 1)).1 j h (Nat.lt_succ_self _) [] (by simp [Delimited])
  rw [List.append_nil] at hr
  simp [parse, hr, skipWs]

example : parse (render (.object [("a", .array [.number (.signed (-3)), .string "x\n\"y"]), ("b", .null)])) =
    some (.object [("a", .array [.number (.signed (-3)), .string "x\n\"y"]), ("b", .null)]) := by decide

end Json

end FlowCore
