import FlowCore.BTreeMap
import Mathlib.Data.String.Basic

/-!
# JSON documents: `serde_json::Value` and `doc::HeapNode`

The capture helpers handle documents as `doc::HeapNode`s (parsed into a memtable's arena) and
serialize them with `serde_json`; neither crate is in this repository. A document is modelled as a
tree whose objects are `BTreeMap`s (`HeapNode` keeps its fields sorted by property, as
`serde_json::Map` does), so object lookups and updates are those of `FlowCore.BTreeMap`.

Numbers keep the three cases `json::Number::from` distinguishes (types.rs:124-127): an unsigned or
a signed integer, or a float. A float is kept as written; nothing modelled does arithmetic on one.
`serde_json` reads a float into an `f64`, refusing one out of its range, and writes the `f64` back;
neither is modelled, so the results about text are stated for documents without floats
(`floatFree`).

`render` is `serde_json::to_string`: compact, no whitespace, fields in key order, and the string
escapes of `serde_json`'s formatter.
-/

namespace FlowCore

/-- A JSON number, as `json::Number` classifies it (types.rs:124-127). -/
inductive Number where
  /-- `Number::Unsigned`. -/
  | unsigned (n : Nat)
  /-- `Number::Signed`: a negative integer. -/
  | signed (n : Int)
  /-- `Number::Float`, as the document wrote it. -/
  | float (text : String)
deriving DecidableEq, Repr

/-- A JSON document. -/
inductive Json where
  | null
  | bool (b : Bool)
  | number (n : Number)
  | string (s : String)
  | array (items : List Json)
  | object (fields : List (String × Json))
deriving Repr, Inhabited

/-- A number's text. -/
def Number.render : Number → String
  | .unsigned n => toString n
  | .signed n => toString n
  | .float text => text

namespace Json

mutual
/-- `DecidableEq` for the nested `Json` (Lean 4.14 cannot derive it). -/
def decEq : (a b : Json) → Decidable (a = b)
  | .null, .null => isTrue rfl
  | .bool a, .bool b => if h : a = b then isTrue (h ▸ rfl) else isFalse fun e => h (bool.inj e)
  | .number a, .number b => if h : a = b then isTrue (h ▸ rfl) else isFalse fun e => h (number.inj e)
  | .string a, .string b => if h : a = b then isTrue (h ▸ rfl) else isFalse fun e => h (string.inj e)
  | .array a, .array b =>
    match decEqItems a b with
    | isTrue h => isTrue (h ▸ rfl)
    | isFalse h => isFalse fun e => h (array.inj e)
  | .object a, .object b =>
    match decEqFields a b with
    | isTrue h => isTrue (h ▸ rfl)
    | isFalse h => isFalse fun e => h (object.inj e)
  | .null, .bool _ | .null, .number _ | .null, .string _ | .null, .array _ | .null, .object _
  | .bool _, .null | .bool _, .number _ | .bool _, .string _ | .bool _, .array _ | .bool _, .object _
  | .number _, .null | .number _, .bool _ | .number _, .string _ | .number _, .array _
  | .number _, .object _ | .string _, .null | .string _, .bool _ | .string _, .number _
  | .string _, .array _ | .string _, .object _ | .array _, .null | .array _, .bool _
  | .array _, .number _ | .array _, .string _ | .array _, .object _ | .object _, .null
  | .object _, .bool _ | .object _, .number _ | .object _, .string _ | .object _, .array _ =>
    isFalse Json.noConfusion
def decEqItems : (a b : List Json) → Decidable (a = b)
  | [], [] => isTrue rfl
  | [], _ :: _ | _ :: _, [] => isFalse List.noConfusion
  | x :: xs, y :: ys =>
    match decEq x y, decEqItems xs ys with
    | isTrue h1, isTrue h2 => isTrue (h1 ▸ h2 ▸ rfl)
    | isFalse h1, _ => isFalse fun e => h1 (List.cons.inj e).1
    | _, isFalse h2 => isFalse fun e => h2 (List.cons.inj e).2
def decEqFields : (a b : List (String × Json)) → Decidable (a = b)
  | [], [] => isTrue rfl
  | [], _ :: _ | _ :: _, [] => isFalse List.noConfusion
  | (k, x) :: xs, (l, y) :: ys =>
    if hk : k = l then
      match decEq x y, decEqFields xs ys with
      | isTrue h1, isTrue h2 => isTrue (hk ▸ h1 ▸ h2 ▸ rfl)
      | isFalse h1, _ => isFalse fun e => h1 (Prod.mk.inj (List.cons.inj e).1).2
      | _, isFalse h2 => isFalse fun e => h2 (List.cons.inj e).2
    else isFalse fun e => hk (Prod.mk.inj (List.cons.inj e).1).1
end

instance : DecidableEq Json := decEq

/-- `Value::is_null`. -/
def isNull : Json → Bool
  | .null => true
  | _ => false

/-- An object's fields; `[]` for every other document. -/
def fields : Json → List (String × Json)
  | .object fs => fs
  | _ => []

@[simp] theorem isNull_iff (v : Json) : v.isNull = true ↔ v = .null := by
  cases v <;> simp [isNull]

@[simp] theorem fields_object (fs : List (String × Json)) : (Json.object fs).fields = fs := rfl

/-! ## `serde_json::to_string` -/

/-- Four lowercase hex digits, for `\u00XX`. -/
def hex4 (n : Nat) : String :=
  String.mk ((List.range 4).reverse.map fun i => Nat.digitChar (n / 16 ^ i % 16))

/-- One character of a string literal, escaped as `serde_json`'s `CharEscape` does. -/
def escapeChar (c : Char) : String :=
  if c = '"' then "\\\""
  else if c = '\\' then "\\\\"
  else if c = '\n' then "\\n"
  else if c = '\r' then "\\r"
  else if c = '\t' then "\\t"
  else if c.toNat = 8 then "\\b"
  else if c.toNat = 12 then "\\f"
  else if c.toNat < 32 then "\\u" ++ hex4 c.toNat
  else c.toString

/-- A string literal. -/
def quote (s : String) : String := "\"" ++ String.join (s.toList.map escapeChar) ++ "\""

mutual
/-- `serde_json::to_string`: compact, fields in key order. -/
def render : Json → String
  | .null => "null"
  | .bool true => "true"
  | .bool false => "false"
  | .number n => n.render
  | .string s => quote s
  | .array items => "[" ++ renderItems items ++ "]"
  | .object fs => "\x7b" ++ renderFields fs ++ "\x7d"
def renderItems : List Json → String
  | [] => ""
  | [x] => render x
  | x :: xs => render x ++ "," ++ renderItems xs
def renderFields : List (String × Json) → String
  | [] => ""
  | [(k, v)] => quote k ++ ":" ++ render v
  | (k, v) :: fs => quote k ++ ":" ++ render v ++ "," ++ renderFields fs
end

mutual
/-- A document without floats. `render` writes a float by the text it was read from, where
`serde_json` writes the `f64` it holds (`1e2` as `100.0`), so the two agree on every document
without floats. -/
def floatFree : Json → Bool
  | .number (.float _) => false
  | .array items => floatFreeItems items
  | .object fs => floatFreeFields fs
  | _ => true
def floatFreeItems : List Json → Bool
  | [] => true
  | x :: xs => floatFree x && floatFreeItems xs
def floatFreeFields : List (String × Json) → Bool
  | [] => true
  | (_, v) :: fs => floatFree v && floatFreeFields fs
end

example : render (.object [("a", .number (.unsigned 1)), ("b", .array [.null, .string "x\"y"])]) =
    "\x7b\"a\":1,\"b\":[null,\"x\\\"y\"]\x7d" := by decide

end Json

end FlowCore
