import FlowCore.Json.Value

/-!
# Reading JSON text: `MemTable::parse_json_str` and `serde_json::from_str`

Connector frames carry documents and state updates as JSON text, which `recv_connector_captured`
(protocol.rs:325-327), `recv_connector_checkpoint` (:366-368) and `recv_client_open` (:52-53) parse;
a text that is not one JSON value fails the call. This is an RFC 8259 reader in the way `serde_json`
reads: insignificant whitespace, `\uXXXX` escapes with surrogate pairs, and a repeated object key
keeps its last value. An integer is `Unsigned` below `2^64`; a negative one is `Signed` down to
`-2^63`; any other number (a fraction, an exponent, `-0`, or out of range) is a float.

Recursion is on fuel: the reader is given one unit per character, and every value it reads
consumes at least one.
-/

namespace FlowCore.Json

/-- Insignificant whitespace. -/
def skipWs : List Char → List Char
  | c :: cs => if c = ' ' ∨ c = '\t' ∨ c = '\n' ∨ c = '\r' then skipWs cs else c :: cs
  | [] => []

/-- The value of a hex digit. -/
def hexVal (c : Char) : Option Nat :=
  if '0' ≤ c ∧ c ≤ '9' then some (c.toNat - '0'.toNat)
  else if 'a' ≤ c ∧ c ≤ 'f' then some (c.toNat - 'a'.toNat + 10)
  else if 'A' ≤ c ∧ c ≤ 'F' then some (c.toNat - 'A'.toNat + 10)
  else none

/-- Four hex digits. -/
def hex4Val (a b c d : Char) : Option Nat := do
  return (← hexVal a) * 4096 + (← hexVal b) * 256 + (← hexVal c) * 16 + (← hexVal d)

/-- The character a one-letter escape `\e` stands for; `\u` is read apart. -/
def escapeOf (e : Char) : Option Char :=
  if e = '"' then some '"'
  else if e = '\\' then some '\\'
  else if e = '/' then some '/'
  else if e = 'b' then some (Char.ofNat 8)
  else if e = 'f' then some (Char.ofNat 12)
  else if e = 'n' then some '\n'
  else if e = 'r' then some '\r'
  else if e = 't' then some '\t'
  else none

/-- A `\uXXXX` escape after its `\u`: the character and the text after it. A high surrogate must
be followed by the escape of a low one, and the pair stands for one character. -/
def unicodeEscape : List Char → Option (Char × List Char)
  | a :: b :: c :: d :: cs =>
    (hex4Val a b c d).bind fun v =>
      if 0xD800 ≤ v ∧ v < 0xDC00 then
        match cs with
        | x :: y :: e :: f :: g :: h :: cs =>
          if x = '\\' ∧ y = 'u' then
            (hex4Val e f g h).bind fun lo =>
              if 0xDC00 ≤ lo ∧ lo < 0xE000 then
                some (Char.ofNat (0x10000 + (v - 0xD800) * 0x400 + (lo - 0xDC00)), cs)
              else none
          else none
        | _ => none
      else if 0xDC00 ≤ v ∧ v < 0xE000 then none
      else some (Char.ofNat v, cs)
  | _ => none

/-- One character of a string literal's body, plain or escaped, and the text after it; `none` at
an unknown escape or an unescaped control character. -/
def strChar : List Char → Option (Char × List Char)
  | c :: cs =>
    if c = '\\' then
      match cs with
      | e :: cs => if e = 'u' then unicodeEscape cs else (escapeOf e).map (·, cs)
      | [] => none
    else if c.toNat < 32 then none
    else some (c, cs)
  | [] => none

/-- The body of a string literal after its opening quote, characters kept in reverse in `acc`:
the string and the text after the closing quote. The fuel bounds the characters read; the callers
give one unit per character of the text. -/
def parseStr : Nat → List Char → List Char → Option (String × List Char)
  | 0, _, _ => none
  | n + 1, acc, cs =>
    match cs with
    | c :: r =>
      if c = '"' then some (String.mk acc.reverse, r)
      else (strChar cs).bind fun (c, r) => parseStr n (c :: acc) r
    | [] => none

/-- An optional sign, one of `signs`, at the start of the text, and the rest. -/
def signText (signs : List Char) : List Char → List Char × List Char
  | c :: r => if c ∈ signs then ([c], r) else ([], c :: r)
  | [] => ([], [])

/-- A fraction `.digits` at the start of the text, if any, and the rest; `none` if no digit
follows the point. -/
def fracText : List Char → Option (List Char × List Char)
  | c :: r =>
    if c = '.' then
      let (d, r) := r.span Char.isDigit
      if d = [] then none else some ('.' :: d, r)
    else some ([], c :: r)
  | [] => some ([], [])

/-- An exponent `e±digits` at the start of the text, if any, and the rest; `none` if no digit
follows the `e` and its sign. -/
def expText : List Char → Option (List Char × List Char)
  | e :: r =>
    if e = 'e' ∨ e = 'E' then
      let (s, r) := signText ['+', '-'] r
      let (d, r) := r.span Char.isDigit
      if d = [] then none else some (e :: s ++ d, r)
    else some ([], e :: r)
  | [] => some ([], [])

/-- A number literal's text, then the rest: `-? int frac? exp?`, the integer part without a
leading zero. -/
def numberText (cs : List Char) : Option (List Char × List Char) :=
  let (sign, r) := signText ['-'] cs
  let (int, r) := r.span Char.isDigit
  if int = [] ∨ (int.length > 1 ∧ int.head? = some '0') then none else
  (fracText r).bind fun (frac, r) =>
  (expText r).map fun (exp, r) => (sign ++ int ++ frac ++ exp, r)

/-- The decimal value of a list of digits. -/
def digitsVal (ds : List Char) : Nat := ds.foldl (fun n c => 10 * n + (c.toNat - '0'.toNat)) 0

/-- A number from its literal text. -/
def numberOfText (text : List Char) : Number :=
  if text.head? = some '-' then
    let ds := text.tail
    if ds.all Char.isDigit ∧ 0 < digitsVal ds ∧ digitsVal ds ≤ 2 ^ 63 then .signed (-(digitsVal ds : Int))
    else .float (String.mk text)
  else if text.all Char.isDigit ∧ digitsVal text < 2 ^ 64 then .unsigned (digitsVal text)
  else .float (String.mk text)

mutual
/-- One value after optional whitespace, and the text after it. -/
def parseValue : Nat → List Char → Option (Json × List Char)
  | 0, _ => none
  | n + 1, cs =>
    match skipWs cs with
    | [] => none
    | c :: r =>
      if c = '"' then (parseStr r.length [] r).map fun (s, r) => (.string s, r)
      else if c = '[' then
        match skipWs r with
        | d :: r' => if d = ']' then some (.array [], r') else parseItems n [] r
        | [] => parseItems n [] r
      else if c = '\x7b' then
        match skipWs r with
        | d :: r' => if d = '\x7d' then some (.object [], r') else parseFields n [] r
        | [] => parseFields n [] r
      else if (c :: r).take 4 = "null".toList then some (.null, r.drop 3)
      else if (c :: r).take 4 = "true".toList then some (.bool true, r.drop 3)
      else if (c :: r).take 5 = "false".toList then some (.bool false, r.drop 4)
      else (numberText (c :: r)).map fun (t, r) => (.number (numberOfText t), r)
/-- The items of an array after `[`, read items kept in reverse in `acc`. -/
def parseItems : Nat → List Json → List Char → Option (Json × List Char)
  | 0, _, _ => none
  | n + 1, acc, cs =>
    match parseValue n cs with
    | some (v, r) =>
      match skipWs r with
      | ',' :: r => parseItems n (v :: acc) r
      | ']' :: r => some (.array (v :: acc).reverse, r)
      | _ => none
    | none => none
/-- The members of an object after its opening brace; a repeated key keeps its last value. -/
def parseFields : Nat → List (String × Json) → List Char → Option (Json × List Char)
  | 0, _, _ => none
  | n + 1, acc, cs =>
    match skipWs cs with
    | '"' :: r =>
      match parseStr r.length [] r with
      | some (k, r) =>
        match skipWs r with
        | ':' :: r =>
          match parseValue n r with
          | some (v, r) =>
            match skipWs r with
            | ',' :: r => parseFields n (BTreeMap.insert k v acc) r
            | '\x7d' :: r => some (.object (BTreeMap.insert k v acc), r)
            | _ => none
          | none => none
        | _ => none
      | none => none
    | _ => none
end

/-- `parse_json_str`: the whole text is one JSON value. -/
def parse (s : String) : Option Json :=
  match parseValue (s.length + 1) s.toList with
  | some (v, r) => if skipWs r = [] then some v else none
  | none => none

example : parse "\x7b \"b\": [1, -2, 3.5e1], \"a\": null \x7d" =
    some (.object [("a", .null),
      ("b", .array [.number (.unsigned 1), .number (.signed (-2)), .number (.float "3.5e1")])]) := by
  decide

example : parse "\x7b\"a\":1,\"a\":2\x7d" = some (.object [("a", .number (.unsigned 2))]) := by decide

example : parse "[1,]" = none ∧ parse "01" = none ∧ parse "\"\\ud83d\"" = none := by decide

end FlowCore.Json
