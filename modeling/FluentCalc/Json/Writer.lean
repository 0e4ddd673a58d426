/-
# Writing JSON

Plain values as JSON text, in one line or spread over lines with two spaces for
a level. Non-ASCII characters stand for themselves; quotes, backslashes and the
control characters below U+0020 are escaped. Doubles that are not finite are
written as the words `NaN`, `Infinity` and `-Infinity`, which are no JSON.

Keys are texts in JSON. Numbers, truth values and null become the texts that
they are written as; no other value is a key.
-/

import FluentCalc.Text.Quoted
import FluentCalc.Value.Basic

namespace FluentCalc.Json

open Text

/-- How a character is written inside a JSON string. -/
def escaped (c : Char) : List Char :=
  if c == '\x22' || c == '\\' then ['\\', c]
  else if c == '\n' then ['\\', 'n']
  else if c == '\r' then ['\\', 'r']
  else if c == '\t' then ['\\', 't']
  else if c == '\x08' then ['\\', 'b']
  else if c == '\x0c' then ['\\', 'f']
  else if c.toNat < 0x20 then '\\' :: 'u' :: hex 4 c.toNat
  else [c]

/-- A JSON string. -/
def string (s : String) : List Char :=
  '\x22' :: s.toList.flatMap escaped ++ ['\x22']

/-- Why a value has no JSON text. -/
inductive WriteFault
  | key (kind : String)
  | value (kind : String)
deriving DecidableEq

/-- The wording of a fault. -/
def WriteFault.message : WriteFault → String
  | key kind => "keys must be str, int, float, bool or None, not " ++ kind
  | value kind => "Object of type " ++ kind ++ " is not JSON serializable"

/-- The text of a value that is a literal or a number. -/
def scalar? : Value → Option (List Char)
  | .null => some "null".toList
  | .bool b => some (if b then "true".toList else "false".toList)
  | .int n => some (integerText n).toList
  | .num x => some (Layout.json.text x).toList
  | _ => none

/-- The text of a key. -/
def key (k : Value) : Except WriteFault (List Char) :=
  match k with
  | .text s => .ok (string s)
  | k =>
    match scalar? k with
    | some text => .ok (string (String.ofList text))
    | none => .error (.key k.kindName)

/-- How containers are laid out. -/
structure Style where
  /-- Whether items stand on lines of their own. -/
  spread : Bool

/-- A line break and the indentation of a level, or what stands for them in one
line. -/
def Style.break (style : Style) (level : Nat) (otherwise : List Char) : List Char :=
  if style.spread then '\n' :: List.replicate (2 * level) ' ' else otherwise

/-- Texts with a comma between them, each on its own line when spread. -/
def commas (style : Style) (level : Nat) : List (List Char) → List Char
  | [] => []
  | [item] => item
  | item :: rest => item ++ ',' :: style.break level [' '] ++ commas style level rest

/-- A container with its items between brackets. An empty one is never
spread. -/
def container (style : Style) (level : Nat) (opening closing : Char)
    (items : List (List Char)) : List Char :=
  match items with
  | [] => [opening, closing]
  | items =>
    opening :: style.break (level + 1) [] ++ commas style (level + 1) items ++
      style.break level [] ++ [closing]

mutual

/-- The text of a plain value at a level. -/
def write (style : Style) (level : Nat) : Value → Except WriteFault (List Char)
  | .text s => .ok (string s)
  | .list items => do
    return container style level '[' ']' (← writeItems style level items)
  | .tuple items => do
    return container style level '[' ']' (← writeItems style level items)
  | .mapping entries => do
    return container style level '\x7b' '\x7d' (← writeEntries style level entries)
  | value =>
    match scalar? value with
    | some text => .ok text
    | none => .error (.value value.kindName)

/-- The texts of the items of a list. -/
def writeItems (style : Style) (level : Nat) : List Value → Except WriteFault (List (List Char))
  | [] => .ok []
  | item :: rest => do
    let first ← write style (level + 1) item
    return first :: (← writeItems style level rest)

/-- The texts of the entries of a mapping. -/
def writeEntries (style : Style) (level : Nat) :
    List (Value × Value) → Except WriteFault (List (List Char))
  | [] => .ok []
  | (k, value) :: rest => do
    let name ← key k
    let text ← write style (level + 1) value
    return (name ++ ':' :: ' ' :: text) :: (← writeEntries style level rest)

end

/-- The JSON text of a plain value. -/
def text (pretty : Bool) (value : Value) : Except WriteFault String := do
  return String.ofList (← write ⟨pretty⟩ 0 value)

end FluentCalc.Json
