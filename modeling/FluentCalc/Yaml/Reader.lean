/-
# Values of YAML nodes

The node of a document becomes a value. Scalars are converted as their tags
say; sequences become lists and mappings keep the order of their keys. A merge
key puts the entries of other mappings in front of those of its own, so that
the latter win. A key must be a scalar; whatever else a node turns out not to be
is a fault.

Collections are filled level by level, so of two faults that with fewer
collections around it is reported, and of equals the first.
-/

import FluentCalc.Decimal.Numeral
import FluentCalc.Double.Arithmetic
import FluentCalc.Json.Reader
import FluentCalc.Text.Case
import FluentCalc.Text.Lines
import FluentCalc.Value.Mapping
import FluentCalc.Yaml.Document

namespace FluentCalc.Yaml

/-- A conversion that fails with a class and a wording. -/
def complain {α : Type} (kind message : String) : Except Fault α :=
  .error (.conversion kind message)

/-- A text without its underscores. -/
def withoutUnderscores (text : List Char) : List Char :=
  text.filter (· != '_')

/-- A number with its sign. -/
def signed (negative : Bool) (n : Nat) : Int :=
  if negative then -(n : Int) else n

/-- Take a sign off the front of a number, which cannot be empty. -/
def takeSign (text : List Char) : Except Fault (Bool × List Char) :=
  match text with
  | [] => complain "IndexError" "string index out of range"
  | _ => .ok (Numeral.takeSign text)

/-- The value of a digit in a base up to sixteen. -/
def digitIn? (base : Nat) (c : Char) : Option Nat :=
  match (Text.digitValue? c).or (Json.hexDigit? c) with
  | some n => if n < base then some n else none
  | none => none

/-- The base that a letter behind a zero is the mark of. -/
def markedBase? : Char → Option Nat
  | 'b' | 'B' => some 2
  | 'o' | 'O' => some 8
  | 'x' | 'X' => some 16
  | _ => none

/-- Remove the mark of a base. -/
def withoutMark (base : Nat) : List Char → List Char
  | '0' :: mark :: digits =>
    if markedBase? mark = some base then digits else '0' :: mark :: digits
  | digits => digits

/-- The most characters that are shown of a bad integer in quotes. -/
def quotedWidth : Nat := 200

/-- Read an integer in a base. Blank characters, a sign and the mark of the base
may stand in front of its digits. -/
def integerIn (base : Nat) (text : List Char) : Except Fault Int :=
  let (negative, body) := Numeral.takeSign (stripSeed text)
  let digits := withoutMark base body
  let value := digits.foldl (fun total c => do return base * (← total) + (← digitIn? base c))
    (some 0)
  match if digits.isEmpty then none else value with
  | some n =>
    if base = 10 && digitLimit < digits.length then
      complain "ValueError" (Json.digitComplaint digits.length)
    else .ok (signed negative n)
  | none =>
    complain "ValueError" ("invalid literal for int() with base " ++ integerText base ++ ": " ++
      String.ofList ((Text.quoted (String.ofList text)).toList.take quotedWidth))

/-- The number with the given digits in base sixty, least significant last. -/
def sixties (digits : List Int) : Int :=
  digits.foldl (fun total digit => 60 * total + digit) 0

/-- Convert an integer. -/
def integer (text : List Char) : Except Fault Int := do
  let (negative, body) ← takeSign (withoutUnderscores text)
  let magnitude ← match body with
    | [] => complain "IndexError" "string index out of range"
    | ['0'] => pure 0
    | '0' :: 'b' :: digits => integerIn 2 digits
    | '0' :: 'x' :: digits => integerIn 16 digits
    | '0' :: _ => integerIn 8 body
    | _ =>
      if body.contains ':' then do
        pure (sixties (← (Text.splitAt ':' body).mapM (integerIn 10)))
      else integerIn 10 body
  return if negative then -magnitude else magnitude

/-- Convert a part of a number with a point. -/
def decimalPart (text : List Char) : Except Fault Double :=
  match looseNumber? text with
  | some x => .ok x
  | none => complain "ValueError" ("could not convert string to float: " ++
      Text.quoted (String.ofList text))

/-- The sum of parts of a number in base sixty, least significant first, each
with its power of sixty. -/
def sumSixties : (power : Nat) → Double → List Double → Except Fault Double
  | _, total, [] => .ok total
  | power, total, part :: rest =>
    match Double.ofInt? power with
    | some weight => sumSixties (60 * power) (total.add (part.multiply weight)) rest
    | none => complain "OverflowError" "int too large to convert to float"

/-- Convert a number with a point. -/
def decimal (text : List Char) : Except Fault Double := do
  let (negative, body) ← takeSign (Text.lower (withoutUnderscores text))
  let magnitude ← if body == ".inf".toList then pure (Double.infinite false)
    else if body == ".nan".toList then pure Double.nan
    else if body.contains ':' then do
      sumSixties 1 .zero (← (Text.splitAt ':' body).mapM decimalPart).reverse
    else decimalPart body
  return if negative then magnitude.negate else magnitude

/-- Convert a truth value. -/
def truth (text : List Char) : Except Fault Bool :=
  let word := String.ofList (Text.lower text)
  if ["yes", "true", "on"].contains word then .ok true
  else if ["no", "false", "off"].contains word then .ok false
  else complain "KeyError" (Text.quoted word)

/-- The number of days of a month. -/
def daysOfMonth (year month : Nat) : Nat :=
  if month = 2 then
    (if year % 4 = 0 && (year % 100 != 0 || year % 400 = 0) then 29 else 28)
  else if [4, 6, 9, 11].contains month then 30
  else 31

/-- A day of the calendar. -/
def calendarDate (year month day : Nat) : Except Fault Date :=
  if year = 0 then complain "ValueError" "year 0 is out of range"
  else if month < 1 || 12 < month then complain "ValueError" "month must be in 1..12"
  else if day < 1 || daysOfMonth year month < day then
    complain "ValueError" "day is out of range for month"
  else .ok ⟨year, month, day⟩

/-- A zone less than a day away from universal time. -/
def zoneMinutes (negative : Bool) (hours minutes : Nat) : Except Fault Int :=
  let distance := signed negative (60 * hours + minutes)
  if distance.natAbs < 24 * 60 then .ok distance
  else
    let days := (distance * 60).fdiv 86400
    let seconds := (distance * 60).fmod 86400
    complain "ValueError" ("offset must be a timedelta strictly between " ++
      "-timedelta(hours=24) and timedelta(hours=24), not datetime.timedelta(days=" ++
      integerText days ++ (if seconds = 0 then "" else ", seconds=" ++ integerText seconds) ++
      ").")

/-- Convert a date or a date and time. Of a fraction of a second, six digits
count. -/
def moment (text : List Char) : Except Fault Value := do
  match Plain.stamp? text with
  | none => complain "AttributeError" "'NoneType' object has no attribute 'groupdict'"
  | some stamp =>
    let year := Text.digitsValue stamp.year
    let month := Text.digitsValue stamp.month
    let day := Text.digitsValue stamp.day
    match stamp.time with
    | none => return .date (← calendarDate year month day)
    | some (hour, minute, second, fraction, zone) =>
      let zone ← match zone with
        | none => pure none
        | some none => pure (some 0)
        | some (some (negative, hours, minutes)) =>
          some <$> zoneMinutes negative (Text.digitsValue hours) (Text.digitsValue minutes)
      let date ← calendarDate year month day
      let hour := Text.digitsValue hour
      let minute := Text.digitsValue minute
      let second := Text.digitsValue second
      if 24 ≤ hour then complain "ValueError" "hour must be in 0..23"
      else if 60 ≤ minute then complain "ValueError" "minute must be in 0..59"
      else if 60 ≤ second then complain "ValueError" "second must be in 0..59"
      else
        let digits := fraction.take 6
        let microsecond := Text.digitsValue digits * 10 ^ (6 - digits.length)
        return .moment ⟨date, hour, minute, second, microsecond, zone⟩

/-- The six bits of a character of base 64. -/
def sixBits? (c : Char) : Option Nat :=
  if 'A' ≤ c && c ≤ 'Z' then some (c.toNat - 0x41)
  else if 'a' ≤ c && c ≤ 'z' then some (c.toNat - 0x61 + 26)
  else if c.isDigit then some (c.toNat - 0x30 + 52)
  else if c == '+' then some 62
  else if c == '/' then some 63
  else none

/-- The octets of base 64, given the bits left over from the characters so far:
how many characters of a group of four have been read and what they left. Other
characters are passed over; a full padding ends the text. -/
def base64 : (read left pads : Nat) → List Char → Option (List UInt8)
  | read, _, _, [] => if read = 0 then some [] else none
  | read, left, pads, c :: rest =>
    if c == '=' then
      if 2 ≤ read && 4 ≤ read + pads + 1 then some []
      else base64 read left (if 2 ≤ read then pads + 1 else pads) rest
    else
      match sixBits? c with
      | none => base64 read left pads rest
      | some bits =>
        if read = 0 then base64 1 bits 0 rest
        else if read = 1 then
          (base64 2 (bits % 16) 0 rest).map (UInt8.ofNat (left * 4 + bits / 16) :: ·)
        else if read = 2 then
          (base64 3 (bits % 4) 0 rest).map (UInt8.ofNat (left * 16 + bits / 4) :: ·)
        else (base64 0 0 0 rest).map (UInt8.ofNat (left * 64 + bits) :: ·)

/-- Convert a byte string. -/
def octets (text : List Char) : Except Fault (List UInt8) :=
  if text.any fun c => 0x80 ≤ c.toNat then .error .construction
  else
    match base64 0 0 0 text with
    | some octets => .ok octets
    | none => .error .construction

/-- A fault with the number of collections around it. -/
structure Flaw where
  depth : Nat
  fault : Fault

/-- A conversion of nodes. -/
abbrev Conversion (α : Type) := Except Flaw α

namespace Conversion

/-- A conversion of a node in itself. -/
def here {α : Type} : Except Fault α → Conversion α
  | .ok a => .ok a
  | .error fault => .error ⟨0, fault⟩

/-- The conversion of what a collection holds. -/
def inside {α : Type} : Conversion α → Conversion α
  | .ok a => .ok a
  | .error flaw => .error { flaw with depth := flaw.depth + 1 }

/-- Join two conversions, of which the second comes later. -/
def both {α β γ : Type} (make : α → β → γ) : Conversion α → Conversion β → Conversion γ
  | .ok a, .ok b => .ok (make a b)
  | .error flaw, .ok _ => .error flaw
  | .ok _, .error flaw => .error flaw
  | .error first, .error second => .error (if second.depth < first.depth then second else first)

end Conversion

open Conversion

namespace Node

/-- The tag of a node. -/
def tag : Node → Tag
  | scalar tag _ => tag
  | sequence tag _ => tag
  | mapping tag _ => tag

mutual

/-- The text of a scalar. A mapping with a default value has the text of that
value. -/
def scalarText : Node → Except Fault (List Char)
  | scalar _ text => .ok text.toList
  | mapping _ entries => defaultText entries
  | sequence _ _ => .error .construction

/-- The text of the default value among the entries of a mapping. -/
def defaultText : List (Node × Node) → Except Fault (List Char)
  | [] => .error .construction
  | (key, value) :: rest => if key.tag = .value then value.scalarText else defaultText rest

end

/-- The value of a node that stands for a scalar, if its tag is that of a
scalar. -/
def scalarValue (node : Node) : Except Fault Value := do
  match node.tag with
  | .null => do
    let _ ← node.scalarText
    return .null
  | .bool => return .bool (← truth (← node.scalarText))
  | .int => return .int (← integer (← node.scalarText))
  | .float => return .num (← decimal (← node.scalarText))
  | .binary => return .bytes (← octets (← node.scalarText))
  | .timestamp => moment (← node.scalarText)
  | .str => return .text (String.ofList (← node.scalarText))
  | _ => .error .construction

/-- The value of a key, which cannot be a collection. The sign of a default
value is a text here. -/
def keyValue (key : Node) : Except Fault Value :=
  if key.tag = .value then Value.text <$> String.ofList <$> key.scalarText
  else key.scalarValue

mutual

/-- Whether a node can be merged into a mapping: a mapping, or a sequence of
mappings, in which all merge keys refer to such nodes. -/
def isMergeable : Node → Bool
  | mapping _ entries => mergesMappings entries
  | sequence _ items => areMergeable items
  | scalar _ _ => false

/-- Whether nodes are mappings that can be merged. -/
def areMergeable : List Node → Bool
  | [] => true
  | mapping _ entries :: rest => mergesMappings entries && areMergeable rest
  | _ :: _ => false

/-- Whether the merge keys among entries refer to nodes that can be merged. -/
def mergesMappings : List (Node × Node) → Bool
  | [] => true
  | (key, value) :: rest => (key.tag ≠ .merge || value.isMergeable) && mergesMappings rest

end

/-- Keys as a set, each once. -/
def setOf (entries : List (Value × Value)) : Value :=
  match Value.ofEntries entries with
  | .mapping entries => .set (entries.map (·.1))
  | value => value

/-- A collection that is not what its tag says, or a scalar with the tag of a
collection; the others are scalars. -/
def mismatched (node : Node) : Conversion Value :=
  match node.tag with
  | .seq | .omap | .pairs | .map | .set => inside (here (.error .construction))
  | _ => here node.scalarValue

mutual

/-- The value of a node. -/
def toValue : Node → Conversion Value
  | scalar tag text => mismatched (.scalar tag text)
  | sequence tag items =>
    match tag with
    | .seq => inside (Value.list <$> itemValues items)
    | .omap | .pairs => inside (Value.list <$> pairValues items)
    | _ => mismatched (.sequence tag items)
  | mapping tag entries =>
    match tag with
    | .map => inside (Value.ofEntries <$> entryValues entries)
    | .set => inside (setOf <$> entryValues entries)
    | _ => mismatched (.mapping tag entries)

/-- The values of the items of a sequence. -/
def itemValues : List Node → Conversion (List Value)
  | [] => .ok []
  | item :: rest => both List.cons item.toValue (itemValues rest)

/-- The pairs of a sequence of mappings with one entry each. -/
def pairValues : List Node → Conversion (List Value)
  | [] => .ok []
  | mapping _ [(key, value)] :: rest =>
    both List.cons (both (fun a b => .tuple [a, b]) key.toValue value.toValue) (pairValues rest)
  | _ :: _ => here (.error .construction)

/-- The entries of a mapping. Those that are merged in stand in front. -/
def entryValues : List (Node × Node) → Conversion (List (Value × Value))
  | entries =>
    if mergesMappings entries then both List.append (mergedValues entries) (ownValues entries)
    else here (.error .construction)

/-- The entries that are merged into a mapping. -/
def mergedValues : List (Node × Node) → Conversion (List (Value × Value))
  | [] => .ok []
  | (key, value) :: rest =>
    if key.tag = .merge then both List.append value.broughtValues (mergedValues rest)
    else mergedValues rest

/-- The entries that a node brings along when it is merged into a mapping. -/
def broughtValues : Node → Conversion (List (Value × Value))
  | mapping _ entries => both List.append (mergedValues entries) (ownValues entries)
  | sequence _ items => broughtItems items
  | scalar _ _ => .ok []

/-- The entries that a sequence of mappings brings along; the last mapping comes
first. -/
def broughtItems : List Node → Conversion (List (Value × Value))
  | [] => .ok []
  | item :: rest => both List.append (broughtItems rest) item.broughtValues

/-- The entries of a mapping that are not merged in. -/
def ownValues : List (Node × Node) → Conversion (List (Value × Value))
  | [] => .ok []
  | (key, value) :: rest =>
    if key.tag = .merge then ownValues rest
    else both List.cons (both Prod.mk (here key.keyValue) value.toValue) (ownValues rest)

end

end Node

/-- Read a text that holds at most one YAML document. No document is null. -/
def read (text : List Char) : Except Fault Value := do
  match ← document text with
  | none => return .null
  | some node => node.toValue.mapError Flaw.fault

end FluentCalc.Yaml
