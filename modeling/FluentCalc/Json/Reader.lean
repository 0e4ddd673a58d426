/-
# Reading JSON

A reader for JSON texts that are one value with white space around it. It also
takes the words `NaN`, `Infinity` and `-Infinity`. A number is an integer
unless it has a point or an exponent. When a key occurs twice in an object, the
last value counts and the first place.

The parts of a value are read off the front of a text, and what is left comes
back with them. The number of steps is bounded by a parameter, for which twice
the length of the text is enough: every second step takes a character.
-/

import FluentCalc.Decimal.Numeral
import FluentCalc.Value.Mapping

namespace FluentCalc.Json

open Text

/-- Why a text is not read. -/
inductive ReadFault
  /-- It is not JSON. -/
  | malformed
  /-- An integer in it has more digits than are converted. -/
  | tooManyDigits (count : Nat)
deriving DecidableEq

/-- The wording of the complaint about an integer with too many digits. -/
def digitComplaint (count : Nat) : String :=
  "Exceeds the limit (" ++ integerText digitLimit ++ " digits) for integer string conversion: " ++
    "value has " ++ integerText count ++
    " digits; use sys.set_int_max_str_digits() to increase the limit"

/-- A part read off the front of a text, and the text that is left. -/
abbrev Reading (α : Type) := Except ReadFault (α × List Char)

/-- White space of JSON. -/
def isSpace (c : Char) : Bool :=
  c == ' ' || c == '\t' || c == '\n' || c == '\r'

/-- A text without the white space at its front. -/
def skipSpace (text : List Char) : List Char :=
  text.dropWhile isSpace

/-- The value of a hexadecimal digit of ASCII. -/
def hexDigit? (c : Char) : Option Nat :=
  if '0' ≤ c && c ≤ '9' then some (c.toNat - 0x30)
  else if 'a' ≤ c && c ≤ 'f' then some (c.toNat - 0x57)
  else if 'A' ≤ c && c ≤ 'F' then some (c.toNat - 0x37)
  else none

/-- The number that a run of hexadecimal digits stands for; nothing if one of
them is no digit. -/
def hexValue? (digits : List Char) : Option Nat :=
  digits.foldl (fun total c => do return 16 * (← total) + (← hexDigit? c)) (some 0)

/-- Take four hexadecimal digits off the front of a text. -/
def hexFour? (text : List Char) : Option (Nat × List Char) :=
  if (text.take 4).length = 4 then
    (hexValue? (text.take 4)).map fun n => (n, text.drop 4)
  else none

/-- Whether a number is the first half of a surrogate pair. -/
def isHighHalf (n : Nat) : Bool := 0xd800 ≤ n && n ≤ 0xdbff

/-- Whether a number is the second half of a surrogate pair. -/
def isLowHalf (n : Nat) : Bool := 0xdc00 ≤ n && n ≤ 0xdfff

/-- The character of a code point; a half of a pair on its own is replaced. -/
def character (n : Nat) : Char :=
  if isHighHalf n || isLowHalf n then '\ufffd' else Char.ofNat n

/-- Take the part of a numeric escape behind `\u` off the front of a text: four
digits, or two such escapes that are the halves of a pair. -/
def unicodeEscape? (text : List Char) : Option (Char × List Char) :=
  match hexFour? text with
  | none => none
  | some (high, rest) =>
    match rest with
    | '\\' :: 'u' :: tail =>
      match hexFour? tail with
      | some (low, rest') =>
        if isHighHalf high && isLowHalf low then
          some (Char.ofNat (0x10000 + (high - 0xd800) * 0x400 + (low - 0xdc00)), rest')
        else some (character high, rest)
      | none => some (character high, rest)
    | _ => some (character high, rest)

/-- The character that a short escape stands for. -/
def shortEscape? : Char → Option Char
  | '\x22' => some '\x22'
  | '\\' => some '\\'
  | '/' => some '/'
  | 'b' => some '\x08'
  | 'f' => some '\x0c'
  | 'n' => some '\n'
  | 'r' => some '\r'
  | 't' => some '\t'
  | _ => none

/-- Read the inside of a string up to its closing quote. Each step reads one
character or escape; there are fewer than `fuel` of them. -/
def readString : (fuel : Nat) → List Char → Reading (List Char)
  | 0, _ => .error .malformed
  | _, [] => .error .malformed
  | fuel + 1, c :: rest =>
    if c == '\x22' then .ok ([], rest)
    else if c == '\\' then
      match rest with
      | [] => .error .malformed
      | 'u' :: digits =>
        match unicodeEscape? digits with
        | some (d, rest) => (readString fuel rest).map fun (cs, rest) => (d :: cs, rest)
        | none => .error .malformed
      | e :: rest =>
        match shortEscape? e with
        | some d => (readString fuel rest).map fun (cs, rest) => (d :: cs, rest)
        | none => .error .malformed
    else if c.toNat < 0x20 then .error .malformed
    else (readString fuel rest).map fun (cs, rest) => (c :: cs, rest)

/-- Whether a character is a digit of ASCII. -/
def isAsciiDigit (c : Char) : Bool := '0' ≤ c && c ≤ '9'

/-- Take the digits in front of the point off the front of a text: a zero, or
digits that do not begin with one. -/
def wholeDigits? : List Char → Option (List Char × List Char)
  | '0' :: rest => some (['0'], rest)
  | text =>
    let digits := text.takeWhile isAsciiDigit
    if digits.isEmpty then none else some (digits, text.dropWhile isAsciiDigit)

/-- Take a point and digits off the front of a text, if they are there. -/
def fraction : List Char → List Char × List Char
  | '.' :: rest =>
    let digits := rest.takeWhile isAsciiDigit
    if digits.isEmpty then ([], '.' :: rest) else ('.' :: digits, rest.dropWhile isAsciiDigit)
  | text => ([], text)

/-- Take an exponent off the front of a text, if it is there. -/
def exponentPart : List Char → List Char × List Char
  | [] => ([], [])
  | mark :: rest =>
    if mark == 'e' || mark == 'E' then
      let (sign, body) := match rest with
        | '+' :: body => (['+'], body)
        | '-' :: body => (['-'], body)
        | body => ([], body)
      let digits := body.takeWhile isAsciiDigit
      if digits.isEmpty then ([], mark :: rest)
      else (mark :: sign ++ digits, body.dropWhile isAsciiDigit)
    else ([], mark :: rest)

/-- Read a number. -/
def readNumber (text : List Char) : Reading Value :=
  let (sign, body) := match text with
    | '-' :: body => (['-'], body)
    | body => ([], body)
  match wholeDigits? body with
  | none => .error .malformed
  | some (digits, rest) =>
    let (tail, rest) := fraction rest
    let (power, rest) := exponentPart rest
    if tail.isEmpty && power.isEmpty then
      if digitLimit < digits.length then .error (.tooManyDigits digits.length)
      else
        let n : Int := digitsValue digits
        .ok (.int (if sign.isEmpty then n else -n), rest)
    else
      match Numeral.ofChars? (sign ++ digits ++ tail ++ power) with
      | some n => .ok (.num n.toDouble, rest)
      | none => .error .malformed

/-- The words that are values. -/
def words : List (List Char × Value) := [
  ("null".toList, .null), ("true".toList, .bool true), ("false".toList, .bool false),
  ("NaN".toList, .num .nan), ("Infinity".toList, .num (.infinite false)),
  ("-Infinity".toList, .num (.infinite true))]

/-- Read a value that is no string and no container. -/
def readScalar (text : List Char) : Reading Value :=
  match words.find? fun word => word.1.isPrefixOf text with
  | some (word, value) => .ok (value, text.drop word.length)
  | none => readNumber text

mutual

/-- Read a value that begins at the front of a text, in fewer than `fuel`
steps. -/
def readValue : (fuel : Nat) → List Char → Reading Value
  | 0, _ => .error .malformed
  | fuel + 1, text =>
    match text with
    | '\x22' :: rest =>
      (readString (rest.length + 1) rest).map fun (cs, rest) => (.text (String.ofList cs), rest)
    | '[' :: rest =>
      match skipSpace rest with
      | ']' :: rest => .ok (.list [], rest)
      | rest => (readItems fuel rest).map fun (items, rest) => (.list items, rest)
    | '\x7b' :: rest =>
      match skipSpace rest with
      | '\x7d' :: rest => .ok (.mapping [], rest)
      | rest => (readEntries fuel rest).map fun (entries, rest) =>
          (Value.ofEntries entries, rest)
    | text => readScalar text

/-- Read the items of a list and its closing bracket. -/
def readItems : (fuel : Nat) → List Char → Except ReadFault (List Value × List Char)
  | 0, _ => .error .malformed
  | fuel + 1, text => do
    let (item, rest) ← readValue fuel text
    match skipSpace rest with
    | ',' :: rest =>
      let (items, rest) ← readItems fuel (skipSpace rest)
      return (item :: items, rest)
    | ']' :: rest => return ([item], rest)
    | _ => .error .malformed

/-- Read the entries of an object and its closing bracket. -/
def readEntries : (fuel : Nat) → List Char →
    Except ReadFault (List (Value × Value) × List Char)
  | 0, _ => .error .malformed
  | fuel + 1, text => do
    match text with
    | '\x22' :: rest =>
      let (name, rest) ← readString (rest.length + 1) rest
      match skipSpace rest with
      | ':' :: rest =>
        let (value, rest) ← readValue fuel (skipSpace rest)
        let entry := (Value.text (String.ofList name), value)
        match skipSpace rest with
        | ',' :: rest =>
          let (entries, rest) ← readEntries fuel (skipSpace rest)
          return (entry :: entries, rest)
        | '\x7d' :: rest => return ([entry], rest)
        | _ => .error .malformed
      | _ => .error .malformed
    | _ => .error .malformed

end

/-- Read a text that is one JSON value. -/
def read (text : List Char) : Except ReadFault Value := do
  let (value, rest) ← readValue (2 * text.length + 2) (skipSpace text)
  match skipSpace rest with
  | [] => return value
  | _ => .error .malformed

end FluentCalc.Json
