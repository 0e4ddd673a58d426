/-
# Values as text

A value has two one-line forms. Its *quoted* form tells texts apart from other
values and is what appears inside containers; its *display* form is the same
except that a text stands for itself.

Integers with very many digits are not written, and neither is what holds one.
The places in records, which are indices and columns, are exempt: they count
the parts of a text and do not come near that many digits.
-/

import FluentCalc.Complaint
import FluentCalc.Text.Quoted
import FluentCalc.Value.Basic

namespace FluentCalc

/-- Why a value has no text. -/
inductive TextFault
  /-- An integer has more digits than are converted. -/
  | tooManyDigits
deriving DecidableEq

/-- The complaint about a value without a text. -/
def TextFault.complaint : TextFault → Complaint
  | tooManyDigits => ⟨"ValueError", some ("Exceeds the limit (" ++ integerText digitLimit ++
      " digits) for integer string conversion; " ++
      "use sys.set_int_max_str_digits() to increase the limit")⟩

/-- Digits of a natural number, with zeros in front up to a width. -/
def paddedNumber (width n : Nat) : String :=
  let digits := Layout.naturalDigits n
  String.ofList (List.replicate (width - digits.length) '0' ++ digits)

namespace Date

/-- Year, month and day divided by hyphens. -/
def text (d : Date) : String :=
  paddedNumber 4 d.year ++ "-" ++ paddedNumber 2 d.month ++ "-" ++ paddedNumber 2 d.day

end Date

namespace Moment

/-- The distance of a zone from universal time as hours and minutes. -/
def zoneText (minutes : Int) : String :=
  (if minutes < 0 then "-" else "+") ++ paddedNumber 2 (minutes.natAbs / 60) ++ ":" ++
    paddedNumber 2 (minutes.natAbs % 60)

/-- Date and time of day, with a fraction of a second and a zone where there is
one. -/
def text (m : Moment) : String :=
  m.date.text ++ " " ++ paddedNumber 2 m.hour ++ ":" ++ paddedNumber 2 m.minute ++ ":" ++
    paddedNumber 2 m.second ++
    (if m.microsecond = 0 then "" else "." ++ paddedNumber 6 m.microsecond) ++
    (m.zone.map zoneText).getD ""

/-- A zone, its distance given as a span of days and seconds. -/
def quotedZone (minutes : Int) : String :=
  if minutes = 0 then "datetime.timezone.utc"
  else
    let seconds := minutes * 60
    let days := seconds.fdiv 86400
    let rest := seconds.fmod 86400
    let span := if days = 0 then "seconds=" ++ integerText rest
      else "days=" ++ integerText days ++
        (if rest = 0 then "" else ", seconds=" ++ integerText rest)
    "datetime.timezone(datetime.timedelta(" ++ span ++ "))"

/-- The quoted form of a moment lists its parts; the seconds are left out when
they and the fraction are zero, and the fraction when it is zero. -/
def quoted (m : Moment) : String :=
  let parts := [m.date.year, m.date.month, m.date.day, m.hour, m.minute] ++
    (if m.microsecond ≠ 0 then [m.second, m.microsecond]
      else if m.second ≠ 0 then [m.second] else [])
  "datetime.datetime(" ++ ", ".intercalate (parts.map fun (n : Nat) => integerText n) ++
    (match m.zone with
      | none => ""
      | some minutes => ", tzinfo=" ++ quotedZone minutes) ++ ")"

end Moment

/-- A byte string between quotes. -/
def quotedBytes (octets : List UInt8) : String :=
  let text := octets.map fun octet => Char.ofNat octet.toNat
  let mark := Text.quoteFor text
  let escape (c : Char) : List Char :=
    if c.toNat < 0x7f then Text.escaped mark c else Text.numericEscape c
  String.ofList ('b' :: mark :: text.flatMap escape ++ [mark])

namespace Value

mutual

/-- The quoted form of a value. -/
def quoted : Value → String
  | null => "None"
  | bool b => if b then "True" else "False"
  | int n => integerText n
  | num x => Layout.standard.text x
  | text s => Text.quoted s
  | list items => "[" ++ ", ".intercalate (quotedItems items) ++ "]"
  | tuple items => match quotedItems items with
    | [item] => "(" ++ item ++ ",)"
    | items => "(" ++ ", ".intercalate items ++ ")"
  | mapping entries => "\x7b" ++ ", ".intercalate (quotedEntries entries) ++ "\x7d"
  | set items => match quotedItems items with
    | [] => "set()"
    | items => "\x7b" ++ ", ".intercalate items ++ "\x7d"
  | bytes octets => quotedBytes octets
  | date d => "datetime.date(" ++ integerText d.year ++ ", " ++ integerText d.month ++ ", " ++
      integerText d.day ++ ")"
  | moment m => m.quoted
  | call name argument column =>
    "CallDescriptor(name=" ++ Text.quoted name ++ ", raw_argument=" ++ argument.quoted ++
      ", col=" ++ quotedColumn column ++ ")"
  | expression seed calls constructor =>
    let tuple := match quotedItems calls with
      | [single] => "(" ++ single ++ ",)"
      | several => "(" ++ ", ".intercalate several ++ ")"
    "ParsedExpression(seed=" ++ seed.quoted ++ ", calls=" ++ tuple ++ ", constructor=" ++
      Text.quoted constructor ++ ")"
  | diagnostic index name status message value =>
    "CallDiagnostic(call_index=" ++ integerText index ++ ", name=" ++ Text.quoted name ++
      ", status=" ++ Text.quoted status ++ ", message=" ++ Text.quoted message ++
      ", value=" ++ value.quoted ++ ")"
  | outcome final diagnostics effects =>
    "EvaluationOutcome(final_value=" ++ final.quoted ++ ", diagnostics=[" ++
      ", ".intercalate (quotedItems diagnostics) ++ "], side_effects=[" ++
      ", ".intercalate (quotedItems effects) ++ "])"
  | fault kind message column =>
    "ParseError(" ++ Text.quoted kind ++ ", " ++ Text.quoted message ++ ", col=" ++
      quotedColumn column ++ ")"

/-- The quoted forms of the items of a container. -/
def quotedItems : List Value → List String
  | [] => []
  | item :: rest => item.quoted :: quotedItems rest

/-- The entries of a mapping, each a key and a value divided by a colon. -/
def quotedEntries : List (Value × Value) → List String
  | [] => []
  | (key, value) :: rest => (key.quoted ++ ": " ++ value.quoted) :: quotedEntries rest

/-- The quoted form of a column that may be unknown. -/
def quotedColumn : Option Int → String
  | none => "None"
  | some n => integerText n

end

/-- The display form of a value. -/
def display : Value → String
  | text s => s
  | date d => d.text
  | moment m => m.text
  | fault _ message _ => message
  | value => value.quoted

/-- The display form of a number as the calculator writes it: whole doubles as
integers. Other values have their usual display form. -/
def numberText : Value → String
  | num x => plainNumber x
  | value => value.display

mutual

/-- Whether a value holds an integer that is too long to be written. -/
def hasLongInteger : Value → Bool
  | int n => isLongInteger n
  | list items | tuple items | set items => anyLongInteger items
  | mapping entries => anyLongEntry entries
  | call _ argument _ => argument.hasLongInteger
  | expression seed calls _ => seed.hasLongInteger || anyLongInteger calls
  | diagnostic _ _ _ _ value => value.hasLongInteger
  | outcome final diagnostics effects =>
    final.hasLongInteger || anyLongInteger diagnostics || anyLongInteger effects
  | _ => false

/-- `hasLongInteger` on the items of a container. -/
def anyLongInteger : List Value → Bool
  | [] => false
  | item :: rest => item.hasLongInteger || anyLongInteger rest

/-- `hasLongInteger` on the keys and values of a mapping. -/
def anyLongEntry : List (Value × Value) → Bool
  | [] => false
  | (key, value) :: rest => key.hasLongInteger || value.hasLongInteger || anyLongEntry rest

end

/-- Write a value in its display form. -/
def display? (value : Value) : Except TextFault String :=
  if value.hasLongInteger then .error .tooManyDigits else .ok value.display

end Value

end FluentCalc
