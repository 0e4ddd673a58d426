/-
# Tags of YAML

Every node has a tag that says what kind of value it stands for. A plain scalar
without a written tag gets one from its text: that is what makes `yes` a truth
value, `017` an octal number and `1:30` a number in base sixty, while `1e3`,
which has no point, is a text.
-/

import FluentCalc.Value.Basic

namespace FluentCalc.Yaml

/-- A kind of node. -/
inductive Tag
  | null
  | bool
  | int
  | float
  | binary
  | timestamp
  | omap
  | pairs
  | set
  | str
  | seq
  | map
  /-- The key under which mappings are merged in. -/
  | merge
  /-- The key of the default value. -/
  | value
  | other (name : String)
deriving DecidableEq

namespace Tag

/-- The part that the names of the common tags begin with. -/
def commonPart : String := "tag:yaml.org,2002:"

/-- The tags that have a common name, with the last part of it. -/
def common : List (String × Tag) := [
  ("null", null), ("bool", bool), ("int", int), ("float", float), ("binary", binary),
  ("timestamp", timestamp), ("omap", omap), ("pairs", pairs), ("set", set), ("str", str),
  ("seq", seq), ("map", map), ("merge", merge), ("value", value)]

/-- The tag of a name. -/
def ofName (name : String) : Tag :=
  match common.find? fun entry => commonPart ++ entry.1 == name with
  | some entry => entry.2
  | none => other name

end Tag

namespace Plain

/-- A digit of ASCII. -/
def isDigit (c : Char) : Bool := c.isDigit

/-- A digit or an underscore. -/
def isDigitOrUnderscore (c : Char) : Bool := c.isDigit || c == '_'

/-- Take a sign off the front of a text, if there is one. -/
def afterSign : List Char → List Char
  | '-' :: rest => rest
  | '+' :: rest => rest
  | rest => rest

/-- Whether a text is an exponent with a sign, or nothing. -/
def isExponent : List Char → Bool
  | [] => true
  | mark :: sign :: digits =>
    (mark == 'e' || mark == 'E') && (sign == '-' || sign == '+') && !digits.isEmpty &&
      digits.all isDigit
  | _ => false

/-- What is left of a text behind pieces `:N` of a number in base sixty; nothing
if there is no such piece. -/
def afterSixties? : List Char → Option (List Char)
  | ':' :: a :: b :: rest =>
    if '0' ≤ a && a ≤ '5' && b.isDigit then some ((afterSixties? rest).getD rest)
    else if a.isDigit then some ((afterSixties? (b :: rest)).getD (b :: rest))
    else none
  | [':', a] => if a.isDigit then some [] else none
  | _ => none

/-- Whether a text without its sign is a number with a point. -/
def isPointed (text : List Char) : Bool :=
  match text with
  | [] => false
  | d :: _ =>
    d.isDigit &&
      match text.dropWhile isDigitOrUnderscore with
      | '.' :: rest => isExponent (rest.dropWhile isDigitOrUnderscore)
      | rest =>
        match afterSixties? rest with
        | some ('.' :: rest) => rest.all isDigitOrUnderscore
        | _ => false

/-- Whether a text is a number with a point or one of the words for numbers that
are not finite. -/
def isFloat (text : List Char) : Bool :=
  isPointed (afterSign text) ||
    [".inf", ".Inf", ".INF"].contains (String.ofList (afterSign text)) ||
    [".nan", ".NaN", ".NAN"].contains (String.ofList text) ||
    match text with
    | '.' :: d :: rest => d.isDigit && isExponent (rest.dropWhile isDigitOrUnderscore)
    | _ => false

/-- Whether a text is not empty and all its characters pass a test. -/
def isRunOf (p : Char → Bool) (text : List Char) : Bool :=
  !text.isEmpty && text.all p

/-- Whether a text is an integer: binary, octal, decimal, hexadecimal or in base
sixty. -/
def isInt (text : List Char) : Bool :=
  match afterSign text with
  | ['0'] => true
  | '0' :: 'b' :: rest => isRunOf (fun c => c == '0' || c == '1' || c == '_') rest
  | '0' :: 'x' :: rest =>
    isRunOf (fun c => c.isDigit || ('a' ≤ c && c ≤ 'f') || ('A' ≤ c && c ≤ 'F') || c == '_') rest
  | '0' :: rest => isRunOf (fun c => ('0' ≤ c && c ≤ '7') || c == '_') rest
  | d :: rest =>
    d.isDigit &&
      match rest.dropWhile isDigitOrUnderscore with
      | [] => true
      | rest => afterSixties? rest == some []
  | [] => false

/-- The words for truth values. -/
def boolWords : List String := [
  "yes", "Yes", "YES", "no", "No", "NO", "true", "True", "TRUE", "false", "False", "FALSE",
  "on", "On", "ON", "off", "Off", "OFF"]

/-- The words for null. -/
def nullWords : List String := ["~", "null", "Null", "NULL", ""]

/-- The parts of a date and time as they are written. -/
structure Stamp where
  year : List Char
  month : List Char
  day : List Char
  /-- Hour, minute and second, the fraction of a second, and the zone: nothing,
  the letter Z, or a sign with hours and minutes. -/
  time : Option (List Char × List Char × List Char × List Char ×
    Option (Option (Bool × List Char × List Char)))

/-- Take from `least` to `most` digits off the front of a text. -/
def digits? (least most : Nat) (text : List Char) : Option (List Char × List Char) :=
  let taken := (text.take most).takeWhile isDigit
  if taken.length < least then none else some (taken, text.drop taken.length)

/-- Take a character off the front of a text. -/
def expect? (c : Char) : List Char → Option (List Char)
  | d :: rest => if d == c then some rest else none
  | [] => none

/-- Read a zone behind white space, to the end of a text. -/
def zone? (text : List Char) : Option (Option (Option (Bool × List Char × List Char))) :=
  match text with
  | [] => some none
  | _ =>
    match text.dropWhile fun c => c == ' ' || c == '\t' with
    | ['Z'] => some (some none)
    | sign :: rest =>
      if sign == '-' || sign == '+' then do
        let (hours, rest) ← digits? 1 2 rest
        match rest with
        | [] => some (some (some (sign == '-', hours, [])))
        | _ =>
          let (minutes, rest) ← digits? 2 2 (← expect? ':' rest)
          if rest.isEmpty then some (some (some (sign == '-', hours, minutes))) else none
      else none
    | [] => none

/-- Read a date, with or without a time. -/
def stamp? (text : List Char) : Option Stamp := do
  let (year, rest) ← digits? 4 4 text
  let (month, rest) ← digits? 1 2 (← expect? '-' rest)
  let (day, rest) ← digits? 1 2 (← expect? '-' rest)
  match rest with
  | [] => some ⟨year, month, day, none⟩
  | mark :: rest =>
    let rest ← if mark == 'T' || mark == 't' then some rest
      else if mark == ' ' || mark == '\t' then
        some (rest.dropWhile fun c => c == ' ' || c == '\t')
      else none
    let (hour, rest) ← digits? 1 2 rest
    let (minute, rest) ← digits? 2 2 (← expect? ':' rest)
    let (second, rest) ← digits? 2 2 (← expect? ':' rest)
    let (fraction, rest) := match rest with
      | '.' :: rest => (rest.takeWhile isDigit, rest.dropWhile isDigit)
      | rest => ([], rest)
    some ⟨year, month, day, some (hour, minute, second, fraction, ← zone? rest)⟩

/-- Whether a text is a date or a date and time. A date alone needs two digits
for the month and the day. -/
def isTimestamp (text : List Char) : Bool :=
  match stamp? text with
  | some stamp => stamp.time.isSome || (stamp.month.length == 2 && stamp.day.length == 2)
  | none => false

/-- The tag of a plain scalar. -/
def tag (text : List Char) : Tag :=
  if boolWords.contains (String.ofList text) then .bool
  else if isFloat text then .float
  else if isInt text then .int
  else if text == ['<', '<'] then .merge
  else if nullWords.contains (String.ofList text) then .null
  else if isTimestamp text then .timestamp
  else if text == ['='] then .value
  else if [['!'], ['&'], ['*']].contains text then .other (Tag.commonPart ++ "yaml")
  else .str

end Plain

end FluentCalc.Yaml
