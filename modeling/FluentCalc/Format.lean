/-
# Formats of data

Data is kept as JSON or as YAML. The format of a text is told by the suffix of
its file name or, failing that, by the characters it begins with. A text that
is said to be JSON and is not is read as YAML, of which JSON is nearly a part.
A text of unknown format stands for itself.
-/

import FluentCalc.Complaint
import FluentCalc.Json.Reader
import FluentCalc.Json.Writer
import FluentCalc.Text.Blank
import FluentCalc.Text.Case
import FluentCalc.Text.Lines
import FluentCalc.Value.Plain
import FluentCalc.Value.Text
import FluentCalc.Yaml.Reader
import FluentCalc.Yaml.Writer

namespace FluentCalc

/-- A format of data. -/
inductive Format
  | json
  | yaml
deriving DecidableEq

namespace Format

/-- The name of a format. -/
def name : Format → String
  | json => "json"
  | yaml => "yaml"

/-- The format of a name. -/
def named? (name : List Char) : Option Format :=
  match String.ofList name with
  | "json" => some json
  | "yaml" => some yaml
  | _ => none

/-- The parts of a path: what stands between slashes, apart from nothing and
from the mark of the same directory. -/
def pathParts (path : List Char) : List (List Char) :=
  (Text.splitAt '/' path).filter fun part => !part.isEmpty && part != ['.']

/-- The suffix of a file name: its last point and what stands behind it, if
neither side of the point is empty. -/
def suffix (name : List Char) : List Char :=
  let tail := (name.reverse.takeWhile (· != '.')).reverse
  if tail.length + 1 < name.length && !tail.isEmpty then '.' :: tail else []

/-- The format that the suffix of a path tells. -/
def ofPath? (path : List Char) : Option Format :=
  match String.ofList (Text.lower (suffix ((pathParts path).getLastD []))) with
  | ".json" => some json
  | ".yaml" => some yaml
  | ".yml" => some yaml
  | _ => none

/-- The format that the first characters of a text tell. -/
def sniff? (text : List Char) : Option Format :=
  let body := Text.stripFront text
  if Yaml.beginsWith "\x7b" body || Yaml.beginsWith "[" body then some json
  else if Yaml.beginsWith "---" body || Yaml.beginsWith "- " body then some yaml
  else none

/-- The format told by a path or else by a text, where they are given. An empty
path tells nothing. -/
def detect? (path text : Option (List Char)) : Option Format :=
  (path.bind ofPath?).or (text.bind sniff?)

end Format

/-- Why a text is not read. -/
inductive ReadFault
  | yaml (fault : Yaml.Fault)
  | tooManyDigits (count : Nat)

/-- The complaint about a text. -/
def ReadFault.complaint : ReadFault → Complaint
  | yaml fault => ⟨fault.kind, fault.message?⟩
  | tooManyDigits count => ⟨"ValueError", some (Json.digitComplaint count)⟩

/-- Read a text as YAML. -/
def readYaml (text : List Char) : Except ReadFault Value :=
  match Yaml.read text with
  | .ok value => .ok value
  | .error fault => .error (.yaml fault)

/-- Read a text as JSON, or as YAML if it is not JSON. -/
def readJson (text : List Char) : Except ReadFault Value :=
  match Json.read text with
  | .ok value => .ok value
  | .error .malformed => readYaml text
  | .error (.tooManyDigits count) => .error (.tooManyDigits count)

/-- The value of a text. The format is taken from the name that is given, or
from the text if the name is missing or empty. -/
def deserialize (text : String) (format : Option String) : Except ReadFault Value :=
  let chars := text.toList
  let format? := match format.getD "" with
    | "" => Format.sniff? chars
    | name => Format.named? name.toList
  match format? with
  | some .json => readJson chars
  | some .yaml => readYaml chars
  | none => .ok (.text text)

/-- Why a value is not written. -/
inductive WriteFault
  | unsupported (format : Option String)
  | unwritten (fault : TextFault)
  | json (fault : Json.WriteFault)
  | yaml (fault : Yaml.WriteFault)

/-- The complaint about a value or a format. -/
def WriteFault.complaint : WriteFault → Complaint
  | unsupported format =>
    ⟨"ValueError", some ("Unsupported serialization format: " ++ (Value.ofText? format).quoted)⟩
  | unwritten fault => fault.complaint
  | json fault => ⟨"TypeError", some fault.message⟩
  | yaml _ => ⟨"RepresenterError", none⟩

/-- The text of a value in a format. JSON is spread over lines when it is to be
pretty. Integers that are too long are looked for in the value as it is, where
the places in records can be told from other integers. -/
def Format.write (format : Format) (pretty : Bool) (value : Value) : Except WriteFault String :=
  if value.hasLongInteger then .error (.unwritten .tooManyDigits)
  else match format with
    | .json => (Json.text pretty value.plain).mapError .json
    | .yaml => (Yaml.text value.plain).mapError .yaml

/-- The text of a value in the format of a name, in which case does not matter. -/
def serialize (value : Value) (name : Option String) (pretty : Bool) :
    Except WriteFault String :=
  match Format.named? (Text.lower (name.getD "").toList) with
  | some format => format.write pretty value
  | none => .error (.unsupported name)

end FluentCalc
