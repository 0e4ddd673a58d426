/-
# Loading expressions

A file of expressions is a text with one expression on a line, or a JSON or YAML
list, as its suffix tells. In a text, lines are trimmed, and blank lines and
those that begin with a number sign are left out. The items of a list are taken
as they display.

Files are handed over as lists of octets under paths.
-/

import FluentCalc.Format
import FluentCalc.Text.Utf8

namespace FluentCalc

/-- A file. -/
structure File where
  path : String
  octets : List UInt8

/-- Why no expressions are loaded. -/
inductive LoadFault
  /-- There is no such file. -/
  | missing
  /-- The file is not UTF-8. -/
  | undecodable (fault : Text.Utf8Fault)
  /-- The data in the file cannot be read. -/
  | unreadable (fault : ReadFault)
  /-- The data in the file is not a list. -/
  | notAList
  /-- An item of the list has no text. -/
  | unwritten (fault : TextFault)

/-- The complaint about the file at a path. -/
def LoadFault.complaint (path : String) : LoadFault → Complaint
  | missing => ⟨"FileNotFoundError", some path⟩
  | undecodable fault => ⟨"UnicodeDecodeError", some fault.message⟩
  | unreadable fault => fault.complaint
  | notAList => ⟨"ValueError", some (path ++ ": expected a list of expressions")⟩
  | unwritten fault => fault.complaint

/-- The file at a path, where paths are compared part by part. -/
def findFile? (files : List File) (path : String) : Option File :=
  files.find? fun file =>
    Format.pathParts file.path.toList == Format.pathParts path.toList &&
      (file.path.toList.head? == some '/') == (path.toList.head? == some '/')

/-- The expressions on the lines of a text. -/
def expressionLines (text : List Char) : List (List Char) :=
  ((Text.lines text).map Text.strip).filter fun line =>
    !line.isEmpty && line.head? != some '#'

/-- The expressions in the text of a file. -/
def expressionsIn (path : String) (text : List Char) : Except LoadFault (List String) :=
  let items (value : Except ReadFault Value) : Except LoadFault (List String) :=
    match value with
    | .ok (.list items) => (items.mapM Value.display?).mapError .unwritten
    | .ok _ => .error .notAList
    | .error fault => .error (.unreadable fault)
  match Format.ofPath? path.toList with
  | some .json => items (readJson text)
  | some .yaml => items (readYaml text)
  | none => .ok ((expressionLines text).map String.ofList)

/-- Load the expressions of the file at a path. -/
def load (files : List File) (path : String) : Except LoadFault (List String) :=
  match findFile? files path with
  | none => .error .missing
  | some file =>
    match Text.decodeUtf8 file.octets with
    | .error fault => .error (.undecodable fault)
    | .ok text => expressionsIn path (Text.unifyLineEnds text)

end FluentCalc
