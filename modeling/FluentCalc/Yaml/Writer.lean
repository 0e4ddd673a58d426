/-
# Writing YAML

A plain value is turned into a node, and the node is written in block style: one
item or entry on a line, two columns for a level, sequences inside mappings not
indented further than the mapping. Only empty collections are written as flow
collections. Scalars are plain where that is unambiguous, single-quoted where
quotes are enough, and double-quoted where an escape is needed, which includes
all characters outside of ASCII. Lines are folded at spaces behind column 80.

The text is put down on a `Sheet`, which knows the present column and whether
something other than indentation stands on the present line.
-/

import FluentCalc.Text.Quoted
import FluentCalc.Value.Text
import FluentCalc.Yaml.Cursor
import FluentCalc.Yaml.Node

namespace FluentCalc.Yaml

/-- What has been written. -/
structure Sheet where
  /-- The characters, the last one first. -/
  written : List Char
  column : Nat
  /-- Whether an indicator can follow without a space. -/
  spaced : Bool
  /-- Whether the line holds nothing but indentation and indicators. -/
  fresh : Bool

namespace Sheet

/-- An empty sheet. -/
def empty : Sheet := ⟨[], 0, true, true⟩

/-- Write characters other than line breaks. -/
def put (s : Sheet) (text : List Char) : Sheet :=
  { s with written := text.reverse ++ s.written, column := s.column + text.length }

/-- End the line. -/
def newline (s : Sheet) : Sheet :=
  ⟨'\n' :: s.written, 0, true, true⟩

/-- Go to a column, on a new line unless the present one can still be indented
so far. -/
def indent (s : Sheet) (column : Nat) : Sheet :=
  let s := if !s.fresh || column < s.column || (s.column == column && !s.spaced) then s.newline
    else s
  if s.column < column then
    { s.put (List.replicate (column - s.column) ' ') with spaced := true }
  else s

/-- Write an indicator, with a space in front where one is needed. -/
def indicator (s : Sheet) (text : List Char) (needsSpace opens : Bool) : Sheet :=
  let s' := s.put (if s.spaced || !needsSpace then text else ' ' :: text)
  { s' with spaced := false, fresh := s.fresh && opens }

/-- The text on the sheet. -/
def text (s : Sheet) : List Char := s.written.reverse

end Sheet

/-- The column behind which lines are folded. -/
def foldColumn : Nat := 80

/-- The length of a key, with its tag, from which on it is not simple. -/
def keyLimit : Nat := 128

/-- The ways to write a scalar. -/
inductive ScalarStyle
  | plain
  | single
  | double
deriving DecidableEq

/-- Whether a text begins with a word. -/
def beginsWith (word : String) (text : List Char) : Bool :=
  word.toList.isPrefixOf text

/-- Whether characters with some in front of them include an indicator that a
plain scalar outside of flow collections cannot hold: a colon with a gap behind
it, or a number sign with a gap in front. -/
def hasInnerIndicator (previous : Char) : List Char → Bool
  | [] => false
  | c :: rest =>
    (c == ':' && isGapOrEnd (rest.headD endMark)) || (c == '#' && isGapOrEnd previous) ||
      hasInnerIndicator c rest

/-- Whether a plain scalar cannot begin with this text or hold it. -/
def hasIndicator (text : List Char) : Bool :=
  beginsWith "---" text || beginsWith "..." text ||
    match text with
    | [] => false
    | c :: rest =>
      "#,[]\x7b\x7d&*!|>%@\x60".toList.contains c || c == '\x27' || c == '\x22' ||
        ((c == '?' || c == ':' || c == '-') && isGapOrEnd (rest.headD endMark)) ||
        hasInnerIndicator c rest

/-- Whether a space follows a line break, or a line break follows a space. -/
def hasNeighbours (first second : Char) : List Char → Bool
  | a :: b :: rest => (a == first && b == second) || hasNeighbours first second (b :: rest)
  | _ => false

/-- Whether a character can only be written as an escape. -/
def isSpecial (c : Char) : Bool :=
  !(c == '\n' || ('\x20' ≤ c && c ≤ '\x7e'))

/-- Whether a character is a space or a line break. -/
def isSpaceOrBreak (c : Char) : Bool := c == ' ' || c == '\n'

/-- The style of a text, given whether its text alone would say that it is
one. -/
def textStyle (text : List Char) (unambiguous : Bool) : ScalarStyle :=
  let special := text.any isSpecial || hasNeighbours ' ' '\n' text
  if unambiguous && !special && !text.contains '\n' && !hasIndicator text &&
      !(isSpaceOrBreak (text.headD 'x') || isSpaceOrBreak (text.getLastD 'x')) then .plain
  else if special || hasNeighbours '\n' ' ' text then .double
  else .single

/-- The style of a scalar. -/
def scalarStyle (tag : Tag) (text : List Char) : ScalarStyle :=
  if tag = .str then textStyle text (Plain.tag text = .str) else .plain

/-- Write the characters of a plain scalar. A single space behind the fold
column becomes a new line. -/
def writePlain (fold : Bool) (column : Nat) : (afterSpace : Bool) → List Char → Sheet → Sheet
  | _, [], s => s
  | afterSpace, c :: rest, s =>
    let s := if c == ' ' && !afterSpace && rest.head? != some ' ' && fold &&
        foldColumn < s.column then
        { s.indent column with spaced := false, fresh := false }
      else s.put [c]
    writePlain fold column (c == ' ') rest s

/-- Write the characters of a single-quoted scalar. A run of line breaks is
written with one more, and a single space behind the fold column becomes a new
line unless it is the first or the last character. -/
def writeSingle (fold : Bool) (column : Nat) : (previous : Option Char) → List Char → Sheet → Sheet
  | _, [], s => s
  | previous, c :: rest, s =>
    let s :=
      if c == '\n' then
        let s := if previous == some '\n' then s else s.newline
        let s := s.newline
        if rest.head? == some '\n' then s else s.indent column
      else if c == ' ' && previous.isSome && previous != some ' ' && !rest.isEmpty &&
          rest.head? != some ' ' && fold && foldColumn < s.column then s.indent column
      else if c == '\x27' then s.put ['\x27', '\x27']
      else s.put [c]
    writeSingle fold column (some c) rest s

/-- The upper-case form of hexadecimal digits. -/
def upperHex (width n : Nat) : List Char :=
  (Text.hex width n).map Char.toUpper

/-- The letter of a short escape. -/
def escapeLetter? : Char → Option Char
  | '\x00' => some '0'
  | '\x07' => some 'a'
  | '\x08' => some 'b'
  | '\t' => some 't'
  | '\n' => some 'n'
  | '\x0b' => some 'v'
  | '\x0c' => some 'f'
  | '\r' => some 'r'
  | '\x1b' => some 'e'
  | '\x22' => some '\x22'
  | '\\' => some '\\'
  | '\x85' => some 'N'
  | '\xa0' => some '_'
  | '\u2028' => some 'L'
  | '\u2029' => some 'P'
  | _ => none

/-- The escape of a character, if it needs one between double quotes. -/
def escape? (c : Char) : Option (List Char) :=
  if c != '\x22' && c != '\\' && '\x20' ≤ c && c ≤ '\x7e' then none
  else
    match escapeLetter? c with
    | some letter => some ['\\', letter]
    | none =>
      if c.toNat ≤ 0xff then some ('\\' :: 'x' :: upperHex 2 c.toNat)
      else if c.toNat ≤ 0xffff then some ('\\' :: 'u' :: upperHex 4 c.toNat)
      else some ('\\' :: 'U' :: upperHex 8 c.toNat)

/-- Go on with a double-quoted scalar on the next line. A space at its front is
marked. -/
def breakDouble (column : Nat) (next : Char) (s : Sheet) : Sheet :=
  let s := { (s.put ['\\']).indent column with spaced := false, fresh := false }
  if next == ' ' then s.put ['\\'] else s

/-- Write the characters of a double-quoted scalar. The line can be broken in
front of a space and on either side of an escape, but not next to the first or
the last character. -/
def writeDouble (fold : Bool) (column : Nat) : (first afterEscape : Bool) → List Char → Sheet → Sheet
  | _, _, [], s => s
  | first, afterEscape, c :: rest, s =>
    let inside := fold && !first && !rest.isEmpty
    match escape? c with
    | some escape =>
      let s := s.put escape
      let s := if inside && foldColumn < s.column - 1 then
          breakDouble column (rest.headD 'x') s
        else s
      writeDouble fold column false true rest s
    | none =>
      let s := if inside && (c == ' ' || afterEscape) && foldColumn < s.column then
          breakDouble column c s
        else s
      writeDouble fold column false false rest (s.put [c])

/-- Write a scalar. Its further lines are indented to a column; keys are not
folded. -/
def writeScalar (isKey : Bool) (column : Nat) (tag : Tag) (text : List Char) (s : Sheet) : Sheet :=
  match scalarStyle tag text with
  | .plain =>
    let s := if s.spaced then s else s.put [' ']
    writePlain (!isKey) column false text { s with spaced := false, fresh := false }
  | .single =>
    let s := s.indicator ['\x27'] true false
    (writeSingle (!isKey) column none text s).indicator ['\x27'] false false
  | .double =>
    let s := s.indicator ['\x22'] true false
    (writeDouble (!isKey) column true false text s).indicator ['\x22'] false false

/-- The length of the short form of the tag of a scalar. -/
def tagWidth : Tag → Nat
  | .null | .bool => 6
  | .float => 7
  | .timestamp => 11
  | _ => 5

/-- Whether a character divides the lines of a key. -/
def dividesKey (c : Char) : Bool := isBreak c && c != '\r'

/-- Whether a node can be written in front of a colon on one line: an empty
collection, or a scalar of one line that is neither empty nor too long. -/
def isSimpleKey : Node → Bool
  | .scalar tag text =>
    tagWidth tag + text.length < keyLimit && !text.isEmpty && !text.toList.any dividesKey
  | .sequence _ items => items.isEmpty
  | .mapping _ entries => entries.isEmpty

/-- The column that a level begins at inside one that begins at `outer`; the
outermost level has none around it. -/
def inner (outer : Option Nat) : Nat :=
  match outer with
  | none => 0
  | some column => column + 2

/-- The column of the further lines of a scalar. -/
def hanging (outer : Option Nat) : Nat :=
  outer.getD 0 + 2

mutual

/-- Write a node inside a level, given whether that is the level of a mapping
and whether the node is a simple key. -/
def writeNode (outer : Option Nat) (inMapping isKey : Bool) : Node → Sheet → Sheet
  | .scalar tag text, s => writeScalar isKey (hanging outer) tag text.toList s
  | .sequence _ [], s => (s.indicator ['['] true false).put [']']
  | .sequence _ items, s =>
    let column := match outer with
      | some column => if inMapping && !s.fresh then column else column + 2
      | none => 0
    writeItems column items s
  | .mapping _ [], s => (s.indicator ['\x7b'] true false).put ['\x7d']
  | .mapping _ entries, s => writeEntries (inner outer) entries s

/-- Write the items of a sequence at a column. -/
def writeItems (column : Nat) : List Node → Sheet → Sheet
  | [], s => s
  | item :: rest, s =>
    let s := (s.indent column).indicator ['-'] true true
    writeItems column rest (writeNode (some column) false false item s)

/-- Write the entries of a mapping at a column. -/
def writeEntries (column : Nat) : List (Node × Node) → Sheet → Sheet
  | [], s => s
  | (key, value) :: rest, s =>
    let s := s.indent column
    let s := if isSimpleKey key then
        (writeNode (some column) true true key s).indicator [':'] false false
      else
        let s := writeNode (some column) true false key (s.indicator ['?'] true true)
        (s.indent column).indicator [':'] true true
    writeEntries column rest (writeNode (some column) true false value s)

end

/-- Whether a document of this node needs a mark at its end: a plain scalar could
otherwise go on. -/
def isOpenEnded : Node → Bool
  | .scalar tag text => scalarStyle tag text.toList == .plain
  | _ => false

/-- The text of a document. -/
def Node.text (node : Node) : String :=
  let s := (writeNode none false false node .empty).indent 0
  String.ofList (s.text ++ (if isOpenEnded node then "...\n".toList else []))

/-- The fault of a value that has no YAML form, by its kind. -/
structure WriteFault where
  kind : String
deriving DecidableEq

mutual

/-- The node of a plain value. -/
def Node.ofValue : Value → Except WriteFault Node
  | .null => .ok (.scalar .null "null")
  | .bool b => .ok (.scalar .bool (if b then "true" else "false"))
  | .int n => .ok (.scalar .int (integerText n))
  | .num x => .ok (.scalar .float (Layout.yaml.text x))
  | .text s => .ok (.scalar .str s)
  | .date d => .ok (.scalar .timestamp d.text)
  | .moment m => .ok (.scalar .timestamp m.text)
  | .list items => do return .sequence .seq (← Node.ofItems items)
  | .tuple items => do return .sequence .seq (← Node.ofItems items)
  | .mapping entries => do return .mapping .map (← Node.ofEntries entries)
  | value => .error ⟨value.kindName⟩

/-- The nodes of the items of a list. -/
def Node.ofItems : List Value → Except WriteFault (List Node)
  | [] => .ok []
  | item :: rest => do
    let first ← Node.ofValue item
    return first :: (← Node.ofItems rest)

/-- The nodes of the entries of a mapping. -/
def Node.ofEntries : List (Value × Value) → Except WriteFault (List (Node × Node))
  | [] => .ok []
  | (key, value) :: rest => do
    let first := (← Node.ofValue key, ← Node.ofValue value)
    return first :: (← Node.ofEntries rest)

end

/-- The YAML text of a plain value. -/
def text (value : Value) : Except WriteFault String := do
  return (← Node.ofValue value).text

end FluentCalc.Yaml
