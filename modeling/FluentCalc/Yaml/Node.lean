/-
# Nodes of a YAML document

The tokens of a text are read into a tree of nodes. An alias stands for the node
of its anchor; an alias inside the very node it refers to stands for a node
without a value. A text holds one document.

The reading is by recursive descent on the list of tokens, in a number of steps
that is given. A reading that runs out of steps has no result at all, not even a
fault.
-/

import FluentCalc.Yaml.Lexer
import FluentCalc.Yaml.Tag

namespace FluentCalc.Yaml

/-- A node of a document. -/
inductive Node
  | scalar (tag : Tag) (text : String)
  | sequence (tag : Tag) (items : List Node)
  | mapping (tag : Tag) (entries : List (Node × Node))

/-- The node of an alias that stands inside the node it refers to. No value is
made of its tag. -/
def Node.endless : Node := .scalar (.other "") ""

/-- What is left to read of a text, and what has been declared so far. -/
structure Feed where
  tokens : List Token
  /-- The fault behind the last token. -/
  fault : Option Fault
  /-- The tag handles of the document. -/
  handles : List (String × String)
  /-- The anchors of the document with their nodes. -/
  anchors : List (String × Node)

/-- A reading of tokens, which has no result if it runs out of steps. -/
abbrev Reading := StateT Feed (ExceptT Fault Option)

namespace Reading

/-- Give up. -/
def fail {α : Type} (fault : Fault) : Reading α :=
  throw fault

/-- Run out of steps. -/
def runOut {α : Type} : Reading α :=
  fun _ => none

/-- The next token. -/
def peek : Reading Token := do
  let feed ← get
  match feed.tokens with
  | t :: _ => return t
  | [] => throw (feed.fault.getD .order)

/-- Move past the next token. -/
def skip : Reading Unit :=
  modify fun feed => { feed with tokens := feed.tokens.tail }

/-- Enter an anchor with its node. -/
def enter (name : String) (node : Node) : Reading Unit :=
  modify fun feed => { feed with anchors := (name, node) :: feed.anchors }

/-- The node of an anchor, if there is such an anchor. -/
def anchored? (name : String) : Reading (Option Node) := do
  return ((← get).anchors.find? fun entry => entry.1 == name).map (·.2)

/-- Enter an anchor in front of its node. It must be a new one. -/
def enterNew (name : String) : Reading Unit := do
  if (← anchored? name).isSome then fail .reference else enter name .endless

/-- The node of an alias. -/
def aliased (name : String) : Reading Node := do
  match ← anchored? name with
  | some node => return node
  | none => fail .reference

end Reading

open Reading

/-- The anchor and the tag written in front of a node. -/
structure Properties where
  anchor : Option String
  tag : Option (Option String × String)

/-- Read an anchor and a tag, in either order, if they are there. -/
def readProperties : Reading Properties := do
  match ← peek with
  | .anchor name =>
    skip
    match ← peek with
    | .tag handle suffix => do skip; return ⟨some name, some (handle, suffix)⟩
    | _ => return ⟨some name, none⟩
  | .tag handle suffix =>
    skip
    match ← peek with
    | .anchor name => do skip; return ⟨some name, some (handle, suffix)⟩
    | _ => return ⟨none, some (handle, suffix)⟩
  | _ => return ⟨none, none⟩

/-- The full name of a tag; its handle must be declared. -/
def tagName : Option String × String → Reading String
  | (none, suffix) => return suffix
  | (some handle, suffix) => do
    match (← get).handles.find? fun entry => entry.1 == handle with
    | some entry => return entry.2 ++ suffix
    | none => fail .order

/-- The full name of the tag of a node, if it has one. -/
def writtenTag : Option (Option String × String) → Reading (Option String)
  | none => return none
  | some tag => some <$> tagName tag

/-- The tag of a collection. -/
def collectionTag (written : Option String) (usual : Tag) : Tag :=
  match written with
  | none => usual
  | some "!" => usual
  | some name => Tag.ofName name

/-- The tag of a scalar. The tag `!` says that it is to be read as if plain. -/
def scalarTag (written : Option String) (text : String) (plain : Bool) : Tag :=
  match written with
  | none => if plain then Plain.tag text.toList else .str
  | some "!" => Plain.tag text.toList
  | some name => Tag.ofName name

/-- The scalar that stands where a node is left out. -/
def emptyNode : Node := .scalar .null ""

/-- Where a node stands, which decides what it may begin with. -/
inductive Place
  | flow
  | block
  /-- In a block mapping, where a sequence need not be indented. -/
  | member
deriving DecidableEq

/-- Whether a token ends an entry of a block mapping. -/
def endsMember : Token → Bool
  | .key | .value | .blockEnd => true
  | _ => false

/-- Whether a token ends an entry of a block sequence. -/
def endsItem : Token → Bool
  | .blockEntry | .blockEnd => true
  | _ => false

/-- Whether a token ends an entry of a sequence that is not indented. -/
def endsLooseItem (t : Token) : Bool :=
  endsItem t || endsMember t

/-- The brackets around a flow collection. -/
inductive Brackets
  | square
  | curly
deriving DecidableEq

/-- Whether a token is the closing bracket. -/
def Brackets.closes : Brackets → Token → Bool
  | square, .flowSequenceEnd => true
  | curly, .flowMappingEnd => true
  | _, _ => false

/-- Whether a token ends an entry between brackets. -/
def Brackets.endsEntry (brackets : Brackets) : Token → Bool
  | .flowEntry => true
  | t => brackets.closes t

/-- Whether a token is a colon. -/
def isValue : Token → Bool
  | .value => true
  | _ => false

/-- An entry of a flow sequence. One with a value is a mapping of its own. -/
def flowItem : Node × Option Node → Node
  | (item, none) => item
  | (key, some value) => .mapping .map [(key, value)]

/-- An entry of a flow mapping. -/
def flowMember : Node × Option Node → Node × Node
  | (key, value?) => (key, value?.getD emptyNode)

/-- Read a node that may be left out in front of some tokens. -/
def orEmpty (ends : Token → Bool) (reading : Reading Node) : Reading Node := do
  if ends (← peek) then return emptyNode else reading

/-- Move past the comma in front of an entry of a flow collection. The first
entry has none. -/
def skipComma (first : Bool) : Reading Unit :=
  if first then return ()
  else do
    match ← peek with
    | .flowEntry => skip
    | _ => fail .order

mutual

/-- Read a node. -/
def readNode (place : Place) : (fuel : Nat) → Reading Node
  | 0 => runOut
  | fuel + 1 => do
    match ← peek with
    | .alias name => do
      skip
      aliased name
    | _ => do
      let properties ← readProperties
      let written ← writtenTag properties.tag
      let content ← peek
      match properties.anchor with
      | none => readContent place written written.isSome content fuel
      | some name => do
        enterNew name
        let node ← readContent place written true content fuel
        enter name node
        return node

/-- Read a node behind its properties, given the token that it begins with. A
node can be left out if it has properties. -/
def readContent (place : Place) (written : Option String) (canBeEmpty : Bool)
    (content : Token) : (fuel : Nat) → Reading Node
  | 0 => runOut
  | fuel + 1 =>
    match content, place with
    | .blockEntry, .member => do
      return .sequence (collectionTag written .seq) (← readLooseItems fuel)
    | .scalar text plain, _ => do
      skip
      return .scalar (scalarTag written text plain) text
    | .flowSequenceStart, _ => do
      skip
      let entries ← readFlowEntries .square true fuel
      return .sequence (collectionTag written .seq) (entries.map flowItem)
    | .flowMappingStart, _ => do
      skip
      let entries ← readFlowEntries .curly true fuel
      return .mapping (collectionTag written .map) (entries.map flowMember)
    | .blockSequenceStart, .block | .blockSequenceStart, .member => do
      skip
      return .sequence (collectionTag written .seq) (← readItems fuel)
    | .blockMappingStart, .block | .blockMappingStart, .member => do
      skip
      return .mapping (collectionTag written .map) (← readMembers fuel)
    | _, _ => if canBeEmpty then return .scalar (scalarTag written "" true) "" else fail .order

/-- Read the entries of a block sequence up to its end. -/
def readItems : (fuel : Nat) → Reading (List Node)
  | 0 => runOut
  | fuel + 1 => do
    match ← peek with
    | .blockEntry => do
      skip
      let item ← orEmpty endsItem (readNode .block fuel)
      return item :: (← readItems fuel)
    | .blockEnd => do
      skip
      return []
    | _ => fail .order

/-- Read the entries of a sequence that is not indented. -/
def readLooseItems : (fuel : Nat) → Reading (List Node)
  | 0 => runOut
  | fuel + 1 => do
    match ← peek with
    | .blockEntry => do
      skip
      let item ← orEmpty endsLooseItem (readNode .block fuel)
      return item :: (← readLooseItems fuel)
    | _ => return []

/-- Read the entries of a block mapping up to its end. -/
def readMembers : (fuel : Nat) → Reading (List (Node × Node))
  | 0 => runOut
  | fuel + 1 => do
    match ← peek with
    | .key => do
      skip
      let key ← orEmpty endsMember (readNode .member fuel)
      let value ← readValue .member endsMember fuel
      return (key, value) :: (← readMembers fuel)
    | .blockEnd => do
      skip
      return []
    | _ => fail .order

/-- Read the value of an entry, which may be left out. -/
def readValue (place : Place) (ends : Token → Bool) : (fuel : Nat) → Reading Node
  | 0 => runOut
  | fuel + 1 => do
    match ← peek with
    | .value => do
      skip
      orEmpty ends (readNode place fuel)
    | _ => return emptyNode

/-- Read the entries of a flow collection up to its end. Only an entry that is
marked as a key has a value. -/
def readFlowEntries (brackets : Brackets) (first : Bool) :
    (fuel : Nat) → Reading (List (Node × Option Node))
  | 0 => runOut
  | fuel + 1 => do
    if brackets.closes (← peek) then do
      skip
      return []
    else do
      skipComma first
      match ← peek with
      | .key => do
        skip
        let key ← orEmpty (fun t => isValue t || brackets.endsEntry t) (readNode .flow fuel)
        let value ← readValue .flow brackets.endsEntry fuel
        return (key, some value) :: (← readFlowEntries brackets false fuel)
      | t =>
        if brackets.closes t then do
          skip
          return []
        else do
          let item ← readNode .flow fuel
          return (item, none) :: (← readFlowEntries brackets false fuel)

end

/-- The tag handles that every document has. -/
def commonHandles : List (String × String) := [("!", "!"), ("!!", Tag.commonPart)]

/-- Read directives: at most one version, which must be 1, and tag handles, each
once. -/
def readDirectives : (fuel : Nat) → (versioned : Bool) → (handles : List (String × String)) →
    Reading (List (String × String))
  | 0, _, _ => runOut
  | fuel + 1, versioned, handles => do
    match ← peek with
    | .directive (.version major _) => do
      skip
      if versioned || major != 1 then fail .order else readDirectives fuel true handles
    | .directive (.tag handle leader) => do
      skip
      if handles.any fun entry => entry.1 == handle then fail .order
      else readDirectives fuel versioned ((handle, leader) :: handles)
    | .directive .reserved => do
      skip
      readDirectives fuel versioned handles
    | _ => return handles ++ commonHandles

/-- Move past marks of document ends. -/
def skipDocumentEnds : (fuel : Nat) → Reading Unit
  | 0 => runOut
  | fuel + 1 => do
    match ← peek with
    | .documentEnd => do
      skip
      skipDocumentEnds fuel
    | _ => return ()

/-- Move past the start of a document: directives and a mark. At the end of the
text there is none. -/
def readDocumentStart (fuel : Nat) : Reading Bool := do
  skipDocumentEnds fuel
  match ← peek with
  | .streamEnd => return false
  | _ => do
    let handles ← readDirectives fuel false []
    match ← peek with
    | .documentStart => do
      skip
      modify fun feed => { feed with handles := handles }
      return true
    | _ => fail .order

/-- Whether a token leaves a document behind its mark empty. -/
def endsDocument : Token → Bool
  | .directive _ | .documentStart | .documentEnd | .streamEnd => true
  | _ => false

/-- Read a node behind which there is no further document. -/
def readLast (reading : Reading Node) (fuel : Nat) : Reading (Option Node) := do
  let node ← reading
  if ← readDocumentStart fuel then fail .reference else return some node

/-- Read the only document of a text, if it has one. The first document need not
be marked. -/
def readDocument (fuel : Nat) : Reading (Option Node) := do
  match ← peek with
  | .directive _ | .documentStart | .streamEnd => do
    if ← readDocumentStart fuel then readLast (orEmpty endsDocument (readNode .block fuel)) fuel
    else return none
  | _ => readLast (readNode .block fuel) fuel

end FluentCalc.Yaml
