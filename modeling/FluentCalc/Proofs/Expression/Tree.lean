/-
# What grammars put out

The scanner tells where a call or a failure is by an offset, and makes columns of
offsets by itself. A grammar puts out a syntax tree or a report instead, with lines and
columns in them. Here the two are tied together: what is made of the outputs of the
grammars, by gathering tagged nodes and by turning lines and columns into columns over
the whole source, is what the scanner makes of the source.

What is asked of an output is no more than that the right nodes are outermost, whatever
else is in the tree, and that nodes and reports tell the places that they stand for.
-/

import FluentCalc.Expression.Tree
import FluentCalc.Proofs.Expression.Leftmost
import FluentCalc.Proofs.Expression.Location
import FluentCalc.Proofs.Expression.Outermost
import FluentCalc.Proofs.Expression.Stray

namespace FluentCalc

open Location Text

namespace Expression

open Scan

/-- A node stands for a text, and tells the line and the column of an offset of the source. -/
structure IsNodeAt (source : List Char) (offset : ℕ) (text : List Char) (node : Value) :
    Prop where
  le : offset ≤ source.length
  text : node.get? "text" = some (.text (String.ofList text))
  line : node.get? "line" = some (.int (lineOf source offset))
  column : node.get? "col" = some (.int (columnOf source offset))

/-- A node stands for a call at a place, and has its name and its argument among its
children. -/
structure IsCallAt (source : List Char) (place : ℕ) (raw : RawCall) (node : Value) : Prop where
  isNode : IsNodeAt source place ('.' :: raw.spell []) node
  parts : ∃ children name argument : Value, node.get? "children" = some children ∧
    children.tagged ["call_name", "call_arg"] = [name, argument] ∧
    IsNodeAt source (place + 1) raw.name name ∧
    IsNodeAt source (place + raw.name.length + 2) raw.argument argument

/-- A tree describes what a source is taken apart into. -/
structure IsTree (source : List Char) (reading : Reading) (root : Value) : Prop where
  seed : ∃ start constructor argument, root.tagged ["ctor", "seed_arg"] = [constructor, argument] ∧
    IsNodeAt source start reading.seed.invocation.name constructor ∧
    reading.seed.argumentOffset = start + reading.seed.invocation.name.length + 1 ∧
    IsNodeAt source reading.seed.argumentOffset reading.seed.invocation.argument argument
  calls : ∃ placed : List (ℕ × RawCall), reading.calls = placed.map (fun p => p.2.toCall p.1) ∧
    List.Forall₂ (fun p node => IsCallAt source p.1 p.2 node) placed (root.tagged ["call"])

/-- A report tells the line and the column of an offset, or its wording does if it lacks
one of them. -/
structure PointsAt (source : List Char) (offset : ℕ) (report : Location.Failure) : Prop where
  le : offset ≤ source.length
  place : (report.line = some ↑(lineOf source offset) ∧
      report.column = some ↑(columnOf source offset)) ∨
    (report.line = none ∨ report.column = none) ∧ ∃ m : Mark,
      m.IsFirst report.wording.toList ∧ m.line.length ≤ digitLimit ∧
        m.column.length ≤ digitLimit ∧ digitsValue m.line = lineOf source offset ∧
        digitsValue m.column = columnOf source offset

/-- An output tells what a grammar makes of a source. -/
inductive Tells (source : List Char) : Except ℕ Reading → Output → Prop
  | tree {reading : Reading} {root : Value} (h : IsTree source reading root) :
      Tells source (.ok reading) (.tree root)
  | refused {offset : ℕ} {report : Location.Failure} (h : PointsAt source offset report) :
      Tells source (.error offset) (.refused report)

variable {source : List Char} {offset : ℕ}

namespace IsNodeAt

variable {text : List Char} {node : Value}

theorem nodeText?_eq (h : IsNodeAt source offset text node) :
    node.nodeText? = some (String.ofList text) := by
  rw [Value.nodeText?, h.text]

theorem nodeColumn?_eq (h : IsNodeAt source offset text node) :
    node.nodeColumn? source = some (offset + 1 : ℕ) := by
  rw [Value.nodeColumn?, h.line, h.column]
  exact congrArg some (absoluteColumn_of_offset h.le)

end IsNodeAt

/-- The node of a call is read as the call. -/
theorem callOfNode?_of_isCallAt {place : ℕ} {raw : RawCall} {node : Value}
    (h : IsCallAt source place raw node) : callOfNode? source node = some (raw.toCall place) := by
  obtain ⟨children, name, argument, hchildren, hparts, hname, hargument⟩ := h.parts
  simp only [callOfNode?, hchildren, hparts, hname.nodeText?_eq, hargument.nodeText?_eq,
    h.isNode.nodeColumn?_eq, String.toList_ofList, Option.bind_eq_bind, Option.bind_some]
  rfl

theorem mapM_callOfNode? {placed : List (ℕ × RawCall)} {nodes : List Value}
    (h : List.Forall₂ (fun p node => IsCallAt source p.1 p.2 node) placed nodes) :
    nodes.mapM (callOfNode? source) = some (placed.map fun p => p.2.toCall p.1) := by
  induction h with
  | nil => rfl
  | cons hcall _ ih =>
      rw [List.mapM_cons, callOfNode?_of_isCallAt hcall, ih]
      rfl

/-- The tree of a reading is read as the expression that the reading stands for. -/
theorem ofTree?_of_isTree {reading : Reading} {root : Value} (h : IsTree source reading root) :
    ofTree? source root = some (build reading) := by
  obtain ⟨start, constructor, argument, hparts, hconstructor, -, hargument⟩ := h.seed
  obtain ⟨placed, hplaced, hcalls⟩ := h.calls
  simp only [ofTree?, hparts, hconstructor.nodeText?_eq, hargument.nodeText?_eq,
    hargument.nodeColumn?_eq, mapM_callOfNode? hcalls, String.toList_ofList,
    Option.bind_eq_bind, Option.bind_some, build]
  cases number? reading.seed.invocation.argument with
  | error _ => rfl
  | ok seed => rw [hplaced]; rfl

theorem reportColumn?_of_pointsAt {report : Location.Failure} (h : PointsAt source offset report) :
    reportColumn? source report = some (offset + 1) := by
  have hcolumn : faultColumn report source = .ok (some (offset + 1 : ℕ)) := by
    rw [Nat.cast_succ, ← absoluteColumn_of_offset h.le]
    rcases h.place with ⟨hline, hcolumn⟩ | ⟨hlacks, m, hm, hshort, hshort', hline, hcolumn⟩
    · simp only [faultColumn, hline, hcolumn]
    · rw [faultColumn_of_isFirst hlacks hm, numberOf, numberOf, if_neg hshort.not_gt,
        if_neg hshort'.not_gt, hline, hcolumn]
      rfl
  rw [reportColumn?, hcolumn]
  rfl

theorem noSeed?_of_pointsAt {report : Location.Failure} (h : PointsAt source offset report) :
    noSeed? source report = some (.error (.noSeed (offset + 1))) := by
  rw [noSeed?, reportColumn?_of_pointsAt h]
  rfl

/-- What the permissive grammar puts out is read as the permissive reading. -/
theorem ofOutputs?_of_tells_permissive {own other : Output}
    (h : Tells source (permissive source) own) :
    ofOutputs? false source own other = some (ofCharsPermissive source) := by
  rw [ofCharsPermissive]
  cases hread : permissive source with
  | error offset =>
      rw [hread] at h
      cases h with
      | refused h => exact noSeed?_of_pointsAt h
  | ok reading =>
      rw [hread] at h
      cases h with
      | tree h => exact ofTree?_of_isTree h

/-- What the strict grammar puts out is read as the strict reading, with the help of the
permissive grammar. -/
theorem ofOutputs?_of_tells_strict {own other : Output} (hown : Tells source (strict source) own)
    (hother : Tells source (permissive source) other) :
    ofOutputs? true source own other = some (ofCharsStrict source) := by
  rw [ofCharsStrict]
  cases hstrict : strict source with
  | ok reading =>
      rw [hstrict] at hown
      cases hown with
      | tree h => exact ofTree?_of_isTree h
  | error stop =>
      rw [hstrict] at hown
      cases hown with
      | refused hreport =>
          rw [ofCharsPermissive]
          cases hpermissive : permissive source with
          | error offset =>
              rw [hpermissive] at hother
              cases hother with
              | refused h => exact noSeed?_of_pointsAt h
          | ok reading =>
              rw [hpermissive] at hother
              cases hother with
              | tree h =>
                  simp only [ofOutputs?, ofTree?_of_isTree h, reportColumn?_of_pointsAt hreport,
                    Option.bind_eq_bind, Option.bind_some]
                  cases build reading <;> rfl

/-- **The outputs of the grammars are read as the source is.** If the outputs tell what the
grammars make of a source, then what is gathered from them is the expression or the fault
that the scanner finds, with all columns. -/
theorem ofOutputs?_of_tells {strict : Bool} {own other : Output}
    (hown : Tells source (if strict then Scan.strict source else permissive source) own)
    (hother : Tells source (permissive source) other) :
    ofOutputs? strict source own other = some (ofChars strict source) := by
  cases strict with
  | false => exact ofOutputs?_of_tells_permissive hown
  | true => exact ofOutputs?_of_tells_strict hown hother

/-- A node with its children in a list. -/
def node (source : List Char) (tag : String) (offset : ℕ) (text : List Char)
    (children : List Value) : Value :=
  .fields [("tag", .text tag), ("text", .text (String.ofList text)),
    ("line", .int (lineOf source offset)), ("col", .int (columnOf source offset)),
    ("children", .list children)]

/-- The node of a call at a place. -/
def callNode (source : List Char) (placed : ℕ × RawCall) : Value :=
  node source "call" placed.1 ('.' :: placed.2.spell [])
    [node source "call_name" (placed.1 + 1) placed.2.name [],
      node source "call_arg" (placed.1 + placed.2.name.length + 2) placed.2.argument []]

/-- The node of a constructor call. -/
def seedNode (source : List Char) (start : ℕ) (head : RawCall) : Value :=
  node source "seed" start (head.spell [])
    [node source "ctor" start head.name [],
      node source "seed_arg" (start + head.name.length + 1) head.argument []]

/-- The tree that has a node for each rule of a grammar. -/
def syntaxTree (source : List Char) (start : ℕ) (head : RawCall) (rest : List Char)
    (placed : List (ℕ × RawCall)) : Value :=
  node source "expression" 0 source
    [seedNode source start head,
      node source "chain" (start + head.width) rest (placed.map (callNode source))]

theorem isNodeAt_node {tag : String} {text : List Char} {children : List Value}
    (h : offset ≤ source.length) :
    IsNodeAt source offset text (node source tag offset text children) :=
  ⟨h, rfl, rfl, rfl⟩

/-- A node is gathered itself or passed over for its children. -/
theorem tagged_node {tags : List String} {tag : String} {text : List Char}
    {children : List Value} :
    (node source tag offset text children).tagged tags =
      if tag ∈ tags then [node source tag offset text children]
      else children.flatMap (Value.tagged tags) := by
  have htag : (node source tag offset text children).get? "tag" = some (.text tag) := rfl
  split
  · next hmem => exact Value.gather_of_isNode ⟨tag, hmem, htag⟩ []
  · next hmem =>
    refine Value.tagged_of_not_isNode ?_
    rintro ⟨other, hother, heq⟩
    cases htag.symm.trans heq
    exact hmem hother

theorem tagged_list {tags : List String} (items : List Value) :
    (Value.list items).tagged tags = items.flatMap (Value.tagged tags) := by
  refine Value.tagged_of_not_isNode ?_
  rintro ⟨_, _, htag⟩
  cases htag

/-- A call ends in the source. -/
theorem width_lt_of_standsAt {place : ℕ} {raw : RawCall} (h : StandsAt source place raw) :
    place + raw.width < source.length := by
  obtain ⟨rest, htext⟩ := h.text
  have hlength := congrArg List.length htext
  simp only [RawCall.spell, List.length_drop, List.length_cons, List.length_append] at hlength
  simp only [RawCall.width]
  omega

theorem isCallAt_callNode {placed : ℕ × RawCall} (h : StandsAt source placed.1 placed.2) :
    IsCallAt source placed.1 placed.2 (callNode source placed) := by
  have hwidth := width_lt_of_standsAt h
  rw [RawCall.width] at hwidth
  have hparts : (Value.list [node source "call_name" (placed.1 + 1) placed.2.name [],
      node source "call_arg" (placed.1 + placed.2.name.length + 2) placed.2.argument []]).tagged
        ["call_name", "call_arg"] =
      [node source "call_name" (placed.1 + 1) placed.2.name [],
        node source "call_arg" (placed.1 + placed.2.name.length + 2) placed.2.argument []] := by
    simp [tagged_list, tagged_node]
  exact ⟨isNodeAt_node (by omega), _, _, _, rfl, hparts, isNodeAt_node (by omega),
    isNodeAt_node (by omega)⟩

/-- The calls of a reading stand at places of the source. -/
theorem exists_placed {start : ℕ} {calls : List Call} (h : Leftmost source start calls) :
    ∃ placed : List (ℕ × RawCall), calls = placed.map (fun p => p.2.toCall p.1) ∧
      ∀ p ∈ placed, StandsAt source p.1 p.2 := by
  induction h with
  | none => exact ⟨[], rfl, List.forall_mem_nil _⟩
  | @next _ place raw c _ _ hstands _ hdescribes _ ih =>
      obtain ⟨placed, rfl, hplaced⟩ := ih
      obtain rfl := hdescribes.unique (describes_toCall place raw)
      exact ⟨(place, raw) :: placed, rfl, List.forall_mem_cons.2 ⟨hstands, hplaced⟩⟩

theorem tagged_call_syntaxTree (start : ℕ) (head : RawCall) (rest : List Char)
    (placed : List (ℕ × RawCall)) :
    (syntaxTree source start head rest placed).tagged ["call"] =
      placed.map (callNode source) := by
  have hcall (p : ℕ × RawCall) : (callNode source p).tagged ["call"] = [callNode source p] :=
    tagged_node.trans (if_pos (List.mem_singleton_self _))
  rw [List.map_eq_flatMap]
  simp [syntaxTree, seedNode, tagged_node, List.flatMap_map, hcall]

theorem tagged_seed_syntaxTree (start : ℕ) (head : RawCall) (rest : List Char)
    (placed : List (ℕ × RawCall)) :
    (syntaxTree source start head rest placed).tagged ["ctor", "seed_arg"] =
      [node source "ctor" start head.name [],
        node source "seed_arg" (start + head.name.length + 1) head.argument []] := by
  have hcall (p : ℕ × RawCall) : (callNode source p).tagged ["ctor", "seed_arg"] = [] := by
    simp [callNode, tagged_node]
  simp [syntaxTree, seedNode, tagged_node, List.flatMap_map, hcall]

/-- Every reading of a source has a tree. -/
theorem exists_isTree {reading : Reading} (h : permissive source = .ok reading) :
    ∃ root, IsTree source reading root := by
  obtain ⟨hseed, hfound⟩ := permissive_eq_ok_iff.1 h
  obtain ⟨gap, hgap, hspelled, htext, hargument, hrest⟩ := seed_eq_ok_iff.1 hseed
  have hopens : Opens source gap reading.seed.invocation reading.seed.rest :=
    ⟨hgap, hspelled, htext⟩
  have hlength := congrArg List.length htext
  simp only [RawCall.spell, List.length_append, List.length_cons] at hlength
  have hleftmost := leftmost_findCalls source reading.seed.restOffset
  rw [hrest, hopens.drop_eq, ← hrest, ← hfound] at hleftmost
  obtain ⟨placed, hplaced, hstands⟩ := exists_placed hleftmost
  refine ⟨syntaxTree source gap.length reading.seed.invocation reading.seed.rest placed,
    ⟨gap.length, _, _, tagged_seed_syntaxTree _ _ _ _, isNodeAt_node (by omega), hargument, ?_⟩,
    placed, hplaced, ?_⟩
  · rw [hargument]
    exact isNodeAt_node (by omega)
  · rw [tagged_call_syntaxTree, List.forall₂_map_right_iff, List.forall₂_same]
    exact fun p hp => isCallAt_callNode (hstands p hp)

/-- Every place of a source has a report that points at it. -/
theorem pointsAt_of_le (h : offset ≤ source.length) (wording : String) :
    PointsAt source offset ⟨some (lineOf source offset), some (columnOf source offset), wording⟩ :=
  ⟨h, .inl ⟨rfl, rfl⟩⟩

/-- Where the permissive reading fails is in the source or at its end. -/
theorem permissive_error_le {stop : ℕ} (h : permissive source = .error stop) :
    stop ≤ source.length := by
  rw [permissive] at h
  cases hseed : Scan.seed source with
  | error offset =>
      rw [hseed] at h
      cases h
      exact seed_error_le hseed
  | ok found =>
      rw [hseed] at h
      cases h

/-- Where the strict reading fails is in the source or at its end. -/
theorem strict_error_le {stop : ℕ} (h : strict source = .error stop) : stop ≤ source.length := by
  cases hseed : Scan.seed source with
  | error offset =>
      rw [strict, hseed] at h
      cases h
      exact seed_error_le hseed
  | ok found =>
      obtain ⟨front, rest, reading, rfl, hstops, hfront, -, hmore⟩ := exists_front_strict hseed
      cases rest with
      | nil =>
          rw [List.append_nil, hfront] at h
          cases h
      | cons c rest =>
          cases (hmore _ hstops (List.cons_ne_nil _ _)).symm.trans h
          rw [List.length_append]
          exact Nat.le_add_right _ _

/-- **Grammars have outputs that tell what they make of a source.** -/
theorem exists_tells (source : List Char) :
    (∃ output, Tells source (permissive source) output) ∧
      ∃ output, Tells source (strict source) output := by
  apply And.intro
  · cases hread : permissive source with
    | error offset => exact ⟨_, .refused (pointsAt_of_le (permissive_error_le hread) "")⟩
    | ok reading =>
        obtain ⟨root, htree⟩ := exists_isTree hread
        exact ⟨_, .tree htree⟩
  · cases hread : strict source with
    | error offset => exact ⟨_, .refused (pointsAt_of_le (strict_error_le hread) "")⟩
    | ok reading =>
        obtain ⟨root, htree⟩ := exists_isTree (permissive_of_strict hread)
        exact ⟨_, .tree htree⟩

end Expression

end FluentCalc
