/-
# Tagged nodes of a tree

A tree of plain values describes a parsed text: an object with a `tag` is a
node, and its `children` are a list or an object of further nodes. `gather`
puts the outermost nodes that carry one of some tags, in order, behind those
that were found before; it does not look inside a node that it takes. `tagged`
begins with none.
-/

import FluentCalc.Value.Basic

namespace FluentCalc.Value

/-- Whether the tag of an object is one of some tags. -/
def hasTag (tags : List String) (entries : List (Value × Value)) : Bool :=
  match (mapping entries).get? "tag" with
  | some (text tag) => tags.contains tag
  | _ => false

mutual

/-- What was found, and behind it the outermost nodes under a value that carry
one of some tags. -/
def gather (tags : List String) (found : List Value) : Value → List Value
  | list items => gatherItems tags found items
  | mapping entries =>
    if hasTag tags entries then found ++ [mapping entries] else gatherChildren tags found entries
  | _ => found
termination_by structural value => value

/-- `gather` on the items of a list, one after the other. -/
def gatherItems (tags : List String) (found : List Value) : List Value → List Value
  | [] => found
  | item :: rest => gatherItems tags (gather tags found item) rest

/-- `gather` on what an object has under `children`. -/
def gatherChildren (tags : List String) (found : List Value) : List (Value × Value) → List Value
  | [] => found
  | (text "children", mapping members) :: _ => gatherMembers tags found members
  | (text "children", list items) :: _ => gatherItems tags found items
  | (text "children", _) :: _ => found
  | _ :: rest => gatherChildren tags found rest

/-- `gather` on the values of an object, one after the other. -/
def gatherMembers (tags : List String) (found : List Value) : List (Value × Value) → List Value
  | [] => found
  | (_, value) :: rest => gatherMembers tags (gather tags found value) rest

end

/-- The outermost nodes under a value that carry one of some tags. -/
def tagged (tags : List String) (value : Value) : List Value :=
  gather tags [] value

end FluentCalc.Value
