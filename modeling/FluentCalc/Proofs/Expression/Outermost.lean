/-
# Outermost nodes

What is gathered from a tree is told here by places, without the walk over the tree: a
place is a list of numbers that say which branch to take on each level. A list branches
into its items, and an object into what it has as its children; nothing else has
branches. A node is outermost if there is none on the way to it.

The walk gathers the nodes at all outermost places, in the order of these places in the
document. No two of these places are on one way, and every way to a node passes one of
them.
-/

import Mathlib.Data.List.Forall2
import Mathlib.Tactic.Choose
import FluentCalc.Expression.Nodes

namespace FluentCalc.Value

/-! ## Places -/

/-- What is directly under a value: the items of a list and, for an object, its children, be
they the items of a list or the values of an object. -/
def branches : Value → List Value
  | list items => items
  | v =>
    match v.get? "children" with
    | some (list items) => items
    | some (mapping members) => members.map Prod.snd
    | _ => []

/-- The value at a place. -/
def valueAt? : Value → List ℕ → Option Value
  | v, [] => some v
  | v, i :: place => v.branches[i]?.bind fun branch => branch.valueAt? place

/-- An object whose tag is one of some tags. -/
def IsNode (tags : List String) (v : Value) : Prop :=
  ∃ tag ∈ tags, v.get? "tag" = some (text tag)

/-- There is a node at a place, and there is none on the way to it. -/
structure IsOutermost (tags : List String) (root : Value) (place : List ℕ) : Prop where
  isNode : ∃ node, root.valueAt? place = some node ∧ IsNode tags node
  not_isNode : ∀ front node, front <+: place → front ≠ place →
    root.valueAt? front = some node → ¬ IsNode tags node

variable {tags : List String} {v : Value}

theorem hasTag_iff {entries : List (Value × Value)} :
    hasTag tags entries = true ↔ IsNode tags (mapping entries) := by
  unfold hasTag IsNode
  split
  · next tag htag => simp [htag]
  · next hother =>
      apply iff_of_false Bool.false_ne_true
      rintro ⟨tag, -, htag⟩
      exact hother tag htag

/-! ## Branches -/

/-- What is found under a key of a mapping is smaller than the mapping. -/
theorem sizeOf_lt_of_get? {key : String} {value : Value} (h : v.get? key = some value) :
    sizeOf value < sizeOf v := by
  cases v with
  | mapping entries =>
      obtain ⟨entry, hfind, rfl⟩ := Option.map_eq_some_iff.1 h
      have hentry := List.sizeOf_lt_of_mem (List.mem_of_find?_eq_some hfind)
      have hvalue : sizeOf entry = 1 + sizeOf entry.1 + sizeOf entry.2 := rfl
      rw [mapping.sizeOf_spec]
      omega
  | _ => cases h

/-- A branch is smaller than what it is a branch of. -/
theorem sizeOf_lt_of_mem_branches {branch : Value} (h : branch ∈ v.branches) :
    sizeOf branch < sizeOf v := by
  unfold branches at h
  split at h
  · next items =>
      have hitem := List.sizeOf_lt_of_mem h
      rw [list.sizeOf_spec]
      omega
  · next v _ =>
      split at h
      · next items hchildren =>
          have hlist := sizeOf_lt_of_get? hchildren
          have hitem := List.sizeOf_lt_of_mem h
          rw [list.sizeOf_spec] at hlist
          omega
      · next members hchildren =>
          obtain ⟨member, hmember, rfl⟩ := List.mem_map.1 h
          have hmapping := sizeOf_lt_of_get? hchildren
          have hentry := List.sizeOf_lt_of_mem hmember
          have hvalue : sizeOf member = 1 + sizeOf member.1 + sizeOf member.2 := rfl
          rw [mapping.sizeOf_spec] at hmapping
          omega
      · cases h

/-- What holds of a value if it holds of its branches holds of all values. -/
theorem branches_induction {P : Value → Prop}
    (step : ∀ v, (∀ branch ∈ v.branches, P branch) → P v) (v : Value) : P v :=
  step v fun branch _ => branches_induction step branch
termination_by sizeOf v
decreasing_by exact sizeOf_lt_of_mem_branches ‹_›

/-- Entries under other keys have no branches in them. -/
theorem branches_cons {entry : Value × Value} (h : ∀ value, entry ≠ (text "children", value))
    (rest : List (Value × Value)) :
    (mapping (entry :: rest)).branches = (mapping rest).branches := by
  obtain ⟨key, value⟩ := entry
  have hget : (mapping ((key, value) :: rest)).get? "children" =
      (mapping rest).get? "children" := by
    rw [get?, get?, List.find?_cons_of_neg]
    cases key with
    | text s =>
        have hs : s ≠ "children" := by
          rintro rfl
          exact h value rfl
        simpa using hs
    | _ => exact Bool.false_ne_true
  simp only [branches, hget]

/-! ## Outermost places -/

/-- A node at the top is the only outermost one. -/
theorem isOutermost_iff_of_isNode (h : IsNode tags v) {place : List ℕ} :
    IsOutermost tags v place ↔ place = [] := by
  apply Iff.intro
  · intro hplace
    by_contra hne
    exact hplace.not_isNode [] v List.nil_prefix (Ne.symm hne) rfl h
  · rintro rfl
    refine ⟨⟨v, rfl, h⟩, fun front node hfront hne => ?_⟩
    exact absurd (List.prefix_nil.1 hfront) hne

theorem valueAt?_cons {i : ℕ} {branch : Value} (h : v.branches[i]? = some branch)
    (place : List ℕ) : v.valueAt? (i :: place) = branch.valueAt? place := by
  rw [valueAt?, h, Option.bind_some]

/-- Under anything else the outermost nodes are those of the branches. -/
theorem isOutermost_iff_of_not_isNode (h : ¬ IsNode tags v) {place : List ℕ} :
    IsOutermost tags v place ↔ ∃ i branch rest, v.branches[i]? = some branch ∧
      IsOutermost tags branch rest ∧ place = i :: rest := by
  apply Iff.intro
  · rintro ⟨⟨node, hnode, hisNode⟩, habove⟩
    cases place with
    | nil =>
        cases hnode
        exact absurd hisNode h
    | cons i rest =>
        obtain ⟨branch, hi, hrest⟩ := Option.bind_eq_some_iff.1 hnode
        refine ⟨i, branch, rest, hi, ⟨⟨node, hrest, hisNode⟩, fun front other hfront hne => ?_⟩, rfl⟩
        rw [← valueAt?_cons hi]
        exact habove (i :: front) other (List.cons_prefix_cons.2 ⟨rfl, hfront⟩) (by simpa using hne)
  · rintro ⟨i, branch, rest, hi, ⟨⟨node, hnode, hisNode⟩, habove⟩, rfl⟩
    refine ⟨⟨node, (valueAt?_cons hi rest).trans hnode, hisNode⟩, fun front other hfront hne => ?_⟩
    rcases List.prefix_cons_iff.1 hfront with rfl | ⟨front, rfl, hprefix⟩
    · rintro hother
      cases hother
      exact h
    · rw [valueAt?_cons hi]
      exact habove front other hprefix (by simpa using hne)

/-- No outermost place is on the way to another. -/
theorem IsOutermost.eq_of_prefix {root : Value} {place other : List ℕ}
    (hplace : IsOutermost tags root place) (hother : IsOutermost tags root other)
    (h : place <+: other) : place = other := by
  obtain ⟨node, hnode, hisNode⟩ := hplace.isNode
  by_contra hne
  exact hother.not_isNode place node h hne hnode hisNode

/-- Every way to a node passes an outermost place. -/
theorem exists_isOutermost_of_isNode {root node : Value} {place : List ℕ}
    (h : root.valueAt? place = some node) (hnode : IsNode tags node) :
    ∃ front, front <+: place ∧ IsOutermost tags root front := by
  induction place generalizing root with
  | nil =>
      cases h
      exact ⟨[], List.nil_prefix, (isOutermost_iff_of_isNode hnode).2 rfl⟩
  | cons i place ih =>
      by_cases hroot : IsNode tags root
      · exact ⟨[], List.nil_prefix, (isOutermost_iff_of_isNode hroot).2 rfl⟩
      · obtain ⟨branch, hi, hrest⟩ := Option.bind_eq_some_iff.1 h
        obtain ⟨front, hfront, houtermost⟩ := ih hrest
        exact ⟨i :: front, List.cons_prefix_cons.2 ⟨rfl, hfront⟩,
          (isOutermost_iff_of_not_isNode hroot).2 ⟨i, branch, front, hi, houtermost, rfl⟩⟩

/-! ## The walk -/

/-- On an object the walk goes on with its values, as on a list of them. -/
theorem gatherMembers_eq (tags : List String) (found : List Value)
    (members : List (Value × Value)) :
    gatherMembers tags found members = gatherItems tags found (members.map Prod.snd) := by
  induction members generalizing found with
  | nil => rfl
  | cons member rest ih => rw [gatherMembers, ih, List.map_cons, gatherItems]

/-- Of an object that is not taken the walk sees the children only. -/
theorem gatherChildren_eq (tags : List String) (found : List Value)
    (entries : List (Value × Value)) :
    gatherChildren tags found entries = gatherItems tags found (mapping entries).branches := by
  induction entries with
  | nil => rfl
  | cons entry rest ih =>
      rw [gatherChildren.eq_def]
      split
      · next heq => cases heq
      · next members _ heq =>
          cases heq
          exact gatherMembers_eq tags found members
      · next heq =>
          cases heq
          rfl
      · next value _ hmapping hlist heq =>
          cases heq
          cases value with
          | mapping members => exact (hmapping members rfl).elim
          | list items => exact (hlist items rfl).elim
          | _ => rfl
      · next hother heq =>
          cases heq
          rw [branches_cons hother, ih]

theorem gather_of_isNode (h : IsNode tags v) (found : List Value) :
    gather tags found v = found ++ [v] := by
  cases v with
  | mapping entries => rw [gather, if_pos (hasTag_iff.2 h)]
  | _ =>
      obtain ⟨_, _, htag⟩ := h
      cases htag

/-- Anything else is passed over for its branches. -/
theorem gather_of_not_isNode (h : ¬ IsNode tags v) (found : List Value) :
    gather tags found v = gatherItems tags found v.branches := by
  cases v with
  | mapping entries => rw [gather, if_neg (mt hasTag_iff.1 h), gatherChildren_eq]
  | list items => rfl
  | _ => rfl

/-- Several values are walked one after the other. -/
theorem gatherItems_eq {items : List Value}
    (h : ∀ item ∈ items, ∀ found, gather tags found item = found ++ tagged tags item)
    (found : List Value) : gatherItems tags found items = found ++ items.flatMap (tagged tags) := by
  induction items generalizing found with
  | nil => simp [gatherItems]
  | cons item rest ih =>
      rw [List.forall_mem_cons] at h
      rw [gatherItems, h.1, ih h.2, List.flatMap_cons, List.append_assoc]

/-- What is gathered stands behind what was found. -/
theorem gather_eq (tags : List String) (v : Value) :
    ∀ found, gather tags found v = found ++ tagged tags v := by
  induction v using branches_induction with
  | step v ih =>
      intro found
      by_cases h : IsNode tags v
      · rw [tagged, gather_of_isNode h, gather_of_isNode h, List.nil_append]
      · rw [tagged, gather_of_not_isNode h, gather_of_not_isNode h, gatherItems_eq ih,
          gatherItems_eq ih, List.nil_append]

theorem tagged_of_not_isNode (h : ¬ IsNode tags v) :
    tagged tags v = v.branches.flatMap (tagged tags) := by
  rw [tagged, gather_of_not_isNode h, gatherItems_eq fun item _ => gather_eq tags item,
    List.nil_append]

/-! ## Nodes by their places -/

/-- Nodes are listed by the outermost places of a tree, in the order of the document. -/
structure Lists (tags : List String) (root : Value) (places : List (List ℕ))
    (nodes : List Value) : Prop where
  ordered : places.Pairwise (· < ·)
  mem_iff : ∀ place, place ∈ places ↔ IsOutermost tags root place
  valueAt : List.Forall₂ (fun place node => root.valueAt? place = some node) places nodes

theorem lists_of_isNode (h : IsNode tags v) : Lists tags v [[]] [v] where
  ordered := List.pairwise_singleton _ _
  mem_iff place := by rw [List.mem_singleton, isOutermost_iff_of_isNode h]
  valueAt := .cons rfl .nil

/-- The places in branches, behind the number of the branch. -/
def branchPlaces (placesOf : Value → List (List ℕ)) (branches : List Value) : List (List ℕ) :=
  branches.zipIdx.flatMap fun branch => (placesOf branch.1).map (branch.2 :: ·)

theorem mem_branchPlaces_iff {placesOf : Value → List (List ℕ)} {branches : List Value}
    {place : List ℕ} :
    place ∈ branchPlaces placesOf branches ↔ ∃ i branch rest, branches[i]? = some branch ∧
      rest ∈ placesOf branch ∧ place = i :: rest := by
  rw [branchPlaces, List.mem_flatMap]
  apply Iff.intro
  · rintro ⟨⟨branch, i⟩, hmem, hplace⟩
    obtain ⟨rest, hrest, rfl⟩ := List.mem_map.1 hplace
    exact ⟨i, branch, rest, List.mem_zipIdx_iff_getElem?.1 hmem, hrest, rfl⟩
  · rintro ⟨i, branch, rest, hi, hrest, rfl⟩
    exact ⟨(branch, i), List.mem_zipIdx_iff_getElem?.2 hi, List.mem_map_of_mem hrest⟩

/-- In the order of the document, what is in one branch is in front of what is in the next. -/
theorem pairwise_branchPlaces {placesOf : Value → List (List ℕ)} {branches : List Value}
    (h : ∀ branch ∈ branches, (placesOf branch).Pairwise (· < ·)) :
    (branchPlaces placesOf branches).Pairwise (· < ·) := by
  have hnumbers : branches.zipIdx.Pairwise fun first second => first.2 < second.2 := by
    rw [← List.pairwise_map, List.zipIdx_map_snd]
    exact List.pairwise_lt_range'
  rw [branchPlaces, List.pairwise_flatMap]
  refine ⟨fun branch hbranch => ?_, hnumbers.imp fun hlt place hplace other hother => ?_⟩
  · rw [List.pairwise_map]
    apply (h branch.1 (List.fst_mem_of_mem_zipIdx hbranch)).imp
    intro place other hlt
    exact List.cons_lt_cons_iff.2 (.inr ⟨rfl, hlt⟩)
  · obtain ⟨_, -, rfl⟩ := List.mem_map.1 hplace
    obtain ⟨_, -, rfl⟩ := List.mem_map.1 hother
    exact List.cons_lt_cons_iff.2 (.inl hlt)

/-- What is listed for the branches of a value that is no node is listed for the value. -/
theorem lists_of_branches {placesOf : Value → List (List ℕ)} {nodesOf : Value → List Value}
    (h : ¬ IsNode tags v)
    (hbranches : ∀ branch ∈ v.branches, Lists tags branch (placesOf branch) (nodesOf branch)) :
    Lists tags v (branchPlaces placesOf v.branches) (v.branches.flatMap nodesOf) where
  ordered := pairwise_branchPlaces fun branch hbranch => (hbranches branch hbranch).ordered
  mem_iff place := by
    rw [mem_branchPlaces_iff, isOutermost_iff_of_not_isNode h]
    apply Iff.intro
    · rintro ⟨i, branch, rest, hi, hrest, rfl⟩
      have hbranch := hbranches branch (List.mem_of_getElem? hi)
      exact ⟨i, branch, rest, hi, (hbranch.mem_iff rest).1 hrest, rfl⟩
    · rintro ⟨i, branch, rest, hi, hrest, rfl⟩
      have hbranch := hbranches branch (List.mem_of_getElem? hi)
      exact ⟨i, branch, rest, hi, (hbranch.mem_iff rest).2 hrest, rfl⟩
  valueAt := by
    have hnodes : v.branches.flatMap nodesOf =
        v.branches.zipIdx.flatMap fun branch => nodesOf branch.1 :=
      calc v.branches.flatMap nodesOf
        _ = (v.branches.zipIdx.map Prod.fst).flatMap nodesOf := by rw [List.zipIdx_map_fst]
        _ = _ := List.flatMap_map _ _ _
    have hsame : List.Forall₂ (fun first second => first ∈ v.branches.zipIdx ∧ first = second)
        v.branches.zipIdx v.branches.zipIdx :=
      List.forall₂_same.2 fun _ hbranch => ⟨hbranch, rfl⟩
    rw [branchPlaces, hnodes]
    refine List.rel_flatMap hsame ?_
    rintro ⟨branch, i⟩ _ ⟨hmem, rfl⟩
    have hi : v.branches[i]? = some branch := List.mem_zipIdx_iff_getElem?.1 hmem
    rw [List.forall₂_map_left_iff]
    apply (hbranches branch (List.mem_of_getElem? hi)).valueAt.imp
    intro place node hnode
    rw [valueAt?_cons hi, hnode]

/-- What is gathered from a tree is listed by the outermost places. -/
theorem exists_lists_tagged (tags : List String) (v : Value) :
    ∃ places, Lists tags v places (tagged tags v) := by
  induction v using branches_induction with
  | step v ih =>
      by_cases h : IsNode tags v
      · rw [tagged, gather_of_isNode h]
        exact ⟨_, lists_of_isNode h⟩
      · rw [tagged_of_not_isNode h]
        choose! placesOf hplaces using ih
        exact ⟨_, lists_of_branches h hplaces⟩

/-- **The walk gathers the outermost nodes.** Behind what was found before, it puts the nodes
that stand at the outermost places of the tree, each place once and in the order of the
document. No gathered node is on the way to another one, and there is a gathered node on the
way to every node of the tree. -/
theorem gather_outermost (tags : List String) (found : List Value) (root : Value) :
    ∃ (places : List (List ℕ)) (nodes : List Value),
      gather tags found root = found ++ nodes ∧
      places.Pairwise (· < ·) ∧
      (∀ place, place ∈ places ↔ IsOutermost tags root place) ∧
      List.Forall₂ (fun place node => root.valueAt? place = some node) places nodes ∧
      (∀ place ∈ places, ∀ other ∈ places, place <+: other → place = other) ∧
      ∀ place node, root.valueAt? place = some node → IsNode tags node →
        ∃ front ∈ places, front <+: place := by
  obtain ⟨places, hlists⟩ := exists_lists_tagged tags root
  refine ⟨places, tagged tags root, gather_eq tags root found, hlists.ordered, hlists.mem_iff,
    hlists.valueAt, fun place hplace other hother hprefix => ?_, fun place node hnode hisNode => ?_⟩
  · rw [hlists.mem_iff] at hplace hother
    exact hplace.eq_of_prefix hother hprefix
  · obtain ⟨front, hfront, houtermost⟩ := exists_isOutermost_of_isNode hnode hisNode
    exact ⟨front, (hlists.mem_iff front).2 houtermost, hfront⟩

/-- A node with a node in it, in an object of children and in a list of them under another tag. -/
example :
    let inner := mapping [(text "tag", text "call")]
    let outer := mapping [(text "children", list [inner]), (text "tag", text "call")]
    let other := mapping [(text "tag", text "chain"), (text "children", list [list [outer]])]
    gather ["call"] [null] (mapping [(text "children", mapping [(text "tag", outer),
      (text "x", text "call"), (text "y", other)])]) = [null, outer, outer] :=
  rfl

end FluentCalc.Value
