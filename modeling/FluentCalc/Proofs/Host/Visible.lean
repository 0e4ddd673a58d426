/-
# Which methods are visible

A host takes on the methods of another one and defines its own after them. Of several
definitions of a name the last one counts, whether an expression may call it or not. So
a method is visible if it is the last own definition of its name, or the last one that was
taken on of a name with no own definition. The visible methods are visited in the order
of their names, each name once.
-/

import Mathlib.Data.List.Induction
import Mathlib.Data.List.Nodup
import Mathlib.Data.String.Basic
import FluentCalc.Host.Registry

namespace FluentCalc

section Tables

variable {α : Type} {key : α → String} {item : α} {table : List α}

/-- Put an item into a table, in place of one that is there with the same key. -/
def putBy (key : α → String) (item : α) : List α → List α
  | [] => [item]
  | other :: rest =>
    if key other = key item then item :: rest else other :: putBy key item rest

/-- An item with a new key comes last. -/
theorem putBy_of_not_mem (h : key item ∉ table.map key) :
    putBy key item table = table ++ [item] := by
  induction table with
  | nil => rfl
  | cons other rest ih =>
      rw [List.map_cons, List.mem_cons, not_or] at h
      rw [putBy, if_neg (Ne.symm h.1), ih h.2, List.cons_append]

/-- The keys keep their places if the key of the item is one of them. -/
theorem map_putBy_of_mem (h : key item ∈ table.map key) :
    (putBy key item table).map key = table.map key := by
  induction table with
  | nil => cases h
  | cons other rest ih =>
      rw [List.map_cons, List.mem_cons] at h
      rw [putBy]
      by_cases hkey : key other = key item
      · rw [if_pos hkey, List.map_cons, List.map_cons, hkey]
      · rw [if_neg hkey, List.map_cons, List.map_cons, ih (h.resolve_left (Ne.symm hkey))]

theorem mem_map_putBy_iff {k : String} :
    k ∈ (putBy key item table).map key ↔ k = key item ∨ k ∈ table.map key := by
  by_cases hkey : key item ∈ table.map key
  · rw [map_putBy_of_mem hkey]
    exact (or_iff_right_of_imp fun h => h ▸ hkey).symm
  · rw [putBy_of_not_mem hkey, List.map_append, List.mem_append, List.map_singleton,
      List.mem_singleton, or_comm]

theorem nodup_map_putBy (h : (table.map key).Nodup) : ((putBy key item table).map key).Nodup := by
  by_cases hkey : key item ∈ table.map key
  · rwa [map_putBy_of_mem hkey]
  · rw [putBy_of_not_mem hkey, List.map_append, List.map_singleton, ← List.concat_eq_append]
    exact h.concat hkey

/-- Of a table without repeated keys all items but the one in whose place it is put are kept. -/
theorem mem_putBy_iff (h : (table.map key).Nodup) {other : α} :
    other ∈ putBy key item table ↔ other = item ∨ other ∈ table ∧ key other ≠ key item := by
  induction table with
  | nil => simp [putBy]
  | cons first rest ih =>
      rw [List.map_cons, List.nodup_cons] at h
      rw [putBy]
      by_cases hkey : key first = key item
      · have hrest : ∀ other ∈ rest, key other ≠ key item := fun other hother heq =>
          h.1 (List.mem_map.2 ⟨other, hother, heq.trans hkey.symm⟩)
        rw [if_pos hkey, List.mem_cons, List.mem_cons]
        constructor
        · rintro (rfl | hother)
          · exact .inl rfl
          · exact .inr ⟨.inr hother, hrest other hother⟩
        · rintro (rfl | ⟨rfl | hother, hne⟩)
          · exact .inl rfl
          · exact absurd hkey hne
          · exact .inr hother
      · rw [if_neg hkey, List.mem_cons, ih h.2, List.mem_cons]
        constructor
        · rintro (rfl | rfl | ⟨hother, hne⟩)
          · exact .inr ⟨.inl rfl, hkey⟩
          · exact .inl rfl
          · exact .inr ⟨.inr hother, hne⟩
        · rintro (rfl | ⟨rfl | hother, hne⟩)
          · exact .inr (.inl rfl)
          · exact .inl rfl
          · exact .inr (.inr ⟨hother, hne⟩)

end Tables

namespace Method

/-- A method is the last of its name in a list. -/
def IsLast (m : Method) (methods : List Method) : Prop :=
  ∃ before after, methods = before ++ m :: after ∧ ∀ other ∈ after, other.name ≠ m.name

/-- A method is visible behind others: it is the last of its own, or it was taken on and
is not defined anew. -/
inductive IsVisible (inherited own : List Method) (m : Method) : Prop
  | own (h : m.IsLast own)
  | inherited (h : m.IsLast inherited) (hown : ∀ other ∈ own, other.name ≠ m.name)

variable {m : Method} {methods inherited own : List Method}

theorem IsLast.mem (h : m.IsLast methods) : m ∈ methods := by
  obtain ⟨before, after, rfl, -⟩ := h
  exact List.mem_append_right before List.mem_cons_self

/-- The last method of a list, whatever is in front of it, and those that it does not hide. -/
theorem isLast_concat_iff {last : Method} : m.IsLast (methods ++ [last]) ↔
    m = last ∨ m.IsLast methods ∧ m.name ≠ last.name := by
  constructor
  · rintro ⟨before, after, heq, hafter⟩
    rcases List.eq_nil_or_concat after with rfl | ⟨middle, last', rfl⟩
    · exact .inl (List.cons.inj (List.append_inj' heq rfl).2).1.symm
    · rw [List.concat_eq_append, ← List.cons_append, ← List.append_assoc] at heq
      obtain ⟨hmethods, hlast⟩ := List.append_inj' heq rfl
      cases hlast
      rw [List.concat_eq_append, List.forall_mem_append, List.forall_mem_singleton] at hafter
      exact .inr ⟨⟨before, middle, hmethods, hafter.1⟩, hafter.2.symm⟩
  · rintro (rfl | ⟨⟨before, after, rfl, hafter⟩, hname⟩)
    · exact ⟨methods, [], rfl, List.forall_mem_nil _⟩
    · exact ⟨before, after ++ [last], by rw [List.append_assoc, List.cons_append],
        List.forall_mem_append.2 ⟨hafter, List.forall_mem_singleton.2 hname.symm⟩⟩

/-- A name has one last method. -/
theorem IsLast.eq_of_name {m' : Method} (h : m.IsLast methods) (h' : m'.IsLast methods)
    (hname : m.name = m'.name) : m = m' := by
  induction methods using List.reverseRecOn with
  | nil => exact absurd h.mem List.not_mem_nil
  | append_singleton methods last ih =>
      rcases isLast_concat_iff.1 h with rfl | ⟨hm, hne⟩
      · rcases isLast_concat_iff.1 h' with rfl | ⟨-, hne'⟩
        · rfl
        · exact absurd hname.symm hne'
      · rcases isLast_concat_iff.1 h' with rfl | ⟨hm', -⟩
        · exact absurd hname hne
        · exact ih hm hm'

/-- The last definitions in a list behind another are the visible ones. -/
theorem isLast_append_iff : m.IsLast (inherited ++ own) ↔ IsVisible inherited own m := by
  induction own using List.reverseRecOn with
  | nil =>
      rw [List.append_nil]
      constructor
      · exact fun h => .inherited h (List.forall_mem_nil _)
      · rintro (h | ⟨h, -⟩)
        · exact absurd h.mem List.not_mem_nil
        · exact h
  | append_singleton own last ih =>
      rw [← List.append_assoc, isLast_concat_iff, ih]
      constructor
      · rintro (rfl | ⟨hown | ⟨hinherited, hown⟩, hname⟩)
        · exact .own (isLast_concat_iff.2 (.inl rfl))
        · exact .own (isLast_concat_iff.2 (.inr ⟨hown, hname⟩))
        · exact .inherited hinherited
            (List.forall_mem_append.2 ⟨hown, List.forall_mem_singleton.2 hname.symm⟩)
      · rintro (hown | ⟨hinherited, hown⟩)
        · exact (isLast_concat_iff.1 hown).imp_right fun ⟨h, hname⟩ => ⟨.own h, hname⟩
        · rw [List.forall_mem_append, List.forall_mem_singleton] at hown
          exact .inr ⟨.inherited hinherited hown.1, hown.2.symm⟩

theorem IsVisible.mem (h : IsVisible inherited own m) : m ∈ inherited ++ own :=
  (isLast_append_iff.2 h).mem

/-- An own definition that is not exposed hides its name from expressions. -/
theorem IsVisible.name_ne_of_hidden {other : Method} (h : IsVisible inherited own other)
    (hexposed : other.exposed = true) (hm : m.IsLast own) (hhidden : m.exposed = false) :
    other.name ≠ m.name := by
  intro hname
  rcases h with hown | ⟨-, hown⟩
  · rw [hown.eq_of_name hm hname, hhidden] at hexposed
    cases hexposed
  · exact hown m hm.mem hname.symm

theorem define_eq_putBy (m : Method) (methods : List Method) :
    define m methods = putBy name m methods := by
  induction methods with
  | nil => rfl
  | cons other rest ih => simp only [define, putBy, ih, beq_iff_eq]

/-- Definitions one after the other: each name is kept once, with its last method. -/
theorem foldl_define (methods : List Method) :
    let seen := methods.foldl (fun seen m => define m seen) []
    (seen.map name).Nodup ∧ ∀ m, m ∈ seen ↔ m.IsLast methods := by
  induction methods using List.reverseRecOn with
  | nil => exact ⟨List.nodup_nil, fun m => ⟨fun h => absurd h List.not_mem_nil, IsLast.mem⟩⟩
  | append_singleton methods last ih =>
      obtain ⟨hnodup, hmem⟩ := ih
      rw [List.foldl_append, List.foldl_cons, List.foldl_nil, define_eq_putBy]
      refine ⟨nodup_map_putBy hnodup, fun m => ?_⟩
      rw [mem_putBy_iff hnodup, isLast_concat_iff, hmem]

/-- **What is visible.** The visible methods of a list are the last ones of their names. -/
theorem mem_visible_iff : m ∈ visible methods ↔ m.IsLast methods := by
  rw [visible, List.mem_mergeSort]
  exact (foldl_define methods).2 m

/-- The visible methods are visited in the order of their names, each name once. -/
theorem pairwise_visible (methods : List Method) :
    (visible methods).Pairwise fun m m' => m.name < m'.name := by
  have hprecedes : ∀ m m' : Method, precedes m m' = true ↔ m.name ≤ m'.name :=
    fun _ _ => decide_eq_true_iff
  have hsorted : (visible methods).Pairwise fun m m' => precedes m m' = true := by
    apply List.pairwise_mergeSort
    · intro m m' m'' h h'
      rw [hprecedes] at h h' ⊢
      exact h.trans h'
    · intro m m'
      rw [Bool.or_eq_true, hprecedes, hprecedes]
      exact le_total _ _
  have hnodup : ((visible methods).map name).Nodup :=
    ((List.mergeSort_perm _ _).map name).nodup_iff.2 (foldl_define methods).1
  refine (hsorted.and (List.pairwise_map.1 hnodup)).imp ?_
  rintro m m' ⟨hle, hne⟩
  exact lt_of_le_of_ne ((hprecedes m m').1 hle) hne

/-- Of the visible methods with a property there is a first one. -/
theorem exists_first_visible {p : Method → Bool} (h : ∃ m : Method, m.IsLast methods ∧ p m = true) :
    ∃ before m after, visible methods = before ++ m :: after ∧ p m = true ∧
      (∀ m' ∈ before, p m' = false) ∧
      ∀ other : Method, other.IsLast methods → p other = true → m.name ≤ other.name := by
  have hfound : ((visible methods).find? p).isSome = true := by
    obtain ⟨m, hm, hp⟩ := h
    exact List.find?_isSome.2 ⟨m, mem_visible_iff.2 hm, hp⟩
  obtain ⟨m, hm⟩ := Option.isSome_iff_exists.1 hfound
  obtain ⟨hp, before, after, heq, hbefore⟩ := List.find?_eq_some_iff_append.1 hm
  simp only [Bool.not_eq_true'] at hbefore
  refine ⟨before, m, after, heq, hp, hbefore, fun other hother hp' => ?_⟩
  have hsorted := pairwise_visible methods
  rw [heq, List.pairwise_append, List.pairwise_cons] at hsorted
  rw [← mem_visible_iff, heq, List.mem_append, List.mem_cons] at hother
  rcases hother with hfirst | rfl | hlater
  · rw [hbefore other hfirst] at hp'
    cases hp'
  · exact le_rfl
  · exact (hsorted.2.1.1 other hlater).le

end Method

end FluentCalc
