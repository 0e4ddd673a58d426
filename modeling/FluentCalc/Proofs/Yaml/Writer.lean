/-
# Plain data in YAML

The only values without a YAML form are records, so plain data always has a node, and
with it a text.
-/

import FluentCalc.Proofs.Value.Plain
import FluentCalc.Yaml.Writer

namespace FluentCalc.Yaml

/-- A list has nodes if its items have. -/
theorem Node.exists_ofItems {items : List Value}
    (h : ∀ item ∈ items, ∃ node, ofValue item = .ok node) :
    ∃ nodes, ofItems items = .ok nodes := by
  induction items with
  | nil => exact ⟨[], rfl⟩
  | cons item rest ih =>
      rw [List.forall_mem_cons] at h
      obtain ⟨node, hnode⟩ := h.1
      obtain ⟨nodes, hnodes⟩ := ih h.2
      refine ⟨node :: nodes, ?_⟩
      rw [ofItems, hnode, hnodes]
      rfl

/-- A mapping under texts has nodes if its values have. -/
theorem Node.exists_ofEntries {entries : List (String × Value)}
    (h : ∀ entry ∈ entries, ∃ node, ofValue entry.2 = .ok node) :
    ∃ nodes, ofEntries (entries.map fun e => (.text e.1, e.2)) = .ok nodes := by
  induction entries with
  | nil => exact ⟨[], rfl⟩
  | cons entry rest ih =>
      rw [List.forall_mem_cons] at h
      obtain ⟨node, hnode⟩ := h.1
      obtain ⟨nodes, hnodes⟩ := ih h.2
      refine ⟨(.scalar .str entry.1, node) :: nodes, ?_⟩
      rw [List.map_cons, ofEntries, hnode, hnodes]
      rfl

/-- Plain data has a node. -/
theorem Node.exists_ofValue {v : Value} (h : v.IsPlain) : ∃ node, ofValue v = .ok node := by
  induction h with
  | null => exact ⟨_, rfl⟩
  | bool b => exact ⟨_, rfl⟩
  | int n => exact ⟨_, rfl⟩
  | num x => exact ⟨_, rfl⟩
  | text s => exact ⟨_, rfl⟩
  | list _ ih =>
      obtain ⟨nodes, hnodes⟩ := exists_ofItems ih
      refine ⟨.sequence .seq nodes, ?_⟩
      rw [ofValue, hnodes]
      rfl
  | fields _ _ ih =>
      obtain ⟨nodes, hnodes⟩ := exists_ofEntries ih
      refine ⟨.mapping .map nodes, ?_⟩
      rw [Value.fields, ofValue, hnodes]
      rfl

/-- **Plain data is always written** as YAML. -/
theorem exists_text {v : Value} (h : v.IsPlain) : ∃ t, text v = .ok t := by
  obtain ⟨node, hnode⟩ := Node.exists_ofValue h
  refine ⟨node.text, ?_⟩
  rw [text, hnode]
  rfl

end FluentCalc.Yaml
