/-
# Short YAML documents

The lexer takes as many turns as a text needs. That a given text is read as a
given node can be computed once a number of turns is named that is large enough.
-/

import FluentCalc.Yaml.Reader

namespace FluentCalc.Yaml

/-- The tokens of a lexer that comes to its end within a number of turns. -/
def Lexer.runWithin : Nat → Lexer → Option (List Token × Option Fault)
  | 0, _ => none
  | n + 1, l =>
    if l.finished then some (l.queue, none)
    else
      match l.turn with
      | .error fault => some ([], some fault)
      | .ok (t?, l') =>
        (runWithin n l').map fun (tokens, fault) => (t?.toList ++ tokens, fault)

theorem Lexer.run_of_runWithin {n : Nat} {l : Lexer} {result : List Token × Option Fault}
    (h : l.runWithin n = some result) : l.run = result := by
  induction n generalizing l result with
  | zero => cases h
  | succ n ih =>
      rw [runWithin] at h
      rw [run]
      split at h
      · next hfinished => rw [dif_pos hfinished]; exact Option.some.inj h
      rw [dif_neg ‹_›]
      split at h
      · next fault hturn =>
        split
        · next hturn' => cases hturn.symm.trans hturn'; exact Option.some.inj h
        · next hturn' => cases hturn.symm.trans hturn'
      · next t? l' hturn =>
        obtain ⟨rest, hrest, rfl⟩ := Option.map_eq_some_iff.1 h
        split
        · next hturn' => cases hturn.symm.trans hturn'
        · next hturn' => cases hturn.symm.trans hturn'; rw [ih hrest]

/-- The document of a text that is cut into tokens within a number of turns. -/
def documentWithin (n : Nat) (text : List Char) : Option (Except Fault (Option Node)) :=
  if !text.all isReadable then some (.error .unreadable)
  else do
    let (tokens, fault) ← (Lexer.start text).runWithin n
    let result : Except Fault (Option Node × Feed) ←
      readDocument (3 * tokens.length + 3) ⟨tokens, fault, commonHandles, []⟩
    return (·.1) <$> result

/-- A document that is computed is the one that is read. -/
theorem document_of_documentWithin {n : Nat} {text : List Char}
    {result : Except Fault (Option Node)} (h : documentWithin n text = some result) :
    document text = result := by
  rw [documentWithin] at h
  rw [document]
  split at h
  · next hunreadable => rw [if_pos hunreadable]; exact Option.some.inj h
  rw [if_neg ‹_›]
  obtain ⟨⟨tokens, fault⟩, htokens, h⟩ := Option.bind_eq_some_iff.1 h
  obtain ⟨read, hread, h⟩ := Option.bind_eq_some_iff.1 h
  have hcut : Yaml.tokens text = (tokens, fault) := Lexer.run_of_runWithin htokens
  simp only [hcut]
  rw [Option.get_of_eq_some _ hread]
  exact Option.some.inj h

theorem read_of_documentWithin {n : Nat} {text : List Char} {node : Node} {value : Value}
    (hnode : documentWithin n text = some (.ok (some node))) (hvalue : node.toValue = .ok value) :
    read text = .ok value := by
  rw [read, document_of_documentWithin hnode]
  change node.toValue.mapError Flaw.fault = .ok value
  rw [hvalue]
  rfl

end FluentCalc.Yaml
