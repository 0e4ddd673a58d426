/-
# Telling the format of what has been written

A text without a format is told by its first characters. JSON is always recognised: the
text of a list begins with a bracket and that of a mapping with a brace. In YAML a list
shows by the dash of its first item, and empty collections are brackets in both formats.
But a YAML mapping begins with its first key, and a key looks like nothing in particular.
So a mapping with entries, which is what an outcome is, is taken for a mere text.
-/

import Mathlib
import FluentCalc.Proofs.Json.Conformance
import FluentCalc.Proofs.Json.RoundTrip
import FluentCalc.Proofs.Yaml.Document
import FluentCalc.Proofs.Yaml.Front

namespace FluentCalc

open Yaml

namespace Format

/-- A word without a colon does not reach behind one. -/
theorem isPrefixOf_append_colon {word : List Char} (h : ':' ∉ word) (front rest : List Char) :
    word.isPrefixOf (front ++ ':' :: rest) = word.isPrefixOf front := by
  induction word generalizing front with
  | nil => rfl
  | cons c word ih =>
      obtain ⟨hc, hword⟩ := not_or.1 (mt List.mem_cons.2 h)
      cases front with
      | nil => simp [List.isPrefixOf, Ne.symm hc]
      | cons d front => rw [List.cons_append, List.isPrefixOf, List.isPrefixOf, ih hword]

/-- A text whose first character is not blank is looked at as it stands. -/
theorem sniff?_cons {c : Char} (h : Text.isBlank c = false) (rest : List Char) :
    sniff? (c :: rest) =
      if beginsWith "\x7b" (c :: rest) || beginsWith "[" (c :: rest) then some json
      else if beginsWith "---" (c :: rest) || beginsWith "- " (c :: rest) then some yaml
      else none := by
  have hfront : Text.stripFront (c :: rest) = c :: rest :=
    List.dropWhile_cons_of_neg (Bool.eq_false_iff.1 h)
  rw [sniff?, hfront]

/-- No mark of a format has a colon in it. -/
theorem sniff?_append_colon {c : Char} (h : Text.isBlank c = false) (front rest : List Char) :
    sniff? (c :: front ++ ':' :: rest) = sniff? (c :: front) := by
  have hcolon {word : String} (hword : ':' ∉ word.toList) :
      beginsWith word (c :: front ++ ':' :: rest) = beginsWith word (c :: front) :=
    isPrefixOf_append_colon hword _ _
  have htext := sniff?_cons h (front ++ ':' :: rest)
  rw [← List.cons_append, hcolon (by decide), hcolon (by decide), hcolon (by decide),
    hcolon (by decide)] at htext
  rw [htext, sniff?_cons h]

/-- A text that a plain scalar can begin with is of no format. -/
theorem sniff?_of_not_hasIndicator {c : Char} {rest : List Char}
    (hblank : Text.isBlank c = false) (h : hasIndicator (c :: rest) = false) :
    sniff? (c :: rest) = none := by
  simp only [hasIndicator, Bool.or_eq_false_iff] at h
  obtain ⟨⟨hhyphens, -⟩, ⟨⟨⟨hmarks, -⟩, -⟩, hgap⟩, -⟩ := h
  -- The brackets are indicators everywhere, but a hyphen is one only with a gap behind it.
  have hmark {d : Char} (hd : "#,[]\x7b\x7d&*!|>%@\x60".toList.contains d = true) :
      [d].isPrefixOf (c :: rest) = false := by
    have hne : d ≠ c := by
      rintro rfl
      exact Bool.eq_false_iff.1 hmarks hd
    simp [List.isPrefixOf, hne]
  have hdash : ['-', ' '].isPrefixOf (c :: rest) = false := by
    by_contra h
    obtain ⟨more, hmore⟩ := List.isPrefixOf_iff_prefix.1 (Bool.eq_true_of_not_eq_false h)
    obtain ⟨rfl, rfl⟩ := List.cons.inj hmore
    cases hgap
  have hbrace : beginsWith "\x7b" (c :: rest) = false := hmark (by decide)
  have hbracket : beginsWith "[" (c :: rest) = false := hmark (by decide)
  have hspaced : beginsWith "- " (c :: rest) = false := hdash
  rw [sniff?_cons hblank, hbrace, hbracket, hhyphens, hspaced]
  rfl

/-- Nor is a mapping that begins with a key. -/
theorem sniff?_keyFront {key front : List Char} (h : KeyFront key front) (rest : List Char) :
    sniff? (front ++ rest) = none := by
  cases h with
  | question => rfl
  | single => rfl
  | double => rfl
  | plain hstyle hne =>
      obtain ⟨c, key, rfl⟩ := List.exists_cons_of_ne_nil hne
      obtain ⟨hspecial, hindicator, hspace⟩ := of_scalarStyle_plain hstyle
      rw [List.any_cons, Bool.or_eq_false_iff] at hspecial
      have hblank := not_isBlank_of_plain hspecial.1 hspace
      rw [List.append_assoc, List.singleton_append, sniff?_append_colon hblank,
        sniff?_of_not_hasIndicator hblank hindicator]

end Format

/-- A text of known format is read in that format. -/
theorem deserialize_of_sniff? (format : Format) {text : String}
    (h : Format.sniff? text.toList = some format) :
    deserialize text none = deserialize text (some format.name) := by
  cases format <;> simp [deserialize, h] <;> rfl

theorem deserialize_yaml {text : String} {value : Value}
    (h : Yaml.read text.toList = .ok value) : deserialize text (some "yaml") = .ok value := by
  have hname : deserialize text (some "yaml") = readYaml text.toList := by
    simp [deserialize]
    rfl
  rw [hname, readYaml, h]

/-- A text of unknown format stands for itself. -/
theorem deserialize_of_not_sniff? {text : String} (h : Format.sniff? text.toList = none) :
    deserialize text none = .ok (.text text) := by
  simp [deserialize, h]

theorem Json.write_of_text {v : Value} {pretty : Bool} {text : String}
    (h : Json.text pretty v = .ok text) : write ⟨pretty⟩ 0 v = .ok text.toList := by
  obtain ⟨chars, hwrite, hchars⟩ := exists_of_bind_eq_ok h
  cases hchars
  rw [hwrite, String.toList_ofList]

/-- A list in JSON begins with a bracket. -/
theorem Json.sniff?_text_list {items : List Value} {pretty : Bool} {text : String}
    (h : Json.text pretty (.list items) = .ok text) :
    Format.sniff? text.toList = some .json := by
  have hwrite := write_of_text h
  rw [write] at hwrite
  obtain ⟨texts, -, htexts⟩ := exists_of_bind_eq_ok hwrite
  rw [← Except.ok.inj htexts]
  cases texts <;> rfl

/-- A mapping in JSON begins with a brace. -/
theorem Json.sniff?_text_fields {entries : List (String × Value)} {pretty : Bool} {text : String}
    (h : Json.text pretty (.fields entries) = .ok text) :
    Format.sniff? text.toList = some .json := by
  have hwrite := write_of_text h
  rw [Value.fields, write] at hwrite
  obtain ⟨texts, -, htexts⟩ := exists_of_bind_eq_ok hwrite
  rw [← Except.ok.inj htexts]
  cases texts <;> rfl

theorem Yaml.exists_node_of_text {v : Value} {text : String} (h : Yaml.text v = .ok text) :
    ∃ node, Node.ofValue v = .ok node ∧ node.text = text := by
  obtain ⟨node, hnode, htext⟩ := exists_of_bind_eq_ok h
  exact ⟨node, hnode, Except.ok.inj htext⟩

/-- A list in YAML begins with the dash of its first item. If it has none it is a JSON text
too. -/
theorem Yaml.deserialize_text_list {items : List Value} {text : String}
    (h : Yaml.text (.list items) = .ok text) :
    deserialize text none = deserialize text (some "yaml") := by
  obtain ⟨node, hnode, rfl⟩ := exists_node_of_text h
  rw [Node.ofValue] at hnode
  obtain ⟨nodes, -, hnodes⟩ := exists_of_bind_eq_ok hnode
  cases hnodes
  cases nodes with
  | nil =>
      have hempty : (Node.sequence .seq []).text = "[]\n" := rfl
      have hnode : documentWithin 9 "[]\n".toList = some (.ok (some (.sequence .seq []))) := by cbv
      have hread : Yaml.read "[]\n".toList = .ok (.list []) :=
        read_of_documentWithin hnode (by cbv)
      rw [hempty, deserialize_yaml hread]
      cbv
  | cons node rest =>
      obtain ⟨more, hmore⟩ := isPrefix_text_sequence .seq node rest
      apply deserialize_of_sniff? .yaml
      rw [← hmore]
      rfl

/-- The node of the first key of a mapping under texts. -/
theorem Yaml.Node.exists_of_ofEntries {key : String} {v : Value} {rest : List (Value × Value)}
    {nodes : List (Node × Node)} (h : ofEntries ((.text key, v) :: rest) = .ok nodes) :
    ∃ value others, nodes = (.scalar .str key, value) :: others := by
  rw [ofEntries, ofValue] at h
  obtain ⟨_, hkey, h⟩ := exists_of_bind_eq_ok h
  obtain ⟨value, -, h⟩ := exists_of_bind_eq_ok h
  obtain ⟨others, -, h⟩ := exists_of_bind_eq_ok h
  cases hkey
  cases h
  exact ⟨value, others, rfl⟩

/-- A mapping in YAML begins with its first key. -/
theorem Yaml.deserialize_text_fields {entry : String × Value} {rest : List (String × Value)}
    {text : String} (h : Yaml.text (.fields (entry :: rest)) = .ok text) :
    deserialize text none = .ok (.text text) := by
  obtain ⟨node, hnode, rfl⟩ := exists_node_of_text h
  rw [Value.fields, Node.ofValue] at hnode
  obtain ⟨nodes, hentries, hnodes⟩ := exists_of_bind_eq_ok hnode
  obtain ⟨value, others, rfl⟩ := Node.exists_of_ofEntries hentries
  cases hnodes
  obtain ⟨front, hfront, more, hmore⟩ := exists_keyFront .map entry.1 value others
  apply deserialize_of_not_sniff?
  rw [← hmore, Format.sniff?_keyFront hfront]

/-- An empty mapping in YAML is a JSON text too. -/
theorem Yaml.deserialize_text_empty {text : String} (h : Yaml.text (.fields []) = .ok text) :
    deserialize text none = deserialize text (some "yaml") := by
  have hempty : Yaml.text (.fields []) = .ok "\x7b\x7d\n" := rfl
  cases hempty.symm.trans h
  have hnode : documentWithin 9 "\x7b\x7d\n".toList = some (.ok (some (.mapping .map []))) := by
    cbv
  have hread : Yaml.read "\x7b\x7d\n".toList = .ok (.fields []) :=
    read_of_documentWithin hnode (by cbv)
  rw [deserialize_yaml hread]
  cbv

namespace Value

/-- What is kept as data: an outcome, or a list or a mapping under distinct texts of plain
data. -/
inductive IsDocument : Value → Prop
  | outcome {final : Value} {diagnostics effects : List Value} (hfinal : final.plain.IsPlain)
      (hdiagnostics : ∀ diagnostic ∈ diagnostics, diagnostic.plain.IsPlain)
      (heffects : ∀ effect ∈ effects, effect.plain.IsPlain) :
      IsDocument (.outcome final diagnostics effects)
  | list {items : List Value} (h : ∀ item ∈ items, item.IsPlain) : IsDocument (.list items)
  | fields {entries : List (String × Value)} (hkeys : (entries.map Prod.fst).Nodup)
      (h : ∀ entry ∈ entries, entry.2.IsPlain) : IsDocument (.fields entries)

/-- Whether a value is a mapping that is not empty. -/
def hasEntries : Value → Bool
  | mapping entries => !entries.isEmpty
  | _ => false

/-- The plain form of what is kept is a list or a mapping. -/
theorem IsDocument.plain_cases {v : Value} (h : v.IsDocument) : v.plain.IsPlain ∧
    ((∃ items, v.plain = .list items) ∨ ∃ entries, v.plain = .fields entries) := by
  cases h with
  | @outcome final diagnostics effects hfinal hdiagnostics heffects =>
      have hplain : (Value.outcome final diagnostics effects).plain =
          .fields [("final_value", final.plain), ("diagnostics", .list (plainItems diagnostics)),
            ("side_effects", .list (plainItems effects))] := rfl
      refine ⟨?_, .inr ⟨_, hplain⟩⟩
      rw [hplain, plainItems_eq_map, plainItems_eq_map]
      exact .fields (by simp) (by simp [hfinal, IsPlain.list (List.forall_mem_map.2 hdiagnostics),
        IsPlain.list (List.forall_mem_map.2 heffects)])
  | list hitems =>
      have hplain := IsPlain.list hitems
      rw [hplain.plain_eq]
      exact ⟨hplain, .inl ⟨_, rfl⟩⟩
  | fields hkeys hentries =>
      have hplain := IsPlain.fields hkeys hentries
      rw [hplain.plain_eq]
      exact ⟨hplain, .inr ⟨_, rfl⟩⟩

/-- Whether the text of a value in JSON is read as the plain form of the value, be the format
given or not. -/
def IsReadBack (v : Value) : Prop :=
  ∀ pretty, ∃ text, serialize v (some Format.json.name) pretty = .ok text ∧
    deserialize text none = .ok v.plain ∧ deserialize text (some Format.json.name) = .ok v.plain

/-- Whether the text of a value in a format is read without the format as it is with it: to the
same value, or with the same fault. Not all that is written in YAML is read back, for the
escapes of a long key can be more than a reader takes for a key. -/
def IsRecognised (v : Value) (format : Format) : Prop :=
  ∀ pretty, ∃ text, serialize v (some format.name) pretty = .ok text ∧
    deserialize text none = deserialize text (some format.name)

/-- Whether the text of a value in a format stands for itself when the format is not given. -/
def IsTakenForText (v : Value) (format : Format) : Prop :=
  ∀ pretty, ∃ text, serialize v (some format.name) pretty = .ok text ∧
    deserialize text none = .ok (.text text)

end Value

/-- The record of a run is kept as data. -/
theorem Outcome.isDocument (o : Outcome) : o.toValue.IsDocument :=
  .outcome (.num o.final) (List.forall_mem_map.2 fun d _ => d.isPlain)
    (List.forall_mem_map.2 fun e _ => e.isPlain)

theorem serialize_yaml (v : Value) (pretty : Bool) :
    serialize v (some "yaml") pretty = Format.yaml.write pretty v := rfl

/-- A value with a long integer in it is not written in any format. -/
theorem serialize_of_hasLongInteger {v : Value} (h : v.hasLongInteger = true) (format : Format)
    (pretty : Bool) :
    serialize v (some format.name) pretty = .error (.unwritten .tooManyDigits) := by
  have hwrite : format.write pretty v = .error (.unwritten .tooManyDigits) := by
    simp only [Format.write, h, ↓reduceIte]
  cases format <;> exact hwrite

namespace Value

variable {v : Value} (h : v.IsDocument) (hshort : v.plain.hasLongInteger = false)

include h hshort

/-- What is kept as JSON is read back. -/
theorem IsDocument.isReadBack : v.IsReadBack := by
  intro pretty
  obtain ⟨hplain, hshape⟩ := h.plain_cases
  obtain ⟨text, htext, hwrite, hread⟩ :=
    exists_serialize_of_isTree (Json.isTree_of_isPlain hplain hshort) pretty
  have hsniff : Format.sniff? text.toList = some .json := by
    obtain ⟨items, hitems⟩ | ⟨entries, hentries⟩ := hshape
    · exact Json.sniff?_text_list (hitems ▸ htext)
    · exact Json.sniff?_text_fields (hentries ▸ htext)
  exact ⟨text, hwrite, (deserialize_of_sniff? .json hsniff).trans hread, hread⟩

/-- What is kept as YAML has a text, whether it is to be pretty or not. -/
theorem IsDocument.exists_serialize_yaml :
    ∃ text, Yaml.text v.plain = .ok text ∧
      ∀ pretty, serialize v (some Format.yaml.name) pretty = .ok text := by
  obtain ⟨text, htext⟩ := Yaml.exists_text h.plain_cases.1
  refine ⟨text, htext, fun pretty => ?_⟩
  rw [Format.name, serialize_yaml, Format.write_yaml (v.hasLongInteger_of_plain hshort) htext]

/-- Lists and empty mappings are recognised in YAML. -/
theorem IsDocument.isRecognised_yaml (hempty : v.plain.hasEntries = false) :
    v.IsRecognised .yaml := by
  obtain ⟨text, htext, hwrite⟩ := h.exists_serialize_yaml hshort
  refine fun pretty => ⟨text, hwrite pretty, ?_⟩
  obtain ⟨-, ⟨items, hitems⟩ | ⟨entries, hentries⟩⟩ := h.plain_cases
  · exact Yaml.deserialize_text_list (hitems ▸ htext)
  · rw [hentries] at hempty htext
    cases entries with
    | nil => exact Yaml.deserialize_text_empty htext
    | cons entry rest => cases hempty

/-- Mappings with entries are not. -/
theorem IsDocument.isTakenForText_yaml (hsome : v.plain.hasEntries = true) :
    v.IsTakenForText .yaml := by
  obtain ⟨text, htext, hwrite⟩ := h.exists_serialize_yaml hshort
  refine fun pretty => ⟨text, hwrite pretty, ?_⟩
  obtain ⟨-, ⟨items, hitems⟩ | ⟨entries, hentries⟩⟩ := h.plain_cases
  · rw [hitems] at hsome
    cases hsome
  · rw [hentries] at hsome htext
    cases entries with
    | nil => cases hsome
    | cons entry rest => exact Yaml.deserialize_text_fields htext

omit hshort

/-- **Only mappings in YAML are not recognised.** What is kept as data is not written at all if
there is an integer in it that is too long. Otherwise its text in JSON is read as its plain form,
be the format given or not, and its text in YAML is read without the format as it is with it. The
exception is a mapping with entries in YAML, such as an outcome: it is taken for a mere text. -/
theorem IsDocument.isRecognised_unless_hasEntries :
    (v.hasLongInteger = true → ∀ (format : Format) (pretty : Bool),
      serialize v (some format.name) pretty = .error (.unwritten .tooManyDigits)) ∧
    (v.plain.hasLongInteger = false → v.IsReadBack ∧
      if v.plain.hasEntries then v.IsTakenForText .yaml else v.IsRecognised .yaml) := by
  refine ⟨serialize_of_hasLongInteger, fun hshort => ⟨h.isReadBack hshort, ?_⟩⟩
  cases hentries : v.plain.hasEntries with
  | true => exact h.isTakenForText_yaml hshort hentries
  | false => exact h.isRecognised_yaml hshort hentries

end Value

/-- An outcome is recognised in JSON only. -/
theorem Value.isRecognised_of_outcome :
    ∃ v, v = Outcome.toValue ⟨.zero, [⟨0, "Add", .ok, "", .zero⟩], []⟩ ∧ v.IsDocument ∧
      v.plain.hasLongInteger = false ∧ v.IsReadBack ∧ v.IsTakenForText .yaml := by
  have h := Outcome.isDocument ⟨.zero, [⟨0, "Add", .ok, "", .zero⟩], []⟩
  have hshort : (Outcome.toValue ⟨.zero, [⟨0, "Add", .ok, "", .zero⟩], []⟩).plain.hasLongInteger =
      false := by
    decide
  exact ⟨_, rfl, h, hshort, h.isRecognised_unless_hasEntries.2 hshort⟩

/-- A mapping with one entry in YAML is taken for a text, where it should be read back. -/
theorem Value.not_isRecognised_of_entry :
    ∃ v, v = Value.fields [("a", .int 1)] ∧ v.IsDocument ∧ ¬ v.IsRecognised .yaml ∧
      serialize v (some "yaml") true = .ok "a: 1\n" ∧
      deserialize "a: 1\n" none = .ok (.text "a: 1\n") ∧
      deserialize "a: 1\n" (some "yaml") = .ok v := by
  have hwrite : serialize (.fields [("a", .int 1)]) (some "yaml") true = .ok "a: 1\n" := by rfl
  have hread : deserialize "a: 1\n" (some "yaml") = .ok (.fields [("a", .int 1)]) := by
    have hnode : documentWithin 14 "a: 1\n".toList =
        some (.ok (some (.mapping .map [(.scalar .str "a", .scalar .int "1")]))) := by cbv
    exact deserialize_yaml (read_of_documentWithin hnode (by cbv))
  have hsniff : deserialize "a: 1\n" none = .ok (.text "a: 1\n") := by rfl
  refine ⟨_, rfl, .fields (by simp) (by simp [IsPlain.int]), ?_, hwrite, hsniff, hread⟩
  intro h
  obtain ⟨text, htext, hsame⟩ := h true
  obtain rfl : "a: 1\n" = text := Except.ok.inj (hwrite.symm.trans htext)
  cases (hsniff.symm.trans hsame).trans hread

end FluentCalc
