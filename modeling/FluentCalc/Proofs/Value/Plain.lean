/-
# Plain data

What is written out is plain data: null, truth values, numbers and texts, with lists
and mappings under texts as its branches. The plain form of an outcome is such data,
and the numbers in it are the final value and the values of the diagnostics.
-/

import Mathlib.Data.Int.Notation
import FluentCalc.Format
import FluentCalc.Run.Outcome
import FluentCalc.Value.Mapping

namespace FluentCalc

namespace Value

theorem plainItems_eq_map (items : List Value) : plainItems items = items.map plain := by
  induction items with
  | nil => rfl
  | cons item rest ih => rw [plainItems, ih, List.map_cons]

theorem plainEntries_eq_map (entries : List (Value × Value)) :
    plainEntries entries = entries.map fun entry => (entry.1, entry.2.plain) := by
  induction entries with
  | nil => rfl
  | cons entry rest ih => rw [plainEntries, ih, List.map_cons]

/-- Mappings with text keys are made plain value by value. -/
theorem plain_fields (entries : List (String × Value)) :
    (fields entries).plain = fields (entries.map fun entry => (entry.1, entry.2.plain)) := by
  simp [fields, plain, plainEntries_eq_map]

/-- Plain data. The keys of its mappings are distinct texts. -/
inductive IsPlain : Value → Prop
  | null : IsPlain .null
  | bool (b : Bool) : IsPlain (.bool b)
  | int (n : ℤ) : IsPlain (.int n)
  | num (x : Double) : IsPlain (.num x)
  | text (s : String) : IsPlain (.text s)
  | list {items : List Value} (h : ∀ item ∈ items, IsPlain item) : IsPlain (.list items)
  | fields {entries : List (String × Value)} (hkeys : (entries.map Prod.fst).Nodup)
      (h : ∀ entry ∈ entries, IsPlain entry.2) : IsPlain (.fields entries)

/-- Plain data is its own plain form. -/
theorem IsPlain.plain_eq {v : Value} (h : v.IsPlain) : v.plain = v := by
  induction h with
  | null => rfl
  | bool b => rfl
  | int n => rfl
  | num x => rfl
  | text s => rfl
  | list _ ih => rw [plain, plainItems_eq_map, List.map_congr_left ih, List.map_id']
  | @fields entries _ _ ih =>
      have hentry : ∀ entry ∈ entries, (entry.1, entry.2.plain) = entry := fun entry hentry =>
        Prod.ext rfl (ih entry hentry)
      rw [plain_fields, List.map_congr_left hentry, List.map_id']

mutual

/-- The numbers in plain data that are doubles, in the order in which they are written. -/
def doubles : Value → List Double
  | num x => [x]
  | list items => doublesOfItems items
  | mapping entries => doublesOfEntries entries
  | _ => []

/-- `doubles` on the items of a list. -/
def doublesOfItems : List Value → List Double
  | [] => []
  | item :: rest => item.doubles ++ doublesOfItems rest

/-- `doubles` on the values of a mapping. -/
def doublesOfEntries : List (Value × Value) → List Double
  | [] => []
  | (_, value) :: rest => value.doubles ++ doublesOfEntries rest

end

@[simp] theorem doubles_num (x : Double) : (num x).doubles = [x] := rfl

@[simp] theorem doubles_int (n : ℤ) : (int n).doubles = [] := rfl

@[simp] theorem doubles_text (s : String) : (text s).doubles = [] := rfl

@[simp]
theorem doubles_list (items : List Value) : (list items).doubles = items.flatMap doubles := by
  rw [doubles]
  induction items with
  | nil => rfl
  | cons item rest ih => rw [doublesOfItems, ih, List.flatMap_cons]

@[simp]
theorem doubles_fields (entries : List (String × Value)) :
    (fields entries).doubles = entries.flatMap fun entry => entry.2.doubles := by
  rw [fields, doubles]
  induction entries with
  | nil => rfl
  | cons entry rest ih => rw [List.map_cons, doublesOfEntries, ih, List.flatMap_cons]

end Value

namespace Value

theorem anyLongInteger_eq_any (items : List Value) :
    anyLongInteger items = items.any hasLongInteger := by
  induction items with
  | nil => rfl
  | cons item rest ih => rw [anyLongInteger, ih, List.any_cons]

@[simp]
theorem hasLongInteger_text (s : String) : (text s).hasLongInteger = false := rfl

theorem hasLongInteger_fields (entries : List (String × Value)) :
    (fields entries).hasLongInteger = entries.any fun entry => entry.2.hasLongInteger := by
  rw [fields, hasLongInteger]
  induction entries with
  | nil => rfl
  | cons entry rest ih =>
      rw [List.map_cons, anyLongEntry, ih, List.any_cons, hasLongInteger_text, Bool.false_or]

mutual

/-- A plain form without a long integer is that of a value without one. -/
theorem hasLongInteger_of_plain : ∀ v : Value, v.plain.hasLongInteger = false →
    v.hasLongInteger = false
  | list items, h | tuple items, h => anyLongInteger_of_plain items h
  | mapping entries, h => anyLongEntry_of_plain entries h
  | call _ argument _, h => by
      simp only [plain, hasLongInteger, anyLongEntry, Bool.or_eq_false_iff] at h
      exact hasLongInteger_of_plain argument h.2.1.2
  | expression seed calls _, h => by
      simp only [plain, hasLongInteger, anyLongEntry, Bool.or_eq_false_iff] at h
      rw [hasLongInteger, hasLongInteger_of_plain seed h.1.2, anyLongInteger_of_plain calls h.2.1.2]
      rfl
  | diagnostic _ _ _ _ value, h => by
      simp only [plain, hasLongInteger, anyLongEntry, Bool.or_eq_false_iff] at h
      exact hasLongInteger_of_plain value h.2.2.2.2.1.2
  | outcome final diagnostics effects, h => by
      simp only [plain, hasLongInteger, anyLongEntry, Bool.or_eq_false_iff] at h
      rw [hasLongInteger, hasLongInteger_of_plain final h.1.2,
        anyLongInteger_of_plain diagnostics h.2.1.2, anyLongInteger_of_plain effects h.2.2.1.2]
      rfl
  | null, h | bool _, h | int _, h | num _, h | text _, h | set _, h | bytes _, h | date _, h
  | moment _, h | fault _ _ _, h => h

theorem anyLongInteger_of_plain : ∀ items : List Value,
    anyLongInteger (plainItems items) = false → anyLongInteger items = false
  | [], h => h
  | item :: rest, h => by
      rw [plainItems, anyLongInteger, Bool.or_eq_false_iff] at h
      rw [anyLongInteger, hasLongInteger_of_plain item h.1, anyLongInteger_of_plain rest h.2]
      rfl

theorem anyLongEntry_of_plain : ∀ entries : List (Value × Value),
    anyLongEntry (plainEntries entries) = false → anyLongEntry entries = false
  | [], h => h
  | (key, value) :: rest, h => by
      rw [plainEntries, anyLongEntry, Bool.or_eq_false_iff, Bool.or_eq_false_iff] at h
      rw [anyLongEntry, h.1.1, hasLongInteger_of_plain value h.1.2, anyLongEntry_of_plain rest h.2]
      rfl

end

end Value

namespace Format

variable {v : Value} {pretty : Bool} {text : String} (hshort : v.hasLongInteger = false)

include hshort

/-- Without a long integer in it a value is written as its plain form. -/
theorem write_json (h : Json.text pretty v.plain = .ok text) :
    json.write pretty v = .ok text := by
  rw [write, hshort, h]
  rfl

theorem write_yaml (h : Yaml.text v.plain = .ok text) : yaml.write pretty v = .ok text := by
  rw [write, hshort, h]
  rfl

end Format

/-- An effect in plain form: its topics, and its message if it has one. -/
theorem Effect.plain_toValue (e : Effect) :
    e.toValue.plain = .fields (("topics", .list (e.topics.map .text)) ::
      (e.message.map fun message => ("message", .text message)).toList) := by
  have htopics : (e.topics.map Value.text).map Value.plain = e.topics.map Value.text := by
    simp [Function.comp_def, Value.plain]
  cases hmessage : e.message <;>
    simp [toValue, hmessage, Value.plain, Value.plainEntries, Value.plainItems_eq_map, Value.fields,
      htopics]

/-- A diagnostic in plain form. -/
theorem Diagnostic.plain_toValue (d : Diagnostic) :
    d.toValue.plain = .fields [("call_index", .int d.index), ("name", .text d.name),
      ("status", .text d.status.word), ("message", .text d.message), ("value", .num d.value)] :=
  rfl

/-- An outcome in plain form. -/
theorem Outcome.plain_toValue (o : Outcome) :
    o.toValue.plain = .fields [("final_value", .num o.final),
      ("diagnostics", .list (o.diagnostics.map fun d => d.toValue.plain)),
      ("side_effects", .list (o.effects.map fun e => e.toValue.plain))] := by
  simp [toValue, Value.plain, Value.plainItems_eq_map, Value.fields, Function.comp_def]

theorem Effect.isPlain (e : Effect) : e.toValue.plain.IsPlain := by
  have htopics : (Value.list (e.topics.map .text)).IsPlain :=
    .list (List.forall_mem_map.2 fun topic _ => .text topic)
  rw [plain_toValue]
  apply Value.IsPlain.fields
  · cases e.message <;> simp
  intro entry hentry
  rcases List.mem_cons.1 hentry with rfl | hmessage
  · exact htopics
  · obtain ⟨message, -, rfl⟩ : ∃ message, e.message = some message ∧
        ("message", Value.text message) = entry := by simpa using hmessage
    exact .text message

theorem Diagnostic.isPlain (d : Diagnostic) : d.toValue.plain.IsPlain := by
  rw [plain_toValue]
  exact .fields (by simp) (by simp [Value.IsPlain.int, Value.IsPlain.text, Value.IsPlain.num])

theorem Outcome.isPlain (o : Outcome) : o.toValue.plain.IsPlain := by
  have hdiagnostics : (Value.list (o.diagnostics.map fun d => d.toValue.plain)).IsPlain :=
    .list (List.forall_mem_map.2 fun d _ => d.isPlain)
  have heffects : (Value.list (o.effects.map fun e => e.toValue.plain)).IsPlain :=
    .list (List.forall_mem_map.2 fun e _ => e.isPlain)
  rw [plain_toValue]
  exact .fields (by simp) (by simp [Value.IsPlain.num, hdiagnostics, heffects])

/-- There are no long integers in an outcome. -/
theorem Outcome.hasLongInteger_toValue (o : Outcome) : o.toValue.hasLongInteger = false := by
  have heffect (e : Effect) : e.toValue.hasLongInteger = false := by
    cases hmessage : e.message <;>
      simp [Effect.toValue, hmessage, Value.hasLongInteger, Value.anyLongEntry,
        Value.anyLongInteger_eq_any]
  simp [toValue, Value.hasLongInteger, Value.anyLongInteger_eq_any, Diagnostic.toValue, heffect]

/-- There is no number in an effect. -/
@[simp]
theorem Effect.doubles_plain (e : Effect) : e.toValue.plain.doubles = [] := by
  rw [plain_toValue]
  cases e.message <;> simp [List.flatMap_map]

/-- The numbers in an outcome. -/
theorem Outcome.doubles_plain (o : Outcome) :
    o.toValue.plain.doubles = o.final :: o.diagnostics.map Diagnostic.value := by
  have hvalue (d : Diagnostic) : d.toValue.plain.doubles = [d.value] := by
    rw [Diagnostic.plain_toValue]
    simp
  have hvalues : (o.diagnostics.flatMap fun d => [d.value]) = o.diagnostics.map Diagnostic.value :=
    List.map_eq_flatMap.symm
  rw [plain_toValue]
  simp [List.flatMap_map, hvalue, hvalues]

end FluentCalc
