/-
# JSON texts read back

Plain data with text keys is a tree of null, truth values, numbers and texts,
with lists and mappings as its branches. Such a tree is written in either layout
as a text that is read back as the same tree. Reports and the records in them
become trees when they are made plain, so what is serialized as JSON is
deserialized as the plain form of what was given.

Two things are asked of the data. Integers have no more digits than are converted
when they are read, and the keys of a mapping are distinct texts. Nothing else is:
minus zero, the infinities and not-a-number are read back, and so are texts with
quotes and control characters in them and the order of the keys.
-/

import FluentCalc.Format
import FluentCalc.Proofs.Json.Container
import FluentCalc.Proofs.Json.Writer
import FluentCalc.Proofs.Value.Plain

namespace FluentCalc

namespace Value

/-- A key that is not there yet is put in behind all others. -/
theorem insert_of_new {key value : Value} {entries : List (Value × Value)}
    (h : ∀ entry ∈ entries, entry.1.sameKey key = false) :
    insert key value entries = entries ++ [(key, value)] := by
  induction entries with
  | nil => rfl
  | cons entry rest ih =>
      rw [List.forall_mem_cons] at h
      simp [insert, h.1, ih h.2]

/-- Different texts are different keys. -/
theorem sameKey_text (s t : String) : (text s).sameKey (text t) = (s == t) := by
  simp [sameKey]

/-- Entries with distinct texts as keys arise in their order. -/
theorem ofEntries_fields {entries : List (String × Value)} (h : (entries.map Prod.fst).Nodup) :
    ofEntries (entries.map fun entry => (text entry.1, entry.2)) = fields entries := by
  let entry (e : String × Value) : Value × Value := (text e.1, e.2)
  -- The entries that are already there stand in front, with other keys than those to come.
  have hput : ∀ done : List (String × Value), ((done ++ entries).map Prod.fst).Nodup →
      (entries.map entry).foldl (fun done e => insert e.1 e.2 done) (done.map entry) =
        (done ++ entries).map entry := by
    induction entries with
    | nil => simp
    | cons e rest ih =>
        intro done hkeys
        have hnew : ∀ other ∈ done.map entry, other.1.sameKey (text e.1) = false := by
          simp only [List.map_append, List.map_cons, List.nodup_append, List.mem_map] at hkeys
          simp only [List.mem_map, forall_exists_index, and_imp, forall_apply_eq_imp_iff₂]
          intro other hother
          rw [sameKey_text, beq_eq_false_iff_ne]
          exact hkeys.2.2 _ ⟨other, hother, rfl⟩ _ List.mem_cons_self
        have hrest := ih (by simp_all) (done ++ [e]) (by simpa using hkeys)
        rw [List.map_cons, List.foldl_cons, insert_of_new hnew]
        simpa [entry] using hrest
  exact congrArg mapping (hput [] h)

end Value

namespace Json

/-- An integer with no more digits than are converted. -/
def IsShort (n : ℤ) : Prop :=
  (Layout.naturalDigits n.natAbs).length ≤ digitLimit

instance (n : ℤ) : Decidable (IsShort n) :=
  inferInstanceAs (Decidable (_ ≤ _))

/-- A tree of plain data that JSON can tell apart: numbers that are not too long, and
mappings with distinct texts as keys. -/
inductive IsTree : Value → Prop
  | null : IsTree .null
  | bool (b : Bool) : IsTree (.bool b)
  | int {n : ℤ} (h : IsShort n) : IsTree (.int n)
  | num (x : Double) : IsTree (.num x)
  | text (s : String) : IsTree (.text s)
  | list {items : List Value} (h : ∀ item ∈ items, IsTree item) : IsTree (.list items)
  | fields {entries : List (String × Value)} (hkeys : (entries.map Prod.fst).Nodup)
      (h : ∀ entry ∈ entries, IsTree entry.2) : IsTree (.fields entries)

/-- **Trees are written as what is read as them**, in either layout and at every level. -/
theorem IsTree.exists_write (style : Style) {v : Value} (h : IsTree v) (level : ℕ) :
    ∃ text, write style level v = .ok text ∧ Reads text v := by
  induction h generalizing level with
  | null => exact ⟨_, rfl, reads_word ("null".toList, .null) (by simp [words])⟩
  | bool b =>
      cases b with
      | true => exact ⟨_, rfl, reads_word ("true".toList, .bool true) (by simp [words])⟩
      | false => exact ⟨_, rfl, reads_word ("false".toList, .bool false) (by simp [words])⟩
  | int hshort => exact ⟨_, rfl, reads_int hshort⟩
  | num x => exact ⟨_, rfl, reads_num x⟩
  | text s => exact ⟨_, rfl, reads_text s⟩
  | list _ ih =>
      obtain ⟨texts, hwrite, hall⟩ := exists_writeItems style fun item hitem =>
        ih item hitem (level + 1)
      refine ⟨_, ?_, reads_list style level hall⟩
      rw [write, hwrite]
      rfl
  | @fields entries hkeys _ ih =>
      obtain ⟨texts, hwrite, hall⟩ := exists_writeEntries style fun entry hentry =>
        ih entry hentry (level + 1)
      have hentries : List.Forall₂ ReadsEntry texts
          (entries.map fun e => (.text e.1, e.2)) := by
        rw [List.forall₂_map_right_iff]
        apply hall.imp
        intro text entry hentry
        cases hentry with
        | mk name hreads => exact .mk name hreads
      refine ⟨_, ?_, Value.ofEntries_fields hkeys ▸ reads_object style level hentries⟩
      rw [Value.fields, write, hwrite]
      rfl

/-- There are no long integers in a tree. -/
theorem IsTree.hasLongInteger_eq {v : Value} (h : IsTree v) : v.hasLongInteger = false := by
  induction h with
  | int hshort => exact decide_eq_false (Nat.not_lt.2 hshort)
  | list _ ih =>
      rw [Value.hasLongInteger, Value.anyLongInteger_eq_any]
      exact List.any_eq_false.2 fun item hitem => Bool.not_eq_true _ ▸ ih item hitem
  | fields _ _ ih =>
      rw [Value.hasLongInteger_fields]
      exact List.any_eq_false.2 fun entry hentry => Bool.not_eq_true _ ▸ ih entry hentry
  | null | bool _ | num _ | text _ => rfl

/-- Plain data without long integers is a tree. -/
theorem isTree_of_isPlain {v : Value} (h : v.IsPlain) (hshort : v.hasLongInteger = false) :
    IsTree v := by
  induction h with
  | null => exact .null
  | bool b => exact .bool b
  | int n => exact .int (Nat.not_lt.1 (of_decide_eq_false hshort))
  | num x => exact .num x
  | text s => exact .text s
  | list _ ih =>
      rw [Value.hasLongInteger, Value.anyLongInteger_eq_any, List.any_eq_false] at hshort
      exact .list fun item hitem => ih item hitem (Bool.eq_false_of_not_eq_true (hshort item hitem))
  | fields hkeys _ ih =>
      rw [Value.hasLongInteger_fields, List.any_eq_false] at hshort
      exact .fields hkeys fun entry hentry =>
        ih entry hentry (Bool.eq_false_of_not_eq_true (hshort entry hentry))

/-- A text that is read as a value is read as that value from end to end. -/
theorem read_of_reads {text : List Char} {v : Value} (h : Reads text v) : read text = .ok v := by
  have hskip := skipSpace_of_reads h []
  have hvalue := h.read [] (2 * text.length + 2) closes_nil (by omega)
  rw [List.append_nil] at hskip hvalue
  rw [read, hskip, hvalue]
  rfl

end Json

/-- Data that reports are made of: null, truth values, integers that are not too long,
doubles, texts, lists, tuples, mappings with distinct texts as keys, and the four records of
a run over such data. -/
inductive Value.IsData : Value → Prop
  | null : IsData .null
  | bool (b : Bool) : IsData (.bool b)
  | int {n : ℤ} (h : Json.IsShort n) : IsData (.int n)
  | num (x : Double) : IsData (.num x)
  | text (s : String) : IsData (.text s)
  | list {items : List Value} (h : ∀ item ∈ items, IsData item) : IsData (.list items)
  | tuple {items : List Value} (h : ∀ item ∈ items, IsData item) : IsData (.tuple items)
  | fields {entries : List (String × Value)} (hkeys : (entries.map Prod.fst).Nodup)
      (h : ∀ entry ∈ entries, IsData entry.2) : IsData (.fields entries)
  | call (name : String) {argument : Value} {column : Option ℤ} (hargument : IsData argument)
      (hcolumn : ∀ n ∈ column, Json.IsShort n) : IsData (.call name argument column)
  | expression {seed : Value} {calls : List Value} (constructor : String) (hseed : IsData seed)
      (hcalls : ∀ call ∈ calls, IsData call) : IsData (.expression seed calls constructor)
  | diagnostic {index : ℤ} (name status message : String) {value : Value}
      (hindex : Json.IsShort index) (hvalue : IsData value) :
      IsData (.diagnostic index name status message value)
  | outcome {final : Value} {diagnostics effects : List Value} (hfinal : IsData final)
      (hdiagnostics : ∀ diagnostic ∈ diagnostics, IsData diagnostic)
      (heffects : ∀ effect ∈ effects, IsData effect) :
      IsData (.outcome final diagnostics effects)

/-- The plain form of data is a tree: tuples become lists, and records become mappings under
the names of their fields, which are distinct. -/
theorem Value.IsData.isTree_plain {v : Value} (h : v.IsData) : Json.IsTree v.plain := by
  have hitems {items : List Value} (hitems : ∀ item ∈ items, Json.IsTree item.plain) :
      Json.IsTree (.list (plainItems items)) := by
    rw [plainItems_eq_map]
    exact .list (List.forall_mem_map.2 hitems)
  induction h with
  | null => exact .null
  | bool b => exact .bool b
  | int hshort => exact .int hshort
  | num x => exact .num x
  | text s => exact .text s
  | list _ ih => exact hitems ih
  | tuple _ ih => exact hitems ih
  | @fields entries hkeys _ ih =>
      rw [plain_fields]
      exact .fields (by simpa [Function.comp_def] using hkeys) (List.forall_mem_map.2 ih)
  | @call name argument column _ hcolumn ih =>
      have hplace : Json.IsTree (ofColumn column) := by
        cases column with
        | none => exact .null
        | some n => exact .int (hcolumn n rfl)
      have hfields : Json.IsTree (.fields [("name", .text name),
          ("raw_argument", argument.plain), ("col", ofColumn column)]) :=
        .fields (by simp) (by simp [ih, hplace, Json.IsTree.text])
      exact hfields
  | @expression seed calls constructor _ _ ihseed ihcalls =>
      have hfields : Json.IsTree (.fields [("seed", seed.plain),
          ("calls", .list (plainItems calls)), ("constructor", .text constructor)]) :=
        .fields (by simp) (by simp [ihseed, hitems ihcalls, Json.IsTree.text])
      exact hfields
  | @diagnostic index name status message value hindex _ ih =>
      have hfields : Json.IsTree (.fields [("call_index", .int index), ("name", .text name),
          ("status", .text status), ("message", .text message), ("value", value.plain)]) :=
        .fields (by simp) (by simp [ih, Json.IsTree.int hindex, Json.IsTree.text])
      exact hfields
  | @outcome final diagnostics effects _ _ _ ihfinal ihdiagnostics iheffects =>
      have hfields : Json.IsTree (.fields [("final_value", final.plain),
          ("diagnostics", .list (plainItems diagnostics)),
          ("side_effects", .list (plainItems effects))]) :=
        .fields (by simp) (by simp [ihfinal, hitems ihdiagnostics, hitems iheffects])
      exact hfields

theorem deserialize_json (text : String) :
    deserialize text (some "json") = readJson text.toList := rfl

/-- What is written as JSON is read back if the plain form is a tree. -/
theorem exists_serialize_of_isTree {v : Value} (h : Json.IsTree v.plain) (pretty : Bool) :
    ∃ text, Json.text pretty v.plain = .ok text ∧ serialize v (some "json") pretty = .ok text ∧
      deserialize text (some "json") = .ok v.plain := by
  obtain ⟨chars, hwrite, hreads⟩ := h.exists_write ⟨pretty⟩ 0
  have htext : Json.text pretty v.plain = .ok (String.ofList chars) := by
    rw [Json.text, hwrite]
    rfl
  have hshort := v.hasLongInteger_of_plain h.hasLongInteger_eq
  refine ⟨String.ofList chars, htext, Format.write_json hshort htext, ?_⟩
  rw [deserialize_json, String.toList_ofList, readJson, Json.read_of_reads hreads]

/-- **JSON is read back.** Data that is serialized as JSON, in one line or spread over lines,
is deserialized as its plain form. -/
theorem deserialize_serialize {v : Value} (h : v.IsData) (pretty : Bool) :
    ∃ text, serialize v (some "json") pretty = .ok text ∧
      deserialize text (some "json") = .ok v.plain := by
  obtain ⟨text, -, hwrite, hread⟩ := exists_serialize_of_isTree h.isTree_plain pretty
  exact ⟨text, hwrite, hread⟩

/-- An outcome with a minus zero, no number, control characters, an empty list, a tuple and a
mapping in it is spread over lines and read back as lists and mappings. -/
theorem deserialize_serialize_of_outcome :
    ∃ v text, v = Value.outcome (.num (.finite true .zero))
        [.diagnostic (-1) "Add" "ok" "\t\x01 \x22é\x22" (.num .nan)]
        [.tuple [.int 7, .list []], .fields [("b", .null), ("a", .num (.infinite true))]] ∧
      v.IsData ∧ serialize v (some "json") true = .ok text ∧
      deserialize text (some "json") = .ok (.fields [
        ("final_value", .num (.finite true .zero)),
        ("diagnostics", .list [.fields [("call_index", .int (-1)), ("name", .text "Add"),
          ("status", .text "ok"), ("message", .text "\t\x01 \x22é\x22"), ("value", .num .nan)]]),
        ("side_effects", .list [.list [.int 7, .list []],
          .fields [("b", .null), ("a", .num (.infinite true))]])]) := by
  have hdiagnostic : Value.IsData
      (.diagnostic (-1) "Add" "ok" "\t\x01 \x22é\x22" (.num .nan)) :=
    .diagnostic _ _ _ (by decide) (.num _)
  have hseven : Value.IsData (.int 7) := .int (by decide)
  have htuple : Value.IsData (.tuple [.int 7, .list []]) :=
    .tuple (by simp [hseven, Value.IsData.list])
  have hmapping : Value.IsData (.fields [("b", .null), ("a", .num (.infinite true))]) :=
    .fields (by simp) (by simp [Value.IsData.null, Value.IsData.num])
  have houtcome := Value.IsData.outcome (.num (.finite true .zero))
    (List.forall_mem_singleton.2 hdiagnostic)
    (List.forall_mem_cons.2 ⟨htuple, List.forall_mem_singleton.2 hmapping⟩)
  obtain ⟨text, hwrite, hread⟩ := deserialize_serialize houtcome true
  exact ⟨_, text, rfl, houtcome, hwrite, hread⟩

end FluentCalc
