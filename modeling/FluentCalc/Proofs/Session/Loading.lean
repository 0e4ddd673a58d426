/-
# Files of expressions

A file of text has an expression on each line, and a file of JSON lists them. Expressions
that fit on lines of their own are loaded from either, exactly as they are: from the lines
that they make up, and from the JSON text that they are serialized as, in one line or
spread over lines.

Reading a file changes carriage returns only. There is none on the lines, and there is none
in a JSON text, where strings have it escaped.
-/

import FluentCalc.Proofs.Json.Conformance
import FluentCalc.Proofs.Json.RoundTrip
import FluentCalc.Proofs.Text.Lines
import FluentCalc.Proofs.Text.Quoted
import FluentCalc.Proofs.Text.Utf8
import FluentCalc.Session.Load

namespace FluentCalc

open Text

/-- A file in front of others is found at its own path. -/
theorem findFile?_self (file : File) (rest : List File) :
    findFile? (file :: rest) file.path = some file := by
  simp [findFile?]

/-- A file that is found and holds a text is loaded as the expressions in the text. -/
theorem load_of_toUTF8 {files : List File} {path name content : String}
    (h : findFile? files path = some ⟨name, content.toUTF8.data.toList⟩) :
    load files path = expressionsIn path (Text.unifyLineEnds content.toList) := by
  rw [load, h]
  simp only [Text.decodeUtf8_toUTF8]

/-- A line that stands for an expression in a file. -/
structure IsFileLine (line : List Char) : Prop where
  isUnbroken : IsUnbroken line
  strip_ne_nil : strip line ≠ []
  not_comment : (strip line).head? ≠ some '#'

theorem IsFileLine.ne_nil {line : List Char} (h : IsFileLine line) : line ≠ [] := by
  rintro rfl
  exact h.strip_ne_nil rfl

section Lines

variable {lines : List (List Char)}

/-- In a file with these lines there are the expressions on them. -/
theorem expressionLines_join (h : ∀ line ∈ lines, IsFileLine line) :
    expressionLines (join ['\n'] lines) = lines.map strip := by
  have hcut : Text.lines (join ['\n'] lines) = lines :=
    lines_join (fun line hline => (h line hline).isUnbroken) fun line hline => (h line hline).ne_nil
  rw [expressionLines, hcut, List.filter_eq_self, List.forall_mem_map]
  intro line hline
  simp [(h line hline).strip_ne_nil, (h line hline).not_comment]

/-- A file with these lines is loaded as the expressions on them. -/
theorem load_fileLines {files : List File} {path name content : String}
    (hpath : Format.ofPath? path.toList = none)
    (hfile : findFile? files path = some ⟨name, content.toUTF8.data.toList⟩)
    (hcontent : content.toList = join ['\n'] lines) (h : ∀ line ∈ lines, IsFileLine line) :
    load files path = .ok (lines.map fun line => String.ofList (strip line)) := by
  have hreturn : '\r' ∉ join ['\n'] lines := by
    intro hmem
    rcases mem_join hmem with hfeed | ⟨line, hline, hc⟩
    · exact absurd hfeed (by decide)
    · exact (h line hline).isUnbroken.not_mem rfl hc
  rw [load_of_toUTF8 hfile, hcontent, unifyLineEnds_of_not_mem hreturn]
  simp only [expressionsIn, hpath, expressionLines_join h, List.map_map]
  rfl

end Lines

namespace Json

/-- A carriage return is escaped in a string. -/
theorem return_not_mem_escaped (c : Char) : '\r' ∉ escaped c := by
  unfold escaped
  split_ifs with hself hfeed hreturn htab hback hform hcontrol
  · rcases Bool.or_eq_true_iff.1 hself with heq | heq <;> rw [beq_iff_eq.1 heq] <;> decide
  · decide
  · decide
  · decide
  · decide
  · decide
  · have hhex : '\r' ∉ hex 4 c.toNat := (isUnbroken_hex 4 c.toNat).not_mem rfl
    simp [hhex]
  · rw [beq_iff_eq] at hreturn
    simpa using Ne.symm hreturn

theorem return_not_mem_string (s : String) : '\r' ∉ string s := by
  simp [string, return_not_mem_escaped]

section Layouts

variable {c : Char} (style : Style) (level : ℕ)

theorem not_mem_break {otherwise : List Char} (hmarks : c ∉ ['\n', ' ']) (h : c ∉ otherwise) :
    c ∉ style.break level otherwise := by
  unfold Style.break
  split
  · simp_all
  · exact h

/-- A layout adds line feeds, blanks, commas and brackets to the parts of a container. -/
theorem not_mem_container {opening closing : Char} {texts : List (List Char)}
    (hmarks : c ∉ [opening, closing, ',', '\n', ' ']) (htexts : ∀ text ∈ texts, c ∉ text) :
    c ∉ container style level opening closing texts := by
  simp only [List.mem_cons, List.not_mem_nil, or_false, not_or] at hmarks
  obtain ⟨hopening, hclosing, hcomma, hfeed, hblank⟩ := hmarks
  have hbreak (level : ℕ) {otherwise : List Char} (h : c ∉ otherwise) :
      c ∉ style.break level otherwise := not_mem_break style level (by simp [hfeed, hblank]) h
  by_cases hne : texts = []
  · subst hne
    simp [container, hopening, hclosing]
  · have hcommas : c ∉ commas style (level + 1) texts := by
      rw [commas_eq_join]
      intro hmem
      rcases mem_join hmem with hseparator | ⟨text, htext, hc⟩
      · rcases List.mem_cons.1 hseparator with rfl | hspace
        · exact hcomma rfl
        · exact hbreak (level + 1) (by simp [hblank]) hspace
      · exact htexts text htext hc
    rw [container_of_ne_nil hne]
    simp [hopening, hclosing, hcommas, hbreak]

end Layouts

/-- Texts are written as a list that is read back, and that has no carriage return in it. -/
theorem exists_write_texts (style : Style) (level : ℕ) (texts : List String) :
    ∃ chars, write style level (.list (texts.map .text)) = .ok chars ∧
      Reads chars (.list (texts.map .text)) ∧ '\r' ∉ chars := by
  have hitems : ∀ item ∈ texts.map Value.text, ∃ text, write style (level + 1) item = .ok text ∧
      (Reads text item ∧ '\r' ∉ text) := by
    rw [List.forall_mem_map]
    exact fun s _ => ⟨string s, rfl, reads_text s, return_not_mem_string s⟩
  obtain ⟨written, hwrite, hall⟩ := exists_writeItems style hitems
  refine ⟨_, ?_, reads_list style level (hall.imp fun _ _ h => h.1), ?_⟩
  · rw [write, hwrite]
    rfl
  · apply not_mem_container style level (by decide)
    intro text htext
    obtain ⟨_, -, -, hreturn⟩ := exists_of_mem_left hall htext
    exact hreturn

end Json

/-- Texts are displayed as they are. -/
theorem mapM_display?_text (texts : List String) :
    (texts.map Value.text).mapM Value.display? = .ok texts := by
  induction texts with
  | nil => rfl
  | cons s rest ih =>
      rw [List.map_cons, List.mapM_cons, ih]
      rfl

/-- A file with a list of texts in JSON is loaded as the texts. -/
theorem exists_load_texts (texts : List String) (pretty : Bool) :
    ∃ json, serialize (.list (texts.map .text)) (some "json") pretty = .ok json ∧
      ∀ {files : List File} {path name : String}, Format.ofPath? path.toList = some .json →
        findFile? files path = some ⟨name, json.toUTF8.data.toList⟩ →
        load files path = .ok texts := by
  obtain ⟨chars, hwrite, hreads, hreturn⟩ := Json.exists_write_texts ⟨pretty⟩ 0 texts
  have hplain : (Value.list (texts.map .text)).plain = .list (texts.map .text) :=
    Value.IsPlain.plain_eq (.list (List.forall_mem_map.2 fun s _ => .text s))
  have hshort : (Value.list (texts.map .text)).hasLongInteger = false := by
    simp [Value.hasLongInteger, Value.anyLongInteger_eq_any]
  refine ⟨String.ofList chars, ?_, fun hpath hfile => ?_⟩
  · apply Format.write_json hshort
    rw [hplain, Json.text, hwrite]
    rfl
  · rw [load_of_toUTF8 hfile, String.toList_ofList, unifyLineEnds_of_not_mem hreturn]
    simp only [expressionsIn, hpath, readJson, Json.read_of_reads hreads, mapM_display?_text]
    rfl

/-- An expression that fits on a line of its own as it is: it is not empty, there is nothing
to trim at its ends, no line breaks in it, and it does not look like a comment. -/
structure FitsOnLine (source : String) : Prop where
  ne_empty : source ≠ ""
  strip_eq : strip source.toList = source.toList
  isUnbroken : IsUnbroken source.toList
  not_comment : source.toList.head? ≠ some '#'

instance (source : String) : Decidable (FitsOnLine source) :=
  decidable_of_iff (source ≠ "" ∧ strip source.toList = source.toList ∧
      IsUnbroken source.toList ∧ source.toList.head? ≠ some '#')
    ⟨fun h => ⟨h.1, h.2.1, h.2.2.1, h.2.2.2⟩,
      fun h => ⟨h.ne_empty, h.strip_eq, h.isUnbroken, h.not_comment⟩⟩

theorem FitsOnLine.isFileLine {source : String} (h : FitsOnLine source) :
    IsFileLine source.toList where
  isUnbroken := h.isUnbroken
  strip_ne_nil := by
    rw [h.strip_eq]
    exact fun hnil => h.ne_empty (String.toList_eq_nil_iff.1 hnil)
  not_comment := by
    rw [h.strip_eq]
    exact h.not_comment

/-- At a path there is a file with a text. -/
def HasText (files : List File) (path content : String) : Prop :=
  ∃ name, findFile? files path = some ⟨name, content.toUTF8.data.toList⟩

/-- **Expressions are loaded alike from text and from JSON.** Expressions that fit on lines of
their own are serialized as JSON, in one line or spread over lines. They are loaded exactly as
they are from a file with this text and a JSON suffix, and also from a file whose suffix tells
no format and that has the expressions with line feeds between them. -/
theorem load_text_and_json {sources : List String} (h : ∀ source ∈ sources, FitsOnLine source)
    (pretty : Bool) :
    ∃ json, serialize (.list (sources.map .text)) (some "json") pretty = .ok json ∧
      ∀ (files : List File) (path : String),
        (Format.ofPath? path.toList = none → HasText files path ("\n".intercalate sources) →
          load files path = .ok sources) ∧
        (Format.ofPath? path.toList = some .json → HasText files path json →
          load files path = .ok sources) := by
  obtain ⟨json, hserialize, hload⟩ := exists_load_texts sources pretty
  refine ⟨json, hserialize, fun files path => ⟨fun hpath hfile => ?_, fun hpath hfile => ?_⟩⟩
  · obtain ⟨name, hfile⟩ := hfile
    have hcontent : ("\n".intercalate sources).toList = join ['\n'] (sources.map String.toList) := by
      rw [String.toList_intercalate, join_eq_intercalate]
      rfl
    have hlines : ∀ line ∈ sources.map String.toList, IsFileLine line :=
      List.forall_mem_map.2 fun source hsource => (h source hsource).isFileLine
    have htrimmed : ∀ source ∈ sources, String.ofList (strip source.toList) = source := by
      intro source hsource
      rw [(h source hsource).strip_eq, String.ofList_toList]
    rw [load_fileLines hpath hfile hcontent hlines, List.map_map]
    exact congrArg Except.ok ((List.map_congr_left htrimmed).trans (List.map_id' sources))
  · obtain ⟨name, hfile⟩ := hfile
    exact hload hpath hfile

/-- Quotes and a reversed solidus, a text behind a byte order mark and a number sign, and control
characters between letters that are not ASCII. -/
theorem load_text_and_json_of_quotes :
    ∃ (sources : List String) (json : String),
      sources = ["\"exit\" \\", "\uFEFF# [1, 2]", "é\t\u001F\u0000😀"] ∧
      (∀ source ∈ sources, FitsOnLine source) ∧
      serialize (.list (sources.map .text)) (some "json") true = .ok json ∧
      load [⟨"dir/a.calc", ("\n".intercalate sources).toUTF8.data.toList⟩] "dir/a.calc" =
        .ok sources ∧
      load [⟨"dir/a.json", json.toUTF8.data.toList⟩] "dir/a.json" = .ok sources := by
  have hfit : ∀ source ∈ ["\"exit\" \\", "\uFEFF# [1, 2]", "é\t\u001F\u0000😀"],
      FitsOnLine source := by
    decide +kernel
  obtain ⟨json, hserialize, hload⟩ := load_text_and_json hfit true
  exact ⟨_, json, rfl, hfit, hserialize,
    (hload _ _).1 (by decide +kernel) ⟨_, findFile?_self ⟨"dir/a.calc", _⟩ []⟩,
    (hload _ _).2 (by decide +kernel) ⟨_, findFile?_self ⟨"dir/a.json", _⟩ []⟩⟩

end FluentCalc
