/-
# Sessions on lines

A session on lines handles what is left of a line when it is trimmed, and so does a
session on a file. The two leave out different lines: both pass over blank ones, but only
a file has comments and only an input is ended by a word. On all other lines they agree:
what the one prints for the lines of a file is what the other prints for the same lines
of its input, apart from the banner, the prompts and the farewell.
-/

import FluentCalc.Proofs.Session.Batch
import FluentCalc.Proofs.Text.Lines

namespace FluentCalc

open Text

/-- A line that stands for an expression in a file and in an input. -/
structure IsExpressionLine (line : List Char) : Prop where
  isUnbroken : IsUnbroken line
  strip_ne_nil : strip line ≠ []
  strip_ne_exit : strip line ≠ "exit".toList
  not_comment : (strip line).head? ≠ some '#'

instance (line : List Char) : Decidable (IsExpressionLine line) :=
  decidable_of_iff (IsUnbroken line ∧ strip line ≠ [] ∧ strip line ≠ "exit".toList ∧
      (strip line).head? ≠ some '#')
    ⟨fun h => ⟨h.1, h.2.1, h.2.2.1, h.2.2.2⟩,
      fun h => ⟨h.isUnbroken, h.strip_ne_nil, h.strip_ne_exit, h.not_comment⟩⟩

theorem IsExpressionLine.isFileLine {line : List Char} (h : IsExpressionLine line) :
    IsFileLine line :=
  ⟨h.isUnbroken, h.strip_ne_nil, h.not_comment⟩

variable {lines : List (List Char)}

/-- A file with these lines is loaded as the expressions on them. -/
theorem load_join {files : List File} {path name content : String}
    (hpath : Format.ofPath? path.toList = none)
    (hfile : findFile? files path = some ⟨name, content.toUTF8.data.toList⟩)
    (hcontent : content.toList = join ['\n'] lines)
    (h : ∀ line ∈ lines, IsExpressionLine line) :
    load files path = .ok (lines.map fun line => String.ofList (strip line)) :=
  load_fileLines hpath hfile hcontent fun line hline => (h line hline).isFileLine

/-- Lines with line feeds between them are the lines of an input. -/
theorem inputLines_join (h : ∀ line ∈ lines, IsExpressionLine line) :
    inputLines (join ['\n'] lines) = lines := by
  by_cases hne : lines = []
  · subst hne
    rfl
  · have hcut : splitAt '\n' (join ['\n'] lines) = lines :=
      splitAt_join (fun line hline => (h line hline).isUnbroken.not_mem rfl) hne
    obtain ⟨last, front, hreverse⟩ := List.exists_cons_of_ne_nil (List.reverse_ne_nil_iff.2 hne)
    have hlast : last ∈ lines := by
      rw [← List.mem_reverse, hreverse]
      exact List.mem_cons_self
    obtain ⟨c, tail, rfl⟩ := List.exists_cons_of_ne_nil (h last hlast).isFileLine.ne_nil
    rw [inputLines, hcut, hreverse]
    exact (congrArg List.reverse hreverse).symm.trans (List.reverse_reverse lines)

/-- So are lines that are all ended. -/
theorem inputLines_flatMap (h : ∀ line ∈ lines, IsExpressionLine line) :
    inputLines (lines.flatMap (· ++ ['\n'])) = lines := by
  have hcut : splitAt '\n' (lines.flatMap (· ++ ['\n'])) = lines ++ [[]] :=
    splitAt_flatMap fun line hline => (h line hline).isUnbroken.not_mem rfl
  rw [inputLines, hcut, List.reverse_append]
  exact List.reverse_reverse lines

section Replies

variable {strict : Bool} {format : Option Format} {r : Runner}

/-- The reply to a line is what is printed for the expression on it alone. -/
theorem Prints.reply (hr : Runner.ofHost Calculator.host strict = .ok r) {line : List Char}
    (hline : IsExpressionLine line) {console : Console}
    (h : Prints strict format (String.ofList (strip line)) console) :
    r.reply format line = .proceed console := by
  obtain ⟨result, hturn, -⟩ := h.exists_turn hr
  have hblank : (strip line).isEmpty = false := List.isEmpty_eq_false_iff.2 hline.strip_ne_nil
  have hexit : (strip line == "exit".toList) = false := beq_eq_false_iff_ne.2 hline.strip_ne_exit
  simp only [Runner.reply, hblank, hexit, hturn]
  rfl

/-- Lines in front of others are replied to one after the other, each behind a prompt. -/
theorem converse_append (hr : Runner.ofHost Calculator.host strict = .ok r)
    (h : ∀ line ∈ lines, IsExpressionLine line) {consoles : List Console}
    (hconsoles : List.Forall₂ (fun line => Prints strict format (String.ofList (strip line)))
      lines consoles) (rest : List (List Char)) :
    converse r format (lines ++ rest) =
      (converse r format rest).after (Console.concat (consoles.map (prompt ++ ·))) := by
  induction hconsoles with
  | nil => rfl
  | @cons line console lines consoles hfirst _ ih =>
      rw [List.forall_mem_cons] at h
      rw [List.cons_append, converse, hfirst.reply hr h.1]
      simp only [ih h.2, Ending.after, List.map_cons, Console.concat_cons, Console.append_assoc]

/-- Consoles with a prompt in front of each. -/
theorem concat_map_prompt (consoles : List Console) :
    Console.concat (consoles.map (prompt ++ ·)) =
      ⟨(consoles.map Console.output).flatMap (prompt.output ++ ·),
        consoles.flatMap Console.errors⟩ := by
  rw [Console.concat, List.flatMap_map, List.flatMap_map, List.flatMap_map]
  rfl

/-- What a session on lines prints for an input. -/
theorem lineSession_of_prints (hr : Runner.ofHost Calculator.host strict = .ok r)
    (h : ∀ line ∈ lines, IsExpressionLine line) {consoles : List Console}
    (hconsoles : List.Forall₂ (fun line => Prints strict format (String.ofList (strip line)))
      lines consoles) {input : List Char} (hinput : inputLines input = lines) :
    lineSession r format input =
      ⟨⟨banner.output ++ ((consoles.map Console.output).flatMap (prompt.output ++ ·) ++
        (prompt.output ++ farewell.output)), consoles.flatMap Console.errors⟩, .ok 0⟩ := by
  have hconverse := converse_append hr h hconsoles []
  rw [List.append_nil] at hconverse
  -- The banner, the prompts and the farewell leave the error stream alone.
  have herrors : banner.errors ++ (consoles.flatMap Console.errors ++
      (prompt ++ farewell).errors) = consoles.flatMap Console.errors := List.append_nil _
  rw [lineSession, hinput, hconverse, concat_map_prompt]
  exact congrArg (fun errors => (⟨⟨_, errors⟩, .ok 0⟩ : Ending)) herrors

end Replies

/-- Among words that begin with a hyphen, one that does not is the path and changes nothing
else. -/
theorem ofWords_insert {front back : List String} {path : String}
    (hwords : ∀ word ∈ front ++ back, word.toList.head? = some '-')
    (hpath : path.toList.head? ≠ some '-') :
    (Options.ofWords (front ++ back)).path = none ∧
      Options.ofWords (front ++ path :: back) =
        { Options.ofWords (front ++ back) with path := some path } := by
  have hnone {words : List String} (h : ∀ word ∈ words, word.toList.head? = some '-') :
      (words.find? fun word => word.toList.head? != some '-') = none := by
    apply List.find?_eq_none.2
    intro word hword
    simp [h word hword]
  have hpart := List.forall_mem_append.1 hwords
  have hfound : ((front ++ path :: back).find? fun word => word.toList.head? != some '-') =
      some path := by
    rw [List.find?_append, hnone hpart.1, Option.none_or]
    exact List.find?_cons_of_pos (by simpa using hpath)
  have hcontains {word : String} (hword : word.toList.head? = some '-') :
      (front ++ path :: back).contains word = (front ++ back).contains word := by
    have hne : word ≠ path := by
      rintro rfl
      exact hpath hword
    simp [hne]
  refine ⟨hnone hwords, ?_⟩
  rw [Options.ofWords, hfound, hcontains (by decide), hcontains (by decide), hcontains (by decide)]
  rfl

/-- A session with a path is one on a file. -/
theorem session_of_path {r : Runner} {options : Options} {words : List String} {path : String}
    (hr : Runner.ofHost Calculator.host options.strict = .ok r)
    (hwords : Options.ofWords words = { options with path := some path }) (files : List File)
    (input : String) : session words files input = fileSession r options.format files path := by
  simp only [session, hwords, hr]

/-- A session without a path is one on lines. -/
theorem session_of_path_none {r : Runner} {options : Options} {words : List String}
    (hr : Runner.ofHost Calculator.host options.strict = .ok r)
    (hwords : Options.ofWords words = options) (hpath : options.path = none) (files : List File)
    (input : String) : session words files input = lineSession r options.format input.toList := by
  simp only [session, hwords, hr, hpath]

/-- **A session on a file and one on lines agree** on lines that stand for expressions, whatever
the options. For each line both print the same on the output stream, where the session on
lines adds its banner, a prompt in front of every reading and its farewell. On the error
stream they print the same without any addition. -/
theorem session_file_eq_lines (front back : List String) {path : String}
    (hwords : ∀ word ∈ front ++ back, word.toList.head? = some '-')
    (hpath : path.toList.head? ≠ some '-') (hsuffix : Format.ofPath? path.toList = none)
    {lines : List (List Char)} (hlines : ∀ line ∈ lines, IsExpressionLine line)
    {files : List File} {name content : String}
    (hfile : findFile? files path = some ⟨name, content.toUTF8.data.toList⟩)
    (hcontent : content.toList = join ['\n'] lines) {input : String}
    (hinput : input.toList = join ['\n'] lines ∨ input.toList = lines.flatMap (· ++ ['\n']))
    (unread : String) (unopened : List File) :
    ∃ (outputs : List (List Char)) (errors : List Char) (code : ℕ),
      outputs.length = lines.length ∧
      session (front ++ path :: back) files unread = ⟨⟨outputs.flatten, errors⟩, .ok code⟩ ∧
      session (front ++ back) unopened input =
        ⟨⟨banner.output ++ (outputs.flatMap (prompt.output ++ ·) ++
          (prompt.output ++ farewell.output)), errors⟩, .ok 0⟩ := by
  obtain ⟨hnone, hsome⟩ := ofWords_insert hwords hpath
  obtain ⟨options, hoptions⟩ : ∃ options, Options.ofWords (front ++ back) = options := ⟨_, rfl⟩
  rw [hoptions] at hnone hsome
  obtain ⟨r, hr⟩ := Runner.exists_ofHost_calculator options.strict
  -- Both sessions print the consoles of the expressions on the lines.
  obtain ⟨consoles, hconsoles⟩ := exists_forall_prints options.strict options.format
    (lines.map fun line => String.ofList (strip line))
  have hread : inputLines input.toList = lines := by
    rcases hinput with hjoin | hended
    · rw [hjoin, inputLines_join hlines]
    · rw [hended, inputLines_flatMap hlines]
  have hlength : (consoles.map Console.output).length = lines.length := by
    rw [List.length_map, ← hconsoles.length_eq, List.length_map]
  have hflatten : consoles.flatMap Console.output = (consoles.map Console.output).flatten :=
    List.flatMap_def
  obtain ⟨code, hbatch⟩ : ∃ code, fileSession r options.format files path =
      ⟨Console.concat consoles, .ok code⟩ := by
    rw [fileSession, load_join hsuffix hfile hcontent hlines]
    exact ⟨_, batch_of_prints hr hconsoles false⟩
  refine ⟨consoles.map Console.output, consoles.flatMap Console.errors, code, hlength, ?_, ?_⟩
  · rw [session_of_path hr hsome, hbatch, Console.concat, hflatten]
  · rw [session_of_path_none hr hoptions hnone]
    exact lineSession_of_prints hr hlines (List.forall₂_map_left_iff.1 hconsoles) hread

/-- A blank character that breaks no line, a text that is not an expression, a call that fails
and one that prints, with two formats asked for. -/
theorem session_file_eq_lines_of_strict :
    ∃ (lines : List (List Char)) (files : List File) (outputs : List (List Char))
      (errors : List Char) (code : ℕ),
      lines = ["Calculator(4).Add(x)".toList, "\tCalculator(2)? ".toList,
        "exit()".toList, "Calculator(1).DisplayResult()".toList] ∧
      (∀ line ∈ lines, IsExpressionLine line) ∧
      files = [⟨"dir/a.txt", (String.ofList (join ['\n'] lines)).toUTF8.data.toList⟩] ∧
      outputs.length = 4 ∧
      session ["--yaml", "dir/a.txt", "--json", "--strict"] files "" =
        ⟨⟨outputs.flatten, errors⟩, .ok code⟩ ∧
      session ["--yaml", "--json", "--strict"] [] (String.ofList (join ['\n'] lines)) =
        ⟨⟨banner.output ++ (outputs.flatMap (prompt.output ++ ·) ++
          (prompt.output ++ farewell.output)), errors⟩, .ok 0⟩ := by
  have hlines : ∀ line ∈ ["Calculator(4).Add(x)".toList, "\tCalculator(2)? ".toList,
      "exit()".toList, "Calculator(1).DisplayResult()".toList], IsExpressionLine line := by
    decide +kernel
  have hfind : findFile? [⟨"dir/a.txt", (String.ofList (join ['\n'] ["Calculator(4).Add(x)".toList,
      "\tCalculator(2)? ".toList, "exit()".toList,
      "Calculator(1).DisplayResult()".toList])).toUTF8.data.toList⟩] "dir/a.txt" = some _ := rfl
  obtain ⟨outputs, errors, code, hlength, hfile, hline⟩ :=
    session_file_eq_lines ["--yaml"] ["--json", "--strict"] (by decide) (by decide)
      (by decide +kernel) hlines hfind String.toList_ofList (.inl String.toList_ofList) "" []
  exact ⟨_, _, outputs, errors, code, rfl, hlines, rfl, hlength, hfile, hline⟩

end FluentCalc
