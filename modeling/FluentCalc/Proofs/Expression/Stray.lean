/-
# Where stray text begins

The strict reading stops at the first character that is neither in a gap nor at the
front of a call, and it says at which column that is. The column is exact. What stands
in front of it is an expression to the strict reading, with calls that the permissive
reading finds first in the whole source. Every longer piece of the source is refused,
at the very same column: a call that is not complete in it cannot begin there, since it
would be complete in the whole source as well.
-/

import FluentCalc.Proofs.Expression.Modes

namespace FluentCalc

open Text

namespace Scan

/-- The strict reading of a chain stops in front of a text: neither a gap nor a call
stands at its front. -/
structure Stops (text : List Char) : Prop where
  not_gap : ∀ c ∈ text.head?, isGap c = false
  not_call : call? text = none

theorem stops_nil : Stops [] :=
  ⟨by simp, rfl⟩

theorem stops_dropWhile {text : List Char} (h : call? (text.dropWhile isGap) = none) :
    Stops (text.dropWhile isGap) := by
  refine ⟨fun c hc => ?_, h⟩
  have hhead := List.head?_dropWhile_not isGap text
  rw [Option.mem_def.1 hc] at hhead
  simpa using hhead

/-- Nothing changes when text is cut off at the end: no call begins where none is
complete. -/
theorem Stops.of_prefix {text front : List Char} (h : Stops text) (hfront : front <+: text) :
    Stops front := by
  obtain ⟨rest, rfl⟩ := hfront
  by_cases hne : front = []
  · exact hne ▸ stops_nil
  · refine ⟨?_, ?_⟩
    · have hhead : (front ++ rest).head? = front.head? :=
        List.head?_append_of_ne_nil front hne
      exact hhead ▸ h.not_gap
    · cases hcall : call? front with
      | none => rfl
      | some found =>
          obtain ⟨c, tail⟩ := found
          cases h.not_call.symm.trans (call?_append rest hcall)

/-- A text falls into calls with gaps around them and a rest where the strict reading
stops. The calls are read in the same way in front of whatever else it stops at. -/
theorem exists_front_readCalls (offset : ℕ) (text : List Char) :
    ∃ calls front rest, text = front ++ rest ∧ Stops rest ∧
      ∀ more, Stops more →
        readCalls offset (front ++ more) = (calls, offset + front.length, more) := by
  induction offset, text using readCalls.induct with
  | case1 offset text start c tail hcall _ _ _ ih =>
      obtain ⟨calls, front, rest, htail, hrest, hread⟩ := ih
      obtain ⟨hspelled, hbody⟩ := call?_eq_some_iff.1 hcall
      have hgap : ∀ d ∈ text.takeWhile isGap, isGap d = true := fun d hd =>
        List.mem_takeWhile_imp hd
      refine ⟨c.toCall start :: calls, text.takeWhile isGap ++ '.' :: c.spell front, rest, ?_,
        hrest, fun more hmore => ?_⟩
      · rw [List.append_assoc, List.cons_append, RawCall.spell_append, ← htail, ← hbody,
          List.takeWhile_append_dropWhile]
      · have hlength : (c.spell front).length = c.width + front.length := by
          simp [RawCall.spell, RawCall.width]
          omega
        have hspell : call? ('.' :: c.spell (front ++ more)) = some (c, front ++ more) :=
          call?_eq_some_iff.2 ⟨hspelled, rfl⟩
        rw [List.append_assoc, List.cons_append, RawCall.spell_append,
          readCalls_of_call? offset hgap hspell, hread more hmore]
        simp only [List.length_append, List.length_cons, hlength, Prod.mk.injEq, and_true]
        exact ⟨rfl, by omega⟩
  | case2 offset text hcall =>
      refine ⟨[], text.takeWhile isGap, text.dropWhile isGap,
        List.takeWhile_append_dropWhile.symm, stops_dropWhile hcall, fun more hmore => ?_⟩
      have hgap : ∀ d ∈ text.takeWhile isGap, isGap d = true := fun d hd =>
        List.mem_takeWhile_imp hd
      have htake := takeWhile_run hgap hmore.not_gap
      have hdrop := dropWhile_run hgap hmore.not_gap
      rw [readCalls_stop offset (hdrop.symm ▸ hmore.not_call), htake, hdrop]

/-- What the strict grammar makes of a source behind whose seed the calls are known, up to
where the reading stops. -/
theorem strict_of_readCalls {text rest : List Char} {found : RawSeed} {calls : List Call}
    {stop : ℕ} (hseed : seed text = .ok found)
    (hread : readCalls found.restOffset found.rest = (calls, stop, rest)) :
    strict text = if rest = [] then .ok ⟨found, calls⟩ else .error stop := by
  cases rest <;> simp [strict, hseed, hread]

/-- A source with a seed has a front that the strict grammar takes apart. It fails at the
end of this front as soon as more stands behind it that the reading stops at, as it does
at the rest of the source. -/
theorem exists_front_strict {source : List Char} {found : RawSeed}
    (hseed : seed source = .ok found) :
    ∃ front rest reading, source = front ++ rest ∧ Stops rest ∧ strict front = .ok reading ∧
      reading.seed.invocation = found.invocation ∧
      ∀ more, Stops more → more ≠ [] → strict (front ++ more) = .error front.length := by
  obtain ⟨gap, hgap, hspelled, htext, hargument, hoffset⟩ := seed_eq_ok_iff.1 hseed
  obtain ⟨calls, front, rest, hsplit, hrest, hread⟩ :=
    exists_front_readCalls found.restOffset found.rest
  have hfront : seed (gap ++ found.invocation.spell front) = .ok { found with rest := front } :=
    seed_eq_ok_iff.2 ⟨gap, hgap, hspelled, rfl, hargument, hoffset⟩
  have hlength : (gap ++ found.invocation.spell front).length =
      found.restOffset + front.length := by
    simp [RawCall.spell, RawCall.width, hoffset]
    omega
  have hnil := hread [] stops_nil
  rw [List.append_nil] at hnil
  refine ⟨gap ++ found.invocation.spell front, rest, ⟨{ found with rest := front }, calls⟩, ?_,
    hrest, ?_, rfl, fun more hmore hne => ?_⟩
  · rw [htext, hsplit, List.append_assoc, RawCall.spell_append]
  · rw [strict_of_readCalls hfront hnil, if_pos rfl]
  · rw [strict_of_readCalls (seed_append hfront more) (hread more hmore), if_neg hne, hlength]

end Scan

namespace Expression

open Scan

/-- A source that the permissive reading accepts has a front that the strict reading accepts,
too. With more behind it that is no part of a chain, stray text begins at its end. -/
theorem exists_front_ofCharsStrict {source : List Char} {p : Expression}
    (h : ofCharsPermissive source = .ok p) :
    ∃ front rest e, source = front ++ rest ∧ Stops rest ∧ ofCharsStrict front = .ok e ∧
      ∀ more, Stops more → more ≠ [] → ∃ snippet,
        ofCharsStrict (front ++ more) = .error (.strayText snippet (front.length + 1)) := by
  obtain ⟨found, hseed, hnumber, -, -⟩ := ofCharsPermissive_eq_ok_iff.1 h
  obtain ⟨front, rest, reading, hsplit, hrest, hfront, hinvocation, hmore⟩ :=
    exists_front_strict hseed
  obtain ⟨e, hstrict⟩ : ∃ e, ofCharsStrict front = .ok e := by
    rw [← hinvocation] at hnumber
    simp only [ofCharsStrict, hfront, build, hnumber]
    exact ⟨_, rfl⟩
  refine ⟨front, rest, _, hsplit, hrest, hstrict, fun more hstops hne => ?_⟩
  obtain ⟨calls, hpermissive⟩ :=
    exists_ofCharsPermissive_append (ofCharsPermissive_of_ofCharsStrict hstrict) more
  simp only [ofCharsStrict, hmore more hstops hne, hpermissive]
  exact ⟨_, rfl⟩

/-- Where the strict reading alone refuses a source, the column is that behind the longest
front that it accepts. -/
theorem exists_front_of_strayText {source : List Char} {fault : ParseFault}
    (h : ofCharsStrict source = .error fault) (hkind : fault.kind = "unexpected-text") :
    ∃ front rest e, source = front ++ rest ∧ rest ≠ [] ∧ fault.column = front.length + 1 ∧
      ofCharsStrict front = .ok e ∧
      ∀ more, more <+: rest → more ≠ [] →
        ∃ snippet, ofCharsStrict (front ++ more) = .error (.strayText snippet fault.column) := by
  cases hpermissive : ofCharsPermissive source with
  | error other =>
      cases h.symm.trans (ofCharsStrict_of_ofCharsPermissive_error hpermissive)
      rw [kind_of_ofCharsPermissive hpermissive] at hkind
      exact absurd hkind (by decide)
  | ok p =>
      obtain ⟨front, rest, e, rfl, hrest, hfront, hmore⟩ := exists_front_ofCharsStrict hpermissive
      have hne : rest ≠ [] := by
        rintro rfl
        rw [List.append_nil, hfront] at h
        cases h
      obtain ⟨snippet, hfault⟩ := hmore rest hrest hne
      cases h.symm.trans hfault
      exact ⟨front, rest, e, rfl, hne, rfl, hfront, fun more hprefix =>
        hmore more (hrest.of_prefix hprefix)⟩

/-- **The column of stray text is exact.** It points at a character of the source. What is
in front of it is accepted by the strict reading, as the expression that the permissive
reading makes of the whole source with the first of its calls. Every longer prefix of
the source is refused for stray text at the same column. -/
theorem strayText_column {source : String} {fault : ParseFault}
    (h : parse true source = .error fault) (hkind : fault.kind = "unexpected-text") :
    1 ≤ fault.column ∧ fault.column ≤ source.length ∧
      (∃ e calls, parse true (String.ofList (source.toList.take (fault.column - 1))) = .ok e ∧
        parse false source = .ok { e with calls := e.calls ++ calls }) ∧
      ∀ longer, longer <+: source.toList → fault.column - 1 < longer.length →
        ∃ fault', parse true (String.ofList longer) = .error fault' ∧
          fault'.kind = "unexpected-text" ∧ fault'.column = fault.column := by
  obtain ⟨front, rest, e, hsplit, hne, hcolumn, hfront, hmore⟩ := exists_front_of_strayText h hkind
  have hlength : source.length = front.length + rest.length := by
    rw [← String.length_toList, hsplit, List.length_append]
  have hpos := List.length_pos_iff.2 hne
  obtain ⟨calls, hcalls⟩ :=
    exists_ofCharsPermissive_append (ofCharsPermissive_of_ofCharsStrict hfront) rest
  refine ⟨by omega, by omega, ⟨e, calls, ?_, ?_⟩, fun longer hprefix hlonger => ?_⟩
  · rw [parse_true, String.toList_ofList, hsplit, hcolumn, Nat.add_sub_cancel, List.take_left,
      hfront]
  · rw [parse_false, hsplit, hcalls]
  · -- A longer prefix is the front with a part of the rest.
    rw [hcolumn, Nat.add_sub_cancel] at hlonger
    rw [hsplit] at hprefix
    obtain ⟨extra, rfl⟩ :=
      List.prefix_of_prefix_length_le (List.prefix_append front rest) hprefix hlonger.le
    have hextra : extra ≠ [] := by
      rintro rfl
      simp at hlonger
    obtain ⟨snippet, hfault⟩ :=
      hmore extra ((List.prefix_append_right_inj front).1 hprefix) hextra
    refine ⟨.strayText snippet fault.column, ?_, rfl, rfl⟩
    rw [parse_true, String.toList_ofList, hfault]

/-- The mark on the second line is stray. The call in front of it is accepted with the line
feed behind it, and the call behind the mark is found by the permissive reading only. -/
theorem strayText_column_of_mark :
    ∃ fault, parse true "Calculator(0) .Add(2)\n!.Square()" = .error fault ∧
      fault.kind = "unexpected-text" ∧ fault.column = 23 ∧
      (∃ e calls, parse true "Calculator(0) .Add(2)\n" = .ok e ∧
        parse false "Calculator(0) .Add(2)\n!.Square()" =
          .ok { e with calls := e.calls ++ calls }) ∧
      ∃ fault', parse true "Calculator(0) .Add(2)\n!" = .error fault' ∧
        fault'.kind = "unexpected-text" ∧ fault'.column = 23 := by
  let found : RawSeed :=
    ⟨⟨"Calculator".toList, "0".toList⟩, 11, 13, " .Add(2)\n!.Square()".toList⟩
  have hseed : Scan.seed "Calculator(0) .Add(2)\n!.Square()".toList = .ok found :=
    seed_eq_ok_iff.2 ⟨[], List.forall_mem_nil _, ⟨by decide +kernel, by decide⟩, rfl, rfl, rfl⟩
  have hcall : call? ".Add(2)\n!.Square()".toList =
      some (⟨"Add".toList, "2".toList⟩, "\n!.Square()".toList) := by
    decide +kernel
  have hread : readCalls found.restOffset found.rest =
      ([⟨"Add", .text "2", some 15⟩], 22, "!.Square()".toList) := by
    have hgap : ∀ c ∈ [' '], isGap c = true := List.forall_mem_singleton.2 (by decide)
    refine (readCalls_of_call? 13 hgap hcall).trans ?_
    rw [readCalls_stop _ (by decide +kernel)]
    rfl
  have hstrict := strict_of_readCalls hseed hread
  rw [if_neg (by decide)] at hstrict
  have hnumber : number? found.invocation.argument = .ok .zero := by decide +kernel
  have hpermissive : ofCharsPermissive "Calculator(0) .Add(2)\n!.Square()".toList =
      .ok ⟨"Calculator", .zero, findCalls found.restOffset found.rest⟩ :=
    ofCharsPermissive_eq_ok_iff.2 ⟨found, hseed, hnumber, rfl, rfl⟩
  obtain ⟨snippet, hfault⟩ : ∃ snippet, parse true "Calculator(0) .Add(2)\n!.Square()" =
      .error (.strayText snippet 23) := by
    simp only [parse_true, ofCharsStrict, hstrict, hpermissive]
    exact ⟨_, rfl⟩
  have hprefix : "Calculator(0) .Add(2)\n!".toList <+:
      "Calculator(0) .Add(2)\n!.Square()".toList := by decide
  obtain ⟨-, -, hfront, hlonger⟩ := strayText_column hfault rfl
  exact ⟨_, hfault, rfl, rfl, hfront,
    hlonger _ hprefix (show 22 < "Calculator(0) .Add(2)\n!".toList.length by decide)⟩

end Expression

end FluentCalc
