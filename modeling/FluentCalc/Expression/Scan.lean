/-
# Finding calls in text

The shape `name(argument)` is read from the front of a list of characters. A
name is an ASCII letter or an underscore with word characters behind it; an
argument is everything up to the next closing bracket, line ends included.
There is no backing out of either: a name takes every word character there is.

Two ways of reading a chain of calls are built on the shape. `findCalls` looks
for calls anywhere, skipping one character wherever no call begins. `readCalls`
allows nothing but gaps between calls and returns what it could not read.
-/

import FluentCalc.Expression.Basic
import FluentCalc.Text.Word

namespace FluentCalc.Scan

open Text

/-- A name and an argument as they stand in a text. -/
structure RawCall where
  name : List Char
  argument : List Char
deriving DecidableEq

/-- The number of characters of `name(argument)`. -/
def RawCall.width (c : RawCall) : Nat :=
  c.name.length + c.argument.length + 2

/-- Take a name off the front of a text. -/
def name? : List Char → Option (List Char × List Char)
  | [] => none
  | c :: rest =>
    if isNameStart c then some (c :: rest.takeWhile isWord, rest.dropWhile isWord) else none

/-- Take everything up to a closing bracket, and the bracket, off the front of
a text. -/
def argument? (text : List Char) : Option (List Char × List Char) :=
  match text.dropWhile (· != ')') with
  | [] => none
  | _ :: rest => some (text.takeWhile (· != ')'), rest)

/-- Take `name(argument)` off the front of a text. -/
def invocation? (text : List Char) : Option (RawCall × List Char) :=
  match name? text with
  | some (name, '(' :: rest) =>
    (argument? rest).map fun (argument, rest) => (⟨name, argument⟩, rest)
  | _ => none

/-- Take a point and `name(argument)` off the front of a text. -/
def call? : List Char → Option (RawCall × List Char)
  | '.' :: rest => invocation? rest
  | _ => none

/-- A name is the front of the text it is taken off. -/
theorem append_of_name? {text name rest : List Char} (h : name? text = some (name, rest)) :
    text = name ++ rest := by
  cases text with
  | nil => simp [name?] at h
  | cons c tail =>
    simp only [name?] at h
    split at h
    · simp only [Option.some.injEq, Prod.mk.injEq] at h
      obtain ⟨rfl, rfl⟩ := h
      simp [List.takeWhile_append_dropWhile]
    · simp at h

/-- An argument is the front of the text it is taken off, and a closing bracket
stands behind it. -/
theorem append_of_argument? {text argument rest : List Char}
    (h : argument? text = some (argument, rest)) : text = argument ++ ')' :: rest := by
  have whole := List.takeWhile_append_dropWhile (p := (· != ')')) (l := text)
  simp only [argument?] at h
  split at h
  · simp at h
  · rename_i c tail stop
    simp only [Option.some.injEq, Prod.mk.injEq] at h
    obtain ⟨rfl, rfl⟩ := h
    have : c = ')' := by
      have := List.head?_dropWhile_not (· != ')') text
      rw [stop] at this
      simpa using this
    subst this
    rw [stop] at whole
    exact whole.symm

/-- An invocation is the front of the text it is taken off. -/
theorem append_of_invocation? {text rest : List Char} {c : RawCall}
    (h : invocation? text = some (c, rest)) :
    text = c.name ++ '(' :: c.argument ++ ')' :: rest := by
  simp only [invocation?] at h
  split at h
  · rename_i name tail found
    obtain ⟨⟨argument, rest'⟩, found', eq⟩ := Option.map_eq_some_iff.1 h
    simp only [Prod.mk.injEq] at eq
    obtain ⟨rfl, rfl⟩ := eq
    rw [append_of_name? found, append_of_argument? found']
    simp
  · simp at h

/-- A call is the front of the text it is taken off. -/
theorem append_of_call? {text rest : List Char} {c : RawCall}
    (h : call? text = some (c, rest)) :
    text = '.' :: c.name ++ '(' :: c.argument ++ ')' :: rest := by
  cases text with
  | nil => simp [call?] at h
  | cons d tail =>
    simp only [call?] at h
    split at h
    · rename_i eq
      cases eq
      rw [append_of_invocation? h]
      simp
    · simp at h

/-- A call takes its width and one character more for the point. -/
theorem length_of_call? {text rest : List Char} {c : RawCall}
    (h : call? text = some (c, rest)) : text.length = c.width + 1 + rest.length := by
  rw [append_of_call? h]
  simp [RawCall.width]
  omega

/-- A call with its argument trimmed, at the offset of its point. An argument
with nothing in it is no argument. -/
def RawCall.toCall (c : RawCall) (offset : Nat) : Call where
  name := String.ofList c.name
  argument := match strip c.argument with
    | [] => .null
    | argument => .text (String.ofList argument)
  column := some (offset + 1)

/-- All calls in a text that begins at an offset, from left to right and
without overlap. -/
def findCalls (offset : Nat) (text : List Char) : List Call :=
  match h : call? text with
  | some (c, rest) => c.toCall offset :: findCalls (offset + c.width + 1) rest
  | none =>
    match text with
    | [] => []
    | _ :: rest => findCalls (offset + 1) rest
termination_by text.length
decreasing_by
  · have := length_of_call? h
    omega
  · simp

/-- The calls at the front of a text that begins at an offset, with only gaps
between them, then the offset and the text that is left behind the last call
and its gap. -/
def readCalls (offset : Nat) (text : List Char) : List Call × Nat × List Char :=
  let start := offset + (text.takeWhile isGap).length
  match _found : call? (text.dropWhile isGap) with
  | some (c, rest) =>
    let (calls, stop) := readCalls (start + c.width + 1) rest
    (c.toCall start :: calls, stop)
  | none => ([], start, text.dropWhile isGap)
termination_by text.length
decreasing_by
  have := length_of_call? _found
  have := (List.dropWhile_sublist isGap (l := text)).length_le
  omega

end FluentCalc.Scan
