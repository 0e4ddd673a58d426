/-
# Parsing expressions

An expression is a seed, `name(argument)` with gaps in front, and a chain of
calls. Parsing knows two readings of the chain. The permissive one finds calls
wherever they stand and passes over everything else. The strict one allows
nothing but gaps around calls. Faults of the seed come first in both: a text that
the strict grammar refuses is read permissively to find out whether it has one.
-/

import FluentCalc.Decimal.Numeral
import FluentCalc.Expression.Scan

namespace FluentCalc

open Text

namespace Scan

/-- The constructor call at the front of a text. -/
structure RawSeed where
  invocation : RawCall
  /-- The offset of the argument. -/
  argumentOffset : Nat
  /-- The text behind the closing bracket, and its offset. -/
  restOffset : Nat
  rest : List Char

/-- Take the constructor call off the front of a text. The error is the offset
of the failure: where the name should begin, or right behind the name when no
opening bracket follows it, or the end of the text when no bracket closes. -/
def seed (text : List Char) : Except Nat RawSeed :=
  let gap := (text.takeWhile isGap).length
  let body := text.dropWhile isGap
  match name? body with
  | none => .error gap
  | some (name, '(' :: inside) =>
    match argument? inside with
    | none => .error text.length
    | some (argument, rest) =>
      let invocation : RawCall := ⟨name, argument⟩
      .ok ⟨invocation, gap + name.length + 1, gap + invocation.width, rest⟩
  | some (name, _) => .error (gap + name.length)

/-- What a grammar takes a text apart into. -/
structure Reading where
  seed : RawSeed
  calls : List Call

/-- The permissive grammar: a seed with calls anywhere behind it. The error is
the offset of the failure. -/
def permissive (text : List Char) : Except Nat Reading :=
  match seed text with
  | .error offset => .error offset
  | .ok found => .ok ⟨found, findCalls found.restOffset found.rest⟩

/-- The strict grammar: a seed with nothing but gaps and calls behind it. The
error is the offset of the failure. -/
def strict (text : List Char) : Except Nat Reading :=
  match seed text with
  | .error offset => .error offset
  | .ok found =>
    match readCalls found.restOffset found.rest with
    | (calls, _, []) => .ok ⟨found, calls⟩
    | (_, stop, _ :: _) => .error stop

end Scan

namespace Expression

/-- The part of a text from a column on, counted from one. Without a column, or
at column zero, it is all of the text; columns below zero count from its end. -/
def fromColumn (source : List Char) : Option Int → List Char
  | none => source
  | some column =>
    if column = 0 then source
    else
      let start := column - 1
      if start < 0 then source.drop (source.length - start.natAbs) else source.drop start.toNat

/-- The stray text that a fault quotes: what stands in front of the next point,
or the next twenty characters where that is blank. -/
def snippet (source : List Char) (column : Option Int) : List Char :=
  let rest := fromColumn source column
  match strip (rest.takeWhile (· != '.')) with
  | [] => strip (rest.take 20)
  | first => first

/-- The expression that a reading stands for, unless its seed is no number. -/
def build (reading : Scan.Reading) : Except ParseFault Expression :=
  let constructor := String.ofList reading.seed.invocation.name
  match number? reading.seed.invocation.argument with
  | .error _ =>
    .error (.badSeed (String.ofList reading.seed.invocation.argument) constructor
      (reading.seed.argumentOffset + 1))
  | .ok seed => .ok ⟨constructor, seed, reading.calls⟩

/-- Parse a list of characters permissively. -/
def ofCharsPermissive (source : List Char) : Except ParseFault Expression :=
  match Scan.permissive source with
  | .error offset => .error (.noSeed (offset + 1))
  | .ok reading => build reading

/-- Parse a list of characters strictly. Where the strict grammar fails, the
permissive one is asked whether the seed is to blame. -/
def ofCharsStrict (source : List Char) : Except ParseFault Expression :=
  match Scan.strict source with
  | .ok reading => build reading
  | .error stop =>
    match ofCharsPermissive source with
    | .error fault => .error fault
    | .ok _ =>
      let column := stop + 1
      .error (.strayText (String.ofList (snippet source (some column))) column)

/-- Parse a list of characters. -/
def ofChars (strict : Bool) (source : List Char) : Except ParseFault Expression :=
  if strict then ofCharsStrict source else ofCharsPermissive source

/-- Parse a text. -/
def parse (strict : Bool) (source : String) : Except ParseFault Expression :=
  ofChars strict source.toList

end Expression

end FluentCalc
