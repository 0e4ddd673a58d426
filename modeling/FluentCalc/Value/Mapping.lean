/-
# Keys of mappings

Two keys are one when they are equal as values, and numbers are equal across
kinds: `1`, `1.0` and true are the same key. Putting a value under a key that
is already there keeps the old key and its place.
-/

import FluentCalc.Value.Basic

namespace FluentCalc.Value

/-- The exact value of a number of any kind, in units of `2 ^ (-1074)`. -/
def exactUnits? : Value → Option Int
  | bool b => some (if b then 2 ^ 1074 else 0)
  | int n => some (n * 2 ^ 1074)
  | num (.finite negative m) => some (Double.signedUnits negative m)
  | _ => none

mutual

/-- Whether two values are the same key. -/
def sameKey : Value → Value → Bool
  | null, null => true
  | text a, text b => a == b
  | num (.infinite a), num (.infinite b) => a == b
  | bytes a, bytes b => a == b
  | date a, date b => a == b
  | moment a, moment b => a == b
  | tuple a, tuple b => sameKeys a b
  | call name argument _, call name' argument' _ => name == name' && argument.sameKey argument'
  | a, b =>
    match a.exactUnits?, b.exactUnits? with
    | some x, some y => x == y
    | _, _ => false

/-- `sameKey` for the items of tuples. -/
def sameKeys : List Value → List Value → Bool
  | [], [] => true
  | a :: as, b :: bs => a.sameKey b && sameKeys as bs
  | _, _ => false

end

/-- Entries with a value put under a key. -/
def insert (key value : Value) : List (Value × Value) → List (Value × Value)
  | [] => [(key, value)]
  | (other, old) :: rest =>
    if other.sameKey key then (other, value) :: rest
    else (other, old) :: insert key value rest

/-- The mapping that arises when entries are put in one after the other. -/
def ofEntries (entries : List (Value × Value)) : Value :=
  mapping (entries.foldl (fun done entry => insert entry.1 entry.2 done) [])

/-- A mapping with text keys, which must be distinct. -/
def fields (entries : List (String × Value)) : Value :=
  mapping (entries.map fun entry => (text entry.1, entry.2))

end FluentCalc.Value
