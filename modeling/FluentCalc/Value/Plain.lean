/-
# Plain values

A report is written out as plain data: records become mappings from the names
of their fields, in a fixed order, and tuples become lists, at every depth. The
fault of a text is no record and is left as it is.
-/

import FluentCalc.Value.Basic

namespace FluentCalc.Value

mutual

/-- A value with its records turned into mappings and its tuples into lists. -/
def plain : Value → Value
  | list items => list (plainItems items)
  | tuple items => list (plainItems items)
  | mapping entries => mapping (plainEntries entries)
  | call name argument column =>
    mapping [(text "name", text name), (text "raw_argument", argument.plain),
      (text "col", ofColumn column)]
  | expression seed calls constructor =>
    mapping [(text "seed", seed.plain), (text "calls", list (plainItems calls)),
      (text "constructor", text constructor)]
  | diagnostic index name status message value =>
    mapping [(text "call_index", int index), (text "name", text name),
      (text "status", text status), (text "message", text message),
      (text "value", value.plain)]
  | outcome final diagnostics effects =>
    mapping [(text "final_value", final.plain),
      (text "diagnostics", list (plainItems diagnostics)),
      (text "side_effects", list (plainItems effects))]
  | value => value

/-- `plain` on the items of a list. -/
def plainItems : List Value → List Value
  | [] => []
  | item :: rest => item.plain :: plainItems rest

/-- `plain` on the values of a mapping; keys are left as they are. -/
def plainEntries : List (Value × Value) → List (Value × Value)
  | [] => []
  | (key, value) :: rest => (key, value.plain) :: plainEntries rest

end

end FluentCalc.Value
