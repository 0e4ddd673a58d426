/-
# Options of a session

A session is started with a list of words. The words `--json`, `--yaml` and
`--strict` are options wherever they stand, and YAML prevails over JSON. The
first word that does not begin with a hyphen is the path of a file of
expressions; other words that begin with one mean nothing.
-/

import FluentCalc.Format

namespace FluentCalc

/-- The options of a session. -/
structure Options where
  format : Option Format
  strict : Bool
  path : Option String

/-- The options that a list of words stands for. -/
def Options.ofWords (words : List String) : Options where
  format := if words.contains "--yaml" then some .yaml
    else if words.contains "--json" then some .json
    else none
  strict := words.contains "--strict"
  path := words.find? fun word => word.toList.head? != some '-'

end FluentCalc
