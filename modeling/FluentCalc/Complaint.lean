/-
# Complaints

Whatever ends a request without an answer is put in words as a complaint: the
name of the class of the error and, unless the class says it all, a message.
Each kind of error defines its own complaint beside its own type.
-/

namespace FluentCalc

/-- An error in words. -/
structure Complaint where
  kind : String
  message : Option String
deriving DecidableEq

end FluentCalc
