/-
# What a session prints

A session writes to two streams. A `Console` is the text written to each so far;
the parts of a session are functions that come back with one, and parts are put
together by appending.
-/

namespace FluentCalc

/-- The text written to the output and the error stream. -/
structure Console where
  output : List Char
  errors : List Char
deriving DecidableEq

namespace Console

/-- Nothing written. -/
def empty : Console := ⟨[], []⟩

/-- One console after another, on each stream. -/
def append (a b : Console) : Console :=
  ⟨a.output ++ b.output, a.errors ++ b.errors⟩

instance : Append Console := ⟨append⟩

/-- Text on the output stream, as it is. -/
def text (s : String) : Console := ⟨s.toList, []⟩

/-- A line on the output stream. -/
def line (s : String) : Console := ⟨s.toList ++ ['\n'], []⟩

/-- A line on the error stream. -/
def errorLine (s : String) : Console := ⟨[], s.toList ++ ['\n']⟩

theorem append_def (a b : Console) :
    a ++ b = ⟨a.output ++ b.output, a.errors ++ b.errors⟩ := rfl

@[simp] theorem empty_append (a : Console) : empty ++ a = a := rfl

@[simp] theorem append_empty (a : Console) : a ++ empty = a := by
  simp [append_def, empty]

theorem append_assoc (a b c : Console) : a ++ b ++ c = a ++ (b ++ c) := by
  simp [append_def]

end Console

end FluentCalc
