/-
# A catalogue of hosts

Besides the calculator there are hosts that exercise everything a chain of
calls may meet: operations that fail after changing their accumulator, hosts
that cannot be made or copied or registered, operations that come back with
another accumulator or with a plain value.
-/

import FluentCalc.Host.Calculator

namespace FluentCalc

namespace Host

/-- A method that expressions may not call. -/
def concealed (name : String) (operation : Operation) : Method :=
  ⟨name, false, .runs operation⟩

/-- Leave the value changed and say nothing. -/
def silently (change : Double → Double) : Operation :=
  .nullary fun a j => (.accumulator { a with value := change a.value }, j)

/-- Come back with a plain value. -/
def returning (value : Value) : Operation :=
  .nullary fun a j => (.plain a value, j)

/-- Fail. -/
def failing (cause : Failure) : Operation :=
  .nullary fun a j => (.failure a cause, j)


/-- A calculator that can also double its value. -/
def doubler : Host where
  name := "Doubler"
  methods := Calculator.methods ++
    [⟨"double", true, .runs (silently fun x => x.multiply (Double.ofUnits false (2 ^ 1075) 1))⟩]
  create := Calculator.create
  copyFailure := none

/-- Take on a value and announce an explosion, then fail and name the argument. -/
def explode : Operation :=
  .unary fun x => Work.action do
    Work.assign (Double.ofUnits false (999 * 2 ^ 1074) 1)
    Work.emit (.error "about to explode")
    throw (.runtime ("boom " ++ Layout.standard.text x))

/-- A calculator with an operation that always fails after it has changed the
accumulator and had an effect. -/
def flaky : Host where
  name := "Flaky"
  methods := Calculator.methods ++ [⟨"explode", true, .runs explode⟩]
  create := Calculator.create
  copyFailure := none

/-- A calculator of which no working copy can be made. -/
def uncopyable : Host where
  name := "Uncopyable"
  methods := Calculator.methods
  create := Calculator.create
  copyFailure := some (.runtime "cannot copy")

/-- A calculator that cannot be made. -/
def brokenSeed : Host where
  name := "BrokenSeed"
  methods := Calculator.methods
  create := fun _ => .error (.runtime "no accumulator")
  copyFailure := none

/-- A calculator that exposes a method with two parameters. -/
def twoArgs : Host where
  name := "TwoArgs"
  methods := Calculator.methods ++ [⟨"add_both", true, .takes 2⟩]
  create := Calculator.create
  copyFailure := none

/-- A host whose operations come back with fresh accumulators. A forked counter
is on its own: its effects are not those of the run. -/
def counter : Host where
  name := "Counter"
  methods := [
    ⟨"inc", true, .runs (.unary fun x a j =>
      (.accumulator { a with value := a.value.add x }, j))⟩,
    ⟨"fork", true, .runs (.nullary fun _ j =>
      (.accumulator ⟨Double.ofUnits true (2 ^ 1075) 1, false, false⟩, j))⟩]
  create := Calculator.create
  copyFailure := none

/-- The failure of asking an unmarked accumulator for its marks. -/
def noMarks : Failure := .missingPart "Calculator" "marks"

/-- Leave a mark, take on a value, have an effect, and fail. -/
def markFail : Operation :=
  .nullary <| Work.action do
    if (← get).accumulator.marked then
      modify fun t => { t with journal := t.journal.mark }
      Work.assign (Double.ofUnits true (7 * 2 ^ 1074) 1)
      Work.emit (.output "marked")
      throw (.badValue "logged")
    else throw noMarks

/-- Come back with the number of marks. -/
def marksCount : Operation :=
  .nullary fun a j => if a.marked then (.plain a (.int j.marks), j) else (.failure a noMarks, j)

/-- Add one and come back with the value from before. -/
def bump : Operation :=
  .nullary fun a j =>
    (.plain { a with value := a.value.add (Double.ofUnits false (2 ^ 1074) 1) } (.num a.value), j)

/-- Have effects that are not simply a line on one stream. -/
def whisper : Operation :=
  .nullary fun a j => (.accumulator a, j.record a [
    ⟨["debug"], some "psst"⟩, ⟨["stdout", "stderr"], some "both"⟩, ⟨["stdout"], none⟩])

/-- A calculator without addition and squaring, and with every sort of answer
an operation can give. Its accumulators can be marked, and all accumulators of
a run share the marks. -/
def lab : Host where
  name := "Lab"
  methods := Calculator.methods ++ [
    concealed Calculator.Binary.add.name Calculator.Binary.add.operation,
    concealed Calculator.Unary.square.name Calculator.Unary.square.operation,
    ⟨"clear", true, .runs (.unary fun x a j => (.accumulator { a with value := x }, j))⟩,
    ⟨"ret_none", true, .runs (returning .null)⟩,
    ⟨"ret_true", true, .runs (returning (.bool true))⟩,
    ⟨"ret_int", true, .runs (returning (.int 12345678901234567890123))⟩,
    ⟨"ret_text", true, .runs (returning (.text "it's\n"))⟩,
    ⟨"ret_list", true, .runs (returning (.list
      [.int 1, .num (Double.ofUnits false (2 ^ 1075) 1), .text "x", .null]))⟩,
    ⟨"ret_nan", true, .runs (returning (.num .nan))⟩,
    ⟨"bump", true, .runs bump⟩,
    ⟨"echo", true, .runs (.unary fun x a j => (.plain a (.num x), j))⟩,
    ⟨"swap", true, .runs (.unary fun x _ j => (.accumulator ⟨x, false, false⟩, j))⟩,
    ⟨"swap_shared", true, .runs (.unary fun x a j =>
      (.accumulator ⟨x, false, a.recorded⟩, j))⟩,
    ⟨"mark_fail", true, .runs markFail⟩,
    ⟨"marks_count", true, .runs marksCount⟩,
    ⟨"fail_key", true, .runs (failing (.missingKey "k"))⟩,
    ⟨"fail_empty", true, .runs (failing (.runtime ""))⟩,
    ⟨"base_value", true, .runs (failing .notImplemented)⟩,
    ⟨"whisper", true, .runs whisper⟩,
    ⟨"_hidden_op", true, .runs (silently id)⟩]
  create := fun seed => do return ⟨← seedNumber seed, true, true⟩
  copyFailure := none

/-- The hosts that can be asked for by name. -/
def catalogue : List Host :=
  [Calculator.host, doubler, flaky, uncopyable, brokenSeed, twoArgs, counter, lab]

/-- The host of a name. -/
def named? (name : String) : Option Host :=
  catalogue.find? fun host => host.name == name

end Host

end FluentCalc
