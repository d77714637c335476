import Reckon.Formula.Eval
import Reckon.Formula.Reader
import Reckon.Function.Builtin
import Reckon.Options

/-!
# Judging formulas

A judge reads a formula, evaluates it on positional arguments and decides whether its value
counts as true: whether its absolute value is above a bound.  `Judge.value` and
`Judge.evaluate` answer with a value or a fault; `Judge.check` and `Judge.code` turn the
faults that are reported into verdicts and negative codes.
-/

namespace Reckon

/-- Options and functions to judge by. -/
structure Judge where
  options : Options
  functions : Function.Table := Function.builtin
  /-- How many constructs may be open at once while a text is read. -/
  capacity : Nat := Reader.usualCapacity

/-- The outcome of judging a formula. -/
inductive Verdict where
  | decided (value : Float) (truth : Bool)
  | refused (fault : Fault) (notice : Fault.Notice)

/-- One for true, zero for false, and the code of the fault for neither. -/
def Verdict.code : Verdict → Int
  | decided _ truth => if truth then 1 else 0
  | refused _ notice => notice.code

namespace Judge

def standard : Judge :=
  { options := .default }

def reader (judge : Judge) : Reader :=
  { limit := judge.options.nestingLimit, packrat := judge.options.packrat
    capacity := judge.capacity }

def value (judge : Judge) (text : String) (arguments : List Float) : Except Fault Float := do
  let formula ← judge.reader.read text
  formula.eval judge.functions arguments

/-- Whether a value counts as true. -/
def isTrue (judge : Judge) (value : Float) : Bool :=
  Double.exceeds value judge.options.epsilon

def evaluate (judge : Judge) (text : String) (arguments : List Float) : Except Fault Bool := do
  return judge.isTrue (← judge.value text arguments)

/-- The verdict on a formula; a fault that is not reported passes through. -/
def check (judge : Judge) (text : String) (arguments : List Float) : Except Fault Verdict :=
  match judge.value text arguments with
  | .ok value => .ok (.decided value (judge.isTrue value))
  | .error fault =>
      match fault.notice? with
      | some notice => .ok (.refused fault notice)
      | none => .error fault

/-- The code of the verdict on a formula. -/
def code (judge : Judge) (text : String) (arguments : List Float) : Except Fault Int := do
  return (← judge.check text arguments).code

end Judge

end Reckon
