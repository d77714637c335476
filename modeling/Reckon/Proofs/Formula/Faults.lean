import Reckon.Formula.Eval
import Reckon.Function.Builtin
import Reckon.Proofs.Formula.Tree

/-!
# Faults of formulas

`Formula.faults` lists what is wrong with a formula for a table of functions and a number of
arguments, in the order of evaluation and without evaluating anything.  Evaluating the formula
gives the first of these faults, or a value if there is none (`Formula.reports_eval`), so that
no value of an argument or of a part has a say in it (`Formula.eval_fails_first`).
-/

namespace Reckon.Formula

/-! ## The faults -/

def argumentFaults (count : Nat) (letters : String) : List Fault :=
  match Argument.decode letters with
  | .error fault => [fault]
  | .ok index => if index < count then [] else [.beyondArguments letters index count]

def callFaults (functions : Function.Table) (name : String) (arity : Nat) : List Fault :=
  if functions.contains name arity then [] else [.unknownFunction name arity]

/-- The fault of an operator that is looked up. -/
def operatorFaults {α : Type} (operator : String) : Option α → List Fault
  | none => [.unknownOperator operator]
  | some _ => []

mutual

/-- The faults of a formula, in the order of evaluation. -/
def faults (functions : Function.Table) (count : Nat) : Formula → List Fault
  | number _ => []
  | argument letters => argumentFaults count letters
  | call name inputs =>
      faultsAll functions count inputs ++ callFaults functions name inputs.length
  | prefixed operator operand =>
      operatorFaults operator (Operator.unary? operator) ++ faults functions count operand
  | chain _ first links => faults functions count first ++ faultsLinks functions count links
  | group inside => faults functions count inside
  | link operator operand => [.unknownNode (label (link operator operand))]
  | noOperand owner => [.noOperand owner]
  | plain kind => [.unknownNode kind.label]

def faultsAll (functions : Function.Table) (count : Nat) : List Formula → List Fault
  | [] => []
  | formula :: formulas => faults functions count formula ++ faultsAll functions count formulas

/-- The faults of some links, where an operator comes behind its operand. -/
def faultsLinks (functions : Function.Table) (count : Nat) :
    List (String × Formula) → List Fault
  | [] => []
  | (operator, operand) :: links =>
      faults functions count operand ++ operatorFaults operator (Operator.binary? operator) ++
        faultsLinks functions count links

end

/-! ## Evaluation -/

/-- A result is the first of some faults, or a value if there is none. -/
def Reports {α : Type} (faults : List Fault) (result : Except Fault α) : Prop :=
  match faults with
  | [] => ∃ value, result = .ok value
  | fault :: _ => result = .error fault

theorem Reports.ok {α : Type} (value : α) : Reports [] (.ok value : Except Fault α) :=
  ⟨value, rfl⟩

/-- What comes later counts only where nothing was wrong before. -/
theorem Reports.bind {α β : Type} {before later : List Fault} {result : Except Fault α}
    {next : α → Except Fault β} (first : Reports before result)
    (second : ∀ value, result = .ok value → Reports later (next value)) :
    Reports (before ++ later) (result >>= next) := by
  cases before with
  | nil =>
      obtain ⟨value, rfl⟩ := first
      exact second value rfl
  | cons fault others =>
      obtain rfl : result = .error fault := first
      exact rfl

theorem Reports.map {α β : Type} {faults : List Fault} {result : Except Fault α}
    (reports : Reports faults result) (f : α → β) :
    Reports faults (result >>= fun value => pure (f value)) := by
  have whole : Reports (faults ++ []) (result >>= fun value => pure (f value)) :=
    reports.bind fun value _ => .ok (f value)
  rwa [List.append_nil] at whole

/-- A computation that succeeds has succeeded at each step. -/
theorem exists_of_bind_eq_ok {α β : Type} {result : Except Fault α}
    {next : α → Except Fault β} {final : β} (bound : result >>= next = .ok final) :
    ∃ value, result = .ok value ∧ next value = .ok final := by
  cases result with
  | error fault => cases bound
  | ok value => exact ⟨value, rfl, bound⟩

theorem lookup_of_error {letters : String} {fault : Fault}
    (failed : Argument.decode letters = .error fault) (arguments : List Float) :
    Argument.lookup arguments letters = .error fault := by
  rw [Argument.lookup, Argument.locate, failed]
  rfl

/-- A name of the alphabet is looked up by its index, in a list of any length. -/
theorem lookup_of_decode {letters : String} {index : Nat}
    (decoded : Argument.decode letters = .ok index) (arguments : List Float) :
    Argument.lookup arguments letters =
      match arguments[index]? with
      | some value => .ok value
      | none => .error (.beyondArguments letters index arguments.length) := by
  rw [Argument.lookup, Argument.locate, decoded]
  by_cases inside : index < arguments.length
  · rw [List.getElem?_eq_getElem inside]
    simp [bind, Except.bind, pure, Except.pure, inside]
  · rw [List.getElem?_eq_none (Nat.le_of_not_lt inside)]
    simp [bind, Except.bind, throw, throwThe, MonadExceptOf.throw, inside]

/-- Looking up an argument reports what is wrong with its name, if anything. -/
theorem reports_lookup (arguments : List Float) (letters : String) :
    Reports (argumentFaults arguments.length letters) (Argument.lookup arguments letters) := by
  rw [argumentFaults]
  cases decoded : Argument.decode letters with
  | error fault => exact lookup_of_error decoded arguments
  | ok index =>
      rw [lookup_of_decode decoded]
      by_cases inside : index < arguments.length
      · simp only [if_pos inside, List.getElem?_eq_getElem inside]
        exact ⟨arguments[index], rfl⟩
      · simp only [if_neg inside, List.getElem?_eq_none (Nat.le_of_not_lt inside)]
        rfl

/-- Functions of other arities than one and two are listed apart. -/
theorem contains_of_ne (functions : Function.Table) (name : String) {arity : Nat}
    (notOne : arity ≠ 1) (notTwo : arity ≠ 2) :
    functions.contains name arity = (functions.others.lookup (name, arity)).isSome := by
  match arity with
  | 0 => rfl
  | 1 => exact absurd rfl notOne
  | 2 => exact absurd rfl notTwo
  | _ + 3 => rfl

/-- A function is applied exactly where the table holds one for so many inputs; elsewhere applying
fails as insisting on it does. -/
theorem map_apply (functions : Function.Table) (name : String) (values : List Float) :
    (functions.apply name values).map (fun _ => ()) = functions.require name values.length := by
  unfold Function.Table.apply Function.Table.require
  match values with
  | [x] =>
      cases found : functions.unary.lookup name with
      | none => simp [Except.map, Function.Table.contains, found]
      | some function => simp [Except.map, Function.Table.contains, found]
  | [x, y] =>
      cases found : functions.binary.lookup name with
      | none => simp [Except.map, Function.Table.contains, found]
      | some function => simp [Except.map, Function.Table.contains, found]
  | [] =>
      rw [contains_of_ne functions name (by simp) (by simp)]
      cases found : functions.others.lookup (name, 0) with
      | none => simp [Except.map, found]
      | some function => simp [Except.map, found]
  | x :: y :: z :: values =>
      rw [contains_of_ne functions name (by simp) (by simp)]
      cases found : functions.others.lookup (name, values.length + 1 + 1 + 1) with
      | none => simp [Except.map, found]
      | some function => simp [Except.map, found]

/-- Applying a function reports whether it is missing. -/
theorem reports_apply (functions : Function.Table) (name : String) (values : List Float) :
    Reports (callFaults functions name values.length) (functions.apply name values) := by
  have required := map_apply functions name values
  rw [Function.Table.require] at required
  rw [callFaults]
  by_cases known : functions.contains name values.length
  · rw [if_pos known] at required ⊢
    cases applied : functions.apply name values with
    | error fault => rw [applied] at required; cases required
    | ok value => exact ⟨value, rfl⟩
  · rw [if_neg known] at required ⊢
    cases applied : functions.apply name values with
    | error fault => rw [applied] at required; cases required; rfl
    | ok value => rw [applied] at required; cases required

theorem length_of_evalAll {functions : Function.Table} {arguments values : List Float}
    {inputs : List Formula} (evaluated : evalAll functions arguments inputs = .ok values) :
    values.length = inputs.length := by
  induction inputs generalizing values with
  | nil =>
      cases evaluated
      rfl
  | cons input inputs inductionHypothesis =>
      rw [evalAll] at evaluated
      obtain ⟨value, -, rest⟩ := exists_of_bind_eq_ok evaluated
      obtain ⟨others, found, same⟩ := exists_of_bind_eq_ok rest
      cases same
      rw [List.length_cons, List.length_cons, inductionHypothesis found]

mutual

/-- Evaluating a formula gives its first fault, or a value if there is none. -/
theorem reports_eval (functions : Function.Table) (arguments : List Float) :
    (formula : Formula) →
      Reports (faults functions arguments.length formula) (eval functions arguments formula)
  | .number value => .ok value
  | .argument letters => by
      rw [faults, eval]
      exact reports_lookup arguments letters
  | .call name inputs => by
      rw [faults, eval]
      refine (reports_evalAll functions arguments inputs).bind fun values evaluated => ?_
      rw [← length_of_evalAll evaluated]
      exact reports_apply functions name values
  | .prefixed operator operand => by
      rw [faults, eval]
      cases Operator.unary? operator with
      | none => exact rfl
      | some operation => exact (reports_eval functions arguments operand).map operation
  | .chain _ first links => by
      rw [faults, eval]
      exact (reports_eval functions arguments first).bind fun value _ =>
        reports_evalLinks functions arguments value links
  | .group inside => by
      rw [faults, eval]
      exact reports_eval functions arguments inside
  | .link _ _ => rfl
  | .noOperand _ => rfl
  | .plain _ => rfl

/-- The faults of inputs come from left to right. -/
theorem reports_evalAll (functions : Function.Table) (arguments : List Float) :
    (inputs : List Formula) →
      Reports (faultsAll functions arguments.length inputs) (evalAll functions arguments inputs)
  | [] => .ok []
  | input :: inputs => by
      rw [faultsAll, evalAll]
      exact (reports_eval functions arguments input).bind fun value _ =>
        (reports_evalAll functions arguments inputs).map (value :: ·)

/-- The faults of links come from left to right, whatever the value on their left. -/
theorem reports_evalLinks (functions : Function.Table) (arguments : List Float)
    (value : Float) : (links : List (String × Formula)) →
      Reports (faultsLinks functions arguments.length links)
        (evalLinks functions arguments value links)
  | [] => .ok value
  | (operator, operand) :: links => by
      rw [faultsLinks, evalLinks, List.append_assoc]
      refine (reports_eval functions arguments operand).bind fun right _ => ?_
      cases Operator.binary? operator with
      | none => exact rfl
      | some operation =>
          exact reports_evalLinks functions arguments (operation value right) links

end

/-! ## Values of chains -/

section Chains

variable {functions : Function.Table} {arguments : List Float}

theorem evalLinks_cons {operator : String} {operation : Float → Float → Float} {operand : Formula}
    {right : Float} (known : Operator.binary? operator = some operation)
    (evaluated : operand.eval functions arguments = .ok right) (value : Float)
    (links : List (String × Formula)) :
    evalLinks functions arguments value ((operator, operand) :: links) =
      evalLinks functions arguments (operation value right) links := by
  rw [evalLinks, evaluated, known]
  rfl

/-- Chains are evaluated from the left. -/
theorem evalLinks_append (value : Float) (links others : List (String × Formula)) :
    evalLinks functions arguments value (links ++ others) =
      evalLinks functions arguments value links >>= fun value =>
        evalLinks functions arguments value others := by
  induction links generalizing value with
  | nil => rfl
  | cons link links inductionHypothesis =>
      obtain ⟨operator, operand⟩ := link
      rw [List.cons_append, evalLinks, evalLinks, bind_assoc]
      congr 1
      funext right
      cases Operator.binary? operator with
      | none => rfl
      | some operation => exact inductionHypothesis (operation value right)

theorem eval_joined (level : Grammar.Level) (first : Formula) (links : List (String × Formula)) :
    (joined level first links).eval functions arguments =
      first.eval functions arguments >>= fun value =>
        evalLinks functions arguments value links := by
  cases links with
  | nil => exact (bind_pure (first.eval functions arguments)).symm
  | cons link links => rw [joined, eval]

end Chains

/-! ## Failing -/

/-- Two results are the same fault, or neither is a fault. -/
def FailAlike {α : Type} (one other : Except Fault α) : Prop :=
  ∀ fault, one = .error fault ↔ other = .error fault

theorem Reports.eq_error_iff {α : Type} {faults : List Fault} {result : Except Fault α}
    (reports : Reports faults result) (fault : Fault) :
    result = .error fault ↔ faults.head? = some fault := by
  cases faults with
  | nil =>
      obtain ⟨value, rfl⟩ := reports
      simp
  | cons first others =>
      obtain rfl : result = .error first := reports
      simp

theorem Reports.eq_ok_iff {α : Type} {faults : List Fault} {result : Except Fault α}
    (reports : Reports faults result) : (∃ value, result = .ok value) ↔ faults = [] := by
  cases faults with
  | nil => exact iff_of_true reports rfl
  | cons first others =>
      obtain rfl : result = .error first := reports
      simp

/-- Results that report the same faults fail alike. -/
theorem Reports.failAlike {α : Type} {faults : List Fault} {one other : Except Fault α}
    (reports : Reports faults one) (reports' : Reports faults other) : FailAlike one other := by
  intro fault
  rw [reports.eq_error_iff, reports'.eq_error_iff]

/-- Evaluating any tree fails exactly if the tree has a fault, and with the first one in the
order of evaluation.  Hence it fails alike for any arguments of the same number, and whatever
value stands in front of the links of a chain. -/
theorem eval_fails_first (functions : Function.Table) (formula : Formula)
    (arguments : List Float) :
    (∀ fault, formula.eval functions arguments = .error fault ↔
      (formula.faults functions arguments.length).head? = some fault) ∧
    ((∃ value, formula.eval functions arguments = .ok value) ↔
      formula.faults functions arguments.length = []) ∧
    (∀ others : List Float, others.length = arguments.length →
      FailAlike (formula.eval functions arguments) (formula.eval functions others)) ∧
    ∀ (level : String) (first : Formula) (links : List (String × Formula)) (value value' : Float),
      formula.eval functions arguments = .ok value →
      first.eval functions arguments = .ok value' →
      FailAlike ((chain level formula links).eval functions arguments)
        ((chain level first links).eval functions arguments) := by
  have reports := reports_eval functions arguments formula
  refine ⟨reports.eq_error_iff, reports.eq_ok_iff, fun others same => ?_, ?_⟩
  · have reports' := reports_eval functions others formula
    rw [same] at reports'
    exact reports.failAlike reports'
  · intro level first links value value' evaluated evaluated'
    have one := reports_evalLinks functions arguments value links
    have other := reports_evalLinks functions arguments value' links
    rw [eval, eval, evaluated, evaluated']
    exact one.failAlike other

/-- Links with four faults.  An input without a value comes before the look-up of its function,
this before the unknown operator in front of the call, and all of them before the next link. -/
def faultyLinks : List (String × Formula) :=
  [("**", .call "max" [.plain .null]), ("||", .argument "")]

/-- Neither the argument nor the operand in front of the links changes the fault. -/
theorem eval_faultyLinks :
    (chain "logical_or" (.argument "A") faultyLinks).faults Function.builtin 1 =
        [.unknownNode "NoneType", .unknownFunction "max" 1, .unknownOperator "**", .noLetters] ∧
      [Double.zero].length = [Double.one].length ∧
      (chain "logical_or" (.argument "A") faultyLinks).eval Function.builtin [Double.one] =
        .error (.unknownNode "NoneType") ∧
      (chain "logical_or" (.argument "A") faultyLinks).eval Function.builtin [Double.zero] =
        .error (.unknownNode "NoneType") ∧
      Formula.eval Function.builtin [Double.one] (.argument "A") = .ok Double.one ∧
      Formula.eval Function.builtin [Double.one] (.number Double.zero) = .ok Double.zero ∧
      (chain "logical_or" (.number Double.zero) faultyLinks).eval Function.builtin [Double.one] =
        .error (.unknownNode "NoneType") := by
  have faults : (chain "logical_or" (.argument "A") faultyLinks).faults Function.builtin
      [Double.one].length =
        [.unknownNode "NoneType", .unknownFunction "max" 1, .unknownOperator "**", .noLetters] :=
    rfl
  obtain ⟨fails, -, alike, -⟩ := eval_fails_first Function.builtin
    (chain "logical_or" (.argument "A") faultyLinks) [Double.one]
  obtain ⟨-, -, -, behind⟩ := eval_fails_first Function.builtin (.argument "A") [Double.one]
  have failed := (fails (.unknownNode "NoneType")).mpr (by rw [faults]; rfl)
  have replaced := behind "logical_or" (.number Double.zero) faultyLinks _ _ rfl rfl
  exact ⟨faults, rfl, failed, (alike [Double.zero] rfl _).mp failed, rfl, rfl,
    (replaced _).mp failed⟩

end Reckon.Formula
