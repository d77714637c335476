import Reckon.Proofs.Formula.Faults

/-!
# What the value of a formula depends on

More arguments and more functions can only cure faults: an argument name that had no argument
may get one, and a function that was unknown may become known.  All else lasts
(`Formula.lasts_eval`), so values are kept, and so is a fault that the change cannot cure
(`Formula.eval_monotone`).  Arguments and functions that no part of the formula asks for have
no say at all.
-/

namespace Reckon

namespace Fault

/-- An argument name stands for an index behind the last argument. -/
def isBeyond : Fault → Bool
  | outOfRange _ _ _ | unwritableIndex => true
  | _ => false

def isUnknownFunction : Fault → Bool
  | unknownFunction _ _ => true
  | _ => false

theorem isBeyond_beyondArguments (letters : String) (index : Nat) (count : Int) :
    (beyondArguments letters index count).isBeyond = true := by
  rw [beyondArguments]
  cases Nat.lt_or_ge index unwritable with
  | inl below =>
      rw [if_neg (Nat.not_le_of_lt below)]
      rfl
  | inr above =>
      rw [if_pos above]
      rfl

end Fault

/-- A table holds every function of another one under the same name, for as many inputs. -/
structure Function.Table.Extends (table other : Function.Table) : Prop where
  unary : ∀ name function,
    table.unary.lookup name = some function → other.unary.lookup name = some function
  binary : ∀ name function,
    table.binary.lookup name = some function → other.binary.lookup name = some function
  others : ∀ name arity function, arity ≠ 1 → arity ≠ 2 →
    table.others.lookup (name, arity) = some function →
      other.others.lookup (name, arity) = some function

namespace Formula

/-! ## The parts of a formula -/

mutual

/-- A formula and all that stands in it. -/
def parts : Formula → List Formula
  | number value => [number value]
  | argument letters => [argument letters]
  | call name inputs => call name inputs :: partsAll inputs
  | prefixed operator operand => prefixed operator operand :: operand.parts
  | chain level first links => chain level first links :: (first.parts ++ partsLinks links)
  | group inside => group inside :: inside.parts
  | link operator operand => link operator operand :: operand.parts
  | noOperand owner => [noOperand owner]
  | plain kind => [plain kind]

def partsAll : List Formula → List Formula
  | [] => []
  | formula :: formulas => formula.parts ++ partsAll formulas

def partsLinks : List (String × Formula) → List Formula
  | [] => []
  | (_, operand) :: links => operand.parts ++ partsLinks links

end

/-! ## Results that last -/

/-- A later result is the earlier one, unless that is a fault which may have been cured. -/
def Lasts {α : Type} (curable : Fault → Bool) (earlier later : Except Fault α) : Prop :=
  later = earlier ∨ ∃ fault, earlier = .error fault ∧ curable fault = true

section Lasts

variable {α β : Type} {curable : Fault → Bool} {earlier later : Except Fault α}

theorem Lasts.refl (result : Except Fault α) : Lasts curable result result :=
  Or.inl rfl

theorem Lasts.cured {fault : Fault} (cured : curable fault = true) :
    Lasts curable (.error fault) later :=
  Or.inr ⟨fault, rfl, cured⟩

/-- What lasts if few faults may be cured lasts if more may be. -/
theorem Lasts.mono {other : Fault → Bool}
    (weaker : ∀ fault, curable fault = true → other fault = true)
    (lasts : Lasts curable earlier later) : Lasts other earlier later := by
  rcases lasts with same | ⟨fault, failed, cured⟩
  · exact Or.inl same
  · exact Or.inr ⟨fault, failed, weaker fault cured⟩

/-- What lasts in two steps lasts in both together. -/
theorem Lasts.bind {next next' : α → Except Fault β} (first : Lasts curable earlier later)
    (second : ∀ value, earlier = .ok value → Lasts curable (next value) (next' value)) :
    Lasts curable (earlier >>= next) (later >>= next') := by
  rcases first with rfl | ⟨fault, rfl, cured⟩
  · cases later with
    | error fault => exact .refl _
    | ok value => exact second value rfl
  · exact Or.inr ⟨fault, rfl, cured⟩

theorem Lasts.map (lasts : Lasts curable earlier later) (f : α → β) :
    Lasts curable (earlier >>= fun value => pure (f value))
      (later >>= fun value => pure (f value)) :=
  lasts.bind fun _ _ => .refl _

theorem Lasts.ok {value : α} (lasts : Lasts curable earlier later)
    (evaluated : earlier = .ok value) : later = .ok value := by
  rcases lasts with same | ⟨fault, failed, -⟩
  · exact same.trans evaluated
  · rw [evaluated] at failed
    cases failed

theorem Lasts.error {fault : Fault} (lasts : Lasts curable earlier later)
    (failed : earlier = .error fault) (stays : curable fault = false) : later = .error fault := by
  rcases lasts with same | ⟨other, failed', cured⟩
  · exact same.trans failed
  · rw [failed] at failed'
    cases failed'
    rw [stays] at cured
    cases cured

end Lasts

/-! ## The induction over formulas -/

section Evaluation

variable {curable : Fault → Bool} {functions functions' : Function.Table}
  {arguments arguments' : List Float}

/-- What a formula itself asks for lasts, apart from what stands in it. -/
def Asked (curable : Fault → Bool) (functions functions' : Function.Table)
    (arguments arguments' : List Float) : Formula → Prop
  | argument letters =>
      Lasts curable (Argument.lookup arguments letters) (Argument.lookup arguments' letters)
  | call name inputs => ∀ values : List Float, values.length = inputs.length →
      Lasts curable (functions.apply name values) (functions'.apply name values)
  | _ => True

mutual

/-- A result lasts if all that the parts of the formula ask for does. -/
theorem lasts_eval : (formula : Formula) →
    (∀ part ∈ formula.parts, Asked curable functions functions' arguments arguments' part) →
      Lasts curable (formula.eval functions arguments) (formula.eval functions' arguments')
  | .number value, _ => .refl _
  | .argument letters, asked => by
      rw [eval, eval]
      exact asked (argument letters) (by simp [parts])
  | .call name inputs, asked => by
      rw [parts, List.forall_mem_cons] at asked
      rw [eval, eval]
      refine (lasts_evalAll inputs asked.2).bind fun values evaluated => ?_
      exact asked.1 values (length_of_evalAll evaluated)
  | .prefixed operator operand, asked => by
      rw [parts, List.forall_mem_cons] at asked
      rw [eval, eval]
      cases Operator.unary? operator with
      | none => exact .refl _
      | some operation => exact (lasts_eval operand asked.2).map operation
  | .chain level first links, asked => by
      rw [parts, List.forall_mem_cons, List.forall_mem_append] at asked
      rw [eval, eval]
      exact (lasts_eval first asked.2.1).bind fun value _ => lasts_evalLinks value links asked.2.2
  | .group inside, asked => by
      rw [parts, List.forall_mem_cons] at asked
      rw [eval, eval]
      exact lasts_eval inside asked.2
  | .link _ _, _ => .refl _
  | .noOperand _, _ => .refl _
  | .plain _, _ => .refl _

theorem lasts_evalAll : (inputs : List Formula) →
    (∀ part ∈ partsAll inputs, Asked curable functions functions' arguments arguments' part) →
      Lasts curable (evalAll functions arguments inputs) (evalAll functions' arguments' inputs)
  | [], _ => .refl _
  | input :: inputs, asked => by
      rw [partsAll, List.forall_mem_append] at asked
      rw [evalAll, evalAll]
      exact (lasts_eval input asked.1).bind fun value _ =>
        (lasts_evalAll inputs asked.2).map (value :: ·)

theorem lasts_evalLinks (value : Float) : (links : List (String × Formula)) →
    (∀ part ∈ partsLinks links, Asked curable functions functions' arguments arguments' part) →
      Lasts curable (evalLinks functions arguments value links)
        (evalLinks functions' arguments' value links)
  | [], _ => .refl _
  | (operator, operand) :: links, asked => by
      rw [partsLinks, List.forall_mem_append] at asked
      rw [evalLinks, evalLinks]
      refine (lasts_eval operand asked.1).bind fun right _ => ?_
      cases Operator.binary? operator with
      | none => exact .refl _
      | some operation => exact lasts_evalLinks (operation value right) links asked.2

end

/-! ## More arguments, more functions -/

/-- Behind the last argument more of them may follow; the earlier ones stay. -/
theorem lasts_lookup_of_prefix (longer : arguments <+: arguments') (letters : String) :
    Lasts Fault.isBeyond (Argument.lookup arguments letters)
      (Argument.lookup arguments' letters) := by
  cases decoded : Argument.decode letters with
  | error fault =>
      rw [lookup_of_error decoded, lookup_of_error decoded]
      exact .refl _
  | ok index =>
      rw [lookup_of_decode decoded, lookup_of_decode decoded]
      cases found : arguments[index]? with
      | none =>
          exact .cured (Fault.isBeyond_beyondArguments letters index arguments.length)
      | some value =>
          obtain ⟨rest, rfl⟩ := longer
          obtain ⟨inside, -⟩ := List.getElem?_eq_some_iff.mp found
          rw [List.getElem?_append_left inside, found]
          exact .refl _

/-- A function that is missing may be added; the others stay what they are. -/
theorem lasts_apply_of_extends (extended : functions.Extends functions') (name : String)
    (values : List Float) :
    Lasts Fault.isUnknownFunction (functions.apply name values)
      (functions'.apply name values) := by
  unfold Function.Table.apply
  match values with
  | [x] =>
      cases found : functions.unary.lookup name with
      | none => exact .cured rfl
      | some function => simp only [extended.unary name function found, Lasts.refl]
  | [x, y] =>
      cases found : functions.binary.lookup name with
      | none => exact .cured rfl
      | some function => simp only [extended.binary name function found, Lasts.refl]
  | [] =>
      cases found : functions.others.lookup (name, 0) with
      | none =>
          simp only [List.length_nil, found]
          exact .cured rfl
      | some function =>
          have kept := extended.others name 0 function (by simp) (by simp) found
          simp only [List.length_nil, found, kept, Lasts.refl]
  | x :: y :: z :: values =>
      cases found : functions.others.lookup (name, (x :: y :: z :: values).length) with
      | none =>
          simp only [found]
          exact .cured rfl
      | some function =>
          have kept := extended.others name _ function (by simp) (by simp) found
          simp only [found, kept, Lasts.refl]

/-- A result lasts if all that may be asked for does. -/
theorem lasts_eval_of_all
    (lookups : ∀ letters,
      Lasts curable (Argument.lookup arguments letters) (Argument.lookup arguments' letters))
    (applications : ∀ name values,
      Lasts curable (functions.apply name values) (functions'.apply name values))
    (formula : Formula) :
    Lasts curable (formula.eval functions arguments) (formula.eval functions' arguments') := by
  refine lasts_eval formula fun part _ => ?_
  cases part with
  | argument letters => exact lookups letters
  | call name inputs => exact fun values _ => applications name values
  | _ => exact trivial

/-! ## What is not asked for -/

theorem lookup_congr (count : arguments'.length = arguments.length) {letters : String}
    (same : ∀ index, Argument.decode letters = .ok index → arguments'[index]? = arguments[index]?) :
    Argument.lookup arguments' letters = Argument.lookup arguments letters := by
  cases decoded : Argument.decode letters with
  | error fault => rw [lookup_of_error decoded, lookup_of_error decoded]
  | ok index => rw [lookup_of_decode decoded, lookup_of_decode decoded, same index decoded, count]

/-- The value depends on nothing but the arguments and functions that are named. -/
theorem eval_congr (formula : Formula) (count : arguments'.length = arguments.length)
    (sameArguments : ∀ letters index, argument letters ∈ formula.parts →
      Argument.decode letters = .ok index → arguments'[index]? = arguments[index]?)
    (sameFunctions : ∀ name inputs, call name inputs ∈ formula.parts →
      ∀ values : List Float, values.length = inputs.length →
        functions'.apply name values = functions.apply name values) :
    formula.eval functions' arguments' = formula.eval functions arguments := by
  have lasts : Lasts (fun _ => false) (formula.eval functions arguments)
      (formula.eval functions' arguments') := by
    refine lasts_eval formula fun part member => ?_
    cases part with
    | argument letters =>
        exact Or.inl (lookup_congr count fun index => sameArguments letters index member)
    | call name inputs =>
        exact fun values length => Or.inl (sameFunctions name inputs member values length)
    | _ => exact trivial
  rcases lasts with same | ⟨fault, -, impossible⟩
  · exact same
  · cases impossible

end Evaluation

/-- A value is kept when arguments are appended and functions are added.  A call of an unknown
function stays the fault when only arguments are appended, and an argument name without an
argument when only functions are added.  Nothing changes with an argument whose index no name
in the formula stands for, or with a function that no call in it asks for. -/
theorem eval_monotone {functions more : Function.Table} {arguments longer : List Float}
    (appended : arguments <+: longer) (extended : functions.Extends more) (formula : Formula) :
    (∀ value, formula.eval functions arguments = .ok value →
      formula.eval more longer = .ok value) ∧
    (∀ name arity, formula.eval functions arguments = .error (.unknownFunction name arity) →
      formula.eval functions longer = .error (.unknownFunction name arity)) ∧
    (∀ letters index count,
      formula.eval functions arguments = .error (.outOfRange letters index count) →
        formula.eval more arguments = .error (.outOfRange letters index count)) ∧
    ∀ (changed : List Float) (exchanged : Function.Table), changed.length = arguments.length →
      (∀ letters index, argument letters ∈ formula.parts →
        Argument.decode letters = .ok index → changed[index]? = arguments[index]?) →
      (∀ name inputs, call name inputs ∈ formula.parts →
        ∀ values : List Float, values.length = inputs.length →
          exchanged.apply name values = functions.apply name values) →
      formula.eval exchanged changed = formula.eval functions arguments := by
  have lookups := lasts_lookup_of_prefix appended
  have applications := lasts_apply_of_extends extended
  refine ⟨?_, ?_, ?_, ?_⟩
  · intro value evaluated
    have lasts : Lasts (fun fault => fault.isBeyond || fault.isUnknownFunction)
        (formula.eval functions arguments) (formula.eval more longer) :=
      lasts_eval_of_all
        (fun letters => (lookups letters).mono fun fault beyond => by simp [beyond])
        (fun name values => (applications name values).mono fun fault unknown => by
          simp [unknown])
        formula
    exact lasts.ok evaluated
  · intro name arity failed
    have lasts := lasts_eval_of_all lookups (fun name values => .refl (functions.apply name values))
      formula
    exact lasts.error failed rfl
  · intro letters index count failed
    have lasts := lasts_eval_of_all
      (fun letters => .refl (Argument.lookup arguments letters)) applications formula
    exact lasts.error failed rfl
  · intro changed exchanged count sameArguments sameFunctions
    exact eval_congr formula count sameArguments sameFunctions

/-- A table with one function only. -/
def maximumOnly : Function.Table :=
  Function.Table.empty.insertBinary "max" Double.greater

theorem maximumOnly_extends : maximumOnly.Extends Function.builtin where
  unary := nofun
  others := nofun
  binary := by
    intro name function found
    by_cases named : name = "max"
    · subst named
      exact found
    · have other : (name == "max") = false := beq_eq_false_iff_ne.mpr named
      simp [maximumOnly, Function.Table.insertBinary, Function.Table.empty, List.lookup_cons,
        other] at found

/-- The greater one of `A` and `AA`, which is one argument under two names. -/
def maximumOfOne : Formula :=
  call "max" [argument "A", argument "AA"]

/-- Both an unknown function and a missing argument; the fault in front decides. -/
def floorPlus (first second : Formula) : Formula :=
  chain "additive" first [("+", second)]

/-- One more argument and the other functions keep the value, and whichever fault comes first
as long as it is not cured; the second argument has no say. -/
theorem eval_maximumOfOne :
    [Double.one] <+: [Double.one, Double.zero] ∧ maximumOnly.Extends Function.builtin ∧
      maximumOfOne.eval maximumOnly [Double.one] = .ok (Double.greater Double.one Double.one) ∧
      maximumOfOne.eval Function.builtin [Double.one, Double.zero] =
        .ok (Double.greater Double.one Double.one) ∧
      (floorPlus (call "floor" [argument "A"]) (argument "B")).eval maximumOnly [Double.one] =
        .error (.unknownFunction "floor" 1) ∧
      (floorPlus (call "floor" [argument "A"]) (argument "B")).eval maximumOnly
        [Double.one, Double.zero] = .error (.unknownFunction "floor" 1) ∧
      (floorPlus (argument "B") (call "floor" [argument "A"])).eval maximumOnly [Double.one] =
        .error (.outOfRange "B" 1 1) ∧
      (floorPlus (argument "B") (call "floor" [argument "A"])).eval Function.builtin
        [Double.one] = .error (.outOfRange "B" 1 1) ∧
      maximumOfOne.eval maximumOnly [Double.one, Double.one] =
        maximumOfOne.eval maximumOnly [Double.one, Double.zero] := by
  have appended : [Double.one] <+: [Double.one, Double.zero] := ⟨[Double.zero], rfl⟩
  have evaluated : maximumOfOne.eval maximumOnly [Double.one] =
      .ok (Double.greater Double.one Double.one) := rfl
  have unknown : (floorPlus (call "floor" [argument "A"]) (argument "B")).eval maximumOnly
      [Double.one] = .error (.unknownFunction "floor" 1) := rfl
  have missing : (floorPlus (argument "B") (call "floor" [argument "A"])).eval maximumOnly
      [Double.one] = .error (.outOfRange "B" 1 1) := by
    have decoded : Argument.decode "B" = .ok 1 := rfl
    have written : ¬Fault.unwritable ≤ 1 := by decide +kernel
    have looked : Argument.lookup [Double.one] "B" = .error (.outOfRange "B" 1 1) := by
      rw [lookup_of_decode decoded]
      exact congrArg Except.error (if_neg written)
    rw [floorPlus, eval, eval, looked]
    rfl
  obtain ⟨kept, -, -, -⟩ := eval_monotone appended maximumOnly_extends maximumOfOne
  obtain ⟨-, stillUnknown, -, -⟩ := eval_monotone appended maximumOnly_extends
    (floorPlus (call "floor" [argument "A"]) (argument "B"))
  obtain ⟨-, -, stillMissing, -⟩ := eval_monotone appended maximumOnly_extends
    (floorPlus (argument "B") (call "floor" [argument "A"]))
  obtain ⟨-, -, -, unread⟩ := eval_monotone (List.prefix_refl [Double.one, Double.zero])
    maximumOnly_extends maximumOfOne
  refine ⟨appended, maximumOnly_extends, evaluated, kept _ evaluated, unknown,
    stillUnknown _ _ unknown, missing, stillMissing _ _ _ missing, ?_⟩
  refine unread [Double.one, Double.one] maximumOnly rfl ?_ fun _ _ _ _ _ => rfl
  intro letters index member decoded
  have named : letters = "A" ∨ letters = "AA" := by
    simpa [maximumOfOne, parts, partsAll] using member
  rcases named with rfl | rfl
  · cases decoded
    rfl
  · cases decoded
    rfl

end Formula

end Reckon
