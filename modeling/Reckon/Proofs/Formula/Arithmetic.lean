import Reckon.Function.Builtin
import Reckon.Proofs.Double.Floor
import Reckon.Proofs.Double.Remainder
import Reckon.Proofs.Formula.Faults

/-!
# Exact operations in formulas

The remainder of two operands and the integers around an input are not rounded: an operator `%` has
the exact remainder as its value (`Formula.eval_remainder`), and the functions `floor` and `ceil`
have the integers next to their input (`Formula.eval_floor_ceil`).
-/

namespace Reckon.Formula

open Double

variable {functions : Function.Table} {arguments : List Float}

/-! ## Remainders -/

/-- The operator `%` never fails, and its value is the only remainder of its operands, whatever
they are; a chain goes on with it. -/
theorem eval_remainder (functions : Function.Table) (arguments : List Float) :
    (∃ operation, Operator.binary? "%" = some operation ∧
      ∀ x y z : Float, operation x y = z ↔ IsRemainder x y z) ∧
    (∀ (operand : Formula) (links : List (String × Formula)) (x y z : Float),
      operand.eval functions arguments = .ok y → IsRemainder x y z →
        evalLinks functions arguments x (("%", operand) :: links) =
          evalLinks functions arguments z links) ∧
    ∀ (level : String) (first second : Formula) (x y : Float),
      first.eval functions arguments = .ok x → second.eval functions arguments = .ok y →
        ∃ z, (chain level first [("%", second)]).eval functions arguments = .ok z ∧
          IsRemainder x y z := by
  have known : Operator.binary? "%" = some remainder := rfl
  refine ⟨⟨remainder, known, fun x y z => isRemainder_iff.symm⟩, ?_, ?_⟩
  · intro operand links x y z evaluated isRemainder
    rw [evalLinks_cons known evaluated, isRemainder_iff.mp isRemainder]
  · intro level first second x y left right
    refine ⟨remainder x y, ?_, isRemainder_remainder x y⟩
    rw [eval, left]
    exact (evalLinks_cons known right x []).trans rfl

/-- The least finite double. -/
def leastFinite : Float := .ofBits 0xFFEFFFFFFFFFFFFF

/-- Three times the least positive double. -/
def threeUnits : Float := .ofBits 0x0000000000000003

def minusTwoUnits : Float := .ofBits 0x8000000000000002

/-- The whole quotient has more than 600 decimal digits. -/
theorem eval_remainder_threeUnits :
    let arguments := [leastFinite, threeUnits]
    IsRemainder leastFinite threeUnits minusTwoUnits ∧
      (chain "multiplicative" (argument "A") [("%", argument "B")]).eval .empty arguments =
        .ok minusTwoUnits ∧
      evalLinks .empty arguments leastFinite [("%", argument "B"), ("%", argument "B")] =
        evalLinks .empty arguments minusTwoUnits [("%", argument "B")] := by
  intro arguments
  have first : (argument "A").eval .empty arguments = .ok leastFinite := rfl
  have second : (argument "B").eval .empty arguments = .ok threeUnits := rfl
  obtain ⟨⟨operation, known, exactly⟩, continued, evaluated⟩ := eval_remainder .empty arguments
  have isRemainder : IsRemainder leastFinite threeUnits minusTwoUnits := by
    rw [← exactly]
    obtain rfl : remainder = operation := Option.some.inj known
    decide +kernel
  refine ⟨isRemainder, ?_, continued _ _ _ _ _ second isRemainder⟩
  obtain ⟨z, value, isRemainder'⟩ := evaluated "multiplicative" _ _ _ _ first second
  rw [value, isRemainder'.unique isRemainder]

/-! ## Floors and ceilings -/

theorem eval_call_unary {name : String} {function : Float → Float} {input : Formula} {x : Float}
    (known : functions.unary.lookup name = some function)
    (evaluated : input.eval functions arguments = .ok x) :
    (call name [input]).eval functions arguments = .ok (function x) := by
  rw [eval, evalAll, evaluated, evalAll]
  change functions.apply name [x] = _
  rw [Function.Table.apply, known]

/-- The functions `floor` and `ceil` give the doubles of the integers next to their input, and the
input itself where it is not finite. -/
theorem eval_floor_ceil (arguments : List Float) :
    (∀ (input : Formula) (x : Float), input.eval Function.builtin arguments = .ok x →
      (call "floor" [input]).eval Function.builtin arguments = .ok (floor x) ∧
        (call "ceil" [input]).eval Function.builtin arguments = .ok (ceil x)) ∧
    (∀ x : Float, x.isFinite → IsEnclosed x (floor x) (ceil x)) ∧
    (∀ x : Float, ¬x.isFinite → floor x = x ∧ ceil x = x) ∧
    (∀ x : Float, x ≠ nan → (ceil (-x) == -floor x) = true) ∧
    (∀ x y : Float, x ≤ y → floor x ≤ floor y ∧ ceil x ≤ ceil y) ∧
    ∀ x : Float, floor (floor x) = floor x ∧ ceil (ceil x) = ceil x := by
  refine ⟨?_, ?_, ?_, ?_, ?_, ?_⟩
  · intro input x evaluated
    exact ⟨eval_call_unary rfl evaluated, eval_call_unary rfl evaluated⟩
  · intro x finite
    exact isEnclosed finite
  · intro x special
    exact ⟨floor_of_not_isFinite special, ceil_of_not_isFinite special⟩
  · intro x number
    exact ceil_neg_beq number
  · intro x y order
    exact ⟨floor_mono order, ceil_mono order⟩
  · intro x
    exact ⟨floor_floor x, ceil_ceil x⟩

def minusHalf : Float := .ofBits 0xBFE0000000000000

def minusOne : Float := .ofBits 0xBFF0000000000000

/-- The greatest double that is not an integer. -/
def greatestFractional : Float := .ofBits 0x432FFFFFFFFFFFFF

/-- The ceiling loses the sign of a negative fraction, and the floor does not. -/
theorem eval_floor_ceil_minusHalf :
    let arguments := [minusHalf]
    (argument "A").eval Function.builtin arguments = .ok minusHalf ∧ minusHalf.isFinite ∧
      ¬(-infinity).isFinite ∧ minusHalf ≠ nan ∧ minusHalf ≤ greatestFractional ∧
      (call "floor" [argument "A"]).eval Function.builtin arguments = .ok minusOne ∧
      (call "ceil" [argument "A"]).eval Function.builtin arguments = .ok zero ∧
      IsEnclosed minusHalf minusOne zero ∧ floor (-infinity) = -infinity ∧
      (ceil (-minusHalf) == -minusOne) = true ∧ ceil minusHalf ≤ ceil greatestFractional := by
  intro arguments
  have evaluated : (argument "A").eval Function.builtin arguments = .ok minusHalf := rfl
  have below : floor minusHalf = minusOne := by decide +kernel
  have above : ceil minusHalf = zero := by decide +kernel
  have order : minusHalf ≤ greatestFractional := by decide +kernel
  obtain ⟨called, enclosed, unchanged, turned, mono, -⟩ := eval_floor_ceil arguments
  refine ⟨evaluated, by decide, by decide, by decide, order, ?_, ?_, ?_, ?_, ?_, ?_⟩
  · rw [(called _ _ evaluated).1, below]
  · rw [(called _ _ evaluated).2, above]
  · rw [← below, ← above]
    exact enclosed minusHalf (by decide)
  · exact (unchanged (-infinity) (by decide)).1
  · rw [← below]
    exact turned minusHalf (by decide)
  · exact (mono minusHalf greatestFractional order).2

end Reckon.Formula
