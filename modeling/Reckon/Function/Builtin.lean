import Reckon.Double.Arithmetic
import Reckon.Double.Integer
import Reckon.Function.Table

/-!
# The functions of formulas

Every function is total on doubles: outside its domain it gives NaN, at a pole and upon
overflow an infinity.  The transcendental ones are those of the machine.
-/

namespace Reckon.Function

/-- The functions that formulas may call. -/
def builtin : Table where
  unary :=
    [("abs", Float.abs), ("log", Float.log), ("exp", Float.exp),
     ("sin", Float.sin), ("cos", Float.cos), ("tan", Float.tan),
     ("asin", Float.asin), ("acos", Float.acos),
     ("sinh", Float.sinh), ("cosh", Float.cosh), ("tanh", Float.tanh),
     ("asinh", Float.asinh), ("acosh", Float.acosh), ("atanh", Float.atanh),
     ("ceil", Double.ceil), ("floor", Double.floor),
     ("deg", fun x => x * Double.degreesPerRadian),
     ("rad", fun x => x * Double.radiansPerDegree)]
  binary :=
    [("max", Double.greater), ("min", Double.lesser),
     ("pow", Float.pow), ("atan2", Float.atan2)]

end Reckon.Function
