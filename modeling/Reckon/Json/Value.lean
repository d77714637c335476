import Reckon.Double.Reading

/-!
# JSON values

Numbers without point and exponent are integers of any size, all others are doubles.  The
members of an object stand in their order, and every name stands once.
-/

namespace Reckon

inductive Json where
  | null
  | truth (value : Bool)
  | integer (value : Int)
  | double (value : Float)
  | text (value : String)
  | array (elements : List Json)
  | object (members : List (String × Json))

namespace Json

def member? (value : Json) (name : String) : Option Json :=
  match value with
  | object members => members.lookup name
  | _ => none

def element? (value : Json) (index : Nat) : Option Json :=
  match value with
  | array elements => elements[index]?
  | _ => none

mutual

/-- Whether all doubles in a value are finite. -/
def isFinite : Json → Bool
  | double value => Double.isFinite value
  | array elements => allFinite elements
  | object members => membersFinite members
  | _ => true

/-- Whether all doubles in some values are finite. -/
def allFinite : List Json → Bool
  | [] => true
  | value :: values => isFinite value && allFinite values

/-- Whether all doubles in the values of some members are finite. -/
def membersFinite : List (String × Json) → Bool
  | [] => true
  | (_, value) :: members => isFinite value && membersFinite members

end

end Json

end Reckon
