import Reckon.Json.Reader
import Reckon.Judge
import Reckon.Target
import Reckon.Text.Uppercase

/-!
# The service

The service answers requests with records.  It tells that it is well, lists the functions,
and judges formulas; a formula that is refused is an answer like any other.  A request that
asks for nothing the service knows, or whose body is not what it must be, is answered with
the reason.  The reason quotes what is wrong, so there is no answer if JSON has no way to
write that.  A request for the head of an answer gets no record.
-/

namespace Reckon

open Validation (Checked Problem)

namespace Service

/-- A request: a method, a target, and a body if there is one. -/
structure Request where
  method : String
  target : String
  body : ByteArray := .empty

/-- An answer to a request. -/
inductive Response where
  | health (version : String)
  | functions (single double : List String)
  | judged (formula : String) (verdict : Verdict)
  | invalid (problems : List Problem)
  | unreadable
  | notFound
  | methodNotAllowed

/-- Why a request has no answer. -/
inductive Failure where
  /-- The target is no reference that can be followed. -/
  | target (defect : Target.Defect)
  /-- The answer would quote a number that JSON cannot write. -/
  | unwritable
  /-- Only the head of the answer was asked for, so there is no record to read. -/
  | headOnly
  /-- A fault that is not reported. -/
  | fault (fault : Fault)

def Failure.message : Failure → String
  | target defect => defect.message
  | unwritable => "Out of range float values are not JSON compliant"
  | headOnly => "Expecting value: line 1 column 1 (char 0)"
  | fault reason => reason.message

def Response.status : Response → Nat
  | health _ | functions .. | judged .. => 200
  | unreadable => 400
  | notFound => 404
  | methodNotAllowed => 405
  | invalid _ => 422

/-- The word for a double that JSON has no numeral for. -/
def specialWord? (value : Float) : Option String :=
  match Double.read value with
  | .nan => some "nan"
  | .infinite negative => some (if negative then "-inf" else "inf")
  | .finite .. => none

/-- The record of a verdict on a formula. -/
def verdictRecord (formula : String) (verdict : Verdict) : Json :=
  let fields : List (String × Json) :=
    match verdict with
    | .decided value truth =>
        let special := specialWord? value
        [("result", .truth truth),
          ("value", if special.isNone then .double value else .null),
          ("special", (special.map .text).getD .null),
          ("code", .integer verdict.code),
          ("error", .null)]
    | .refused _ notice =>
        [("result", .null), ("value", .null), ("special", .null),
          ("code", .integer verdict.code),
          ("error", .object
            [("kind", .text notice.kind), ("code", .integer notice.code),
              ("message", .text notice.message)])]
  .object (("expression", .text formula) :: fields)

def problemRecord (problem : Problem) : Json :=
  let step : Validation.Step → Json
    | .name name => .text name
    | .index index => .integer index
  .object
    [("type", .text problem.complaint.label), ("loc", .array (problem.place.map step))]

/-- The record that tells the reason of a refusal. -/
def detail (reason : Json) : Json :=
  .object [("detail", reason)]

def Response.record : Response → Json
  | health version => .object [("status", .text "ok"), ("version", .text version)]
  | functions single double =>
      .object [("single", .array (single.map .text)), ("double", .array (double.map .text))]
  | judged formula verdict => verdictRecord formula verdict
  | invalid problems => detail (.array (problems.map problemRecord))
  | unreadable => detail (.text "There was an error parsing the body")
  | notFound => detail (.text "Not Found")
  | methodNotAllowed => detail (.text "Method Not Allowed")

/-- The place of the body of a request. -/
def bodyPlace : Validation.Step :=
  .name "body"

/-- A formula and its arguments. -/
structure Task where
  formula : String
  arguments : List Float

/-- The formula of a task: a text that is not empty. -/
def toFormula : Json → Except Validation.Complaint String
  | .text "" => .error .textTooShort
  | value => Validation.toText value

/-- The arguments of a task: any number of doubles. -/
def toArguments : Json → Checked (List Float)
  | .array elements =>
      Validation.all <| elements.mapIdx fun index element =>
        Validation.place [bodyPlace, .name "arguments", .index index]
          (Validation.toDouble element)
  | _ => Validation.place [bodyPlace, .name "arguments"] (.error .listType)

/-- The task that a value describes; without arguments there are none. -/
def Task.ofJson : Json → Checked Task
  | .object members =>
      let formula :=
        match members.lookup "expression" with
        | some value => toFormula value
        | none => .error .missing
      let formula := Validation.place [bodyPlace, .name "expression"] formula
      let arguments :=
        match members.lookup "arguments" with
        | some value => toArguments value
        | none => .ok []
      (Validation.both formula arguments).map fun (formula, arguments) =>
        { formula, arguments }
  | _ => Validation.place [bodyPlace] (.error .recordType)

/-- How many arrays and objects may stand inside each other in a body. -/
abbrev bodyLevels : Nat := 950

/-- The response to problems of a body, which quotes the parts that have them. -/
def refuse (body : Json) (problems : List Problem) : Except Failure Response :=
  let quoted := problems.map fun problem => Validation.partAt body (problem.place.drop 1)
  if Json.allFinite quoted then .ok (.invalid problems) else .error .unwritable

/-- Judge the formula that a value describes. -/
def judgeValue (judge : Judge) (body : Json) : Except Failure Response :=
  match Task.ofJson body with
  | .error problems => refuse body problems
  | .ok task =>
      match judge.check task.formula task.arguments with
      | .ok verdict => .ok (.judged task.formula verdict)
      | .error fault => .error (.fault fault)

/-- Judge the formula that the body of a request describes. -/
def judgeBody (judge : Judge) (body : ByteArray) : Except Failure Response :=
  if body.isEmpty then
    .ok (.invalid [{ complaint := .missing, place := [bodyPlace] }])
  else
    match Text.decode? body with
    | none => .ok .unreadable
    | some text =>
        match Json.read text bodyLevels with
        | .ok value => judgeValue judge value
        | .error (.unexpected position) =>
            .ok (.invalid
              [{ complaint := .invalidJson, place := [bodyPlace, .index position] }])
        | .error _ => .ok .unreadable

/-- Answer a request. -/
def answer (judge : Judge) (request : Request) : Except Failure Response :=
  let method := Text.uppercase request.method
  let allowing (allowed : String) (response : Except Failure Response) :=
    if method = allowed then response else .ok .methodNotAllowed
  match Target.path request.target with
  | .error defect => .error (.target defect)
  | .ok path =>
      if method = "HEAD" then
        .error .headOnly
      else
        match path with
        | "/health" => allowing "GET" (.ok (.health judge.options.version))
        | "/functions" =>
            allowing "GET"
              (.ok (.functions (judge.functions.names 1) (judge.functions.names 2)))
        | "/evaluate" => allowing "POST" (judgeBody judge request.body)
        | _ => .ok .notFound

end Service

end Reckon
