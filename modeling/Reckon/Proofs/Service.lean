import Reckon.Proofs.Judge
import Reckon.Proofs.Json.Writing
import Reckon.Proofs.Target
import Reckon.Proofs.Text.Encoding
import Reckon.Service

/-!
# What the service answers

A request asks for a task if its body describes one.  The answer is the record of the verdict on
the task (`Service.answer_of_asks`).  The record of a value tells it by a number or by a word, and
the value can be told from the two (`Service.showsValue_verdictRecord`); the record of a fault
holds its notice.
-/

namespace Reckon.Service

variable {judge : Judge} {request : Request} {task : Task} {text : String} {value : Float}
  {truth : Bool}

/-! ## Tasks -/

/-- A request for the verdict on a task. -/
structure Request.Asks (request : Request) (task : Task) : Prop where
  method : Text.uppercase request.method = "POST"
  target : Target.path request.target = .ok "/evaluate"
  body : ∃ text value, request.body.isEmpty = false ∧ Text.decode? request.body = some text ∧
    Json.read text bodyLevels = .ok value ∧ Task.ofJson value = .ok task

/-- A request is answered by the verdict on its task. -/
theorem answer_of_asks {verdict : Verdict} (asks : request.Asks task)
    (checked : judge.check task.formula task.arguments = .ok verdict) :
    answer judge request = .ok (.judged task.formula verdict) := by
  obtain ⟨text, value, filled, decoded, read, described⟩ := asks.body
  have judged : judgeBody judge request.body = .ok (.judged task.formula verdict) := by
    simp only [judgeBody, filled, decoded, read, judgeValue, described, checked]
    rfl
  simp only [answer, asks.method, asks.target, judged]
  rfl

/-- The value that describes a task. -/
def Task.toJson (task : Task) : Json :=
  .object [("expression", .text task.formula), ("arguments", .array (task.arguments.map .double))]

/-- A list is checked element by element. -/
theorem all_mapIdx_ok {α β : Type} {check : Nat → α → Validation.Checked β} {written : β → α}
    (values : List β) (valid : ∀ index value, check index (written value) = .ok value) :
    Validation.all ((values.map written).mapIdx check) = .ok values := by
  induction values generalizing check with
  | nil => rfl
  | cons value values inductionHypothesis =>
      have others := inductionHypothesis fun index value => valid (index + 1) value
      rw [List.map_cons, List.mapIdx_cons, Validation.all, valid, others]
      rfl

/-- A task is read back from its record, unless its formula is empty. -/
theorem ofJson_toJson (filled : task.formula ≠ "") : Task.ofJson task.toJson = .ok task := by
  have formula : toFormula (.text task.formula) = .ok task.formula := by
    rw [toFormula]
    · rfl
    · exact fun empty => filled (Json.text.inj empty)
  have arguments : toArguments (.array (task.arguments.map .double)) = .ok task.arguments :=
    all_mapIdx_ok task.arguments fun _ _ => rfl
  have second : ("arguments" == "expression") = false := rfl
  simp only [Task.toJson, Task.ofJson, List.lookup, beq_self_eq_true, second, formula, arguments]
  rfl

/-! ## Requests -/

/-- How a task is written. -/
def Task.written (task : Task) : List Char :=
  '{' :: (Json.quoted "expression".toList ++ (':' :: (Json.quoted task.formula.toList ++
    (',' :: (Json.quoted "arguments".toList ++ (':' :: (Json.written task.arguments ++
      ['}'])))))))

theorem read_written (task : Task) :
    Json.read (String.ofList task.written) bodyLevels = .ok task.toJson := by
  -- the object, the members and a value in them take four steps
  obtain ⟨steps, enough, room⟩ : ∃ steps, 2 * task.written.length + 2 = steps + 4 ∧
      task.arguments.length < steps := by
    have arguments := Json.length_written task.arguments
    have longer : (Json.written task.arguments).length < task.written.length := by
      simp only [Task.written, List.length_cons, List.length_append]
      omega
    exact ⟨2 * task.written.length - 2, by omega, by omega⟩
  have start : Json.skipBlanks (.start task.written) = .start task.written :=
    Json.skipBlanks_eq rfl rfl
  have inside : Json.skipBlanks ((Cursor.start task.written).advance 1) =
      (Cursor.start task.written).advance 1 :=
    Json.skipBlanks_eq rfl rfl
  obtain ⟨second, more, ahead⟩ := Json.readMembers_more
    (Json.reads_text (steps + 1) 949 task.formula.toList) []
    (rfl : ((Cursor.start task.written).advance 1).ahead = Json.quoted "expression".toList ++ _)
  obtain ⟨behind, last, ended⟩ := Json.readMembers_last (Json.reads_written 948 _ room)
    (Json.putMember "expression" (.text task.formula) [])
    (ahead : second.ahead = Json.quoted "arguments".toList ++
      (':' :: (Json.written task.arguments ++ ['}'])))
  have opened : (Cursor.start task.written).ahead = '{' :: task.written.tail := rfl
  have filled : ((Cursor.start task.written).advance 1).ahead.head? ≠ some '}' := by
    intro same
    cases same
  simp only [String.ofList_toList] at more last
  simp only [Json.read, String.toList_ofList, start, enough,
    Json.readValue_brace (steps + 3) 949 opened, inside, if_neg filled, more, last, bind,
    Except.bind, pure, Except.pure, Json.skipBlanks_end ended, ended]
  rfl

/-- Every task with a formula can be asked for. -/
theorem exists_asks (filled : task.formula ≠ "") : ∃ request : Request, request.Asks task := by
  refine ⟨{ method := "POST", target := "/evaluate",
            body := (String.ofList task.written).toUTF8 }, ?_⟩
  constructor
  case method =>
    have uppercase : Text.uppercase "POST" = "POST" := by decide
    exact uppercase
  case target => exact Target.path_evaluate
  case body =>
    obtain ⟨text, begins⟩ : ∃ text, task.written = '{' :: '"' :: text := ⟨_, rfl⟩
    have read := read_written task
    rw [begins] at read ⊢
    have written : String.ofList ('{' :: '"' :: text) ≠ "" := by simp
    have decoded := Text.decode?_toUTF8 text (by decide : '{'.utf8Size = 1 ∧ '"'.utf8Size = 1)
      (by decide)
    exact ⟨_, _, Text.isEmpty_toUTF8 written, decoded, read, ofJson_toJson filled⟩

/-! ## Records -/

/-- The doubles that the words stand for. -/
def specialValues : List (String × Float) :=
  [("nan", Double.nan), ("inf", Double.infinity), ("-inf", -Double.infinity)]

/-- The value that a record tells by a number or by a word. -/
def recover? (record : Json) : Option Float :=
  match record.member? "value", record.member? "special" with
  | some (.double value), some .null => some value
  | some .null, some (.text word) => specialValues.lookup word
  | _, _ => none

/-- The record of a value: finite values are numbers, all others are words. -/
structure ShowsValue (record : Json) (text : String) (value : Float) (truth : Bool) : Prop where
  expression : record.member? "expression" = some (.text text)
  result : record.member? "result" = some (.truth truth)
  code : record.member? "code" = some (.integer (if truth then 1 else 0))
  error : record.member? "error" = some .null
  finite : value.isFinite →
    record.member? "value" = some (.double value) ∧ record.member? "special" = some .null
  special : ¬value.isFinite → record.member? "value" = some .null ∧
    ∃ word ∈ ["nan", "inf", "-inf"], record.member? "special" = some (.text word)
  recovered : recover? record = some value

structure ShowsFault (record : Json) (text : String) (notice : Fault.Notice) : Prop where
  expression : record.member? "expression" = some (.text text)
  result : record.member? "result" = some .null
  value : record.member? "value" = some .null
  special : record.member? "special" = some .null
  code : record.member? "code" = some (.integer notice.code)
  error : record.member? "error" = some (.object
    [("kind", .text notice.kind), ("code", .integer notice.code),
      ("message", .text notice.message)])

/-- A word tells which of the doubles that are not finite a value is. -/
theorem specialWord?_cases (value : Float) :
    (value.isFinite ∧ specialWord? value = none) ∨
      ¬value.isFinite ∧ ∃ word ∈ ["nan", "inf", "-inf"],
        specialWord? value = some word ∧ specialValues.lookup word = some value := by
  rcases Double.kinds value with rfl | rfl | rfl | finite
  · exact Or.inr ⟨Bool.false_ne_true, "nan", by simp, rfl, rfl⟩
  · exact Or.inr ⟨Bool.false_ne_true, "inf", by simp, rfl, rfl⟩
  · exact Or.inr ⟨Bool.false_ne_true, "-inf", by simp, rfl, rfl⟩
  · obtain ⟨negative, units, reading⟩ := Double.read_of_isFinite finite
    exact Or.inl ⟨finite, by rw [specialWord?, reading]⟩

/-- A value that is not finite is told by a word instead, so that it can be recovered. -/
theorem showsValue_verdictRecord (text : String) (value : Float) (truth : Bool) :
    ShowsValue (verdictRecord text (.decided value truth)) text value truth := by
  rcases specialWord?_cases value with ⟨finite, plain⟩ | ⟨infinite, word, listed, told, stands⟩
  · simp only [verdictRecord, plain]
    exact
      { expression := rfl
        result := rfl
        code := rfl
        error := rfl
        finite := fun _ => ⟨rfl, rfl⟩
        special := fun infinite => absurd finite infinite
        recovered := rfl }
  · simp only [verdictRecord, told]
    exact
      { expression := rfl
        result := rfl
        code := rfl
        error := rfl
        finite := fun finite => absurd finite infinite
        special := fun _ => ⟨rfl, word, listed, rfl⟩
        recovered := stands }

/-- Neither value nor truth stands beside a fault. -/
theorem showsFault_verdictRecord (text : String) (fault : Fault) (notice : Fault.Notice) :
    ShowsFault (verdictRecord text (.refused fault notice)) text notice := by
  constructor <;> rfl

end Reckon.Service
