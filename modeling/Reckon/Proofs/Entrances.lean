import Reckon.Proofs.CommandLine
import Reckon.Proofs.Options
import Reckon.Proofs.Service

/-!
# All entrances tell the same

A formula can be judged by its value, by whether that counts as true, by its verdict, by its code,
by a request to the service and by a command.  All of them tell one outcome: either a value and
whether it counts as true, or a fault that is reported (`Judge.entrances_agree`).  Every formula
that is not empty can be sent in a request, and in a command if the judge is the one of the place.
-/

namespace Reckon.Judge

variable {judge : Judge} {text : String} {arguments : List Float} {value : Float} {truth : Bool}
  {fault : Fault} {notice : Fault.Notice}

/-- A request and commands ask for the verdict on a formula. -/
structure Asked (judge : Judge) (text : String) (arguments : List Float) : Prop where
  request : ∃ request : Service.Request, request.Asks ⟨text, arguments⟩
  command : ∀ place : CommandLine.Place, place.judge [] = .ok judge → ∀ showValue, ∃ words,
    CommandLine.Asks place words judge text arguments showValue

/-- All entrances tell a value and whether it counts as true. -/
structure Decided (judge : Judge) (text : String) (arguments : List Float) (value : Float)
    (truth : Bool) : Prop where
  value_eq : judge.value text arguments = .ok value
  truth_eq : truth = decide (judge.options.epsilon < value.abs)
  evaluate_eq : judge.evaluate text arguments = .ok truth
  check_eq : judge.check text arguments = .ok (.decided value truth)
  code_eq : judge.code text arguments = .ok (if truth then 1 else 0)
  answer_eq : ∀ request : Service.Request, request.Asks ⟨text, arguments⟩ →
    Service.answer judge request = .ok (.judged text (.decided value truth))
  record : Service.ShowsValue (Service.Response.judged text (.decided value truth)).record
    text value truth
  command : ∀ place words, CommandLine.Asks place words judge text arguments false →
    ∃ answer, CommandLine.run place words = .ok answer ∧ answer.status = 0 ∧
      answer.output = text ++ " : " ++ (if truth then "TRUE" else "FALSE") ++ "\n"
  table : ∀ place words, CommandLine.Asks place words judge text arguments true →
    ∃ answer, CommandLine.run place words = .ok answer ∧ answer.status = 0 ∧
      answer = .success ((CommandLine.valueTable text arguments value judge.options.epsilon
        truth).draw place.screen) ∧
      (20 ≤ place.screen → CommandLine.ShowsResult answer.output truth)

/-- All entrances tell a fault that is reported. -/
structure Refused (judge : Judge) (text : String) (arguments : List Float) (fault : Fault)
    (notice : Fault.Notice) : Prop where
  value_eq : judge.value text arguments = .error fault
  evaluate_eq : judge.evaluate text arguments = .error fault
  check_eq : judge.check text arguments = .ok (.refused fault notice)
  classified : fault.classification? = some (notice.kind, notice.code)
  message_eq : notice.message = fault.message
  negative : notice.code < 0
  code_eq : judge.code text arguments = .ok notice.code
  answer_eq : ∀ request : Service.Request, request.Asks ⟨text, arguments⟩ →
    Service.answer judge request = .ok (.judged text (.refused fault notice))
  record : Service.ShowsFault (Service.Response.judged text (.refused fault notice)).record
    text notice
  command : ∀ place words showValue, CommandLine.Asks place words judge text arguments showValue →
    ∃ answer, CommandLine.run place words = .ok answer ∧ answer.status = 1 ∧ answer.output = ""

theorem decided_of_value (evaluated : judge.value text arguments = .ok value) :
    Decided judge text arguments value (judge.isTrue value) := by
  have checked := check_of_value evaluated
  constructor
  case value_eq => exact evaluated
  case truth_eq => rfl
  case evaluate_eq =>
    rw [evaluate, evaluated]
    rfl
  case check_eq => exact checked
  case code_eq => exact code_of_check checked
  case answer_eq =>
    intro request asks
    exact Service.answer_of_asks asks checked
  case record => exact Service.showsValue_verdictRecord text value _
  case command =>
    intro place words asks
    exact CommandLine.run_of_decided asks checked
  case table =>
    intro place words asks
    exact CommandLine.run_table_of_decided asks checked

/-- What is decided is the value, and whether it counts as true. -/
theorem Decided.of_value {x : Float} (decided : Decided judge text arguments value truth)
    (evaluated : judge.value text arguments = .ok x) :
    Decided judge text arguments x (judge.isTrue x) := by
  have same : value = x := Except.ok.inj (decided.value_eq.symm.trans evaluated)
  have counted : truth = judge.isTrue value := decided.truth_eq
  rw [← same, ← counted]
  exact decided

theorem negative_of_classification {kind : String} {code : Int}
    (reported : fault.classification? = some (kind, code)) : code < 0 := by
  cases fault <;> cases reported <;> decide

theorem refused_of_fault (evaluated : judge.value text arguments = .error fault)
    (reported : fault.classification?.isSome) :
    ∃ notice, Refused judge text arguments fault notice := by
  obtain ⟨⟨kind, code⟩, classified⟩ := Option.isSome_iff_exists.mp reported
  have checked := check_of_fault evaluated classified
  refine ⟨{ kind, code, message := fault.message }, ?_⟩
  constructor
  case value_eq => exact evaluated
  case evaluate_eq =>
    rw [evaluate, evaluated]
    rfl
  case check_eq => exact checked
  case classified => exact classified
  case message_eq => rfl
  case negative => exact negative_of_classification classified
  case code_eq => exact code_of_check checked
  case answer_eq =>
    intro request asks
    exact Service.answer_of_asks asks checked
  case record => exact Service.showsFault_verdictRecord text fault _
  case command =>
    intro place words showValue asks
    obtain ⟨told, answered⟩ := CommandLine.run_of_refused asks checked
    exact ⟨.failure told _, answered, rfl, rfl⟩

/-- A text that is not empty can be sent in a request, and in a command where its judge is at work.
-/
theorem asked_of_filled (judge : Judge) (filled : text ≠ "") (arguments : List Float) :
    Asked judge text arguments := by
  constructor
  case request =>
    let task : Service.Task := ⟨text, arguments⟩
    exact Service.exists_asks (filled : task.formula ≠ "")
  case command =>
    intro place chosen showValue
    exact ⟨_, CommandLine.asks_spelled chosen text arguments showValue⟩

/-- All entrances tell the same outcome, which is either a value and whether it counts as true or a
fault.  What is not a number and the two zeros never count as true. -/
theorem entrances_agree (judge : Judge) (valid : judge.options.Valid) (text : String)
    (filled : text ≠ "") (arguments : List Float)
    (reported : ∀ fault, judge.value text arguments = .error fault →
      fault.classification?.isSome) :
    Asked judge text arguments ∧
    Xor (∃ value truth, Decided judge text arguments value truth)
      (∃ fault notice, Refused judge text arguments fault notice) ∧
    ∀ value truth, Decided judge text arguments value truth →
      value.isNaN ∨ value == Double.zero → truth = false := by
  refine ⟨asked_of_filled judge filled arguments, ?_, ?_⟩
  · cases evaluated : judge.value text arguments with
    | ok value =>
        refine Or.inl ⟨⟨value, _, decided_of_value evaluated⟩, ?_⟩
        rintro ⟨fault, notice, refused⟩
        exact nomatch evaluated.symm.trans refused.value_eq
    | error fault =>
        refine Or.inr ⟨⟨fault, refused_of_fault evaluated (reported fault evaluated)⟩, ?_⟩
        rintro ⟨value, truth, decided⟩
        exact nomatch evaluated.symm.trans decided.value_eq
  · intro value truth decided kind
    rw [decided.truth_eq, decide_eq_false_iff_not]
    rcases kind with isNaN | isZero
    · exact Double.not_lt_abs_of_isNaN isNaN
    · exact Double.not_lt_abs_of_beq_zero isZero valid.epsilon

/-- What is not a number is sent in a request and in a command, and is false in both; one is true,
also in the table that shows it. -/
theorem entrances_agree_nan :
    (∃ request : Service.Request, request.Asks ⟨"A", [Double.nan]⟩ ∧
      Service.answer .standard request = .ok (.judged "A" (.decided Double.nan false))) ∧
    (∃ words answer, CommandLine.run { environment := [], screen := 80 } words = .ok answer ∧
      answer.status = 0 ∧ answer.output = "A : FALSE\n") ∧
    (∃ words answer, CommandLine.run { environment := [], screen := 80 } words = .ok answer ∧
      answer.status = 0 ∧ answer.output = "A : TRUE\n") ∧
    ∃ words answer, CommandLine.run { environment := [], screen := 80 } words = .ok answer ∧
      answer.status = 0 ∧ CommandLine.ShowsResult answer.output true := by
  let place : CommandLine.Place := { environment := [], screen := 80 }
  have evaluated (x : Float) : Judge.standard.value "A" [x] = .ok x := by
    have spelled : Grammar.Terminal.argument.Spells ['A'] := by
      constructor
      · simp
      · intro c member
        rw [List.mem_singleton.mp member]
        rfl
    have read : Judge.standard.reader.read "A" = .ok (.argument "A") := read_of_argument spelled
    exact (value_of_read read).trans rfl
  have agree (x : Float) := entrances_agree .standard Options.valid_default "A" (by decide) [x]
    fun fault failed => nomatch (evaluated x).symm.trans failed
  have decided (x : Float) : Decided .standard "A" [x] x (Judge.standard.isTrue x) := by
    cases (agree x).2.1 with
    | inl success =>
        obtain ⟨⟨value, truth, decided⟩, -⟩ := success
        exact decided.of_value (evaluated x)
    | inr failure =>
        obtain ⟨⟨fault, notice, refused⟩, -⟩ := failure
        exact nomatch (evaluated x).symm.trans refused.value_eq
  have chosen : place.judge [] = .ok .standard := by
    rw [CommandLine.Place.judge, CommandLine.Place.options]
    rfl
  have nan : Judge.standard.isTrue Double.nan = false :=
    (agree Double.nan).2.2 _ _ (decided Double.nan) (Or.inl rfl)
  have one : Judge.standard.isTrue Double.one = true := by
    rfl
  refine ⟨?_, ?_, ?_, ?_⟩
  · obtain ⟨request, asks⟩ := (agree Double.nan).1.request
    have answered := (decided Double.nan).answer_eq request asks
    rw [nan] at answered
    exact ⟨request, asks, answered⟩
  · obtain ⟨words, asks⟩ := (agree Double.nan).1.command place chosen false
    obtain ⟨answer, run, status, output⟩ := (decided Double.nan).command place words asks
    rw [nan] at output
    exact ⟨words, answer, run, status, output⟩
  · obtain ⟨words, asks⟩ := (agree Double.one).1.command place chosen false
    obtain ⟨answer, run, status, output⟩ := (decided Double.one).command place words asks
    rw [one] at output
    exact ⟨words, answer, run, status, output⟩
  · obtain ⟨words, asks⟩ := (agree Double.one).1.command place chosen true
    obtain ⟨answer, run, status, -, shown⟩ := (decided Double.one).table place words asks
    rw [one] at shown
    exact ⟨words, answer, run, status, shown (by decide)⟩

end Reckon.Judge
