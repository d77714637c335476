import Reckon.CommandLine.Run
import Reckon.Proofs.Text.BoxedTable
import Reckon.Proofs.Text.Numeral

/-!
# What the command line answers

Words of a command line may ask for the evaluation of a formula, and every formula can be asked for
(`CommandLine.asks_spelled`).  The words are answered by the verdict of the judge that the place
and the words choose (`CommandLine.run_of_decided`, `CommandLine.run_of_refused`); the table that
shows a value has one line for its truth (`CommandLine.showsResult_valueTable`).
-/

namespace Reckon.CommandLine

variable {place : Place} {words : List String} {showValue : Bool} {judge : Judge}
  {formula : String} {arguments : List Float} {value epsilon : Float} {truth : Bool}
  {screen right : Nat}

/-- The formula and the arguments that are evaluated for given ones. -/
def chosenTask (formula : Option String) (arguments : List Float) : String × List Float :=
  match formula with
  | some formula => (formula, arguments)
  | none => demonstration

/-- Words ask a judge for the verdict on a formula, and whether its value is to be shown. -/
inductive Asks (place : Place) (words : List String) :
    Judge → String → List Float → Bool → Prop where
  | evaluate {invocation : Invocation} {given : Option String} {operands : List Float}
      {showValue : Bool} {epsilon : Option Json} {level formula : String} {telling : Bool}
      {judge : Judge} {arguments : List Float}
      (spelled : Invocation.ofWords? words = some invocation)
      (command : invocation.command = .evaluate given operands showValue epsilon)
      (leveled : invocation.level place = .ok level)
      (told : tellsDetails? level = .ok telling)
      (chosen : place.judge (epsilon.toList.map fun value => ("epsilon", value)) = .ok judge)
      (task : chosenTask given operands = (formula, arguments)) :
      Asks place words judge formula arguments showValue

/-- Without a formula the demonstration is evaluated, as if it had been given. -/
theorem evaluate_of_chosenTask {given : Option String} {operands : List Float}
    (telling : Bool) (epsilon : Option Json)
    (task : chosenTask given operands = (formula, arguments)) :
    evaluate place telling given operands showValue epsilon =
      evaluate place telling (some formula) arguments showValue epsilon := by
  cases given with
  | some word =>
      cases task
      rfl
  | none =>
      have shown : demonstration = (formula, arguments) := task
      change evaluate place telling (some demonstration.1) demonstration.2 showValue epsilon = _
      rw [shown]

/-- What words ask for is an evaluation by the judge that they and the place choose. -/
theorem run_of_asks (asks : Asks place words judge formula arguments showValue) :
    ∃ telling epsilon,
      place.judge (epsilon.toList.map fun value => ("epsilon", value)) = .ok judge ∧
      run place words = evaluate place telling (some formula) arguments showValue epsilon := by
  cases asks with
  | @evaluate invocation given operands _ epsilon level _ telling judge _ spelled command leveled
      told chosen task =>
      refine ⟨telling, epsilon, chosen, ?_⟩
      rw [← evaluate_of_chosenTask telling epsilon task]
      simp only [run, spelled, leveled, told, command, bind, Except.bind, Command.run]

/-! ## Spelling a command -/

/-- How doubles are spelled on a command line. -/
def numerals (arguments : List Float) : List String :=
  arguments.map fun x => String.ofList (Text.numeral x)

/-- Words that ask for the verdict on a formula.  A separator stands in front of the formula, so
that it is no switch whatever it looks like. -/
def evaluationWords (formula : String) (arguments : List Float) (showValue : Bool) : List String :=
  (if showValue then ["--value"] else []) ++ separatorWord :: formula :: numerals arguments

def spelled (formula : String) (arguments : List Float) (showValue : Bool) : List String :=
  "--log-level" :: "INFO" :: "eval" :: evaluationWords formula arguments showValue

theorem mapM_numerals (arguments : List Float) :
    (numerals arguments).mapM Text.writtenDouble? = some arguments := by
  induction arguments with
  | nil => rfl
  | cons x arguments inductionHypothesis =>
      rw [numerals] at inductionHypothesis ⊢
      rw [List.map_cons, List.mapM_cons, Text.writtenDouble?_numeral, inductionHypothesis]
      rfl

/-- No numeral is a separator. -/
theorem erase_numerals (arguments : List Float) :
    (numerals arguments).erase separatorWord = numerals arguments := by
  apply List.erase_of_not_mem
  intro member
  obtain ⟨x, -, same⟩ := List.mem_map.mp member
  have number := Text.writtenDouble?_numeral x
  rw [same] at number
  have none : Text.writtenDouble? separatorWord = none := by decide
  cases none.symm.trans number

/-- Everything behind the separator is taken as it is, also what looks like a switch. -/
theorem ofList?_evaluationWords (formula : String) (arguments : List Float) (showValue : Bool) :
    Words.ofList? [.help, .value, .epsilon] (evaluationWords formula arguments showValue) =
      some { settings := if showValue then [{ switch := .value, value := none }] else []
             operands := [], behindSeparator := some (formula :: numerals arguments) } := by
  have separator : wordKind [.help, .value, .epsilon] separatorWord = .separator := rfl
  cases showValue with
  | false => simp [evaluationWords, Words.ofList?, takeSettings, takeOperands, separator]
  | true =>
      have kind : wordKind [.help, .value, .epsilon] "--value" =
          .switch .value "--value" none := by
        cbv
      have setting : settingsOfWord [.help, .value, .epsilon] .value "--value" none =
          some ([{ switch := .value, value := none }], none) := rfl
      simp [evaluationWords, Words.ofList?, takeSettings, takeOperands, kind, setting, separator]

theorem evaluate?_evaluationWords (formula : String) (arguments : List Float)
    (showValue : Bool) :
    Command.evaluate? (evaluationWords formula arguments showValue) =
      some (.evaluate (some formula) arguments showValue none) := by
  have parsed : ((numerals arguments).mapM Text.writtenDouble?).bind (fun values =>
      some (Command.evaluate (some formula) values showValue none)) =
      some (.evaluate (some formula) arguments showValue none) := by
    rw [mapM_numerals]
    rfl
  rw [Command.evaluate?, ofList?_evaluationWords]
  simp only [Words.firstOperand?, bind, Option.bind, erase_numerals]
  cases showValue with
  | false => exact parsed
  | true => exact parsed

/-- Every formula with arguments can be asked for, from the judge that a place chooses. -/
theorem asks_spelled (chosen : place.judge [] = .ok judge) (formula : String)
    (arguments : List Float) (showValue : Bool) :
    Asks place (spelled formula arguments showValue) judge formula arguments showValue := by
  have command := evaluate?_evaluationWords formula arguments showValue
  have level : takeSettings [.help, .logLevel] (spelled formula arguments showValue) =
      some ([{ switch := .logLevel, value := some "INFO" }],
        "eval" :: evaluationWords formula arguments showValue) := by
    have kind : wordKind [.help, .logLevel] "--log-level" =
        .switch .logLevel "--log-level" none := by
      cbv
    have setting : settingsOfWord [.help, .logLevel] .logLevel "--log-level" none =
        some ([], some .logLevel) := rfl
    have value : wordKind [.help, .logLevel] "INFO" = .operand := by cbv
    have name : wordKind [.help, .logLevel] "eval" = .operand := by cbv
    simp [spelled, takeSettings, kind, setting, value, name]
  have invocation : Invocation.ofWords? (spelled formula arguments showValue) =
      some { logLevel := some "INFO"
             command := .evaluate (some formula) arguments showValue none } := by
    rw [Invocation.ofWords?, level]
    simp only [bind, Option.bind, Command.ofWords?, command]
    rfl
  have told : tellsDetails? "INFO" = .ok false := by cbv
  exact .evaluate invocation rfl rfl told chosen rfl

/-! ## The table of a value -/

/-- One line of an output begins like a result, and it shows the word for a truth. -/
def ShowsResult (output : String) (truth : Bool) : Prop :=
  ∃ gap, (output.toList.splitOn '\n').filter ("|result".toList.isPrefixOf ·) =
    [("|result     | " ++ (if truth then "TRUE" else "FALSE") ++
      String.ofList (List.replicate gap ' ') ++ "|").toList]

/-- What the line of a result begins with, and what stands in front of its word. -/
def resultLead : List Char :=
  ['|', 'r', 'e', 's', 'u', 'l', 't']

def resultName : List Char :=
  ['r', 'e', 's', 'u', 'l', 't', ' ', ' ', ' ', ' ', ' ']

/-- The line of a result, when the column behind its name has some width. -/
def resultLine (truth : Bool) (right : Nat) : List Char :=
  '|' :: resultName ++ '|' :: ' ' :: (truthWord truth).toList ++
    Text.blanks (right - 1 - (truthWord truth).toList.length) ++ ['|']

theorem toList_lead : "|result".toList = resultLead :=
  rfl

theorem lines_truthWord (truth : Bool) :
    Text.lines (truthWord truth) = [(truthWord truth).toList] := by
  cases truth with
  | false => decide
  | true => decide

theorem isWord_truthWord (truth : Bool) : Text.IsWord (truthWord truth).toList := by
  cases truth with
  | false => decide
  | true => decide

/-- On a wide screen the names of a table have all their room, and the words for truth have some. -/
theorem widths_valueTable (formula : String) (arguments : List Float) (value epsilon : Float)
    (truth : Bool) (wide : 20 ≤ screen) :
    ∃ right, (valueTable formula arguments value epsilon truth).widths screen = (11, right) ∧
      (truthWord truth).toList.length < right ∧ right + 14 ≤ screen := by
  let table := valueTable formula arguments value epsilon truth
  let natural := BoxedTable.widthFor table.rightMargins (table.allRows.map (·.2))
  have left : BoxedTable.widthFor table.leftMargins (table.allRows.map (·.1)) = 11 := by
    change BoxedTable.widthFor { before := 0, behind := 1 }
      ["expression", "arguments", "value", "epsilon", "result"] = 11
    decide
  have member : truthWord truth ∈ table.allRows.map (·.2) := by
    simp [table, valueTable, BoxedTable.allRows]
  have room := BoxedTable.naturalWidth_le_widthFor table.rightMargins member
  rw [BoxedTable.naturalWidth_of_isWord (lines_truthWord truth) (isWord_truthWord truth)] at room
  have short : (truthWord truth).toList.length ≤ 5 := by
    cases truth with
    | false => decide
    | true => decide
  refine ⟨min natural (screen - 3 - 11), ?_, ?_, ?_⟩
  · have fits : min 11 (screen - 3) = 11 := by omega
    change (min (BoxedTable.widthFor table.leftMargins (table.allRows.map (·.1))) (screen - 3),
      min natural (screen - 3 -
        min (BoxedTable.widthFor table.leftMargins (table.allRows.map (·.1))) (screen - 3))) = _
    rw [left, fits]
  · have margin : table.rightMargins.before = 1 := rfl
    omega
  · omega

/-- The row of the result is one line: both of its cells are words that fit. -/
theorem rowLines_result (formula : String) (arguments : List Float) (value epsilon : Float)
    (fits : (truthWord truth).toList.length < right) :
    (valueTable formula arguments value epsilon truth).rowLines (11, right)
      ("result", truthWord truth) = [resultLine truth right] := by
  let table := valueTable formula arguments value epsilon truth
  have leftLines : BoxedTable.cellLines { heading := "Key" } { before := 0, behind := 1 } 11
      "result" = [resultName] := by
    decide
  have rightLines := BoxedTable.cellLines_of_isWord (lines_truthWord truth)
    (isWord_truthWord truth) (rfl : table.right.flushRight = false)
    (show _ ≤ right - table.rightMargins.before - table.rightMargins.behind from
      Nat.le_sub_one_of_lt fits)
  rw [BoxedTable.rowLines_of_singletons leftLines rightLines]
  simp [resultLine, table, valueTable, BoxedTable.rightMargins, Text.blanks]

/-- What the line of a result spells. -/
theorem ofList_resultLine (truth : Bool) (right : Nat) :
    String.ofList (resultLine truth right) =
      "|result     | " ++ (if truth then "TRUE" else "FALSE") ++
        String.ofList (Text.blanks (right - 1 - (truthWord truth).toList.length)) ++ "|" := by
  have front : String.ofList ('|' :: resultName ++ ['|', ' ']) = "|result     | " := rfl
  have bar : String.ofList ['|'] = "|" := rfl
  have line : resultLine truth right =
      ('|' :: resultName ++ ['|', ' ']) ++ (truthWord truth).toList ++
        Text.blanks (right - 1 - (truthWord truth).toList.length) ++ ['|'] := by
    simp [resultLine]
  rw [line, String.ofList_append, String.ofList_append, String.ofList_append, front, bar,
    String.ofList_toList, truthWord]

theorem prefix_resultLine (truth : Bool) (right : Nat) :
    resultLead <+: resultLine truth right := by
  simp [resultLead, resultLine, resultName]

theorem narrow_resultLine (truth : Bool) (right : Nat) :
    ∀ c ∈ resultLine truth right, Text.characterWidth c = 1 := by
  have front : ∀ c ∈ '|' :: resultName ++ ['|', ' '], Text.characterWidth c = 1 := by
    simp [resultName, Text.characterWidth]
  have word := (isWord_truthWord truth).narrow
  have gap := Text.characterWidth_blanks (right - 1 - (truthWord truth).toList.length)
  intro c member
  simp only [resultLine, List.mem_append, List.mem_cons] at front member
  grind

/-- The lines in front of the result do not look like it. -/
theorem not_prefix_of_mem_rowLines {name cell : String} {line : List Char}
    (known : name ∈ ["expression", "arguments", "value", "epsilon"])
    (member : line ∈ (valueTable formula arguments value epsilon truth).rowLines (11, right)
      (name, cell)) : ¬ resultLead <+: line := by
  have names : ∀ name ∈ ["expression", "arguments", "value", "epsilon"],
      BoxedTable.cellLines { heading := "Key" } { before := 0, behind := 1 } 11 name =
        [name.toList ++ Text.blanks (11 - name.toList.length)] ∧
      name.toList.length ≤ 11 ∧
      ¬ resultLead <+: '|' :: (name.toList ++ Text.blanks (11 - name.toList.length)) := by
    decide
  obtain ⟨leftLines, short, differs⟩ := names name known
  have narrow : (name.toList ++ Text.blanks (11 - name.toList.length)).length = 11 := by
    rw [List.length_append, Text.blanks, List.length_replicate]
    omega
  have filled : ¬ resultLead <+: '|' :: Text.blanks 11 := by decide
  apply BoxedTable.not_prefix_of_mem_rowLines leftLines member
  · rw [narrow]
    decide
  · exact narrow
  · exact differs
  · exact filled

/-- The lines of the table that stand in front of the result. -/
def linesAbove (table : BoxedTable) (right : Nat) : List (List Char) :=
  table.titleLines (11, right) ++
    BoxedTable.rule (11, right) '+' '-' :: (table.rows.take 4).flatMap (table.rowLines (11, right))

theorem not_prefix_rule (widths : Nat × Nat) :
    ¬ resultLead <+: BoxedTable.rule widths '+' '-' := by
  intro begins
  exact absurd (List.cons_prefix_cons.mp begins).1 (by decide)

/-- Neither the title nor another row looks like the result, whatever the formula contains. -/
theorem not_prefix_linesAbove (formula : String) (arguments : List Float)
    (value epsilon : Float) (truth : Bool) (right : Nat) :
    ∀ line ∈ linesAbove (valueTable formula arguments value epsilon truth) right,
      ¬ resultLead <+: line := by
  intro line member
  rw [linesAbove, List.mem_append, List.mem_cons] at member
  rcases member with title | border | row
  · intro begins
    have bar : '|' ∈ line := begins.subset (by decide)
    have plain : '|' ∉ "Mathex".toList := by decide
    exact BoxedTable.notMem_titleLines plain (by decide) title bar
  · rw [border]
    exact not_prefix_rule _
  · obtain ⟨⟨name, cell⟩, known, member⟩ := List.mem_flatMap.mp row
    have names := List.mem_map.mpr ⟨(name, cell), known, (rfl : Prod.fst (name, cell) = name)⟩
    exact not_prefix_of_mem_rowLines names member

/-- A drawn table tells the truth in one line, provided that the screen is wide enough. -/
theorem draw_valueTable (formula : String) (arguments : List Float) (value epsilon : Float)
    (truth : Bool) (wide : 20 ≤ screen) :
    ∃ right, (((valueTable formula arguments value epsilon truth).draw screen).map
      String.toList).filter ("|result".toList.isPrefixOf ·) = [resultLine truth right] := by
  obtain ⟨right, widths, word, inside⟩ :=
    widths_valueTable formula arguments value epsilon truth wide
  let table := valueTable formula arguments value epsilon truth
  have drawn : (table.draw screen).map String.toList =
      (linesAbove table right ++ [resultLine truth right] ++
        [BoxedTable.rule (11, right) '+' '-']).map (Text.cut screen) := by
    have body : table.rows.flatMap (table.rowLines (11, right)) =
        (table.rows.take 4).flatMap (table.rowLines (11, right)) ++ [resultLine truth right] := by
      rw [← rowLines_result formula arguments value epsilon word]
      simp [table, valueTable]
    rw [BoxedTable.draw, widths, if_neg (by omega), List.map_map]
    have unheaded : table.headed = false := rfl
    simp only [body, unheaded, Bool.false_eq_true, if_false, linesAbove, List.append_assoc,
      List.cons_append, List.nil_append, Function.comp_def, String.toList_ofList]
  have shown : Text.cut screen (resultLine truth right) = resultLine truth right := by
    apply Text.cut_of_narrow (narrow_resultLine truth right)
    simp only [resultLine, resultName, Text.blanks, List.length_append, List.length_cons,
      List.length_replicate, List.length_nil]
    omega
  have solid : ∀ c ∈ resultLead, c ≠ ' ' := by
    simp [resultLead]
  have above := BoxedTable.filter_cut_eq_nil screen solid
    (not_prefix_linesAbove formula arguments value epsilon truth right)
  have below := BoxedTable.filter_cut_eq_nil screen solid
    (List.forall_mem_singleton.mpr (not_prefix_rule (11, right)))
  refine ⟨right, ?_⟩
  rw [drawn, toList_lead, List.map_append, List.map_append, List.filter_append, List.filter_append,
    above, below, List.map_singleton, shown, List.filter_singleton,
    List.isPrefixOf_iff_prefix.mpr (prefix_resultLine truth right)]
  rfl

/-- Lines without line feeds are told apart in the output. -/
theorem splitOn_output_success {lines : List String}
    (unbroken : ∀ line ∈ lines, '\n' ∉ line.toList) :
    (Answer.success lines).output.toList.splitOn '\n' = lines.map String.toList ++ [[]] := by
  rw [Answer.success]
  induction lines with
  | nil => rfl
  | cons line lines inductionHypothesis =>
      have others := inductionHypothesis fun other member =>
        unbroken other (List.mem_cons_of_mem line member)
      have first := unbroken line List.mem_cons_self
      rw [List.map_cons, String.join_cons, asLine, String.toList_append, String.toList_append,
        List.append_assoc]
      have feed : "\n".toList = ['\n'] := rfl
      rw [feed, List.singleton_append, List.splitOn_append_cons_self_of_not_mem first, others]
      rfl

theorem showsResult_valueTable (formula : String) (arguments : List Float)
    (value epsilon : Float) (truth : Bool) (wide : 20 ≤ screen) :
    ShowsResult
      (Answer.success ((valueTable formula arguments value epsilon truth).draw screen)).output
      truth := by
  obtain ⟨right, shown⟩ := draw_valueTable formula arguments value epsilon truth wide
  have plain : '\n' ∉ "Mathex".toList := by decide
  have spelled := congrArg String.toList (ofList_resultLine truth right)
  rw [String.toList_ofList] at spelled
  refine ⟨right - 1 - (truthWord truth).toList.length, ?_⟩
  rw [splitOn_output_success fun line => BoxedTable.newline_notMem_draw plain,
    List.filter_append, shown, ← Text.blanks, ← spelled, toList_lead]
  rfl

/-! ## Answers -/

/-- A value is answered by one line with the formula and the word for its truth. -/
theorem run_of_decided (asks : Asks place words judge formula arguments false)
    (checked : judge.check formula arguments = .ok (.decided value truth)) :
    ∃ answer, run place words = .ok answer ∧ answer.status = 0 ∧
      answer.output = formula ++ " : " ++ (if truth then "TRUE" else "FALSE") ++ "\n" := by
  obtain ⟨telling, epsilon, chosen, evaluated⟩ := run_of_asks asks
  refine ⟨.success [s!"{formula} : {truthWord truth}"], ?_, rfl, ?_⟩
  · simp only [evaluated, evaluate, chosen, checked, bind, Except.bind]
    rfl
  · simp [Answer.success, asLine, String.join, truthWord, toString]

/-- A value that is to be shown is answered by a table, which shows the word for its truth if the
screen is wide enough. -/
theorem run_table_of_decided (asks : Asks place words judge formula arguments true)
    (checked : judge.check formula arguments = .ok (.decided value truth)) :
    ∃ answer, run place words = .ok answer ∧ answer.status = 0 ∧
      answer = .success ((valueTable formula arguments value judge.options.epsilon truth).draw
        place.screen) ∧
      (20 ≤ place.screen → ShowsResult answer.output truth) := by
  obtain ⟨telling, epsilon, chosen, evaluated⟩ := run_of_asks asks
  let table := valueTable formula arguments value judge.options.epsilon truth
  refine ⟨.success (table.draw place.screen), ?_, rfl, rfl, ?_⟩
  · simp only [evaluated, evaluate, chosen, checked, bind, Except.bind]
    rfl
  · exact showsResult_valueTable formula arguments value judge.options.epsilon truth

/-- A fault that is reported makes no output, whether or not the value was to be shown. -/
theorem run_of_refused {fault : Fault} {notice : Fault.Notice}
    (asks : Asks place words judge formula arguments showValue)
    (checked : judge.check formula arguments = .ok (.refused fault notice)) :
    ∃ told, run place words =
      .ok (.failure told s!"[{notice.kind}, code {notice.code}] {notice.message}") := by
  obtain ⟨telling, epsilon, chosen, evaluated⟩ := run_of_asks asks
  simp only [evaluated, evaluate, chosen, checked, bind, Except.bind]
  exact ⟨_, rfl⟩

end Reckon.CommandLine
