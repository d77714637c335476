import Mathlib.Algebra.Group.Nat.Defs
import Reckon.Judge
import Reckon.Proofs.Formula.Legality
import Reckon.Proofs.Formula.Reading

/-!
# What judges answer

The code of a text follows from its nesting, from whether it has a derivation, and from the
first fault of its formula in the order of evaluation (`Judge.code_classified`).  A judge has a
verdict on every text but those whose first fault is an argument name with an index that is too
long to be written out (`Judge.check_total`).
-/

namespace Reckon.Judge

open Formula (Derivation Legal Ordinary)
open Grammar (Nesting)

/-- Every argument name among the tokens of a text stands for an index below a bound. -/
def ArgumentsBelow (bound : Nat) (text : List Char) : Prop :=
  ∀ tokens formula, Derivation text tokens formula →
    ∀ token ∈ tokens, token.kind = .argument →
      ∀ index, Argument.decode (String.ofList token.word) = .ok index → index < bound

variable {judge : Judge} {text : String} {arguments : List Float}

theorem code_of_check {verdict : Verdict} (check : judge.check text arguments = .ok verdict) :
    judge.code text arguments = .ok verdict.code := by
  rw [code, check]
  rfl

/-- Behind the reader the value is that of the formula. -/
theorem value_of_read {formula : Formula} (read : judge.reader.read text = .ok formula) :
    judge.value text arguments = formula.eval judge.functions arguments := by
  rw [value, read]
  rfl

theorem value_of_misread {fault : Fault} (read : judge.reader.read text = .error fault) :
    judge.value text arguments = .error fault := by
  rw [value, read]
  rfl

theorem check_of_value {value : Float} (evaluated : judge.value text arguments = .ok value) :
    judge.check text arguments = .ok (.decided value (judge.isTrue value)) := by
  rw [check, evaluated]

/-- A fault that is reported makes a verdict. -/
theorem check_of_fault {fault : Fault} {kind : String} {code : Int}
    (evaluated : judge.value text arguments = .error fault)
    (reported : fault.classification? = some (kind, code)) :
    judge.check text arguments =
      .ok (.refused fault { kind, code, message := fault.message }) := by
  rw [check, evaluated]
  simp only [Fault.notice?, reported, Option.map_some]

/-- A fault that is reported is told by its own code. -/
theorem code_of_fault {fault : Fault} {kind : String} {code : Int}
    (evaluated : judge.value text arguments = .error fault)
    (reported : fault.classification? = some (kind, code)) :
    judge.code text arguments = .ok code :=
  code_of_check (check_of_fault evaluated reported)

/-- The code of a value is whether it lies above the bound. -/
theorem code_of_value {value : Float} (evaluated : judge.value text arguments = .ok value) :
    judge.code text arguments =
      .ok (if judge.options.epsilon < value.abs then 1 else 0) := by
  rw [code_of_check (check_of_value evaluated), Verdict.code, isTrue, Double.exceeds]
  simp only [decide_eq_true_eq]

/-! ## The code of a text -/

/-- The first fault of a formula is the fault of judging it. -/
theorem value_of_faults {formula : Formula} {fault : Fault} {others : List Fault}
    (read : judge.reader.read text = .ok formula)
    (faults : formula.faults judge.functions arguments.length = fault :: others) :
    judge.value text arguments = .error fault := by
  have reports := Formula.reports_eval judge.functions arguments formula
  rw [faults] at reports
  exact (value_of_read read).trans reports

theorem value_of_no_faults {formula : Formula}
    (read : judge.reader.read text = .ok formula)
    (faults : formula.faults judge.functions arguments.length = []) :
    ∃ value, formula.eval judge.functions arguments = .ok value ∧
      judge.value text arguments = .ok value := by
  have reports := Formula.reports_eval judge.functions arguments formula
  rw [faults] at reports
  obtain ⟨value, evaluated⟩ := reports
  exact ⟨value, evaluated, (value_of_read read).trans evaluated⟩

/-- All that may be wrong with a text is that it names arguments or functions that do not exist. -/
theorem ordinary_of_derivation {tokens : List Grammar.Token} {formula : Formula}
    (derivation : Derivation text.toList tokens formula) :
    ∀ fault ∈ formula.faults judge.functions arguments.length,
      Ordinary judge.functions arguments.length tokens fault := by
  intro fault member
  obtain ⟨phrase, ending, rfl, -, isPhrase⟩ := derivation.sentence
  exact (isPhrase.faults_ordinary fault member).mono (List.subset_append_left _ _)

/-- Formulas of texts pass the checks of formulas that are built by hand. -/
theorem legal_of_derivation {tokens : List Grammar.Token} {formula : Formula}
    (derivation : Derivation text.toList tokens formula) : ∃ draft, Legal draft formula := by
  obtain ⟨phrase, ending, -, -, isPhrase⟩ := derivation.sentence
  exact isPhrase.legal

/-- Below the bound an argument name that is not given is reported as such. -/
theorem ordinary_cases {tokens : List Grammar.Token} {formula : Formula} {fault : Fault}
    (writable : ArgumentsBelow Fault.unwritable text.toList)
    (derivation : Derivation text.toList tokens formula)
    (ordinary : Ordinary judge.functions arguments.length tokens fault) :
    (∃ letters index, fault = .outOfRange letters index arguments.length) ∨
      ∃ name arity, fault = .unknownFunction name arity := by
  cases ordinary with
  | @argument token index member kind decoded beyond =>
      have below := writable tokens formula derivation token member kind index decoded
      refine Or.inl ⟨String.ofList token.word, index, ?_⟩
      rw [Fault.beyondArguments, if_neg (Nat.not_le_of_lt below)]
  | function unknown => exact Or.inr ⟨_, _, rfl⟩

/-- Below the bound judging gives a value or one of the four faults that texts may have. -/
theorem value_cases (judge : Judge) (text : String) (arguments : List Float)
    (writable : ArgumentsBelow Fault.unwritable text.toList) :
    (∃ value, judge.value text arguments = .ok value) ∨
      ∃ fault kind, ∃ code ∈ ([-6, -5, -4, -2] : List Int),
        judge.value text arguments = .error fault ∧ fault.classification? = some (kind, code) := by
  rcases Reader.read_cases judge.reader text with
    ⟨tokens, formula, derivation, read⟩ | ⟨misreading, read⟩ | ⟨depth, limit, read⟩
  · cases faults : formula.faults judge.functions arguments.length with
    | nil =>
        obtain ⟨value, -, evaluated⟩ := value_of_no_faults read faults
        exact Or.inl ⟨value, evaluated⟩
    | cons fault others =>
        have evaluated := value_of_faults read faults
        have ordinary : Ordinary judge.functions arguments.length tokens fault :=
          ordinary_of_derivation derivation fault (faults ▸ List.mem_cons_self)
        refine Or.inr ⟨fault, ?_⟩
        rcases ordinary_cases writable derivation ordinary with
          ⟨letters, index, rfl⟩ | ⟨name, arity, rfl⟩
        · exact ⟨_, -4, by simp, evaluated, rfl⟩
        · exact ⟨_, -5, by simp, evaluated, rfl⟩
  · exact Or.inr ⟨_, _, -2, by simp, value_of_misread read, rfl⟩
  · exact Or.inr ⟨_, _, -6, by simp, value_of_misread read, rfl⟩

/-- The guard refuses a text before it is read, however much room that would take. -/
theorem code_of_deep (arguments : List Float)
    (deep : judge.options.nestingLimit < Nesting.depth text.toList) :
    judge.code text arguments = .ok (-6) := by
  have passed : judge.reader.limit < Nesting.depth text.toList := Int.ofNat_lt.mpr deep
  exact code_of_fault (value_of_misread (Reader.read_of_deep passed)) rfl

/-- What is shallow and no text is misread. -/
theorem code_of_no_derivation (arguments : List Float)
    (shallow : Nesting.depth text.toList ≤ judge.options.nestingLimit)
    (roomy : judge.reader.result text.toList ≠ .exhausted)
    (none : ¬∃ tokens formula, Derivation text.toList tokens formula) :
    judge.code text arguments = .ok (-2) := by
  have passed : Nesting.depth text.toList ≤ judge.reader.limit := Int.ofNat_le.mpr shallow
  obtain ⟨misreading, refused⟩ := Reader.parseTree_of_no_derivation roomy none
  have read : judge.reader.read text = .error (.misread misreading) := by
    rw [Reader.read_of_shallow passed, refused]
    rfl
  exact code_of_fault (value_of_misread read) rfl

/-- The codes of what is read, by the first fault. -/
theorem codes_of_read {tokens : List Grammar.Token} {formula : Formula}
    (derivation : Derivation text.toList tokens formula)
    (read : judge.reader.read text = .ok formula) :
    match formula.faults judge.functions arguments.length with
    | [] => ∃ value, formula.eval judge.functions arguments = .ok value ∧
        judge.code text arguments = .ok (if judge.options.epsilon < value.abs then 1 else 0)
    | fault :: _ => ArgumentsBelow Fault.unwritable text.toList →
        (∃ letters index, fault = .outOfRange letters index arguments.length ∧
          judge.code text arguments = .ok (-4)) ∨
        ∃ name arity, fault = .unknownFunction name arity ∧
          judge.code text arguments = .ok (-5) := by
  cases faults : formula.faults judge.functions arguments.length with
  | nil =>
      obtain ⟨value, evaluated, judged⟩ := value_of_no_faults read faults
      exact ⟨value, evaluated, code_of_value judged⟩
  | cons fault others =>
      intro writable
      have judged := value_of_faults read faults
      have ordinary : Ordinary judge.functions arguments.length tokens fault :=
        ordinary_of_derivation derivation fault (faults ▸ List.mem_cons_self)
      rcases ordinary_cases writable derivation ordinary with
        ⟨letters, index, rfl⟩ | ⟨name, arity, rfl⟩
      · exact Or.inl ⟨letters, index, rfl, code_of_fault judged rfl⟩
      · exact Or.inr ⟨name, arity, rfl, code_of_fault judged rfl⟩

/-- Below the bound a text has one of six codes. -/
theorem code_mem (writable : ArgumentsBelow Fault.unwritable text.toList) :
    ∃ code ∈ ([-6, -5, -4, -2, 0, 1] : List Int), judge.code text arguments = .ok code := by
  rcases value_cases judge text arguments writable with
    ⟨value, judged⟩ | ⟨fault, kind, code, listed, judged, reported⟩
  · refine ⟨_, ?_, code_of_value judged⟩
    by_cases true : judge.options.epsilon < value.abs
    · simp [true]
    · simp [true]
  · exact ⟨code, by simp at listed ⊢; omega, code_of_fault judged reported⟩

/-- Faults of texts are reported. -/
theorem classified_of_value {fault : Fault}
    (writable : ArgumentsBelow Fault.unwritable text.toList)
    (failed : judge.value text arguments = .error fault) :
    ∃ kind, ∃ code ∈ ([-6, -5, -4, -2] : List Int),
      fault.classification? = some (kind, code) := by
  rcases value_cases judge text arguments writable with
    ⟨value, judged⟩ | ⟨first, kind, code, listed, judged, reported⟩
  · exact nomatch judged.symm.trans failed
  · rw [← Except.error.inj (judged.symm.trans failed)]
    exact ⟨kind, code, listed, reported⟩

/-- The code of a text.  A text that is nested too deep has code -6 and any other text without a
derivation code -2.  The formula of a derivation is legal, and may only lack arguments and
functions; its first fault in the order of evaluation makes the code -4 or -5, and without any
fault its value makes the code 1 or 0.  There are no other codes, and no faults that pass
through. -/
theorem code_classified (judge : Judge) (text : String) (arguments : List Float) :
    (judge.options.nestingLimit < Nesting.depth text.toList →
      judge.code text arguments = .ok (-6)) ∧
    (Nesting.depth text.toList ≤ judge.options.nestingLimit →
      judge.reader.result text.toList ≠ .exhausted →
      (¬∃ tokens formula, Derivation text.toList tokens formula) →
        judge.code text arguments = .ok (-2)) ∧
    (∀ tokens formula, Derivation text.toList tokens formula →
      (∃ draft, Legal draft formula) ∧
      (∀ fault ∈ formula.faults judge.functions arguments.length,
        Ordinary judge.functions arguments.length tokens fault) ∧
      (Nesting.depth text.toList ≤ judge.options.nestingLimit →
        judge.reader.result text.toList ≠ .exhausted →
        match formula.faults judge.functions arguments.length with
        | [] => ∃ value, formula.eval judge.functions arguments = .ok value ∧
            judge.code text arguments =
              .ok (if judge.options.epsilon < value.abs then 1 else 0)
        | fault :: _ => ArgumentsBelow Fault.unwritable text.toList →
            (∃ letters index, fault = .outOfRange letters index arguments.length ∧
              judge.code text arguments = .ok (-4)) ∨
            ∃ name arity, fault = .unknownFunction name arity ∧
              judge.code text arguments = .ok (-5))) ∧
    (ArgumentsBelow Fault.unwritable text.toList →
      (∃ code ∈ [-6, -5, -4, -2, 0, 1], judge.code text arguments = .ok code) ∧
      ∀ fault, judge.value text arguments = .error fault →
        ∃ kind, ∃ code ∈ [-6, -5, -4, -2], fault.classification? = some (kind, code)) := by
  refine ⟨code_of_deep arguments, code_of_no_derivation arguments, ?_, ?_⟩
  · intro tokens formula derivation
    refine ⟨legal_of_derivation derivation, ordinary_of_derivation derivation, ?_⟩
    intro shallow roomy
    have fits : formula.depth ≤ judge.reader.limit := by
      rw [← derivation.depth_eq]
      exact Int.ofNat_le.mpr shallow
    apply codes_of_read derivation
    rw [Reader.read_of_derivation roomy derivation, if_pos fits]
  · intro writable
    constructor
    · exact code_mem writable
    · intro fault failed
      exact classified_of_value writable failed

theorem unwritable_pos : 0 < Fault.unwritable := by
  decide +kernel

/-- The code of `!(A)` without any argument, and of a number in 500 parentheses. -/
theorem code_negatedGroup : Judge.standard.code "!(A)" [] = .ok (-4) ∧
    Judge.standard.code (String.ofList
      (List.replicate 500 '(' ++ '1' :: List.replicate 500 ')')) [] = .ok (-6) := by
  constructor
  · obtain ⟨derivation, -⟩ := Formula.derivation_negatedGroup
    have roomy : Judge.standard.reader.result "!(A)".toList ≠ .exhausted :=
      Reader.roomy_of_derivation derivation (by decide)
    have writable : ArgumentsBelow Fault.unwritable "!(A)".toList := by
      intro tokens formula other token member kind index decoded
      obtain ⟨rfl, -⟩ := other.unique derivation
      simp only [Formula.negatedGroup, List.mem_cons, List.not_mem_nil, or_false] at member
      rcases member with rfl | rfl | rfl | rfl | rfl <;> cases kind
      have first : Argument.decode "A" = .ok 0 := rfl
      cases first.symm.trans decoded
      exact unwritable_pos
    obtain ⟨-, -, classified, -⟩ := code_classified Judge.standard "!(A)" []
    obtain ⟨-, -, first⟩ := classified _ _ derivation
    have faults : (Formula.prefixed "!" (.group (.argument "A"))).faults
        Judge.standard.functions ([] : List Float).length =
          [Fault.beyondArguments "A" 0 0] := rfl
    have codes := first (by decide) roomy
    rw [faults] at codes
    rcases codes writable with ⟨_, _, -, code⟩ | ⟨_, _, unknown, -⟩
    · exact code
    · rw [Fault.beyondArguments, if_neg (Nat.not_le_of_lt unwritable_pos)] at unknown
      cases unknown
  · apply (code_classified _ _ _).1
    rw [String.toList_ofList]
    decide +kernel

/-! ## Verdicts -/

/-- The first thing wrong with a text is an argument name whose index has too many digits to be
written out. -/
def Escapes (judge : Judge) (text : String) (arguments : List Float) : Prop :=
  ∃ formula others, judge.reader.read text = .ok formula ∧
    formula.faults judge.functions arguments.length = .unwritableIndex :: others

/-- The fault that escapes is not reported. -/
theorem check_of_escapes (escapes : judge.Escapes text arguments) :
    judge.check text arguments = .error .unwritableIndex := by
  obtain ⟨formula, others, read, faults⟩ := escapes
  rw [check, value_of_faults read faults]
  rfl

/-- The argument name whose index cannot be written out is among the tokens of the text. -/
theorem exists_argument_of_escapes (escapes : judge.Escapes text arguments) :
    ∃ tokens formula, Derivation text.toList tokens formula ∧
      ∃ token ∈ tokens, token.kind = .argument ∧
        ∃ index, Argument.decode (String.ofList token.word) = .ok index ∧
          arguments.length ≤ index ∧ Fault.unwritable ≤ index := by
  obtain ⟨formula, others, read, faults⟩ := escapes
  rcases Reader.read_cases judge.reader text with
    ⟨tokens, other, derivation, parsed⟩ | ⟨misreading, misread⟩ | ⟨depth, limit, deep⟩
  · obtain rfl : other = formula := Except.ok.inj (parsed.symm.trans read)
    have ordinary : Ordinary judge.functions arguments.length tokens .unwritableIndex :=
      ordinary_of_derivation derivation _ (faults ▸ List.mem_cons_self)
    exact ⟨tokens, other, derivation, ordinary.exists_argument⟩
  · exact nomatch misread.symm.trans read
  · exact nomatch deep.symm.trans read

/-- A judge has a verdict on every text, except where the first thing wrong with it is an
argument name whose index cannot be written out; an argument that is not given is reported as
such up to there. -/
theorem check_total (judge : Judge) (text : String) (arguments : List Float) :
    ((∃ verdict, judge.check text arguments = .ok verdict) ↔ ¬judge.Escapes text arguments) ∧
    (judge.Escapes text arguments → judge.check text arguments = .error .unwritableIndex) ∧
    (judge.Escapes text arguments → ∃ tokens formula, Derivation text.toList tokens formula ∧
      ∃ token ∈ tokens, token.kind = .argument ∧
        ∃ index, Argument.decode (String.ofList token.word) = .ok index ∧
          arguments.length ≤ index ∧ Fault.unwritable ≤ index) ∧
    ∀ formula letters index others, judge.reader.read text = .ok formula →
      formula.faults judge.functions arguments.length =
        .beyondArguments letters index arguments.length :: others →
      index < Fault.unwritable →
      ∃ notice, judge.check text arguments =
          .ok (.refused (.outOfRange letters index arguments.length) notice) ∧
        notice.kind = "variable_index_out_of_range" ∧ notice.code = -4 := by
  refine ⟨⟨?_, fun stays => ?_⟩, check_of_escapes, exists_argument_of_escapes, ?_⟩
  · rintro ⟨verdict, decided⟩ escapes
    rw [check_of_escapes escapes] at decided
    cases decided
  · rcases Reader.read_cases judge.reader text with
      ⟨tokens, formula, derivation, read⟩ | ⟨misreading, read⟩ | ⟨depth, limit, read⟩
    · cases faults : formula.faults judge.functions arguments.length with
      | nil =>
          obtain ⟨value, -, judged⟩ := value_of_no_faults read faults
          exact ⟨_, check_of_value judged⟩
      | cons fault others =>
          have ordinary : Ordinary judge.functions arguments.length tokens fault :=
            ordinary_of_derivation derivation fault (faults ▸ List.mem_cons_self)
          cases ordinary with
          | @argument token index member kind decoded beyond =>
              have below : ¬Fault.unwritable ≤ index := by
                intro long
                rw [Fault.beyondArguments, if_pos long] at faults
                exact stays ⟨formula, others, read, faults⟩
              rw [Fault.beyondArguments, if_neg below] at faults
              exact ⟨_, check_of_fault (value_of_faults read faults) rfl⟩
          | function unknown => exact ⟨_, check_of_fault (value_of_faults read faults) rfl⟩
    · exact ⟨_, check_of_fault (value_of_misread read) rfl⟩
    · exact ⟨_, check_of_fault (value_of_misread read) rfl⟩
  · intro formula letters index others read faults below
    rw [Fault.beyondArguments, if_neg (Nat.not_le_of_lt below)] at faults
    exact ⟨_, check_of_fault (value_of_faults read faults) rfl, rfl, rfl⟩

/-! ## A name that is too long -/

theorem decodeLetters_replicate (count : Nat) :
    Argument.decodeLetters (List.replicate count 'P') = .ok (16 ^ count - 1) := by
  induction count with
  | zero => rfl
  | succ count inductionHypothesis =>
      have last : Argument.letterValue? 'P' = some 15 := rfl
      have positive : 0 < 16 ^ count := Nat.pow_pos (by decide)
      rw [List.replicate_succ, Argument.decodeLetters, last, inductionHypothesis, Nat.pow_succ]
      simp only [Except.map, Argument.base, Except.ok.injEq]
      omega

theorem decode_replicate (count : Nat) :
    Argument.decode (String.ofList (List.replicate (count + 1) 'P')) =
      .ok (16 ^ (count + 1) - 1) := by
  have filled : (String.ofList (List.replicate (count + 1) 'P')).isEmpty = false := by
    simp [List.replicate_succ]
  rw [Argument.decode, filled, String.toList_ofList, decodeLetters_replicate]
  rfl

theorem spells_replicate (count : Nat) :
    Grammar.Terminal.argument.Spells (List.replicate (count + 1) 'P') := by
  refine ⟨by simp, fun c member => ?_⟩
  rw [List.eq_of_mem_replicate member]
  rfl

/-- A name alone is a text. -/
theorem read_of_argument {word : List Char} (spelled : Grammar.Terminal.argument.Spells word) :
    judge.reader.read (String.ofList word) = .ok (.argument (String.ofList word)) := by
  obtain ⟨tokens, derivation⟩ := Formula.derivation_of_argument spelled
  have derivation' : Derivation (String.ofList word).toList tokens
      (.argument (String.ofList word)) := by
    rwa [String.toList_ofList]
  have roomy := Reader.roomy_of_derivation derivation' (Nat.zero_le judge.reader.capacity)
  rw [Reader.read_of_derivation roomy derivation', if_pos]
  exact Int.natCast_nonneg _

/-- An index that is not given is all that is wrong with a name. -/
theorem escapes_of_argument {word : List Char} {index : Nat}
    (spelled : Grammar.Terminal.argument.Spells word)
    (decoded : Argument.decode (String.ofList word) = .ok index)
    (long : Fault.unwritable ≤ index) (few : arguments.length ≤ index) :
    judge.Escapes (String.ofList word) arguments := by
  refine ⟨.argument (String.ofList word), [], read_of_argument spelled, ?_⟩
  rw [Formula.faults, Formula.argumentFaults, decoded]
  simp only [Nat.not_lt_of_le few, if_false, Fault.beyondArguments, long, if_true]

theorem unwritable_le : Fault.unwritable ≤ 16 ^ (3599 + 1) - 1 := by
  decide +kernel

/-- A name of 3600 letters passes through as a fault that is not reported. -/
theorem check_longName :
    Judge.standard.check (String.ofList (List.replicate 3600 'P')) [] =
      .error .unwritableIndex := by
  have escapes : Judge.standard.Escapes (String.ofList (List.replicate (3599 + 1) 'P')) [] :=
    escapes_of_argument (spells_replicate 3599) (decode_replicate 3599) unwritable_le
      (Nat.zero_le _)
  obtain ⟨-, passes, -⟩ :=
    check_total Judge.standard (String.ofList (List.replicate (3599 + 1) 'P')) []
  exact passes escapes

/-- A name of 3600 letters has no verdict: its index has 4335 digits. -/
theorem not_check_longName :
    ¬∃ verdict, Judge.standard.check (String.ofList (List.replicate 3600 'P')) [] =
      .ok verdict := by
  have escapes : Judge.standard.Escapes (String.ofList (List.replicate (3599 + 1) 'P')) [] :=
    escapes_of_argument (spells_replicate 3599) (decode_replicate 3599) unwritable_le
      (Nat.zero_le _)
  rintro ⟨verdict, decided⟩
  rw [check_of_escapes escapes] at decided
  cases decided

end Reckon.Judge
