import Reckon.Formula.Draft
import Reckon.Proofs.Formula.Faults
import Reckon.Proofs.Formula.Phrase

/-!
# Formulas of texts are legal

Every operator of a phrase exists and every argument name stands for an index, so that a formula
of a text passes the checks of drafts (`Phrase.legal`), and nothing can be wrong with it but
arguments that are not given and functions that do not exist (`Phrase.faults_ordinary`).
-/

namespace Reckon

open Grammar (Level Rule Terminal Token)

/-! ## Words -/

theorem Operator.isSome_unary?_of_spells {word : List Char}
    (spelled : Terminal.prefixOperator.Spells word) :
    (Operator.unary? (String.ofList word)).isSome = true := by
  have words : word = ['!'] ∨ word = ['~'] := by
    simpa [Terminal.Spells, Terminal.words] using spelled
  rcases words with rfl | rfl <;> rfl

/-- Every spelling of an operator that the grammar knows has an operation. -/
theorem Operator.isSome_binary?_of_spells (level : Level) {word : List Char}
    (spelled : level.operator.Spells word) :
    (Operator.binary? (String.ofList word)).isSome = true := by
  have known : ∀ word ∈ level.operator.words,
      (Operator.binary? (String.ofList word)).isSome = true := by
    cases level <;> simp [Level.operator, Terminal.words, Operator.binary?]
  refine known word ?_
  cases level <;> exact spelled

/-- The letters that the grammar takes for argument names can be decoded. -/
theorem Argument.exists_decodeLetters {word : List Char}
    (letters : ∀ c ∈ word, Grammar.isArgumentLetter c = true) :
    ∃ index, Argument.decodeLetters word = .ok index := by
  induction word with
  | nil => exact ⟨0, rfl⟩
  | cons c word inductionHypothesis =>
      obtain ⟨letter, others⟩ := List.forall_mem_cons.mp letters
      obtain ⟨index, decoded⟩ := inductionHypothesis others
      rw [Argument.decodeLetters, Argument.letterValue?, if_pos letter, decoded]
      exact ⟨_, rfl⟩

/-- Every argument name of a text stands for an index. -/
theorem Argument.exists_decode_of_spells {word : List Char}
    (spelled : Terminal.argument.Spells word) :
    ∃ index, Argument.decode (String.ofList word) = .ok index := by
  obtain ⟨nonempty, letters⟩ := spelled
  obtain ⟨index, decoded⟩ := Argument.exists_decodeLetters letters
  have filled : (String.ofList word).isEmpty = false := by
    simpa [String.isEmpty_iff] using nonempty
  exact ⟨index, by rw [Argument.decode, filled, String.toList_ofList, decoded]; rfl⟩

namespace Formula

/-! ## Ordinary faults -/

/-- What may be wrong with a formula of some tokens: an argument name among them stands for an
index behind the last argument, or a function does not exist. -/
inductive Ordinary (functions : Function.Table) (count : Nat) (tokens : List Token) :
    Fault → Prop
  | argument {token : Token} {index : Nat} :
      token ∈ tokens →
      token.kind = .argument →
      Argument.decode (String.ofList token.word) = .ok index →
      count ≤ index →
      Ordinary functions count tokens (.beyondArguments (String.ofList token.word) index count)
  | function {name : String} {arity : Nat} :
      functions.contains name arity = false →
      Ordinary functions count tokens (.unknownFunction name arity)

variable {functions : Function.Table} {count : Nat} {tokens others : List Token} {fault : Fault}

theorem Ordinary.mono (ordinary : Ordinary functions count tokens fault)
    (listed : tokens ⊆ others) : Ordinary functions count others fault := by
  cases ordinary with
  | argument member kind decoded beyond =>
      exact .argument (listed member) kind decoded beyond
  | function unknown => exact .function unknown

/-- An index that cannot be written out belongs to an argument name. -/
theorem Ordinary.exists_argument (ordinary : Ordinary functions count tokens .unwritableIndex) :
    ∃ token ∈ tokens, token.kind = .argument ∧
      ∃ index, Argument.decode (String.ofList token.word) = .ok index ∧
        count ≤ index ∧ Fault.unwritable ≤ index := by
  generalize kept : Fault.unwritableIndex = fault at ordinary
  cases ordinary with
  | @argument token index member kind decoded beyond =>
      refine ⟨token, member, kind, index, decoded, beyond, ?_⟩
      by_cases long : Fault.unwritable ≤ index
      · exact long
      · rw [Fault.beyondArguments, if_neg long] at kept
        cases kept
  | function unknown => cases kept

theorem ordinary_of_callFaults {name : String} {arity : Nat}
    (member : fault ∈ callFaults functions name arity) :
    Ordinary functions count tokens fault := by
  rw [callFaults] at member
  split at member
  · cases member
  · rename_i unknown
    obtain rfl := List.mem_singleton.mp member
    exact .function (Bool.eq_false_iff.mpr unknown)

theorem operatorFaults_of_isSome {α : Type} {operator : String} {operation : Option α}
    (known : operation.isSome = true) : operatorFaults operator operation = [] := by
  obtain ⟨_, rfl⟩ := Option.isSome_iff_exists.mp known
  rfl

theorem faults_joined (level : Level) (first : Formula) (links : List (String × Formula)) :
    (joined level first links).faults functions count =
      first.faults functions count ++ faultsLinks functions count links := by
  cases links with
  | nil => rw [joined, faultsLinks, List.append_nil]
  | cons next links => rw [joined, faults]

theorem ordinary_of_faultsLinks {level : Level} {links : List Link}
    (kinds : ∀ link ∈ links, link.operator.kind = level.operator)
    (operands : ∀ link ∈ links, ∀ fault ∈ link.operand.faults functions count,
      Ordinary functions count link.tokens fault)
    (member : fault ∈ faultsLinks functions count (links.map Link.entry)) :
    Ordinary functions count (links.flatMap Link.all) fault := by
  induction links with
  | nil => simp [faultsLinks] at member
  | cons link links inductionHypothesis =>
      obtain ⟨kind, kinds⟩ := List.forall_mem_cons.mp kinds
      obtain ⟨next, operands⟩ := List.forall_mem_cons.mp operands
      have known := Operator.isSome_binary?_of_spells level (kind ▸ link.operator.spelled)
      rw [List.map_cons, Link.entry, faultsLinks, operatorFaults_of_isSome known,
        List.append_nil, List.mem_append] at member
      rw [List.flatMap_cons]
      rcases member with inside | later
      · refine (next fault inside).mono fun token listed => ?_
        exact List.mem_append_left _ (List.mem_cons_of_mem _ listed)
      · exact (inductionHypothesis kinds operands later).mono (List.subset_append_right _ _)

/-- Nothing but arguments and functions may be missing in a phrase. -/
theorem Phrase.faults_ordinary {name : Rule} {formula : Formula}
    (phrase : Phrase name tokens formula) :
    ∀ fault ∈ formula.faults functions count, Ordinary functions count tokens fault := by
  induction phrase with
  | number kind => simp [faults]
  | @argument token kind =>
      intro fault member
      obtain ⟨index, decoded⟩ := Argument.exists_decode_of_spells (kind ▸ token.spelled)
      rw [faults, argumentFaults, decoded] at member
      dsimp only at member
      split at member
      · cases member
      · rename_i beyond
        rw [List.mem_singleton.mp member]
        exact .argument List.mem_cons_self kind decoded (Nat.le_of_not_lt beyond)
  | group _ _ _ inside =>
      intro fault member
      rw [faults] at member
      refine (inside fault member).mono fun token listed => ?_
      simp [listed]
  | unaryCall _ _ _ _ input =>
      intro fault member
      rw [faults, faultsAll, faultsAll, List.append_nil, List.mem_append] at member
      rcases member with inside | unknown
      · refine (input fault inside).mono fun token listed => ?_
        simp [listed]
      · exact ordinary_of_callFaults unknown
  | binaryCall _ _ _ _ _ _ first second =>
      intro fault member
      rw [faults, faultsAll, faultsAll, faultsAll, List.append_nil, List.mem_append,
        List.mem_append] at member
      rcases member with (inside | inside) | unknown
      · refine (first fault inside).mono fun token listed => ?_
        simp [listed]
      · refine (second fault inside).mono fun token listed => ?_
        simp [listed]
      · exact ordinary_of_callFaults unknown
  | enclosed _ _ inner | bare _ inner => exact inner
  | @prefixed operator _ _ kind _ operand =>
      intro fault member
      have known := Operator.isSome_unary?_of_spells (kind ▸ operator.spelled)
      rw [faults, operatorFaults_of_isSome known, List.nil_append] at member
      exact (operand fault member).mono (List.subset_cons_self _ _)
  | chain links _ kinds _ first operands =>
      intro fault member
      rw [faults_joined, List.mem_append] at member
      rcases member with inside | later
      · exact (first fault inside).mono (List.subset_append_left _ _)
      · exact (ordinary_of_faultsLinks kinds operands later).mono (List.subset_append_right _ _)

/-! ## Legal formulas -/

/-- A draft is a formula, and the checks of its nodes find no problem. -/
structure Legal (draft : Draft) (formula : Formula) : Prop where
  same : draft.toFormula = formula
  described : draft.describe = .ok (.ofNode formula)
  checked : draft.check = .ok formula

theorem Legal.number (value : Float) : Legal (.number value) (.number value) :=
  ⟨rfl, rfl, rfl⟩

theorem Legal.argument (letters : String) : Legal (.argument letters) (.argument letters) :=
  ⟨rfl, rfl, rfl⟩

theorem Legal.group {draft : Draft} {inside : Formula} (legal : Legal draft inside) :
    Legal (.group draft) (.group inside) := by
  have described : (Draft.group draft).describe = .ok (.ofNode (.group inside)) := by
    simp [Draft.describe, legal.described, Draft.node, Record.group, Record.kind, Record.part,
      List.lookup_cons, Description.ofNode, within, together, Validation.both, bind, Except.bind,
      Except.map]
  exact ⟨by rw [Draft.toFormula, legal.same], described, by rw [Draft.check, described]; rfl⟩

theorem Legal.prefixed {operator : String} {draft : Draft} {operand : Formula}
    (known : (Operator.unary? operator).isSome = true) (legal : Legal draft operand) :
    Legal (.prefixed operator draft) (.prefixed operator operand) := by
  have described : (Draft.prefixed operator draft).describe =
      .ok (.ofNode (.prefixed operator operand)) := by
    simp [Draft.describe, legal.described, Draft.node, Draft.word, Record.prefixed, Record.kind,
      Record.part, List.lookup_cons, Description.ofNode, Description.ofPlain, Description.plain,
      wordIf, known, within, together, Validation.both, bind, Except.bind, Except.map]
  exact ⟨by rw [Draft.toFormula, legal.same], described, by rw [Draft.check, described]; rfl⟩

theorem ofElements_ok {α : Type} (found : List α) :
    ∃ fit, ofElements (found.map fun value => (.ok (value, .asIs) : Outcome α)) =
      .ok (found, fit) := by
  have placed (step : Nat → Validation.Step) : ∃ values,
      Validation.all ((found.map fun value => (.ok (value, .asIs) : Outcome α)).mapIdx
        fun index outcome => within (step index) outcome) = .ok values ∧
          values.map (·.1) = found := by
    induction found generalizing step with
    | nil => exact ⟨[], rfl, rfl⟩
    | cons value found inductionHypothesis =>
        obtain ⟨values, all, same⟩ := inductionHypothesis fun index => step (index + 1)
        refine ⟨(value, .asIs) :: values, ?_, by rw [List.map_cons, same]⟩
        rw [List.map_cons, List.mapIdx_cons, Validation.all]
        simp only [within] at all ⊢
        rw [all]
        rfl
  obtain ⟨values, all, same⟩ := placed fun index => .index index
  exact ⟨.all (values.map (·.2)), by rw [ofElements, all, ← same]; rfl⟩

structure LegalAll (drafts : List Draft) (formulas : List Formula) : Prop where
  same : Draft.toFormulas drafts = formulas
  described : Draft.describeAll drafts = .ok (formulas.map .ofNode)

theorem LegalAll.nil : LegalAll [] [] :=
  ⟨rfl, rfl⟩

theorem LegalAll.cons {draft : Draft} {formula : Formula} {drafts : List Draft}
    {formulas : List Formula} (legal : Legal draft formula) (others : LegalAll drafts formulas) :
    LegalAll (draft :: drafts) (formula :: formulas) where
  same := by rw [Draft.toFormulas, legal.same, others.same]
  described := by
    rw [Draft.describeAll, legal.described, others.described]
    rfl

/-- A record of a name and of one or two inputs describes a call. -/
theorem exists_call (name : String) {inputs : Description} {formulas : List Formula} {fit : Fit}
    (found : inputs.inputs = .ok (formulas, fit)) :
    ∃ whole, Record.call [("name", Draft.word name), ("args", inputs)] =
      .ok (.call name formulas, whole) := by
  simp [Record.call, Record.kind, Record.part, List.lookup_cons, Draft.word, Description.ofPlain,
    Description.plain, Validation.toText, found, within, together, Validation.both, Except.map]

/-- A call of one or two legal inputs is legal. -/
theorem Legal.call (name : String) {drafts : List Draft} {formula : Formula}
    {formulas : List Formula} (few : formulas.length ≤ 1)
    (legal : LegalAll drafts (formula :: formulas)) :
    Legal (.call name drafts) (.call name (formula :: formulas)) := by
  obtain ⟨fit, elements⟩ := ofElements_ok (formula :: formulas)
  let inputs := Description.ofList .null ((formula :: formulas).map .ofNode)
  have found : inputs.inputs = .ok (formula :: formulas, fit) := by
    have parts : ((formula :: formulas).map Description.ofNode).map (·.formula) =
        (formula :: formulas).map fun value => (.ok (value, .asIs) : Outcome Formula) := by
      rw [List.map_map]
      rfl
    have notMany : ¬2 < ((formula :: formulas).map Description.ofNode).length := by
      rw [List.length_map, List.length_cons]
      omega
    simp only [inputs, Description.ofList, if_neg notMany, parts, elements, nonempty]
  obtain ⟨whole, record⟩ := exists_call name found
  have described : (Draft.call name drafts).describe =
      .ok (.ofNode (.call name (formula :: formulas))) := by
    rw [Draft.describe, legal.described]
    change Draft.node (·.call) [("name", Draft.word name), ("args", inputs)] = _
    rw [Draft.node, record]
    rfl
  refine ⟨?_, described, by rw [Draft.check, described]; rfl⟩
  rw [Draft.toFormula, legal.same]

/-- The drafts of some links, whose operators exist. -/
structure LegalLinks (drafts : List Draft) (links : List (String × Formula)) : Prop where
  same : Draft.toLinks drafts = links
  described : Draft.describeAll drafts =
    .ok (links.map fun (operator, operand) => .ofLink operator operand)

theorem LegalLinks.nil : LegalLinks [] [] :=
  ⟨rfl, rfl⟩

theorem LegalLinks.cons {operator : String} {draft : Draft} {operand : Formula}
    {drafts : List Draft} {links : List (String × Formula)}
    (known : (Operator.binary? operator).isSome = true) (legal : Legal draft operand)
    (others : LegalLinks drafts links) :
    LegalLinks (.link operator draft :: drafts) ((operator, operand) :: links) where
  same := by simp [Draft.toLinks, Draft.toFormula, legal.same, others.same]
  described := by
    simp [Draft.describeAll, Draft.describe, legal.described, others.described, Draft.word,
      Record.link, Record.part, List.lookup_cons, Description.ofNode, Description.ofPlain,
      Description.plain, wordIf, known, within, together, Validation.both, bind, Except.bind,
      Except.map, pure, Except.pure]

/-- A record of a known level, of an operand and of links describes a chain. -/
theorem exists_chain {word : String} {first rest : Description} {formula : Formula}
    {links : List (String × Formula)} {fit fit' : Fit}
    (known : (Level.ofLabel? word).isSome = true) (operand : first.formula = .ok (formula, fit))
    (others : rest.links = .ok (links, fit')) :
    ∃ whole, Record.chain [("level", Draft.word word), ("first", first), ("rest", rest)] =
      .ok (.chain word formula links, whole) := by
  simp [Record.chain, Record.kind, Record.part, List.lookup_cons, Draft.word, Description.ofPlain,
    Description.choice, Description.plain, wordIf, known, operand, others, within, together,
    Validation.both, Except.map]

/-- A chain of legal parts is legal if it has a link at least. -/
theorem Legal.chain (level : Level) {draft : Draft} {first : Formula} {drafts : List Draft}
    {link : String × Formula} {links : List (String × Formula)} (legal : Legal draft first)
    (legal' : LegalLinks drafts (link :: links)) :
    Legal (.chain level.label draft drafts) (.chain level.label first (link :: links)) := by
  have known : (Level.ofLabel? level.label).isSome = true := by cases level <;> decide
  obtain ⟨fit, elements⟩ := ofElements_ok (link :: links)
  let rest := Description.ofList .null
    ((link :: links).map fun (operator, operand) => .ofLink operator operand)
  have others : rest.links = .ok (link :: links, fit) := by
    have parts : ((link :: links).map fun (operator, operand) =>
        Description.ofLink operator operand).map (·.link) =
        (link :: links).map fun value => (.ok (value, .asIs) : Outcome (String × Formula)) := by
      rw [List.map_map]
      rfl
    simp only [rest, Description.ofList, parts, elements, nonempty]
  have operand : (Description.ofNode first).formula = .ok (first, .asIs) := rfl
  obtain ⟨whole, record⟩ := exists_chain known operand others
  have described : (Draft.chain level.label draft drafts).describe =
      .ok (.ofNode (.chain level.label first (link :: links))) := by
    rw [Draft.describe, legal.described, legal'.described]
    change Draft.node (·.chain) [("level", Draft.word level.label),
      ("first", Description.ofNode first), ("rest", rest)] = _
    rw [Draft.node, record]
    rfl
  refine ⟨?_, described, by rw [Draft.check, described]; rfl⟩
  rw [Draft.toFormula, legal.same, legal'.same]

theorem exists_legalLinks {level : Level} {links : List Link}
    (kinds : ∀ link ∈ links, link.operator.kind = level.operator)
    (operands : ∀ link ∈ links, ∃ draft, Legal draft link.operand) :
    ∃ drafts, LegalLinks drafts (links.map Link.entry) := by
  induction links with
  | nil => exact ⟨[], .nil⟩
  | cons link links inductionHypothesis =>
      obtain ⟨kind, kinds⟩ := List.forall_mem_cons.mp kinds
      obtain ⟨⟨draft, legal⟩, operands⟩ := List.forall_mem_cons.mp operands
      obtain ⟨drafts, others⟩ := inductionHypothesis kinds operands
      have known := Operator.isSome_binary?_of_spells level (kind ▸ link.operator.spelled)
      exact ⟨_, .cons known legal others⟩

/-- The formula of a phrase passes the checks of its nodes. -/
theorem Phrase.legal {name : Rule} {formula : Formula}
    (phrase : Phrase name tokens formula) : ∃ draft, Legal draft formula := by
  induction phrase with
  | number kind => exact ⟨_, .number _⟩
  | argument kind => exact ⟨_, .argument _⟩
  | group _ _ _ inside =>
      obtain ⟨draft, legal⟩ := inside
      exact ⟨_, legal.group⟩
  | unaryCall _ _ _ _ input =>
      obtain ⟨draft, legal⟩ := input
      exact ⟨_, .call _ (by simp) (.cons legal .nil)⟩
  | binaryCall _ _ _ _ _ _ first second =>
      obtain ⟨draft, legal⟩ := first
      obtain ⟨draft', legal'⟩ := second
      exact ⟨_, .call _ (by simp) (.cons legal (.cons legal' .nil))⟩
  | enclosed _ _ inner | bare _ inner => exact inner
  | @prefixed operator _ _ kind _ operand =>
      obtain ⟨draft, legal⟩ := operand
      exact ⟨_, legal.prefixed (Operator.isSome_unary?_of_spells (kind ▸ operator.spelled))⟩
  | @chain level _ _ links _ kinds _ first operands =>
      obtain ⟨draft, legal⟩ := first
      obtain ⟨drafts, legalLinks⟩ := exists_legalLinks kinds operands
      cases links with
      | nil => exact ⟨draft, legal⟩
      | cons link links => exact ⟨_, .chain level legal legalLinks⟩

end Formula

end Reckon
