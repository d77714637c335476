import Reckon.Proofs.Formula.Phrase

/-!
# The tokens of a formula

`Formula.symbols` writes a formula out again, with numbers as values and everything else as
words.  The tokens of a phrase are exactly the symbols of its formula, in order
(`Phrase.symbols`).
-/

namespace Reckon.Formula

open Grammar (Level Rule Terminal Token)

/-- What a token tells: the value of a number, or a word. -/
inductive Symbol where
  | number (value : Float)
  | word (letters : String)

def Symbol.ofToken (token : Token) : Symbol :=
  if token.kind = .number then
    number (literalValue token.word)
  else
    word (String.ofList token.word)

mutual

/-- The symbols of a formula, from left to right. -/
def symbols : Formula → List Symbol
  | number value => [.number value]
  | argument letters => [.word letters]
  | call name inputs => .word name :: .word "(" :: (symbolsInputs inputs ++ [.word ")"])
  | prefixed operator operand => .word operator :: operand.symbols
  | chain _ first links => first.symbols ++ symbolsLinks links
  | group inside => .word "(" :: (inside.symbols ++ [.word ")"])
  | link operator operand => .word operator :: operand.symbols
  | noOperand _ | plain _ => []

/-- The symbols of the inputs of a call, with commas between them. -/
def symbolsInputs : List Formula → List Symbol
  | [] => []
  | [input] => input.symbols
  | input :: next :: inputs => input.symbols ++ .word "," :: symbolsInputs (next :: inputs)

def symbolsLinks : List (String × Formula) → List Symbol
  | [] => []
  | (operator, operand) :: links => .word operator :: (operand.symbols ++ symbolsLinks links)

end

theorem symbols_joined (level : Level) (first : Formula) (links : List (String × Formula)) :
    (joined level first links).symbols = first.symbols ++ symbolsLinks links := by
  cases links with
  | nil => rw [joined, symbolsLinks, List.append_nil]
  | cons next links => rw [joined, symbols]

theorem Symbol.ofToken_of_kind {token : Token} {kind : Terminal} (same : token.kind = kind)
    (different : kind ≠ .number) : Symbol.ofToken token = .word (String.ofList token.word) := by
  rw [Symbol.ofToken, same, if_neg different]

/-- A token of a terminal with one word tells that word. -/
theorem Symbol.ofToken_of_words {token : Token} {kind : Terminal} {letters : List Char}
    (same : token.kind = kind) (only : kind.words = [letters])
    (fixed : ∀ word, kind.Spells word ↔ word ∈ kind.words) (different : kind ≠ .number) :
    Symbol.ofToken token = .word (String.ofList letters) := by
  have spelled := token.spelled
  rw [same, fixed, only, List.mem_singleton] at spelled
  rw [ofToken_of_kind same different, spelled]

/-- Links contribute their operators and operands in the order of the text. -/
theorem symbols_links {links : List Link} {level : Level}
    (kinds : ∀ link ∈ links, link.operator.kind = level.operator)
    (operands : ∀ link ∈ links, link.tokens.map Symbol.ofToken = link.operand.symbols) :
    (links.flatMap Link.all).map Symbol.ofToken = symbolsLinks (links.map Link.entry) := by
  induction links with
  | nil => rfl
  | cons link links inductionHypothesis =>
      obtain ⟨kind, kinds⟩ := List.forall_mem_cons.mp kinds
      obtain ⟨next, operands⟩ := List.forall_mem_cons.mp operands
      have operator : Symbol.ofToken link.operator = .word (String.ofList link.operator.word) :=
        Symbol.ofToken_of_kind kind (by cases level <;> simp [Level.operator])
      rw [List.flatMap_cons, Link.all, List.cons_append, List.map_cons, List.map_append, operator,
        next, inductionHypothesis kinds operands, List.map_cons, Link.entry, symbolsLinks]

/-- The tokens of a phrase are the symbols of its formula. -/
theorem Phrase.symbols {name : Rule} {tokens : List Token} {formula : Formula}
    (phrase : Phrase name tokens formula) : tokens.map Symbol.ofToken = formula.symbols := by
  have opens {token : Token} (kind : token.kind = .openParenthesis) :
      Symbol.ofToken token = .word "(" :=
    Symbol.ofToken_of_words kind rfl (fun _ => Iff.rfl) (by simp)
  have closes {token : Token} (kind : token.kind = .closeParenthesis) :
      Symbol.ofToken token = .word ")" :=
    Symbol.ofToken_of_words kind rfl (fun _ => Iff.rfl) (by simp)
  have separates {token : Token} (kind : token.kind = .comma) :
      Symbol.ofToken token = .word "," :=
    Symbol.ofToken_of_words kind rfl (fun _ => Iff.rfl) (by simp)
  induction phrase with
  | number kind => rw [List.map_singleton, Symbol.ofToken, if_pos kind, Formula.symbols]
  | argument kind =>
      rw [List.map_singleton, Symbol.ofToken_of_kind kind (by simp), Formula.symbols]
  | group openingKind closingKind _ inside =>
      rw [List.map_cons, List.map_append, List.map_singleton, opens openingKind,
        closes closingKind, inside, Formula.symbols]
  | unaryCall nameKind openingKind closingKind _ input =>
      rw [List.map_cons, List.map_cons, List.map_append, List.map_singleton,
        Symbol.ofToken_of_kind nameKind (by simp), opens openingKind, closes closingKind, input,
        Formula.symbols, symbolsInputs]
  | binaryCall nameKind openingKind separatorKind closingKind _ _ first second =>
      rw [List.map_cons, List.map_cons, List.map_append, List.map_cons, List.map_append,
        List.map_singleton, Symbol.ofToken_of_kind nameKind (by simp), opens openingKind,
        separates separatorKind, closes closingKind, first, second, Formula.symbols,
        symbolsInputs, symbolsInputs, List.append_assoc, List.cons_append]
  | enclosed _ _ inner | bare _ inner => exact inner
  | prefixed kind _ operand =>
      rw [List.map_cons, Symbol.ofToken_of_kind kind (by simp), operand, Formula.symbols]
  | chain links _ kinds _ first operands =>
      rw [List.map_append, first, symbols_links kinds operands, symbols_joined]

end Reckon.Formula
