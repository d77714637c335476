import Mathlib.Data.List.SplitBy
import Reckon.Text.Wrap

/-!
# Lines that are fitted into a width

A word of narrow characters that has room is one line, and nothing of it is left out
(`Text.fill_of_isWord`, `Text.fitLeft_of_narrow`, `Text.cut_of_narrow`).  Any line keeps its
characters when it is broken into pieces, and what is fitted into a width has no line feed of its
own.
-/

namespace Reckon

namespace Text

variable {limit : Nat} {line front : List Char}

/-! ## Words -/

/-- A line that is a single word, each of whose characters takes up the room of one. -/
def IsWord (line : List Char) : Prop :=
  line ≠ [] ∧ line.all fun c => characterWidth c = 1 && c ≠ ' '

instance : Decidable (IsWord line) :=
  inferInstanceAs (Decidable (_ ∧ _))

theorem IsWord.narrow (word : IsWord line) : ∀ c ∈ line, characterWidth c = 1 := by
  intro c member
  have both := List.all_eq_true.mp word.2 c member
  rw [Bool.and_eq_true, decide_eq_true_eq] at both
  exact both.1

theorem IsWord.solid (word : IsWord line) : ∀ c ∈ line, c ≠ ' ' := by
  intro c member
  have both := List.all_eq_true.mp word.2 c member
  rw [Bool.and_eq_true, decide_eq_true_eq] at both
  exact of_decide_eq_true both.2

theorem characterWidth_blanks (count : Nat) : ∀ c ∈ blanks count, characterWidth c = 1 := by
  intro c member
  rw [List.eq_of_mem_replicate member]
  rfl

/-- Narrow lines are as wide as they are long. -/
theorem width_of_narrow (narrow : ∀ c ∈ line, characterWidth c = 1) :
    width line = line.length := by
  induction line with
  | nil => rfl
  | cons c line inductionHypothesis =>
      have first := narrow c List.mem_cons_self
      have others := inductionHypothesis fun d member => narrow d (List.mem_cons_of_mem c member)
      rw [width] at others ⊢
      rw [List.map_cons, List.foldr_cons, others, first, List.length_cons, Nat.add_comm]

theorem expandTabs_of_narrow (narrow : ∀ c ∈ line, characterWidth c = 1) (room : Nat) :
    expandTabs room line = line := by
  induction line generalizing room with
  | nil => rfl
  | cons c line inductionHypothesis =>
      have noTab : c ≠ '\t' := by
        rintro rfl
        cases narrow _ List.mem_cons_self
      rw [expandTabs]
      · rw [inductionHypothesis fun d member => narrow d (List.mem_cons_of_mem c member)]
      · exact noTab

/-- What has room on a screen is not cut. -/
theorem cut_of_narrow (narrow : ∀ c ∈ line, characterWidth c = 1) (fits : line.length ≤ limit) :
    cut limit line = line := by
  induction line generalizing limit with
  | nil => rfl
  | cons c line inductionHypothesis =>
      have first := narrow c List.mem_cons_self
      rw [List.length_cons] at fits
      rw [cut, if_pos (by omega), inductionHypothesis]
      · exact fun d member => narrow d (List.mem_cons_of_mem c member)
      · omega

/-- What a cut line begins with, up to the first blank, was there before. -/
theorem prefix_of_prefix_cut (solid : ∀ c ∈ front, c ≠ ' ') (begins : front <+: cut limit line) :
    front <+: line := by
  induction line generalizing limit front with
  | nil => exact begins
  | cons c line inductionHypothesis =>
      cases front with
      | nil => exact List.nil_prefix
      | cons first front =>
          rw [cut] at begins
          by_cases fits : characterWidth c ≤ limit
          · rw [if_pos fits, List.cons_prefix_cons] at begins
            rw [List.cons_prefix_cons]
            constructor
            · exact begins.1
            · apply inductionHypothesis _ begins.2
              exact fun d member => solid d (List.mem_cons_of_mem first member)
          · rw [if_neg fits] at begins
            have blank : first ∈ blanks limit := begins.subset List.mem_cons_self
            exact absurd (List.eq_of_mem_replicate blank) (solid first List.mem_cons_self)

theorem fitLeft_of_narrow (narrow : ∀ c ∈ line, characterWidth c = 1)
    (fits : line.length ≤ limit) : fitLeft limit line = line ++ blanks (limit - line.length) := by
  have kept : trimBeyond limit line = line :=
    List.take_of_length_le (Nat.le_trans fits (Nat.le_max_left _ _))
  have whole : shorten limit line = line := by
    rw [shorten, width_of_narrow narrow, if_pos fits]
  rw [fitLeft, kept, whole, width_of_narrow narrow]

/-- A word is not broken, however narrow its column. -/
theorem words_of_isWord (word : IsWord line) : words line = [line] := by
  have chain : line.IsChain fun a b => (a ≠ ' ' || b = ' ') = true := by
    apply List.Pairwise.isChain
    apply List.pairwise_of_forall_mem_list
    intro a member b _
    simp [word.solid a member]
  rw [words, List.splitBy_of_isChain word.1 chain]

theorem fill_of_isWord (limit : Nat) (word : IsWord line) :
    fill limit [] (words line) = [line] := by
  have empty : (([] : List Char).isEmpty || width [] + width (trimEnd line) ≤ limit) = true := by
    simp
  rw [words_of_isWord word, fill, if_pos empty, List.nil_append, fill]

/-! ## What lines are made of -/

/-- The pieces between marks hold no mark. -/
theorem notMem_of_mem_splitOn {text piece : List Char} {mark : Char}
    (member : piece ∈ text.splitOn mark) : mark ∉ piece := by
  induction text generalizing piece with
  | nil =>
      rw [List.splitOn_nil, List.mem_singleton] at member
      rw [member]
      exact List.not_mem_nil
  | cons c text inductionHypothesis =>
      rw [List.splitOn_cons_eq_if_modifyHead] at member
      by_cases same : (c == mark) = true
      · rw [if_pos same, List.mem_cons] at member
        cases member with
        | inl first =>
            rw [first]
            exact List.not_mem_nil
        | inr later => exact inductionHypothesis later
      · rw [if_neg same] at member
        cases pieces : text.splitOn mark with
        | nil => exact absurd pieces (List.splitOn_ne_nil mark text)
        | cons first others =>
            rw [pieces] at member inductionHypothesis
            rw [List.modifyHead_cons, List.mem_cons] at member
            cases member with
            | inl begun =>
                rw [begun, List.mem_cons, not_or]
                constructor
                · intro equal
                  rw [equal] at same
                  exact same (beq_self_eq_true c)
                · exact inductionHypothesis List.mem_cons_self
            | inr later => exact inductionHypothesis (List.mem_cons_of_mem first later)

theorem newline_notMem_lines {text : String} (member : line ∈ lines text) : '\n' ∉ line := by
  obtain ⟨piece, inside, rfl⟩ := List.mem_map.mp member
  intro newline
  exact notMem_of_mem_splitOn inside (List.mem_filter.mp newline).1

/-- Filling lines loses nothing. -/
theorem flatten_fill (limit : Nat) (line : List Char) (words : List (List Char)) :
    (fill limit line words).flatten = line ++ words.flatten := by
  induction words generalizing line with
  | nil => simp [fill]
  | cons word words inductionHypothesis =>
      rw [fill]
      by_cases fits : (line.isEmpty || width line + width (trimEnd word) ≤ limit) = true
      · rw [if_pos fits, inductionHypothesis, List.flatten_cons, List.append_assoc]
      · rw [if_neg fits, List.flatten_cons, inductionHypothesis, List.flatten_cons]

/-- Words with the blanks behind them make up their line. -/
theorem flatten_words (line : List Char) : (words line).flatten = line := by
  have pieces := List.flatten_splitBy (fun a b => a ≠ ' ' || b = ' ') line
  rw [words]
  split
  case h_1 first second others same =>
    rw [same] at pieces
    split
    · simpa using pieces
    · exact pieces
  case h_2 => exact pieces

theorem flatten_chop (limit : Nat) (piece line : List Char) :
    (chop limit piece line).flatten = piece ++ line := by
  induction line generalizing piece with
  | nil => simp [chop]
  | cons c line inductionHypothesis =>
      rw [chop]
      by_cases fits : width piece + characterWidth c ≤ limit
      · rw [if_pos fits, inductionHypothesis, List.append_assoc, List.singleton_append]
      · rw [if_neg fits, List.flatten_cons, inductionHypothesis, List.singleton_append]

theorem mem_expandTabs {c : Char} {room : Nat} (member : c ∈ expandTabs room line) :
    c ∈ line ∨ c = ' ' := by
  induction line generalizing room with
  | nil => exact Or.inl member
  | cons d line inductionHypothesis =>
      by_cases tab : d = '\t'
      · rw [tab, expandTabs, List.mem_append] at member
        cases member with
        | inl gap => exact Or.inr (List.eq_of_mem_replicate gap)
        | inr later => exact (inductionHypothesis later).imp_left (List.mem_cons_of_mem d)
      · rw [expandTabs, List.mem_cons] at member
        · cases member with
          | inl first => exact Or.inl (first ▸ List.mem_cons_self)
          | inr later => exact (inductionHypothesis later).imp_left (List.mem_cons_of_mem d)
        · exact tab

/-- Cutting adds nothing but blanks. -/
theorem mem_cut {c : Char} (member : c ∈ cut limit line) : c ∈ line ∨ c = ' ' := by
  induction line generalizing limit with
  | nil => exact Or.inl member
  | cons d line inductionHypothesis =>
      rw [cut] at member
      by_cases fits : characterWidth d ≤ limit
      · rw [if_pos fits, List.mem_cons] at member
        cases member with
        | inl first => exact Or.inl (first ▸ List.mem_cons_self)
        | inr later => exact (inductionHypothesis later).imp_left (List.mem_cons_of_mem d)
      · rw [if_neg fits] at member
        exact Or.inr (List.eq_of_mem_replicate member)

theorem newline_notMem_shorten (single : '\n' ∉ line) : '\n' ∉ shorten limit line := by
  intro newline
  rw [shorten] at newline
  by_cases fits : width line ≤ limit
  · rw [if_pos fits] at newline
    exact single newline
  · rw [if_neg fits, List.mem_append, List.mem_singleton] at newline
    rcases newline with start | ellipsis
    · cases mem_cut start with
      | inl within => exact single within
      | inr blank => cases blank
    · cases ellipsis

theorem newline_notMem_blanks (count : Nat) : '\n' ∉ blanks count := by
  intro newline
  cases List.eq_of_mem_replicate newline

theorem newline_notMem_fitLeft (single : '\n' ∉ line) : '\n' ∉ fitLeft limit line := by
  have start : '\n' ∉ trimBeyond limit line := fun newline => single (List.mem_of_mem_take newline)
  rw [fitLeft, List.mem_append, not_or]
  exact ⟨newline_notMem_shorten start, newline_notMem_blanks _⟩

theorem newline_notMem_fitRight (single : '\n' ∉ line) : '\n' ∉ fitRight limit line := by
  have start : '\n' ∉ trimEnd line := by
    rw [trimEnd, List.mem_reverse]
    intro newline
    exact single (List.mem_reverse.mp ((List.dropWhile_sublist _).subset newline))
  rw [fitRight, List.mem_append, not_or]
  exact ⟨newline_notMem_blanks _, newline_notMem_shorten start⟩

end Text

end Reckon
