import Reckon.Proofs.Text.Wrap
import Reckon.Text.BoxedTable

/-!
# What drawn tables show

A row of two words that have room in their columns is drawn in one line
(`BoxedTable.cellLines_of_isWord`, `BoxedTable.rowLines_of_singletons`).  The lines of any other
row begin with what stands in its left column (`BoxedTable.leads_of_mem_rowLines`).  Whatever the
cells contain, a drawn line is one line (`BoxedTable.newline_notMem_draw`).
-/

namespace Reckon

namespace BoxedTable

variable {table : BoxedTable} {column : Column} {margins : Margins} {cells : List String}
  {cell : String} {line left right : List Char} {width screen : Nat} {widths : Nat × Nat}
  {row : String × String}

/-! ## Widths -/

/-- A column has room for each of its cells. -/
theorem naturalWidth_le_widthFor (margins : Margins) (member : cell ∈ cells) :
    naturalWidth cell + margins.before + margins.behind ≤ widthFor margins cells := by
  have widest : naturalWidth cell ≤ (cells.map naturalWidth).max?.getD 0 :=
    List.le_max?_getD_of_mem (List.mem_map_of_mem member)
  rw [widthFor, List.foldl_max]
  omega

theorem naturalWidth_of_isWord (single : Text.lines cell = [line]) (word : Text.IsWord line) :
    naturalWidth cell = line.length := by
  rw [naturalWidth, single, List.map_singleton, Text.width_of_narrow word.narrow]
  simp

/-! ## Cells -/

/-- Whether its column wraps or not, a word that fits is one line. -/
theorem contentLines_of_isWord (single : Text.lines cell = [line]) (word : Text.IsWord line)
    (flush : column.flushRight = false) (fits : line.length ≤ width) :
    contentLines column width cell = [line ++ Text.blanks (width - line.length)] := by
  have pieces : (if column.wraps then Text.fill width [] (Text.words line) else [line]) =
      [line] := by
    by_cases wraps : column.wraps
    · rw [if_pos wraps, Text.fill_of_isWord width word]
    · rw [if_neg wraps]
  rw [contentLines, single, flush]
  simp only [List.flatMap_singleton, Text.expandTabs_of_narrow word.narrow, pieces,
    Bool.false_eq_true, if_false, List.map_singleton, Text.fitLeft_of_narrow word.narrow fits]

/-- A word that has room in its column is a single line, with the margins around it. -/
theorem cellLines_of_isWord (single : Text.lines cell = [line]) (word : Text.IsWord line)
    (flush : column.flushRight = false)
    (fits : line.length ≤ width - margins.before - margins.behind) :
    cellLines column margins width cell =
      [Text.blanks margins.before ++
        (line ++ Text.blanks (width - margins.before - margins.behind - line.length)) ++
        Text.blanks margins.behind] := by
  have filled : 0 < line.length := List.length_pos_of_ne_nil word.1
  rw [cellLines, if_neg (by omega), contentLines_of_isWord single word flush fits,
    List.map_singleton]

/-! ## Rows -/

theorem rowLines_of_singletons
    (leftLines : cellLines table.left table.leftMargins widths.1 row.1 = [left])
    (rightLines : cellLines table.right table.rightMargins widths.2 row.2 = [right]) :
    table.rowLines widths row = ['|' :: left ++ '|' :: right ++ ['|']] := by
  rw [rowLines, leftLines, rightLines]
  rfl

/-- The lines of a row begin with the only line of its left cell, or with blanks instead. -/
theorem leads_of_mem_rowLines
    (leftLines : cellLines table.left table.leftMargins widths.1 row.1 = [left])
    (member : line ∈ table.rowLines widths row) :
    '|' :: left <+: line ∨ '|' :: Text.blanks widths.1 <+: line := by
  rw [rowLines, leftLines, List.mem_map] at member
  obtain ⟨number, -, rfl⟩ := member
  rw [List.append_assoc]
  cases number with
  | zero => exact Or.inl (List.prefix_append _ _)
  | succ number => exact Or.inr (List.prefix_append _ _)

/-- What is neither the left cell nor blank leads no line of a row. -/
theorem not_prefix_of_mem_rowLines {front : List Char}
    (leftLines : cellLines table.left table.leftMargins widths.1 row.1 = [left])
    (member : line ∈ table.rowLines widths row) (short : front.length ≤ left.length + 1)
    (narrow : left.length = widths.1) (differs : ¬ front <+: '|' :: left)
    (filled : ¬ front <+: '|' :: Text.blanks widths.1) : ¬ front <+: line := by
  intro begins
  cases leads_of_mem_rowLines leftLines member with
  | inl first =>
      apply differs
      exact List.prefix_of_prefix_length_le begins first short
  | inr later =>
      apply filled
      apply List.prefix_of_prefix_length_le begins later
      rw [List.length_cons, Text.blanks, List.length_replicate, ← narrow]
      exact short

/-- Cutting lines to a screen brings no line forth that begins with a word. -/
theorem filter_cut_eq_nil {front : List Char} {lines : List (List Char)} (screen : Nat)
    (solid : ∀ c ∈ front, c ≠ ' ') (absent : ∀ line ∈ lines, ¬ front <+: line) :
    (lines.map (Text.cut screen)).filter (front.isPrefixOf ·) = [] := by
  rw [List.filter_eq_nil_iff]
  intro drawn member begins
  obtain ⟨line, inside, rfl⟩ := List.mem_map.mp member
  rw [List.isPrefixOf_iff_prefix] at begins
  exact absent line inside (Text.prefix_of_prefix_cut solid begins)

/-! ## Drawn lines -/

theorem newline_notMem_contentLines (member : line ∈ contentLines column width cell) :
    '\n' ∉ line := by
  obtain ⟨whole, inside, member⟩ := List.mem_flatMap.mp member
  obtain ⟨piece, chosen, rfl⟩ := List.mem_map.mp member
  have single : '\n' ∉ Text.expandTabs 0 whole := by
    intro newline
    cases Text.mem_expandTabs newline with
    | inl within => exact Text.newline_notMem_lines inside within
    | inr blank => cases blank
  have unbroken : '\n' ∉ piece := by
    by_cases wraps : column.wraps
    · rw [if_pos wraps] at chosen
      intro newline
      have within := List.mem_flatten_of_mem chosen newline
      rw [Text.flatten_fill, List.nil_append, Text.flatten_words] at within
      exact single within
    · rw [if_neg wraps, List.mem_singleton] at chosen
      rw [chosen]
      exact single
  by_cases flush : column.flushRight
  · rw [if_pos flush]
    exact Text.newline_notMem_fitRight unbroken
  · rw [if_neg flush]
    exact Text.newline_notMem_fitLeft unbroken

theorem newline_notMem_cellLines (member : line ∈ cellLines column margins width cell) :
    '\n' ∉ line := by
  rw [cellLines] at member
  by_cases empty : width - margins.before - margins.behind = 0
  · rw [if_pos empty, List.mem_singleton] at member
    rw [member]
    exact Text.newline_notMem_blanks width
  · rw [if_neg empty] at member
    obtain ⟨content, inside, rfl⟩ := List.mem_map.mp member
    simp [newline_notMem_contentLines inside, Text.newline_notMem_blanks]

theorem newline_notMem_getD_cellLines (column : Column) (margins : Margins) (width : Nat)
    (cell : String) (number : Nat) :
    '\n' ∉ (cellLines column margins width cell)[number]?.getD (Text.blanks width) := by
  cases found : (cellLines column margins width cell)[number]? with
  | none => exact Text.newline_notMem_blanks width
  | some line => exact newline_notMem_cellLines (List.mem_of_getElem? found)

theorem newline_notMem_rowLines (member : line ∈ table.rowLines widths row) : '\n' ∉ line := by
  obtain ⟨number, -, rfl⟩ := List.mem_map.mp member
  have left := newline_notMem_getD_cellLines table.left table.leftMargins widths.1 row.1 number
  have right := newline_notMem_getD_cellLines table.right table.rightMargins widths.2 row.2 number
  simp [left, right]

theorem newline_notMem_rule {outer inner : Char} (outside : outer ≠ '\n') (inside : inner ≠ '\n') :
    '\n' ∉ rule widths outer inner := by
  simp [rule, outside.symm, inside.symm]

/-- The characters of the lines of a title are those of the title and blanks. -/
theorem notMem_titleLines {c : Char} (absent : c ∉ table.title.toList) (visible : c ≠ ' ')
    (member : line ∈ table.titleLines widths) : c ∉ line := by
  obtain ⟨piece, chopped, rfl⟩ := List.mem_map.mp member
  have bare : c ∉ piece := by
    intro inside
    have within := List.mem_flatten_of_mem chopped inside
    rw [Text.flatten_chop, List.nil_append] at within
    exact absent within
  simp [Text.fitCentre, Text.blanks, bare, visible]

/-- No cell breaks a drawn line, so that the lines of a table are those of its output. -/
theorem newline_notMem_draw {table : BoxedTable} {line : String}
    (plain : '\n' ∉ table.title.toList) (member : line ∈ table.draw screen) :
    '\n' ∉ line.toList := by
  rw [draw] at member
  by_cases empty : screen = 0
  · rw [if_pos empty] at member
    cases member
  · rw [if_neg empty] at member
    obtain ⟨whole, listed, rfl⟩ := List.mem_map.mp member
    have unbroken : '\n' ∉ whole := by
      have border : '\n' ∉ rule (table.widths screen) '+' '-' :=
        newline_notMem_rule (by decide) (by decide)
      simp only [List.mem_append, List.mem_cons, List.not_mem_nil, or_false] at listed
      rcases listed with ((title | rfl | heading) | body) | rfl
      · exact notMem_titleLines plain (by decide) title
      · exact border
      · by_cases headed : table.headed
        · rw [if_pos headed, List.mem_append, List.mem_singleton] at heading
          rcases heading with row | rfl
          · exact newline_notMem_rowLines row
          · exact newline_notMem_rule (by decide) (by decide)
        · rw [if_neg headed] at heading
          cases heading
      · obtain ⟨row, -, inside⟩ := List.mem_flatMap.mp body
        exact newline_notMem_rowLines inside
      · exact border
    rw [String.toList_ofList]
    intro newline
    cases Text.mem_cut newline with
    | inl within => exact unbroken within
    | inr blank => cases blank

end BoxedTable

end Reckon
