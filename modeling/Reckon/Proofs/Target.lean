import Mathlib.Data.List.TakeWhile
import Reckon.Target

/-!
# Targets that lead to themselves

A path from the root is sent as it stands if it names no host and no query and no components of
dots lead back in it, and it is received as it was sent if it holds no escapes.
-/

namespace Reckon.Target

/-- A path from the root, without a host, a query and components of dots, is sent as it stands. -/
theorem sentPath_eq {rest : List Char} (single : rest.head? ≠ some '/')
    (plain : '?' ∉ rest ∧ '#' ∉ rest) (direct : withoutDots ('/' :: rest) = '/' :: rest) :
    sentPath ('/' :: rest) = .ok ('/' :: rest) := by
  have scheme : splitScheme ('/' :: rest) = ([], '/' :: rest) := rfl
  have authority : splitAuthority ('/' :: rest) = ([], '/' :: rest) := by
    rw [splitAuthority]
    rintro other same
    cases same
    exact single rfl
  have unquestioned : ('/' :: rest).takeWhile (fun c => c ≠ '?' && c ≠ '#') = '/' :: rest := by
    rw [List.takeWhile_eq_self_iff]
    intro c member
    rcases List.mem_cons.mp member with rfl | member
    · rfl
    · have queryless : c ≠ '?' := fun same => plain.1 (same ▸ member)
      have whole : c ≠ '#' := fun same => plain.2 (same ▸ member)
      simp [queryless, whole]
  have nobody : Authority.ofText [] = { user := [], host := [], number := [] } := rfl
  have hostless : Host.defect? [] = none := by decide
  have rooted : ('/' :: rest).dropWhile (· = '/') = rest := by
    cases rest with
    | nil => rfl
    | cons c rest =>
        have other : c ≠ '/' := fun same => single (congrArg some same)
        simp [other]
  have apart : ['/', '/'].isPrefixOf ('/' :: rest) = false := by
    cases rest with
    | nil => rfl
    | cons c rest =>
        have other : '/' ≠ c := fun same => single (congrArg some same.symm)
        simp [List.isPrefixOf, other]
  have unnumbered : (String.ofList []).isEmpty = true := rfl
  have colonless : (some '/' : Option Char) ≠ some ':' := by decide
  simp only [sentPath, scheme, authority, unquestioned, nobody, hostless, apart, unnumbered,
    List.head?_cons, colonless, Authority.isEmpty, List.isEmpty_nil, Bool.and_true, Bool.not_true,
    Bool.false_and, Bool.and_false, Bool.true_or, decide_false, Bool.false_eq_true, if_false,
    if_true, rooted, direct]
  rfl

/-- A target that is sent and decoded unchanged is its own path. -/
theorem path_eq {text : List Char} (short : text.length ≤ longest)
    (printable : text.find? isControl = none) (sent : sentPath text = .ok text)
    (decoded : withoutEnd (decodeEscapes (decodeEscapes text)) = text) :
    path (String.ofList text) = .ok (String.ofList text) := by
  simp only [path, String.toList_ofList, if_neg (Nat.not_lt_of_le short), printable, sent]
  change Except.ok (String.ofList (withoutEnd (decodeEscapes (decodeEscapes text)))) = _
  rw [decoded]

/-- The path to the judge leads to itself. -/
theorem path_evaluate : path "/evaluate" = .ok "/evaluate" := by
  have direct : withoutDots "/evaluate".toList = "/evaluate".toList := by
    have parts : "/evaluate".splitOn "/" = ["", "evaluate"] := by
      simp +decide [String.splitOn, String.splitOnAux]
    rw [withoutDots, String.ofList_toList, parts]
    decide
  apply path_eq
  · decide
  · decide
  · exact sentPath_eq (by decide) (by decide) direct
  · decide

end Reckon.Target
