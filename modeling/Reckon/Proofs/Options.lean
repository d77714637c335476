import Mathlib
import Reckon.Options

/-!
# Valid options

The options that an environment and explicit values can choose are those with a bound from zero
on and with room for one construct at least (`Options.valid_iff`).
-/

namespace Reckon

namespace Validation

variable {α β : Type}

theorem map_eq_ok {checked : Checked α} {f : α → β} {value : β} :
    checked.map f = .ok value ↔ ∃ argument, checked = .ok argument ∧ f argument = value := by
  cases checked with
  | error problems => simp [Except.map]
  | ok argument => simp [Except.map]

theorem bind_eq_ok {ε : Type} {result : Except ε α} {next : α → Except ε β} {value : β} :
    result >>= next = .ok value ↔
      ∃ argument, result = .ok argument ∧ next argument = .ok value := by
  cases result with
  | error reason => simp [Bind.bind, Except.bind]
  | ok argument => simp [Bind.bind, Except.bind]

theorem both_eq_ok {first : Checked α} {second : Checked β} {pair : α × β} :
    both first second = .ok pair ↔ first = .ok pair.1 ∧ second = .ok pair.2 := by
  cases first with
  | error problems => simp [both]
  | ok a =>
      cases second with
      | error problems => simp [both]
      | ok b => simp [both, Prod.ext_iff]

end Validation

namespace Options

open Validation (map_eq_ok bind_eq_ok both_eq_ok)

variable {environment : List (String × String)} {explicit : List (String × Json)}
  {options : Options}

/-- The bounds that options keep. -/
structure Valid (options : Options) : Prop where
  epsilon : Double.zero ≤ options.epsilon
  nestingLimit : 1 ≤ options.nestingLimit

theorem valid_default : default.Valid := by
  constructor
  · decide
  · decide

/-- What holds of a default and of all that values are converted to holds of what is chosen. -/
theorem holds_of_choice {α : Type} {holds : α → Prop} {given : Option Json} {otherwise choice : α}
    {steps : List Validation.Step} {convert : Json → Except Validation.Complaint α}
    (byDefault : holds otherwise)
    (converted : ∀ value result, convert value = .ok result → holds result)
    (chosen : (match given with
      | some value => Validation.place steps (convert value)
      | none => .ok otherwise) = .ok choice) : holds choice := by
  cases given with
  | none =>
      cases chosen
      exact byDefault
  | some value =>
      apply converted value
      change Validation.place steps (convert value) = .ok choice at chosen
      cases result : convert value with
      | error complaint =>
          rw [result] at chosen
          cases chosen
      | ok other =>
          rw [result] at chosen
          cases chosen
          rfl

theorem valid_of_sources (chosen : ofSources environment explicit = .ok options) :
    options.Valid := by
  simp only [ofSources, map_eq_ok, both_eq_ok] at chosen
  obtain ⟨⟨⟨epsilon, nestingLimit, packrat⟩, texts⟩, ⟨⟨chosenEpsilon, chosenLimit, -⟩, -⟩, rfl⟩ :=
    chosen
  constructor
  · apply holds_of_choice valid_default.epsilon _ chosenEpsilon
    intro value result converted
    obtain ⟨double, -, bounded⟩ := bind_eq_ok.mp converted
    split at bounded
    · cases bounded
      assumption
    · cases bounded
  · apply holds_of_choice valid_default.nestingLimit _ chosenLimit
    intro value result converted
    obtain ⟨limit, -, bounded⟩ := bind_eq_ok.mp converted
    split at bounded
    · cases bounded
      omega
    · cases bounded

/-- Explicit values that choose given options. -/
def explicitly (options : Options) : List (String × Json) :=
  [("epsilon", .double options.epsilon), ("max_nesting_depth", .integer options.nestingLimit),
    ("packrat", .truth options.packrat), ("log_level", .text options.logLevel),
    ("app_title", .text options.title), ("app_version", .text options.version)]

/-- Explicit values come before the environment. -/
theorem given?_explicitly (environment : List (String × String)) (options : Options) :
    names.map (given? environment options.explicitly) = options.explicitly.map (some ·.2) := by
  cbv

/-- Valid options can be given explicitly, in every environment. -/
theorem ofSources_explicitly (environment : List (String × String)) (valid : options.Valid) :
    ofSources environment options.explicitly = .ok options := by
  have given := given?_explicitly environment options
  simp only [ofSources]
  generalize given? environment options.explicitly = choice at given ⊢
  rw [names, explicitly] at given
  simp only [List.map_cons, List.map_nil, List.cons.injEq] at given
  obtain ⟨epsilon, nestingLimit, packrat, logLevel, title, version, -⟩ := given
  rw [epsilon, nestingLimit, packrat, logLevel, title, version]
  have bounded : (1 : Int) ≤ options.nestingLimit := Int.ofNat_le.mpr valid.nestingLimit
  simp [Validation.toDouble, Validation.toInteger, Validation.toTruth, Validation.toText,
    valid.epsilon, bounded, Validation.place, Validation.both, Except.map, pure, Except.pure,
    bind, Except.bind]

/-- The valid options are those that some sources choose. -/
theorem valid_iff :
    options.Valid ↔ ∃ environment explicit, ofSources environment explicit = .ok options := by
  constructor
  · intro valid
    exact ⟨[], options.explicitly, ofSources_explicitly [] valid⟩
  · rintro ⟨environment, explicit, chosen⟩
    exact valid_of_sources chosen

end Options

end Reckon
