import Mathlib.Data.List.Basic
import Reckon.Grammar.Expected

/-!
# Records of what was expected

Records of failed terminals are combined associatively, and a record that already holds what
still counts of another one is not changed by it (`Expected.Covers.merge_eq`).
-/

namespace Reckon.Grammar

namespace Expected

theorem mem_union {first second : List Terminal} {kind : Terminal} :
    kind ∈ union first second ↔ kind ∈ first ∨ kind ∈ second := by
  by_cases listed : kind ∈ first <;> simp [union, listed]

theorem union_assoc (first second third : List Terminal) :
    union (union first second) third = union first (union second third) := by
  have split : third.filter (· ∉ union first second) =
      (third.filter (· ∉ second)).filter (· ∉ first) := by
    rw [List.filter_filter]
    refine List.filter_congr fun kind _ => ?_
    simp [mem_union, not_or]
  simp only [union] at split ⊢
  rw [split, List.filter_append, List.append_assoc]

theorem union_of_subset {first second : List Terminal} (listed : second ⊆ first) :
    union first second = first := by
  have nothing : second.filter (· ∉ first) = [] := by
    refine List.filter_eq_nil_iff.mpr fun kind member => ?_
    simpa using listed member
  rw [union, nothing, List.append_nil]

theorem merge_of_lt {record other : Expected} (before : record.position < other.position) :
    record.merge other = other := by
  rw [merge, if_pos before]

theorem merge_of_gt {record other : Expected} (behind : other.position < record.position) :
    record.merge other = record := by
  rw [merge, if_neg (Nat.lt_asymm behind), if_pos behind]

theorem merge_of_eq {record other : Expected} (same : other.position = record.position) :
    record.merge other = { record with terminals := union record.terminals other.terminals } := by
  rw [merge, if_neg (by omega), if_neg (by omega)]

/-- The later position wins. -/
theorem position_merge (record other : Expected) :
    (record.merge other).position = max record.position other.position := by
  rcases Nat.lt_trichotomy record.position other.position with before | same | behind
  · rw [merge_of_lt before]
    omega
  · rw [merge_of_eq same.symm]
    dsimp only
    omega
  · rw [merge_of_gt behind]
    omega

theorem none_merge (record : Expected) : none.merge record = record := by
  rcases Nat.eq_zero_or_pos record.position with start | later
  · rw [merge_of_eq start]
    simp [none, union, ← start]
  · exact merge_of_lt later

theorem merge_none (record : Expected) : record.merge none = record := by
  rcases Nat.eq_zero_or_pos record.position with start | later
  · rw [merge_of_eq start.symm]
    simp [none, union]
  · exact merge_of_gt later

/-- Records can be merged in any grouping, so that a run may be cut anywhere. -/
theorem merge_assoc (first second third : Expected) :
    (first.merge second).merge third = first.merge (second.merge third) := by
  rcases Nat.lt_trichotomy first.position second.position with before | same | behind
  · have later : first.position < (second.merge third).position := by
      rw [position_merge]
      omega
    rw [merge_of_lt before, merge_of_lt later]
  · rcases Nat.lt_trichotomy second.position third.position with before' | same' | behind'
    · have later : (first.merge second).position < third.position := by
        rw [position_merge]
        omega
      rw [merge_of_lt later, merge_of_lt before', merge_of_lt (same ▸ before')]
    · rw [merge_of_eq same.symm, merge_of_eq same'.symm, merge_of_eq (by simp [same, same']),
        merge_of_eq (by simp [same])]
      simp only [union_assoc]
    · rw [merge_of_gt behind', merge_of_gt]
      rw [position_merge]
      omega
  · rw [merge_of_gt behind]
    rcases Nat.lt_trichotomy second.position third.position with before' | same' | behind'
    · rw [merge_of_lt before']
    · rw [merge_of_gt (same' ▸ behind), merge_of_gt]
      rw [position_merge]
      omega
    · rw [merge_of_gt (Nat.lt_trans behind' behind), merge_of_gt behind', merge_of_gt behind]

/-- A record holds everything of another one that still counts. -/
def Covers (record other : Expected) : Prop :=
  other.position < record.position ∨
    (other.position = record.position ∧ other.terminals ⊆ record.terminals)

/-- What a record covers adds nothing to it. -/
theorem Covers.merge_eq {record other : Expected} (covers : record.Covers other) :
    record.merge other = record := by
  rcases covers with before | ⟨same, listed⟩
  · exact merge_of_gt before
  · rw [merge_of_eq same, union_of_subset listed]

theorem covers_merge (record other : Expected) : (record.merge other).Covers other := by
  rcases Nat.lt_trichotomy record.position other.position with before | same | behind
  · rw [merge_of_lt before]
    exact Or.inr ⟨rfl, List.Subset.refl _⟩
  · rw [merge_of_eq same.symm]
    exact Or.inr ⟨same.symm, fun kind member => mem_union.mpr (Or.inr member)⟩
  · rw [merge_of_gt behind]
    exact Or.inl behind

/-- A record that is continued still holds what it held. -/
theorem Covers.merge {record other : Expected} (covers : record.Covers other)
    (later : Expected) : (record.merge later).Covers other := by
  rcases Nat.lt_trichotomy record.position later.position with before | same | behind
  · rw [merge_of_lt before]
    rcases covers with shorter | ⟨same, -⟩
    · exact Or.inl (Nat.lt_trans shorter before)
    · exact Or.inl (same ▸ before)
  · rw [merge_of_eq same.symm]
    refine covers.imp id fun ⟨same', listed⟩ => ⟨same', fun kind member => ?_⟩
    exact mem_union.mpr (Or.inl (listed member))
  · rw [merge_of_gt behind]
    exact covers

end Expected

end Reckon.Grammar
