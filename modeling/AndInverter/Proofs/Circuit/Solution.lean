import AndInverter.Circuit.Evaluation

/-!
# Solutions as valuations

A solution is a table of the variables from 1 up to its length and says nothing about others. Within
these bounds it is determined by the valuation it stands for, and every valuation has a solution.
-/
namespace AndInverter

variable {s t : Array Bool} {v : UInt64}

/-- The value of a variable is an entry of the solution, not a default. -/
def HasPlace (s : Array Bool) (v : UInt64) : Prop :=
  v ≠ 0 ∧ s[v.toNat - 1]? = some (valueOf s v)

theorem hasPlace_of_le (named : v ≠ 0) (le : v.toNat ≤ s.size) : HasPlace s v := by
  have nonzero := Word.toNat_ne_zero named
  have inside : v.toNat - 1 < s.size := by omega
  refine ⟨named, ?_⟩
  rw [valueOf, bne_iff_ne.mpr named, Bool.true_and, Array.getElem?_eq_getElem inside]
  simp [inside]

/-- Outside its bounds a solution is false everywhere. -/
theorem valueOf_of_not_hasPlace (outside : v = 0 ∨ s.size < v.toNat) : valueOf s v = false := by
  rcases outside with rfl | beyond
  · rfl
  · have past : s.size ≤ v.toNat - 1 := by omega
    rw [valueOf, Array.getD_eq_getD_getElem?, Array.getElem?_eq_none past]
    simp

/-- Solutions of one length with the same values are equal. -/
theorem eq_of_valueOf_eq (room : s.size < UInt64.size) (size : s.size = t.size)
    (same : ∀ v, valueOf s v = valueOf t v) : s = t := by
  apply Array.ext_getElem?
  intro i
  by_cases inside : i < s.size
  · have word : (UInt64.ofNat (i + 1)).toNat = i + 1 := UInt64.toNat_ofNat_of_lt' (by omega)
    have named : UInt64.ofNat (i + 1) ≠ 0 := by
      intro zero
      rw [zero] at word
      exact absurd word.symm (Nat.succ_ne_zero i)
    obtain ⟨_, left⟩ := hasPlace_of_le (s := s) named (by omega)
    obtain ⟨_, right⟩ := hasPlace_of_le (s := t) named (by omega)
    rw [word, Nat.add_sub_cancel] at left right
    rw [left, right, same]
  · rw [Array.getElem?_eq_none (by omega), Array.getElem?_eq_none (by omega)]

def tabulate (maxVar : UInt64) (value : UInt64 → Bool) : Array Bool :=
  Array.ofFn fun i : Fin maxVar.toNat => value (UInt64.ofNat (i + 1))

theorem size_tabulate (maxVar : UInt64) (value : UInt64 → Bool) :
    (tabulate maxVar value).size = maxVar.toNat := Array.size_ofFn

theorem valueOf_tabulate (value : UInt64 → Bool) {maxVar : UInt64} (named : v ≠ 0)
    (le : v ≤ maxVar) : valueOf (tabulate maxVar value) v = value v := by
  have nonzero := Word.toNat_ne_zero named
  have le := UInt64.le_iff_toNat_le.mp le
  have inside : v.toNat - 1 < (tabulate maxVar value).size := by rw [size_tabulate]; omega
  have entry : (tabulate maxVar value)[v.toNat - 1] = value v := by
    have index : UInt64.ofNat (v.toNat - 1 + 1) = v := by
      rw [Nat.sub_add_cancel (Nat.pos_of_ne_zero nonzero), UInt64.ofNat_toNat]
    simp only [tabulate, Array.getElem_ofFn, index]
  obtain ⟨_, place⟩ := hasPlace_of_le (s := tabulate maxVar value) named (by omega)
  rw [Array.getElem?_eq_getElem inside, entry] at place
  exact (Option.some.inj place).symm

end AndInverter
