import AndInverter.Cnf

/-!
# Appending to a clause set

Clause sets are compared by the literals of their clauses, in order. A step extends a clause set by
what it appends; the number of variables and the clauses that were there stay.
-/
namespace AndInverter.Cnf

def literalLists (f : Cnf) : List (List Int) := f.clauses.toList.map Clause.lits

structure Extends (f g : Cnf) (added : List (List Int)) : Prop where
  numVars_eq : g.numVars = f.numVars
  literalLists_eq : g.literalLists = f.literalLists ++ added

variable {f g h : Cnf} {added more : List (List Int)}

theorem Extends.refl (f : Cnf) : f.Extends f [] where
  numVars_eq := rfl
  literalLists_eq := (List.append_nil _).symm

theorem Extends.trans (first : f.Extends g added) (second : g.Extends h more) :
    f.Extends h (added ++ more) where
  numVars_eq := second.numVars_eq.trans first.numVars_eq
  literalLists_eq := by
    rw [second.literalLists_eq, first.literalLists_eq, List.append_assoc]

theorem extends_push (f : Cnf) (c : Clause) : f.Extends (f.push c) [c.lits] where
  numVars_eq := rfl
  literalLists_eq := by simp [literalLists, push]

/-- Clauses are their literals, so clause sets with the same literals have the same clauses. -/
theorem literalLists_inj : g.literalLists = f.literalLists ↔ g.clauses = f.clauses := by
  rw [literalLists, literalLists, List.map_inj_right fun _ _ => Clause.ext, Array.toList_inj]

/-- What was appended stands behind the clauses that were there. -/
theorem clauses_prefix (grown : g.literalLists = f.literalLists ++ added) :
    f.clauses.toList <+: g.clauses.toList := by
  obtain ⟨front, back, split, same, _⟩ := List.map_eq_append_iff.mp grown
  have old : front = f.clauses.toList := (List.map_inj_right fun _ _ => Clause.ext).mp same
  exact ⟨back, by rw [split, old]⟩

theorem length_literalLists (f : Cnf) : f.literalLists.length = f.numClauses := by
  rw [literalLists, List.length_map, Array.length_toList, numClauses]

theorem numClauses_of_grown (grown : g.literalLists = f.literalLists ++ added) :
    g.numClauses = f.numClauses + added.length := by
  rw [← length_literalLists, grown, List.length_append, length_literalLists]

def Legal (lits : List Int) : Prop := lits.length ≤ 3 ∧ 0 ∉ lits

theorem ofLits_of_legal {lits : List Int} (legal : Legal lits) :
    ∃ c : Clause, Clause.ofLits lits = .ok c ∧ c.lits = lits :=
  ⟨⟨lits, legal.1, legal.2⟩, Clause.ofLits_eq_ok_iff.mpr rfl, rfl⟩

/-- Literals that make clauses are all appended. -/
theorem addClauses_of_legal (f : Cnf) {ls : List (List Int)} (legal : ∀ lits ∈ ls, Legal lits) :
    (f.addClauses ls).outcome = .ok () ∧ f.Extends (f.addClauses ls).cnf ls := by
  induction ls generalizing f with
  | nil => exact ⟨rfl, .refl f⟩
  | cons lits rest ih =>
    obtain ⟨c, hc, hlits⟩ := ofLits_of_legal (legal lits List.mem_cons_self)
    obtain ⟨outcome, grown⟩ := ih (f.push c) fun l hl => legal l (List.mem_cons_of_mem lits hl)
    have first : f.Extends (f.push c) [lits] := hlits ▸ f.extends_push c
    simp only [addClauses, hc]
    exact ⟨outcome, first.trans grown⟩

end AndInverter.Cnf
