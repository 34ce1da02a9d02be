import AndInverter.Proofs.Cnf.Satisfaction

/-!
# The first clause that fails

A check goes through the clauses in order and ends at the first one that fails, with its place.
Places are followed through lists that are put together from parts, so that the clause that ends a
check leads back to the part it came from.
-/
namespace AndInverter

/-- The entry stands at the place and fails, and every entry before it holds. -/
structure FirstFailing {α : Type} (p : α → Prop) (xs : List α) (i : Nat) (x : α) : Prop where
  here : xs[i]? = some x
  fails : ¬ p x
  before : ∀ j y, j < i → xs[j]? = some y → p y

section Places
variable {α β : Type} {p q : α → Prop} {xs ys : List α} {x y : α} {i : Nat}

theorem not_firstFailing_nil : ¬ FirstFailing p [] i x := by
  intro first
  have here := first.here
  simp at here

/-- Of a list with one more entry in front, the entry itself or one behind it fails first. -/
theorem firstFailing_cons_iff : FirstFailing p (x :: xs) i y ↔
    (i = 0 ∧ x = y ∧ ¬ p x) ∨ (p x ∧ ∃ j, i = j + 1 ∧ FirstFailing p xs j y) := by
  constructor
  · rintro ⟨here, fails, before⟩
    cases i with
    | zero =>
      obtain rfl : x = y := by simpa using here
      exact Or.inl ⟨rfl, rfl, fails⟩
    | succ j =>
      have holds : p x := before 0 x (by omega) rfl
      refine Or.inr ⟨holds, j, rfl, by simpa using here, fails, ?_⟩
      intro k z lt found
      exact before (k + 1) z (by omega) (by simpa using found)
  · rintro (⟨rfl, rfl, fails⟩ | ⟨holds, j, rfl, here, fails, before⟩)
    · exact ⟨rfl, fails, fun j y lt => by omega⟩
    · refine ⟨by simpa using here, fails, ?_⟩
      intro k z lt found
      cases k with
      | zero =>
        obtain rfl : x = z := by simpa using found
        exact holds
      | succ k => exact before k z (by omega) (by simpa using found)

namespace FirstFailing

theorem mem (first : FirstFailing p xs i x) : x ∈ xs := List.mem_of_getElem? first.here

theorem congr (same : ∀ y ∈ xs, p y ↔ q y) (first : FirstFailing p xs i x) :
    FirstFailing q xs i x where
  here := first.here
  fails holds := first.fails ((same x first.mem).mpr holds)
  before j y lt found := (same y (List.mem_of_getElem? found)).mp (first.before j y lt found)

theorem map {f : β → α} {zs : List β} {z : β} (first : FirstFailing (fun z => p (f z)) zs i z) :
    FirstFailing p (zs.map f) i (f z) where
  here := by simp [first.here]
  fails := first.fails
  before := by
    intro j y lt found
    obtain ⟨w, hw, rfl⟩ := by simpa using found
    exact first.before j w lt hw

/-- In two lists behind each other the first failure is in the first, or the first holds. -/
theorem of_append (first : FirstFailing p (xs ++ ys) i x) :
    (i < xs.length ∧ FirstFailing p xs i x) ∨
      (xs.length ≤ i ∧ (∀ y ∈ xs, p y) ∧ FirstFailing p ys (i - xs.length) x) := by
  obtain ⟨here, fails, before⟩ := first
  by_cases inside : i < xs.length
  · refine Or.inl ⟨inside, ?_, fails, ?_⟩
    · rwa [List.getElem?_append_left inside] at here
    · intro j y lt found
      refine before j y lt ?_
      rwa [List.getElem?_append_left (by omega)]
  · refine Or.inr ⟨by omega, ?_, ?_, fails, ?_⟩
    · intro y hy
      obtain ⟨j, lt, found⟩ := List.mem_iff_getElem.mp hy
      refine before j y (by omega) ?_
      rw [List.getElem?_append_left lt, List.getElem?_eq_getElem lt, found]
    · rwa [List.getElem?_append_right (by omega)] at here
    · intro j y lt found
      refine before (xs.length + j) y (by omega) ?_
      rwa [List.getElem?_append_right (by omega), Nat.add_sub_cancel_left]

/-- In blocks of one width the first failure is in the first block that does not hold as a whole. -/
theorem of_flatMap {f : β → List α} {width : Nat} (pos : 0 < width)
    (size : ∀ b, (f b).length = width) {bs : List β} (first : FirstFailing p (bs.flatMap f) i x) :
    ∃ b, FirstFailing (fun b => ∀ y ∈ f b, p y) bs (i / width) b := by
  induction bs generalizing i with
  | nil => exact absurd first not_firstFailing_nil
  | cons b rest ih =>
    rw [List.flatMap_cons] at first
    rcases first.of_append with ⟨inside, here⟩ | ⟨behind, holds, later⟩
    · have block : i / width = 0 := Nat.div_eq_of_lt (size b ▸ inside)
      have fails : ¬ ∀ y ∈ f b, p y := fun all => here.fails (all x here.mem)
      exact ⟨b, firstFailing_cons_iff.mpr (Or.inl ⟨block, rfl, fails⟩)⟩
    · rw [size b] at behind later
      obtain ⟨b', found⟩ := ih later
      have block : i / width = (i - width) / width + 1 := Nat.div_eq_sub_div pos behind
      exact ⟨b', firstFailing_cons_iff.mpr (Or.inr ⟨holds, _, block, found⟩)⟩

/-- Entries that each give one stand where the ones they give stand. -/
theorem of_filterMap {f : β → Option α} {bs : List β} (gives : ∀ b ∈ bs, (f b).isSome = true)
    (first : FirstFailing p (bs.filterMap f) i x) :
    ∃ b, FirstFailing (fun b => ∀ y, f b = some y → p y) bs i b := by
  induction bs generalizing i with
  | nil => exact absurd first not_firstFailing_nil
  | cons b rest ih =>
    obtain ⟨⟨given, found⟩, others⟩ :=
      (List.forall_mem_cons.mp gives).imp_left Option.isSome_iff_exists.mp
    rw [List.filterMap_cons_some found, firstFailing_cons_iff] at first
    rcases first with ⟨rfl, rfl, fails⟩ | ⟨holds, j, rfl, later⟩
    · have fails : ¬ ∀ y, f b = some y → p y := fun all => fails (all given found)
      exact ⟨b, firstFailing_cons_iff.mpr (Or.inl ⟨rfl, rfl, fails⟩)⟩
    · obtain ⟨b', later⟩ := ih others later
      have holds : ∀ y, f b = some y → p y := by
        intro y same
        rw [found] at same
        exact Option.some.inj same ▸ holds
      exact ⟨b', firstFailing_cons_iff.mpr (Or.inr ⟨holds, j, rfl, later⟩)⟩

end FirstFailing

end Places

namespace Cnf
variable {f : Cnf} {solution : Array Bool} {c : Clause}

/-- The check stops at the first clause that fails and counts from where it began. -/
theorem firstViolated_eq_violated_iff (room : solution.size < UInt64.size) (start : Nat)
    {clauses : List Clause} (declared : ∀ c ∈ clauses, ∀ lit ∈ c.lits, Declared solution.size lit)
    {index : Nat} : firstViolated solution start clauses = .ok (.violated index c) ↔
      ∃ i, index = start + i ∧
        FirstFailing (fun c => Satisfies (valueOf solution) c.lits) clauses i c := by
  induction clauses generalizing start with
  | nil => simp [firstViolated, not_firstFailing_nil]
  | cons first rest ih =>
    have later := ih (start + 1) fun c hc => declared c (List.mem_cons_of_mem first hc)
    have found := anyTrue_eq room (declared first List.mem_cons_self)
    simp only [firstViolated, Clause.satisfiedBy, found, firstFailing_cons_iff]
    cases h : first.lits.any (signedTrue (valueOf solution)) with
    | true =>
      have holds : Satisfies (valueOf solution) first.lits := List.any_eq_true.mp h
      simp only [bind, Except.bind, if_true, later, holds, not_true_eq_false, and_false, false_or,
        true_and]
      constructor
      · rintro ⟨i, rfl, here⟩
        exact ⟨i + 1, by omega, i, rfl, here⟩
      · rintro ⟨_, rfl, i, rfl, here⟩
        exact ⟨i, by omega, here⟩
    | false =>
      have fails : ¬ Satisfies (valueOf solution) first.lits := by
        intro holds
        rw [List.any_eq_true.mpr holds] at h
        cases h
      constructor
      · intro stopped
        cases stopped
        exact ⟨0, rfl, Or.inl ⟨rfl, rfl, fails⟩⟩
      · rintro ⟨_, rfl, ⟨rfl, rfl, _⟩ | ⟨holds, _⟩⟩
        · rfl
        · exact absurd holds fails

/-- A solution is rejected with the first clause that it does not satisfy. -/
theorem verify_eq_violated_iff (size : solution.size = f.numVars.toNat)
    (declared : ∀ lits ∈ f.literalLists, ∀ lit ∈ lits, Declared f.numVars.toNat lit) {i : Nat} :
    f.verify solution = .ok (.violated i c) ↔
      FirstFailing (fun c => Satisfies (valueOf solution) c.lits) f.clauses.toList i c := by
  have room : solution.size < UInt64.size := size ▸ f.numVars.toNat_lt_size
  rw [verify_eq size,
    firstViolated_eq_violated_iff room 0 (size ▸ forall_mem_literalLists.mp declared)]
  simp

end Cnf

end AndInverter
