import Mathlib.Data.List.Forall2

/-!
# Successful outcomes

A sequence of steps succeeds exactly if each of them does, with the results passed on; the same for
a step taken on every entry of a list. If it is the entry alone that makes a step fail, a run fails
with the first such entry.
-/
namespace AndInverter.Outcome

variable {ε δ α β : Type}

theorem bind_eq_ok_iff {x : Except ε α} {f : α → Except ε β} {b : β} :
    x >>= f = .ok b ↔ ∃ a, x = .ok a ∧ f a = .ok b := by
  cases x with
  | error e => simp [bind, Except.bind]
  | ok a => simp [bind, Except.bind]

/-- A step fails as its first part does, or as the second one does after the first. -/
theorem bind_eq_error_iff {x : Except ε α} {f : α → Except ε β} {e : ε} :
    x >>= f = .error e ↔ x = .error e ∨ ∃ a, x = .ok a ∧ f a = .error e := by
  cases x with
  | error d => simp [bind, Except.bind]
  | ok a => simp [bind, Except.bind]

theorem map_eq_ok_iff {x : Except ε α} {f : α → β} {b : β} :
    x.map f = .ok b ↔ ∃ a, x = .ok a ∧ f a = b := by
  cases x with
  | error e => simp [Except.map]
  | ok a => simp [Except.map]

theorem map_eq_error_iff {x : Except ε α} {f : α → β} {e : ε} :
    x.map f = .error e ↔ x = .error e := by
  cases x <;> simp [Except.map]

theorem mapError_eq_ok_iff {x : Except ε α} {f : ε → δ} {a : α} :
    x.mapError f = .ok a ↔ x = .ok a := by
  cases x with
  | error e => simp [Except.mapError]
  | ok b => simp [Except.mapError]

theorem mapM_eq_ok_iff {f : α → Except ε β} {xs : List α} {ys : List β} :
    xs.mapM f = .ok ys ↔ List.Forall₂ (fun x y => f x = .ok y) xs ys := by
  induction xs generalizing ys with
  | nil => simp [pure, Except.pure, eq_comm]
  | cons x rest ih =>
    simp only [List.mapM_cons, bind_eq_ok_iff, List.forall₂_cons_left_iff, ih]
    constructor
    · rintro ⟨y, hy, tail, ht, h⟩
      cases h
      exact ⟨y, tail, hy, ht, rfl⟩
    · rintro ⟨y, tail, hy, ht, rfl⟩
      exact ⟨y, hy, tail, ht, rfl⟩

/-- A step taken on every entry fails with the first entry on which it does. -/
theorem mapM_eq_error_iff {f : α → Except ε β} {xs : List α} {e : ε} :
    xs.mapM f = .error e ↔ ∃ before x after, xs = before ++ x :: after ∧
      (∀ y ∈ before, ∃ z, f y = .ok z) ∧ f x = .error e := by
  induction xs with
  | nil => simp [pure, Except.pure]
  | cons first rest ih =>
    rw [List.mapM_cons, bind_eq_error_iff]
    constructor
    · rintro (here | ⟨z, passed, later⟩)
      · exact ⟨[], first, rest, rfl, by simp, here⟩
      · rcases bind_eq_error_iff.mp later with later | ⟨_, _, ⟨⟩⟩
        obtain ⟨before, x, after, rfl, passes, fails⟩ := ih.mp later
        exact ⟨first :: before, x, after, rfl,
          List.forall_mem_cons.mpr ⟨⟨z, passed⟩, passes⟩, fails⟩
    · rintro ⟨_ | ⟨first', before⟩, x, after, split, passes, fails⟩
      · cases split
        exact Or.inl fails
      · cases split
        obtain ⟨⟨z, passed⟩, passes⟩ := List.forall_mem_cons.mp passes
        exact Or.inr ⟨z, passed, bind_eq_error_iff.mpr
          (Or.inl (ih.mpr ⟨before, x, after, rfl, passes, fails⟩))⟩

section Problems
variable {σ : Type} {f : σ → α → Except ε σ} (problem? : α → Option ε) (given? : α → Option β)
  (put : σ → β → σ)

/-- A run over entries without a problem puts down what they give, if anything, one after the other.
The first problem ends every other run. -/
theorem foldlM_eq (fails : ∀ s x e, problem? x = some e → f s x = .error e)
    (passes : ∀ s x, problem? x = none → f s x = .ok ((given? x).elim s (put s))) (xs : List α)
    (start : σ) :
    xs.foldlM f start = match xs.findSome? problem? with
      | none => .ok ((xs.filterMap given?).foldl put start)
      | some e => .error e := by
  induction xs generalizing start with
  | nil => rfl
  | cons x rest ih =>
    rw [List.foldlM_cons, List.findSome?_cons]
    cases found : problem? x with
    | some e =>
      rw [fails start x e found]
      rfl
    | none =>
      rw [passes start x found, List.filterMap_cons]
      cases given? x with
      | none => exact ih start
      | some y => exact ih (put start y)

theorem foldlM_eq_ok_iff (fails : ∀ s x e, problem? x = some e → f s x = .error e)
    (passes : ∀ s x, problem? x = none → f s x = .ok ((given? x).elim s (put s))) {xs : List α}
    {start last : σ} : xs.foldlM f start = .ok last ↔
      (∀ x ∈ xs, problem? x = none) ∧ (xs.filterMap given?).foldl put start = last := by
  rw [foldlM_eq problem? given? put fails passes, ← List.findSome?_eq_none_iff]
  cases xs.findSome? problem? with
  | none => simp
  | some e => simp

theorem foldlM_eq_error_iff (fails : ∀ s x e, problem? x = some e → f s x = .error e)
    (passes : ∀ s x, problem? x = none → f s x = .ok ((given? x).elim s (put s))) {xs : List α}
    {start : σ} {e : ε} : xs.foldlM f start = .error e ↔
      ∃ before x after, xs = before ++ x :: after ∧ problem? x = some e ∧
        ∀ y ∈ before, problem? y = none := by
  rw [foldlM_eq problem? given? put fails passes, ← List.findSome?_eq_some_iff]
  cases xs.findSome? problem? with
  | none => simp
  | some e => simp

end Problems

section Stops
variable {problem? : α → Option ε} {xs before : List α} {x : α} {stop : Option ε}

/-- The entries in front of the first one with a problem, and that problem. Without a problem these
are all entries. -/
inductive UpTo (problem? : α → Option ε) : List α → List α → Option ε → Prop
  | all {xs : List α} (clear : ∀ x ∈ xs, problem? x = none) : UpTo problem? xs xs none
  | first {before : List α} {x : α} {after : List α} {e : ε}
      (clear : ∀ y ∈ before, problem? y = none) (found : problem? x = some e) :
      UpTo problem? (before ++ x :: after) before (some e)

theorem UpTo.here {e : ε} (found : problem? x = some e) (after : List α) :
    UpTo problem? (x :: after) [] (some e) := by
  have clear : ∀ y ∈ ([] : List α), problem? y = none := by simp
  exact .first clear found

theorem UpTo.cons (clear : problem? x = none) (rest : UpTo problem? xs before stop) :
    UpTo problem? (x :: xs) (x :: before) stop := by
  cases rest with
  | all others => exact .all (List.forall_mem_cons.mpr ⟨clear, others⟩)
  | first others found => exact .first (List.forall_mem_cons.mpr ⟨clear, others⟩) found

/-- Entries without a problem are passed to the end. -/
theorem UpTo.eq_of_forall (upTo : UpTo problem? xs before stop)
    (clear : ∀ x ∈ xs, problem? x = none) : before = xs ∧ stop = none := by
  cases upTo with
  | all _ => exact ⟨rfl, rfl⟩
  | first _ found =>
    rw [clear _ (List.mem_append_right _ List.mem_cons_self)] at found
    cases found

/-- Searching for the first problem splits the entries at it. -/
theorem upTo (problem? : α → Option ε) (xs : List α) :
    UpTo problem? xs (xs.takeWhile fun x => (problem? x).isNone) (xs.findSome? problem?) := by
  induction xs with
  | nil => exact .all (by simp)
  | cons x rest ih =>
    rw [List.findSome?_cons, List.takeWhile_cons]
    cases h : problem? x with
    | some e => exact .here h rest
    | none => exact ih.cons h

end Stops

section Agreement
variable {α' β' : Type} {q : ε → δ → Prop} {r : α → α' → Prop} {s : β → β' → Prop}

/-- Two outcomes that agree: both are results and related by `r`, or both are errors and related by
`q`. -/
inductive Agree (q : ε → δ → Prop) (r : α → α' → Prop) : Except ε α → Except δ α' → Prop
  | ok {a : α} {b : α'} (related : r a b) : Agree q r (.ok a) (.ok b)
  | error {e : ε} {d : δ} (related : q e d) : Agree q r (.error e) (.error d)

theorem Agree.with_result {x : Except ε α} {y : Except δ α'} (agree : Agree q r x y) :
    Agree q (fun a b => x = .ok a ∧ r a b) x y := by
  cases agree with
  | ok related => exact .ok ⟨rfl, related⟩
  | error related => exact .error related

/-- Steps that agree one after the other agree as a whole. -/
theorem Agree.bind {x : Except ε α} {y : Except δ α'} {f : α → Except ε β} {g : α' → Except δ β'}
    (first : Agree q r x y) (next : ∀ a b, r a b → Agree q s (f a) (g b)) :
    Agree q s (x >>= f) (y >>= g) := by
  cases first with
  | ok related => exact next _ _ related
  | error related => exact .error related

theorem Agree.mapM {f : α → Except ε β} {g : α' → Except δ β'} {xs : List α} {ys : List α'}
    (each : List.Forall₂ (fun x y => Agree q s (f x) (g y)) xs ys) :
    Agree q (List.Forall₂ s) (xs.mapM f) (ys.mapM g) := by
  induction each with
  | nil => exact .ok .nil
  | cons here _ ih =>
    rw [List.mapM_cons, List.mapM_cons]
    exact here.bind fun a b head => ih.bind fun as bs tail => .ok (.cons head tail)

end Agreement

/-- A relation that reaches something from each entry reaches a list from the list. -/
theorem exists_forall₂ {r : α → β → Prop} {xs : List α} (reach : ∀ x ∈ xs, ∃ y, r x y) :
    ∃ ys, List.Forall₂ r xs ys := by
  induction xs with
  | nil => exact ⟨[], .nil⟩
  | cons x rest ih =>
    obtain ⟨y, hy⟩ := reach x List.mem_cons_self
    obtain ⟨ys, hys⟩ := ih fun x' hx => reach x' (List.mem_cons_of_mem x hx)
    exact ⟨y :: ys, .cons hy hys⟩

theorem exists_of_mem_left {r : α → β → Prop} {xs : List α} {ys : List β}
    (related : List.Forall₂ r xs ys) {x : α} (hx : x ∈ xs) : ∃ y ∈ ys, r x y := by
  induction related with
  | nil => simp at hx
  | cons head _ ih =>
    rcases List.mem_cons.mp hx with rfl | hx
    · exact ⟨_, List.mem_cons_self, head⟩
    · obtain ⟨y, hy, h⟩ := ih hx
      exact ⟨y, List.mem_cons_of_mem _ hy, h⟩

theorem exists_of_mem_right {r : α → β → Prop} {xs : List α} {ys : List β}
    (related : List.Forall₂ r xs ys) {y : β} (hy : y ∈ ys) : ∃ x ∈ xs, r x y := by
  obtain ⟨x, hx, h⟩ := exists_of_mem_left related.flip hy
  exact ⟨x, hx, h⟩

end AndInverter.Outcome
