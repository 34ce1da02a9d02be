import AndInverter.Notice

/-!
Computations that give notices on the way. A failing computation keeps the notices it gave before.
The laws say that the outcome of a sequence does not depend on notices at all, so that every
statement about results can forget them.
-/
namespace AndInverter

/-- An outcome and the notices given up to it. -/
structure Logged (ε α : Type) where
  notices : List Notice
  outcome : Except ε α

namespace Logged
variable {ε δ α β : Type}

protected def pure (a : α) : Logged ε α := ⟨[], .ok a⟩

protected def bind (x : Logged ε α) (f : α → Logged ε β) : Logged ε β :=
  match x.outcome with
  | .error e => ⟨x.notices, .error e⟩
  | .ok a => ⟨x.notices ++ (f a).notices, (f a).outcome⟩

instance : Monad (Logged ε) where
  pure := Logged.pure
  bind := Logged.bind

def silent (outcome : Except ε α) : Logged ε α := ⟨[], outcome⟩

def tell (notices : List Notice) : Logged ε Unit := ⟨notices, .ok ()⟩

def mapError (f : ε → δ) (x : Logged ε α) : Logged δ α := ⟨x.notices, x.outcome.mapError f⟩

@[simp] theorem outcome_pure (a : α) : (pure a : Logged ε α).outcome = .ok a := rfl

@[simp] theorem outcome_bind (x : Logged ε α) (f : α → Logged ε β) :
    (x >>= f).outcome = x.outcome >>= fun a => (f a).outcome := by
  show (Logged.bind x f).outcome = _
  unfold Logged.bind
  cases h : x.outcome <;> rfl

@[simp] theorem outcome_silent (r : Except ε α) : (silent r).outcome = r := rfl

@[simp] theorem outcome_tell (notices : List Notice) :
    (tell notices : Logged ε Unit).outcome = .ok () := rfl

@[simp] theorem outcome_mapError (f : ε → δ) (x : Logged ε α) :
    (x.mapError f).outcome = x.outcome.mapError f := rfl

protected theorem bind_pure (x : Logged ε α) : x.bind Logged.pure = x := by
  obtain ⟨notices, outcome⟩ := x
  cases outcome with
  | error e => rfl
  | ok a => exact congrArg (Logged.mk · (.ok a)) (List.append_nil notices)

protected theorem bind_assoc {γ : Type} (x : Logged ε α) (f : α → Logged ε β)
    (g : β → Logged ε γ) : (x.bind f).bind g = x.bind fun a => (f a).bind g := by
  obtain ⟨notices, outcome⟩ := x
  cases outcome with
  | error e => rfl
  | ok a => cases told : (f a).outcome <;> simp [Logged.bind, told]

instance : LawfulMonad (Logged ε) :=
  .mk' (Logged ε) Logged.bind_pure (fun _ _ => rfl) Logged.bind_assoc

/-- Notices take no part in what comes out of a fold. -/
theorem outcome_foldlM {σ : Type} (f : σ → α → Logged ε σ) (init : σ) (xs : List α) :
    (xs.foldlM f init).outcome = xs.foldlM (fun s x => (f s x).outcome) init := by
  induction xs generalizing init with
  | nil => rfl
  | cons x rest ih =>
    rw [List.foldlM_cons, List.foldlM_cons, outcome_bind]
    exact bind_congr fun s => ih s

end Logged

end AndInverter
