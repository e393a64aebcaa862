/-
  The outcome of compiling a schema: a result or a failure, and in either case
  the component names that were written in place of an inline schema of their
  shape, in the order in which they were met.
-/
import ApiTypes.Failure

namespace ApiTypes

/-- A result or a failure, with the names matched on the way. -/
structure Outcome (α : Type) where
  result : Except Failure α
  matched : List String

namespace Outcome

variable {α β : Type}

/-- A result without matches. -/
def done (a : α) : Outcome α := ⟨.ok a, []⟩

/-- What can fail but matches nothing. -/
def ofExcept (result : Except Failure α) : Outcome α := ⟨result, []⟩

/-- Notes a match. -/
def note (name : String) : Outcome Unit := ⟨.ok (), [name]⟩

/-- Goes on with a result; a failure ends it. The matches of both parts count. -/
def andThen (x : Outcome α) (f : α → Outcome β) : Outcome β :=
  match x.result with
  | .error e => ⟨.error e, x.matched⟩
  | .ok a => ⟨(f a).result, x.matched ++ (f a).matched⟩

instance : Monad Outcome where
  pure := done
  bind := andThen

@[simp]
theorem pure_eq (a : α) : (pure a : Outcome α) = ⟨.ok a, []⟩ := rfl

theorem bind_eq (x : Outcome α) (f : α → Outcome β) : x >>= f = x.andThen f := rfl

@[simp]
theorem andThen_ok (a : α) (names : List String) (f : α → Outcome β) :
    andThen ⟨.ok a, names⟩ f = ⟨(f a).result, names ++ (f a).matched⟩ := rfl

@[simp]
theorem andThen_error (e : Failure) (names : List String) (f : α → Outcome β) :
    andThen ⟨.error e, names⟩ f = ⟨.error e, names⟩ := rfl

/-- A chain has a result if both parts have one. -/
theorem bind_result_eq_ok {x : Outcome α} {f : α → Outcome β} {b : β} :
    (x >>= f).result = .ok b ↔ ∃ a, x.result = .ok a ∧ (f a).result = .ok b := by
  obtain ⟨result, matched⟩ := x
  rw [bind_eq]
  cases result with
  | error e => simp
  | ok a => simp

/-- A chain fails where one of its parts does. -/
theorem bind_result_eq_error {x : Outcome α} {f : α → Outcome β} {e : Failure} :
    (x >>= f).result = .error e ↔
      x.result = .error e ∨ ∃ a, x.result = .ok a ∧ (f a).result = .error e := by
  obtain ⟨result, matched⟩ := x
  rw [bind_eq]
  cases result with
  | error e' => simp
  | ok a => simp

/-- Chains with the same first part are the same if they go on alike with its result. -/
theorem bind_congr {x : Outcome α} {f g : α → Outcome β} (h : ∀ a, x.result = .ok a → f a = g a) :
    x >>= f = x >>= g := by
  obtain ⟨result, matched⟩ := x
  rw [bind_eq, bind_eq]
  cases result with
  | error e => rfl
  | ok a => rw [andThen_ok, andThen_ok, h a rfl]

theorem bind_matched {x : Outcome α} {f : α → Outcome β} {a : α} (h : x.result = .ok a) :
    (x >>= f).matched = x.matched ++ (f a).matched := by
  obtain ⟨result, matched⟩ := x
  obtain rfl : result = .ok a := h
  rfl

theorem bind_pure (x : Outcome α) : (x >>= fun a => pure a) = x := by
  obtain ⟨result, matched⟩ := x
  rw [bind_eq]
  cases result with
  | error e => rfl
  | ok a => rw [andThen_ok, pure_eq, List.append_nil]

theorem map_eq_bind (g : α → β) (x : Outcome α) : g <$> x = x >>= fun a => pure (g a) := rfl

theorem map_result_eq_ok {x : Outcome α} {g : α → β} {b : β} :
    (g <$> x).result = .ok b ↔ ∃ a, x.result = .ok a ∧ g a = b := by
  rw [map_eq_bind, bind_result_eq_ok]
  simp

theorem map_matched {x : Outcome α} {g : α → β} {a : α} (h : x.result = .ok a) :
    (g <$> x).matched = x.matched := by
  rw [map_eq_bind, bind_matched h, pure_eq, List.append_nil]

end Outcome

end ApiTypes
