import ChatGateway.Failure
import ChatGateway.Log

/-!
Computations that log. The entries written before a failure stay in the log.
-/

namespace ChatGateway

/-- The entries that a computation wrote, and its result or the cause of its failure. -/
structure Traced (α : Type) where
  log : List Entry
  outcome : Except Failure α

namespace Traced

variable {α β : Type}

def result (value : α) : Traced α := ⟨[], .ok value⟩

def fail (failure : Failure) : Traced α := ⟨[], .error failure⟩

def write (entry : Entry) : Traced Unit := ⟨[entry], .ok ()⟩

/-- Runs `next` on the result of `first`; the log of `next` comes after that of `first`. -/
def andThen (first : Traced α) (next : α → Traced β) : Traced β :=
  match first.outcome with
  | .ok value =>
    let second := next value
    ⟨first.log ++ second.log, second.outcome⟩
  | .error failure => ⟨first.log, .error failure⟩

instance : Monad Traced where
  pure := result
  bind := andThen

def ofExcept (outcome : Except Failure α) : Traced α := ⟨[], outcome⟩

/-- Runs a computation on each item of a list, in order. -/
def forEach (f : α → Traced β) : List α → Traced (List β)
  | [] => result []
  | item :: rest => do
    let head ← f item
    let tail ← forEach f rest
    return head :: tail

@[simp]
theorem log_pure (value : α) : (pure value : Traced α).log = [] := rfl

@[simp]
theorem outcome_pure (value : α) : (pure value : Traced α).outcome = .ok value := rfl

@[simp]
theorem log_result (value : α) : (result value).log = [] := rfl

@[simp]
theorem outcome_result (value : α) : (result value).outcome = .ok value := rfl

@[simp]
theorem log_fail (failure : Failure) : (fail failure : Traced α).log = [] := rfl

@[simp]
theorem outcome_fail (failure : Failure) : (fail failure : Traced α).outcome = .error failure := rfl

@[simp]
theorem log_write (entry : Entry) : (write entry).log = [entry] := rfl

@[simp]
theorem outcome_write (entry : Entry) : (write entry).outcome = .ok () := rfl

/-- What a sequence gives does not depend on its logs. -/
@[simp]
theorem outcome_bind (x : Traced α) (f : α → Traced β) :
    (x >>= f).outcome = x.outcome.bind fun value => (f value).outcome := by
  obtain ⟨log, outcome⟩ := x
  cases outcome <;> rfl

theorem log_bind_of_ok {x : Traced α} {value : α} (h : x.outcome = .ok value)
    (f : α → Traced β) : (x >>= f).log = x.log ++ (f value).log := by
  obtain ⟨log, outcome⟩ := x
  cases h
  rfl

theorem log_bind_of_error {x : Traced α} {failure : Failure} (h : x.outcome = .error failure)
    (f : α → Traced β) : (x >>= f).log = x.log := by
  obtain ⟨log, outcome⟩ := x
  cases h
  rfl

@[simp]
theorem outcome_ofExcept (outcome : Except Failure α) : (ofExcept outcome).outcome = outcome := rfl

@[simp]
theorem log_ofExcept (outcome : Except Failure α) : (ofExcept outcome).log = [] := rfl

theorem result_bind (value : α) (f : α → Traced β) : (result value >>= f) = f value := by
  simp [Bind.bind, andThen, result]

theorem ofExcept_ok_bind (value : α) (f : α → Traced β) :
    (ofExcept (.ok value) >>= f) = f value := rfl

instance : LawfulMonad Traced :=
  LawfulMonad.mk' Traced
    (by
      intro α x
      obtain ⟨log, outcome⟩ := x
      cases outcome <;> simp [Functor.map, andThen, result])
    (by
      intro α β x f
      simp [Bind.bind, Pure.pure, andThen, result])
    (by
      intro α β γ x f g
      obtain ⟨log, outcome⟩ := x
      cases outcome with
      | error failure => rfl
      | ok value =>
        simp only [Bind.bind, andThen]
        cases (f value).outcome <;> simp)

@[simp]
theorem outcome_map (f : α → β) (x : Traced α) : (f <$> x).outcome = x.outcome.map f := by
  obtain ⟨log, outcome⟩ := x
  cases outcome <;> rfl

@[simp]
theorem log_map (f : α → β) (x : Traced α) : (f <$> x).log = x.log := by
  obtain ⟨log, outcome⟩ := x
  cases outcome <;> simp [Functor.map, andThen, result]

end Traced
end ChatGateway
