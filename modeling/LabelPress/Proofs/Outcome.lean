import LabelPress.Event

/-!
# Outcomes

How an outcome is taken apart: a chain of actions succeeds when every action does, with what each of them
hands on. The outcome of a logged chain is the chain of its outcomes, so events never change a result.
-/

namespace LabelPress

theorem except_bind_eq_ok {ε α β : Type} {a : Except ε α} {f : α → Except ε β} {b : β} :
    a >>= f = .ok b ↔ ∃ x, a = .ok x ∧ f x = .ok b := by
  cases a <;> simp [bind, Except.bind]

theorem except_mapError_eq_ok {ε ε' α : Type} {f : ε → ε'} {a : Except ε α} {x : α} :
    a.mapError f = .ok x ↔ a = .ok x := by
  cases a with
  | error e => exact iff_of_false (fun h => nomatch h) fun h => nomatch h
  | ok y =>
    constructor
    · intro h
      exact congrArg Except.ok (Except.ok.inj h)
    · intro h
      exact congrArg Except.ok (Except.ok.inj h)

theorem except_toOption_eq_some {ε α : Type} {a : Except ε α} {x : α} : a.toOption = some x ↔ a = .ok x := by
  cases a <;> simp [Except.toOption]

theorem except_map_eq_ok {ε α β : Type} {f : α → β} {a : Except ε α} {b : β} :
    a.map f = .ok b ↔ ∃ x, a = .ok x ∧ f x = b := by
  cases a <;> simp [Except.map]

theorem except_mapError_map {ε ε' α β : Type} (f : ε → ε') (g : α → β) (r : Except ε α) :
    (r.mapError f).map g = (r.map g).mapError f := by
  cases r <;> rfl

theorem except_bind_eq_error {ε α β : Type} {a : Except ε α} {f : α → Except ε β} {e : ε} :
    a >>= f = .error e ↔ a = .error e ∨ ∃ x, a = .ok x ∧ f x = .error e := by
  cases a <;> simp [bind, Except.bind]

theorem except_mapError_eq_error {ε ε' α : Type} {f : ε → ε'} {a : Except ε α} {e : ε'} :
    a.mapError f = .error e ↔ ∃ x, a = .error x ∧ f x = e := by
  cases a with
  | error x =>
    constructor
    · intro h
      exact ⟨x, rfl, Except.error.inj h⟩
    · rintro ⟨_, h, rfl⟩
      exact congrArg (fun y => Except.error (f y)) (Except.error.inj h)
  | ok x =>
    constructor
    · intro h
      cases h
    · rintro ⟨_, h, -⟩
      cases h

theorem except_map_eq_error {ε α β : Type} {f : α → β} {a : Except ε α} {e : ε} :
    a.map f = .error e ↔ a = .error e := by
  cases a <;> simp [Except.map]

/-- Actions that all fail alike or all succeed: a failure comes from the first of them, if there is one. -/
theorem except_mapM_eq {ε α β : Type} {f : α → Except ε β} {failing : Prop} [Decidable failing] {e : ε}
    {g : α → β} {xs : List α} (h : ∀ x ∈ xs, f x = if failing then .error e else .ok (g x)) :
    xs.mapM f = if failing ∧ xs ≠ [] then .error e else .ok (xs.map g) := by
  induction xs with
  | nil => exact (if_neg fun h => h.2 rfl).symm
  | cons x xs ih =>
    rw [List.mapM_cons, h x List.mem_cons_self]
    by_cases hf : failing
    · rw [if_pos hf, if_pos ⟨hf, List.cons_ne_nil x xs⟩]
      rfl
    · rw [ih fun y hy => h y (List.mem_cons_of_mem x hy), if_neg hf, if_neg fun h => hf h.1,
        if_neg fun h => hf h.1]
      rfl

/-- An outcome is a result of one kind or an error of another. -/
def EndsIn {ε α : Type} (p : α → Prop) (q : ε → Prop) : Except ε α → Prop
  | .ok x => p x
  | .error e => q e

namespace EndsIn

variable {ε α β : Type} {p : α → Prop} {q : ε → Prop} {p' : β → Prop} {r : Except ε α}

theorem bind {f : α → Except ε β} (hr : EndsIn p q r) (hf : ∀ x, p x → EndsIn p' q (f x)) :
    EndsIn p' q (r >>= f) := by
  cases r with
  | ok x => exact hf x hr
  | error e => exact hr

theorem mono {p₂ : α → Prop} {q₂ : ε → Prop} (hr : EndsIn p q r) (hp : ∀ x, p x → p₂ x) (hq : ∀ e, q e → q₂ e) :
    EndsIn p₂ q₂ r := by
  cases r with
  | ok x => exact hp x hr
  | error e => exact hq e hr

end EndsIn

namespace Logged

@[simp] theorem outcome_pure {ε α : Type} (x : α) : (pure x : Logged ε α).outcome = .ok x := rfl

@[simp] theorem outcome_ofExcept {ε α : Type} (r : Except ε α) : (ofExcept r).outcome = r := rfl

@[simp] theorem outcome_report {ε : Type} (es : List Event) :
    (report es : Logged ε Unit).outcome = .ok () := rfl

@[simp] theorem outcome_mapError {ε ε' α : Type} (f : ε → ε') (a : Logged ε α) :
    (a.mapError f).outcome = a.outcome.mapError f := rfl

@[simp] theorem outcome_bind {ε α β : Type} (a : Logged ε α) (f : α → Logged ε β) :
    (a >>= f).outcome = a.outcome >>= fun x => (f x).outcome := by
  change (andThen a f).outcome = _
  unfold andThen
  cases a.outcome <;> rfl

@[simp] theorem events_pure {ε α : Type} (x : α) : (pure x : Logged ε α).events = [] := rfl

@[simp] theorem events_ofExcept {ε α : Type} (r : Except ε α) : (ofExcept r).events = [] := rfl

@[simp] theorem events_report {ε : Type} (es : List Event) : (report es : Logged ε Unit).events = es := rfl

@[simp] theorem events_mapError {ε ε' α : Type} (f : ε → ε') (a : Logged ε α) :
    (a.mapError f).events = a.events := rfl

theorem events_bind {ε α β : Type} (a : Logged ε α) (f : α → Logged ε β) :
    (a >>= f).events = a.events ++ match a.outcome with
      | .ok x => (f x).events
      | .error _ => [] := by
  change (andThen a f).events = _
  unfold andThen
  cases a.outcome with
  | ok x => rfl
  | error e => exact (List.append_nil a.events).symm

/-- An event of a chain is one of its first action, or of what follows where that succeeds. -/
theorem mem_events_bind {ε α β : Type} {a : Logged ε α} {f : α → Logged ε β} {e : Event} :
    e ∈ (a >>= f).events ↔ e ∈ a.events ∨ ∃ x, a.outcome = .ok x ∧ e ∈ (f x).events := by
  rw [events_bind, List.mem_append]
  cases a.outcome <;> simp

end Logged
end LabelPress
