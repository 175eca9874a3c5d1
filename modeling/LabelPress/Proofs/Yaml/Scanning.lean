import LabelPress.Proofs.Outcome
import LabelPress.Yaml.BlockText
import LabelPress.Yaml.QuotedText
import Mathlib.Data.List.Basic

/-!
# What scanning fails for

An action that reads on in a text leaves a rest of that text, and what it fails for is to be found there: the text
breaks the rules of the format, or breaks off where a fault lies, or holds one of two spellings that no action can read,
an escape that names no character and a numeral that is too long.
-/

namespace LabelPress.Yaml

/-- Whether a fault is that a text breaks the rules of the format. -/
def Fault.IsFormat : Fault → Prop
  | .format _ => True
  | .scalar _ | .tooDeep | .undecodable _ => False

/-- A text holds an escape for the character with a number, and there is none with that number. -/
def HasEscapePast (text : List Char) (number : Nat) : Prop :=
  ∃ mark digits, escapeWidth? mark = some digits.length ∧ (∀ c ∈ digits, isDigitOf 16 c) ∧
    ofDigits 16 digits = number ∧ 0x10FFFF < number ∧ '\\' :: mark :: digits <:+: text

/-- A text holds so many digits in a row, and no numeral has so many. -/
def HasLongNumeral (text : List Char) (count : Nat) : Prop :=
  ∃ digits, digits.length = count ∧ (∀ c ∈ digits, isDigit c) ∧ digitLimit < count ∧ digits <:+: text

/-- The faults that may come of a text with a fault behind it, or none. -/
inductive Blamed (text : List Char) (behind : Option Fault) : Fault → Prop
  | format (fault : FormatFault) : Blamed text behind (.format fault)
  | behind {fault : Fault} (h : behind = some fault) : Blamed text behind fault
  | escape {number : Nat} (h : HasEscapePast text number) : Blamed text behind (.scalar (.noCharacter number))
  | numeral {count : Nat} (h : HasLongNumeral text count) : Blamed text behind (.scalar (.integerTooLong count))

/-- A place in a text with a fault behind it, or none. -/
structure Cursor.IsIn (text : List Char) (behind : Option Fault) (cursor : Cursor) : Prop where
  rest : cursor.rest <:+ text
  fault : cursor.fault = behind

/-- From any place in a text an action comes to a place in it, or fails for what is to be found there. -/
def Scan.StaysIn {α : Type} (text : List Char) (behind : Option Fault) (action : Scan α) : Prop :=
  ∀ cursor : Cursor, cursor.IsIn text behind →
    EndsIn (fun r => r.2.IsIn text behind) (Blamed text behind) (action.run cursor)

variable {text : List Char} {behind : Option Fault} {α β : Type}

/-! ## Places -/

namespace Cursor

theorem step_rest (cursor : Cursor) : cursor.step.rest = cursor.rest.tail := by
  unfold step
  split
  · next h => simp [h]
  · next h => split <;> (try split) <;> simp [h]

theorem step_fault (cursor : Cursor) : cursor.step.fault = cursor.fault := by
  unfold step
  split
  · rfl
  · split <;> (try split) <;> rfl

theorem skip_rest (count : Nat) (cursor : Cursor) : (cursor.skip count).rest = cursor.rest.drop count := by
  induction count generalizing cursor with
  | zero => rfl
  | succ count ih => rw [skip, ih, step_rest, List.drop_tail]

theorem skip_fault (count : Nat) (cursor : Cursor) : (cursor.skip count).fault = cursor.fault := by
  induction count generalizing cursor with
  | zero => rfl
  | succ count ih => rw [skip, ih, step_fault]

theorem IsIn.skip {cursor : Cursor} (h : cursor.IsIn text behind) (count : Nat) :
    (cursor.skip count).IsIn text behind where
  rest := by
    rw [skip_rest]
    exact (List.drop_suffix count cursor.rest).trans h.rest
  fault := by rw [skip_fault, h.fault]

end Cursor

/-! ## Steps -/

theorem Scan.need_run (count : Nat) (cursor : Cursor) :
    (Scan.need count).run cursor = match cursor.fault with
      | none => .ok ((), cursor)
      | some fault => if cursor.rest.length < count then .error fault else .ok ((), cursor) := by
  simp only [Scan.need, StateT.run_bind, StateT.run_get, pure_bind, List.length_take]
  cases hfault : cursor.fault with
  | none => rfl
  | some fault =>
    dsimp only
    rw [apply_ite (fun action : Scan Unit => action.run cursor)]
    exact if_congr (by omega) rfl rfl

/-- Looking ahead fails for nothing but the fault behind the text, and only if that is close enough. -/
theorem Scan.need_cases (count : Nat) (cursor : Cursor) :
    (Scan.need count).run cursor = .ok ((), cursor) ∧ (cursor.fault = none ∨ count ≤ cursor.rest.length) ∨
      ∃ fault, cursor.fault = some fault ∧ (Scan.need count).run cursor = .error fault := by
  rw [need_run]
  cases hfault : cursor.fault with
  | none => exact .inl ⟨rfl, .inl rfl⟩
  | some fault =>
    dsimp only
    split
    · exact .inr ⟨fault, rfl, rfl⟩
    · exact .inl ⟨rfl, .inr (by omega)⟩

namespace Scan.StaysIn

theorem pure (x : α) : StaysIn text behind (Pure.pure x) :=
  fun _ h => h

theorem get : StaysIn text behind MonadState.get :=
  fun _ h => h

theorem bind {action : Scan α} {next : α → Scan β} (h : StaysIn text behind action)
    (hnext : ∀ x, StaysIn text behind (next x)) : StaysIn text behind (action >>= next) :=
  fun cursor hcursor => (h cursor hcursor).bind fun r hr => hnext r.1 r.2 hr

theorem map {action : Scan α} (f : α → β) (h : StaysIn text behind action) : StaysIn text behind (f <$> action) := by
  rw [← bind_pure_comp]
  exact h.bind fun _ => pure _

theorem refuse (fault : FormatFault) : StaysIn text behind (Scan.refuse fault : Scan α) :=
  fun _ _ => Blamed.format fault

theorem insist (holds : Bool) (fault : FormatFault) : StaysIn text behind (Scan.insist holds fault) := by
  cases holds with
  | true => exact pure ()
  | false => exact refuse fault

theorem need (count : Nat) : StaysIn text behind (Scan.need count) := by
  intro cursor h
  rcases need_cases count cursor with ⟨hrun, -⟩ | ⟨fault, hfault, hrun⟩
  · rw [hrun]
    exact h
  · rw [hrun]
    exact Blamed.behind (by rw [← h.fault, hfault])

theorem peek (count : Nat) : StaysIn text behind (Scan.peek count) :=
  (need (count + 1)).bind fun _ => get.bind fun _ => pure _

theorem advance (count : Nat) : StaysIn text behind (Scan.advance count) :=
  (need (count + 1)).bind fun _ _ h => h.skip count

theorem span (p : Char → Bool) : StaysIn text behind (Scan.span p) :=
  get.bind fun _ => (advance _).bind fun _ => pure _

theorem skipWhile (p : Char → Bool) : StaysIn text behind (Scan.skipWhile p) :=
  (span p).bind fun _ => pure ()

theorem skipComment : StaysIn text behind Scan.skipComment := by
  refine (skipWhile _).bind fun _ => (peek 0).bind fun c => ?_
  split
  · exact skipWhile _
  · exact pure ()

theorem takeBreak : StaysIn text behind Scan.takeBreak := by
  refine (peek 0).bind fun c => ?_
  split
  · exact (advance 1).bind fun _ => pure _
  · exact pure _

theorem atDocumentMark (mark : Char) : StaysIn text behind (Scan.atDocumentMark mark) := by
  refine (need 3).bind fun _ => get.bind fun cursor => ?_
  split
  · exact (peek 3).bind fun _ => pure _
  · exact pure _

theorem atDocumentEdge : StaysIn text behind Scan.atDocumentEdge := by
  refine (atDocumentMark '-').bind fun found => ?_
  split
  · exact pure _
  · exact atDocumentMark '.'

theorem peekNumber (digits : Nat) (fault : FormatFault) : StaysIn text behind (Scan.peekNumber digits fault) :=
  get.bind fun _ => (need _).bind fun _ => (insist _ fault).bind fun _ => pure _

theorem bound : StaysIn text behind Scan.bound :=
  get.bind fun _ => pure _

end Scan.StaysIn

open Scan.StaysIn

/-! ## Quoted scalars -/

end LabelPress.Yaml
