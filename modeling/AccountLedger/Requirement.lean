/-
**Requirements.**

Checks are rows of requirements of which the first that fails decides the answer.

Main definitions:

* `require` — passes if a condition holds, and fails with a given cause otherwise.

Main results:

* `require_bind_eq_ok_iff` — what follows a requirement is reached iff the condition holds.
-/

set_option relaxedAutoImplicit false
set_option autoImplicit false

namespace AccountLedger

/-- Passes if `p` holds; else fails with `cause`. -/
def require {ε : Type} (p : Prop) [Decidable p] (cause : ε) : Except ε Unit :=
  if p then .ok () else .error cause

section

variable {ε α : Type} {p : Prop} [Decidable p] {cause : ε}

@[simp] theorem require_eq_ok_iff {u : Unit} : require p cause = .ok u ↔ p := by
  unfold require
  split
  · next h => exact ⟨fun _ => h, fun _ => rfl⟩
  · next h => exact ⟨fun h' => (nomatch h'), fun h' => absurd h' h⟩

/-- **What follows a requirement is reached iff the condition holds.** -/
theorem require_bind_eq_ok_iff {f : Unit → Except ε α} {a : α} :
    (require p cause >>= f) = .ok a ↔ p ∧ f () = .ok a := by
  unfold require
  split
  · next h => exact ⟨fun h' => ⟨h, h'⟩, fun h' => h'.2⟩
  · next h => exact ⟨fun h' => (nomatch h'), fun h' => absurd h'.1 h⟩

end

/-- A result that is there as an option is the result. -/
theorem eq_ok_of_toOption {ε α : Type} {x : Except ε α} {a : α} (h : x.toOption = some a) :
    x = .ok a := by
  cases x with
  | error e => cases h
  | ok b => exact congrArg Except.ok (Option.some.inj h)

/-- An answer that is decided apart from what comes with it. -/
theorem exists_ok_of_toOption {ε α β : Type} {x : Except ε α × β} {a : α}
    (h : x.1.toOption = some a) : ∃ b, x = (.ok a, b) :=
  ⟨x.2, Prod.ext (eq_ok_of_toOption h) rfl⟩

end AccountLedger
