import NetIdentity.Framework.Buffers

/-!
# What a call is run with

Two values of the chain are read while a call runs: the time, and what it costs to keep an account. Either
may be unavailable, and a call that asks for it then fails. Instructions of its own the framework answers
itself, so a call is also run with the framework that the program has been built with.
-/

namespace NetIdentity

structure Environment where
  clock : Option Int64
  rent : Option Rent
  framework : Framework

namespace Environment

/-- The values that a fresh chain starts with. -/
def default : Environment where
  clock := some 1700000000
  rent := some ⟨3480, 2.0⟩
  framework := .buffers

def time (env : Environment) : Except RuntimeError Int64 :=
  match env.clock with
  | some time => .ok time
  | none => .error .unsupportedSysvar

def minimumBalance (env : Environment) (size : Nat) : Except RuntimeError UInt64 :=
  match env.rent with
  | some rent => rent.minimumBalance size
  | none => .error .unsupportedSysvar

theorem minimumBalance_eq_ok_iff {env : Environment} {size : Nat} {minimum : UInt64} :
    env.minimumBalance size = .ok minimum ↔
      ∃ rent, env.rent = some rent ∧ rent.minimumBalance size = .ok minimum := by
  unfold minimumBalance
  cases env.rent with
  | none => simp
  | some rent => simp

/-- The minimum cannot be had when the rent is not available, or comes to more than can be counted. -/
theorem minimumBalance_eq_error {env : Environment} {size : Nat} {error : RuntimeError}
    (h : env.minimumBalance size = .error error) :
    error = .unsupportedSysvar ∨
      error = .aborted ∧ ∃ rent, env.rent = some rent ∧ UInt64.size ≤ rent.perYear size := by
  unfold minimumBalance at h
  split at h
  · next rent hrent =>
    obtain ⟨herror, hlarge⟩ := Rent.minimumBalance_eq_error h
    exact Or.inr ⟨herror, rent, hrent, hlarge⟩
  · cases h
    exact Or.inl rfl

end Environment

end NetIdentity
