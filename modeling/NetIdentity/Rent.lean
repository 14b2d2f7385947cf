import NetIdentity.Fault

/-!
# Rent

What it costs to keep an account depends on its size. The price of a year is counted in whole lamports; where
it needs more than sixty-four bits, the computation does not come to an end, and whoever has asked for it is
stopped.
-/

namespace NetIdentity

structure Rent where
  lamportsPerByteYear : UInt64
  /-- The years that have to be paid in advance. -/
  exemptionThreshold : Float

namespace Rent

/-- What every account costs on top of its data, in bytes. -/
def overhead : Nat := 128

/-- What an account with so much data costs in a year. -/
def perYear (rent : Rent) (size : Nat) : Nat :=
  (overhead + size) * rent.lamportsPerByteYear.toNat

/-- The lamports that an account with so much data needs in order to be kept. The years need not be a whole
number; what is left of a lamport is dropped. -/
def minimumBalance (rent : Rent) (size : Nat) : Except RuntimeError UInt64 :=
  if UInt64.size ≤ rent.perYear size then .error .aborted
  else .ok ((UInt64.ofNat (rent.perYear size)).toFloat * rent.exemptionThreshold).toUInt64

theorem minimumBalance_eq_error {rent : Rent} {size : Nat} {error : RuntimeError}
    (h : rent.minimumBalance size = .error error) : error = .aborted ∧ UInt64.size ≤ rent.perYear size := by
  unfold minimumBalance at h
  split at h
  · next hlarge =>
    cases h
    exact ⟨rfl, hlarge⟩
  · cases h

end Rent

end NetIdentity
