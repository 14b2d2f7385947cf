import NetIdentity.NetworkAddress

/-!
# Network ids

The identifier of a network is a text that the record can hold and that a network address can carry: it is
not empty, it takes at most sixty-four bytes, and it has no delimiter in it.
-/

namespace NetIdentity

namespace NetworkId

def maxBytes : Nat := 64

/-- Check an identifier. An empty one is reported first, a long one next, and a delimiter last. -/
def validate (networkId : String) : Except Fault Unit :=
  if networkId.utf8ByteSize = 0 then .error .invalidNetworkId
  else if maxBytes < networkId.utf8ByteSize then .error .networkIdTooLong
  else if NetworkAddress.delimiter ∈ networkId.toList then .error .invalidNetworkId
  else .ok ()

theorem validate_eq_ok_iff {networkId : String} :
    validate networkId = .ok () ↔
      networkId.utf8ByteSize ≠ 0 ∧ networkId.utf8ByteSize ≤ maxBytes ∧
        NetworkAddress.delimiter ∉ networkId.toList := by
  unfold validate
  by_cases hempty : networkId.utf8ByteSize = 0
  · simp [hempty]
  by_cases hlong : maxBytes < networkId.utf8ByteSize
  · simp [hempty, hlong, Nat.not_le.2 hlong]
  by_cases hdelimiter : NetworkAddress.delimiter ∈ networkId.toList
  · simp [hempty, hlong, hdelimiter]
  · simp [hempty, hlong, hdelimiter, Nat.le_of_not_lt hlong]

/-- The length is looked at before the delimiter is. -/
theorem validate_eq_error {networkId : String} {fault : Fault} (h : validate networkId = .error fault) :
    fault = if maxBytes < networkId.utf8ByteSize then .networkIdTooLong else .invalidNetworkId := by
  unfold validate at h
  split at h
  · next hempty =>
    cases h
    rw [hempty, if_neg (Nat.not_lt_zero _)]
  · split at h
    · next hlong =>
      cases h
      rw [if_pos hlong]
    · next hshort =>
      split at h
      · cases h
        rw [if_neg hshort]
      · cases h

end NetworkId

end NetIdentity
