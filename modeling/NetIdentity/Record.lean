import NetIdentity.Codec
import NetIdentity.Fault
import NetIdentity.NetworkId

/-!
# The identity record

One record holds all that a deployment stores: the network it stands for, who may change what, the fee,
and when and where the record was made. The network id, the time and the bump are written once; the other
three fields change through *amendments*, each of which belongs to one of two roles.

The fields are written in the order of the structure. Only the network id has a length that varies, and
`NetworkId.validate` bounds it, so `contentSpace` is enough for every accepted record
(`length_encode_le`).
-/

namespace NetIdentity

structure Record where
  /-- May hand on both roles. -/
  admin : Address
  /-- May set the fee, and receives it. -/
  feeHandler : Address
  networkId : String
  /-- In lamports. -/
  protocolFee : UInt64
  createdAt : Int64
  bump : UInt8
deriving DecidableEq

namespace Record

/-- The first record of a deployment: whoever makes it holds both roles, and there is no fee yet. -/
def initial (founder : Address) (networkId : String) (createdAt : Int64) (bump : UInt8) : Record where
  admin := founder
  feeHandler := founder
  networkId := networkId
  protocolFee := 0
  createdAt := createdAt
  bump := bump

/-! ## Encoding -/

instance : Codec Record where
  encode r :=
    encode r.admin ++ (encode r.feeHandler ++ (encode r.networkId ++ (encode r.protocolFee ++
      (encode r.createdAt ++ encode r.bump))))
  decode := do
    let admin ← decode
    let feeHandler ← decode
    let networkId ← decode
    let protocolFee ← decode
    let createdAt ← decode
    let bump ← decode
    return ⟨admin, feeHandler, networkId, protocolFee, createdAt, bump⟩

/-- Room for the longest record: two addresses, a network id behind its length, two integers, a byte. -/
def contentSpace : Nat := 32 + 32 + (4 + NetworkId.maxBytes) + 8 + 8 + 1

theorem length_encode (r : Record) : (encode r).length = 85 + r.networkId.utf8ByteSize := by
  simp only [encode, List.length_append, Address.length_bytes, Bytes.length_ofNat, length_utf8,
    List.length_singleton]
  omega

/-- A record with an accepted network id fits its space. -/
theorem length_encode_le {r : Record} (h : NetworkId.validate r.networkId = .ok ()) :
    (encode r).length ≤ contentSpace := by
  have := (NetworkId.validate_eq_ok_iff.1 h).2.1
  rw [length_encode]
  simp only [contentSpace, NetworkId.maxBytes] at *
  omega

end Record

/-! ## Roles -/

inductive Role where
  | admin
  | feeHandler
deriving Repr, DecidableEq

namespace Role

def holder : Role → Record → Address
  | .admin, r => r.admin
  | .feeHandler, r => r.feeHandler

def denial : Role → (holder signer : Address) → Fault
  | .admin => .notAdmin
  | .feeHandler => .notFeeHandler

def require (role : Role) (r : Record) (signer : Address) : Except Fault Unit :=
  if role.holder r = signer then .ok () else .error (role.denial (role.holder r) signer)

end Role

/-! ## Amendments -/

inductive Amendment where
  | admin (successor : Address)
  | feeHandler (successor : Address)
  | protocolFee (fee : UInt64)
deriving DecidableEq

namespace Amendment

/-- Whose decision the change is: the admin names the holders of both roles, the fee handler sets the
fee. -/
def role : Amendment → Role
  | .admin _ => .admin
  | .feeHandler _ => .admin
  | .protocolFee _ => .feeHandler

def apply : Amendment → Record → Record
  | .admin successor, r => { r with admin := successor }
  | .feeHandler successor, r => { r with feeHandler := successor }
  | .protocolFee fee, r => { r with protocolFee := fee }

/-- No amendment touches the identity. -/
@[simp] theorem networkId_apply (a : Amendment) (r : Record) : (a.apply r).networkId = r.networkId := by
  cases a <;> rfl

@[simp] theorem createdAt_apply (a : Amendment) (r : Record) : (a.apply r).createdAt = r.createdAt := by
  cases a <;> rfl

@[simp] theorem bump_apply (a : Amendment) (r : Record) : (a.apply r).bump = r.bump := by
  cases a <;> rfl

end Amendment

end NetIdentity
