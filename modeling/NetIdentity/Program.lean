import NetIdentity.Store

/-!
# The program and its record

The program's own address, and the place of its record. The place follows from the address: it is derived
once here and then known, so that a call compares addresses and searches for none (`location?_id`).
-/

namespace NetIdentity

namespace Program

def id : Address :=
  ⟨[ 0xbe, 0x31, 0x9a, 0xa8, 0x80, 0xd1, 0x24, 0x7e, 0x1c, 0x45, 0xf6, 0xcb, 0x23, 0x03, 0x1d, 0xf6,
     0xa2, 0x15, 0xbe, 0x05, 0xce, 0x4f, 0x32, 0x3e, 0x9c, 0x85, 0x73, 0xf1, 0x5b, 0x7d, 0xaa, 0xc7 ], rfl⟩

def recordAddress : Address :=
  ⟨[ 0x44, 0x26, 0x46, 0xbe, 0x25, 0x6e, 0xf8, 0xf0, 0x3b, 0xa3, 0xed, 0x24, 0xd0, 0x1b, 0x58, 0x90,
     0x31, 0xbe, 0x44, 0x1c, 0xbb, 0xbb, 0xca, 0x9b, 0x93, 0x1d, 0x19, 0x7b, 0x7a, 0x6c, 0xae, 0x9c ], rfl⟩

/-- The canonical bump of that address. -/
def recordBump : UInt8 := 255

theorem base58_id : id.base58 = "DoSLJH36FLrQVjZ8wDD4tHHfLbisj4VwMzpvTV9yyyp2" := by
  decide +kernel

theorem location?_id : Store.location? id = some (recordAddress, recordBump) := by
  decide +kernel

end Program

end NetIdentity
