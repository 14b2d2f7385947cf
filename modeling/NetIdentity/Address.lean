import NetIdentity.Base58

/-!
# Addresses

Accounts, programs and signers are all named by addresses of thirty-two bytes. The width is part of the
type, so an address can be written next to other fields without a length and read back.
-/

namespace NetIdentity

/-- The name of an account, of a program or of a signer. -/
@[ext] structure Address where
  bytes : Bytes
  length_bytes : bytes.length = 32
deriving DecidableEq

namespace Address

/-- The address made of the given bytes, if there are thirty-two of them. -/
def ofBytes? (bytes : Bytes) : Option Address :=
  if h : bytes.length = 32 then some ⟨bytes, h⟩ else none

def base58 (address : Address) : String :=
  Base58.encode address.bytes

def ofBase58? (text : String) : Option Address :=
  (Base58.decode? text).bind ofBytes?

/-- The program that owns every account not yet given to another one; its bytes are all zero. -/
def systemProgram : Address :=
  ⟨List.replicate 32 0, rfl⟩

/-- The owner of the accounts that stand for built-in programs. -/
def nativeLoader : Address :=
  ⟨[ 0x05, 0x87, 0x84, 0xbf, 0x14, 0x8b, 0xa4, 0x28, 0x2f, 0xb0, 0x12, 0x57, 0x48, 0x88, 0xa9, 0xf1,
     0x53, 0xa0, 0x7d, 0xad, 0xf7, 0x65, 0xc0, 0x45, 0x5c, 0x9a, 0x97, 0x03, 0x80, 0x00, 0x00, 0x00 ], rfl⟩

theorem base58_systemProgram : systemProgram.base58 = "11111111111111111111111111111111" := by
  decide +kernel

theorem base58_nativeLoader : nativeLoader.base58 = "NativeLoader1111111111111111111111111111111" := by
  decide +kernel

end Address

end NetIdentity
