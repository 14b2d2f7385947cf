import NetIdentity.Record
import NetIdentity.Sha256

/-!
# The stored form of a record

In an account a record stands behind eight bytes that tell its kind. The space of the account is fixed
when it is made, so a shorter record is followed by bytes that mean nothing, and reading ignores them.

Writing goes over the front of the account's data, piece by piece. When the data is too short, as much of
the record as fits has been written by the time the fault is found. It is the same fault when the network id
is so long that its length cannot be written.
-/

namespace NetIdentity

namespace Record

def discriminator : Bytes := [0x9b, 0x0c, 0xaa, 0xe0, 0x1e, 0xfa, 0xcc, 0x82]

/-- The mark is the front of a digest, so that other kinds of data have another one. -/
theorem discriminator_eq_digest :
    discriminator = (Sha256.hash (utf8 "account:Config")).take 8 := by
  decide +kernel

def discriminatorSize : Nat := 8

def space : Nat := discriminatorSize + contentSpace

def stored (r : Record) : Bytes := discriminator ++ encode r

/-- Read a record whose mark has been looked at. -/
def readContent (data : Bytes) : Except Fault Record :=
  match decode (data.drop discriminatorSize) with
  | .ok (r, _) => .ok r
  | .error _ => .error .undecodableRecord

def read (data : Bytes) : Except Fault Record :=
  if data.length < discriminatorSize then .error .noDiscriminator
  else if data.take discriminatorSize ≠ discriminator then .error .wrongDiscriminator
  else readContent data

/-- The pieces before the network id: the mark and the two addresses. -/
def leadingPieces (r : Record) : List Bytes :=
  [discriminator, encode r.admin, encode r.feeHandler]

/-- The pieces in which a record is written: the mark, then the fields, of which the network id takes
two. -/
def pieces (r : Record) : List Bytes :=
  r.leadingPieces ++ [ encode (UInt32.ofNat r.networkId.utf8ByteSize), utf8 r.networkId,
    encode r.protocolFee, encode r.createdAt, encode r.bump ]

/-- Write a record over the data of an account: what the data becomes, and whether all of the record has
been written. A network id of four gigabytes or more has no length that its field can hold, and nothing is
written from there on. -/
def writeOver (data : Bytes) (r : Record) : Bytes × Except Fault Unit :=
  if r.networkId.utf8ByteSize < UInt32.size then
    let (after, complete) := data.fill r.pieces
    (after, if complete then .ok () else .error .recordTooLarge)
  else
    let (after, _) := data.fill r.leadingPieces
    (after, .error .recordTooLarge)

theorem flatten_pieces (r : Record) : r.pieces.flatten = r.stored := by
  simp [pieces, leadingPieces, stored, encode]

theorem length_stored (r : Record) : r.stored.length = 93 + r.networkId.utf8ByteSize := by
  rw [stored, List.length_append, length_encode]
  simp only [discriminator, List.length_cons, List.length_nil]
  omega

/-- A record with an accepted network id fits the space of its account. -/
theorem length_stored_le {r : Record} (h : NetworkId.validate r.networkId = .ok ()) :
    r.stored.length ≤ space := by
  have hcontent := length_encode_le h
  rw [stored, List.length_append, space]
  exact Nat.add_le_add_left hcontent _

end Record

end NetIdentity
