import NetIdentity.Record

/-!
# The written form of a record

A record has one written form, and bytes that start with a record start with that form: the fields are
canonical one by one, and they are written and read in the same order.
-/

namespace NetIdentity

namespace Record

open Codec

/-- A record is read back from what it is written as, and from nothing else. -/
theorem canonical : Codec.Canonical Record fun r => r.networkId.utf8ByteSize < UInt32.size := by
  intro data x rest
  constructor
  · intro h
    obtain ⟨admin, d1, h1, h⟩ := Decoder.bind_eq_ok.1 h
    obtain ⟨feeHandler, d2, h2, h⟩ := Decoder.bind_eq_ok.1 h
    obtain ⟨networkId, d3, h3, h⟩ := Decoder.bind_eq_ok.1 h
    obtain ⟨protocolFee, d4, h4, h⟩ := Decoder.bind_eq_ok.1 h
    obtain ⟨createdAt, d5, h5, h⟩ := Decoder.bind_eq_ok.1 h
    obtain ⟨bump, d6, h6, h⟩ := Decoder.bind_eq_ok.1 h
    cases h
    obtain ⟨_, rfl⟩ := (canonical_uint8 _ _ _).1 h6
    obtain ⟨_, rfl⟩ := (canonical_int64 _ _ _).1 h5
    obtain ⟨_, rfl⟩ := (canonical_uint64 _ _ _).1 h4
    obtain ⟨hsize, rfl⟩ := (canonical_string _ _ _).1 h3
    obtain ⟨_, rfl⟩ := (canonical_address _ _ _).1 h2
    obtain ⟨_, rfl⟩ := (canonical_address _ _ _).1 h1
    exact ⟨hsize, by simp only [encode, List.append_assoc]⟩
  · rintro ⟨hsize, rfl⟩
    have hdata : encode x ++ rest = encode x.admin ++ (encode x.feeHandler ++ (encode x.networkId ++
        (encode x.protocolFee ++ (encode x.createdAt ++ (encode x.bump ++ rest))))) := by
      simp only [encode, List.append_assoc]
    rw [hdata]
    exact Decoder.bind_eq_ok.2 ⟨_, _, canonical_address.decode_encode trivial _,
      Decoder.bind_eq_ok.2 ⟨_, _, canonical_address.decode_encode trivial _,
      Decoder.bind_eq_ok.2 ⟨_, _, canonical_string.decode_encode hsize _,
      Decoder.bind_eq_ok.2 ⟨_, _, canonical_uint64.decode_encode trivial _,
      Decoder.bind_eq_ok.2 ⟨_, _, canonical_int64.decode_encode trivial _,
      Decoder.bind_eq_ok.2 ⟨_, _, canonical_uint8.decode_encode trivial _, rfl⟩⟩⟩⟩⟩⟩

end Record

end NetIdentity
