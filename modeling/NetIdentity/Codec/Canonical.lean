import NetIdentity.Codec

/-!
# Reading accepts exactly what writing produces

`Canonical` says of a codec that a decoder gives a value exactly on the bytes that the value is written as,
followed by the bytes it leaves. So every value has one written form, no written form is the front of
another one, and bytes that were read can be written again.

The only values that are not read back are texts of four gigabytes and more, whose length does not fit its
field; `fits` leaves them out.
-/

namespace NetIdentity

namespace Codec

/-- On values that fit, the decoder undoes the encoder and accepts nothing else. -/
def Canonical (α : Type) [Codec α] (fits : α → Prop) : Prop :=
  ∀ (data : Bytes) (x : α) (rest : Bytes),
    (decode : Decoder α) data = .ok (x, rest) ↔ fits x ∧ data = encode x ++ rest

variable {α : Type} [Codec α] {fits : α → Prop}

theorem Canonical.decode_encode (h : Canonical α fits) {x : α} (hx : fits x) (rest : Bytes) :
    (decode : Decoder α) (encode x ++ rest) = .ok (x, rest) :=
  (h _ x rest).2 ⟨hx, rfl⟩

theorem Canonical.all_encode (h : Canonical α fits) {x : α} (hx : fits x) :
    (decode : Decoder α).all (encode x) = .ok x := by
  have hread := h.decode_encode hx []
  rw [List.append_nil] at hread
  exact Decoder.all_eq_ok_iff.2 hread

/-- Two values are never written as the same bytes, nor is one written as the front of the other. -/
theorem Canonical.encode_inj (h : Canonical α fits) {x y : α} (hx : fits x) (hy : fits y)
    {s t : Bytes} (heq : encode x ++ s = encode y ++ t) : x = y ∧ s = t := by
  have hread := h.decode_encode hx s
  rw [heq, h.decode_encode hy t] at hread
  simpa [eq_comm] using hread

/-! ## Integers and addresses -/

theorem canonical_uint8 : Canonical UInt8 fun _ => True := by
  intro data x rest
  cases data with
  | nil => simp [decode, encode]
  | cons byte tail => simp [decode, encode]

/-- A number of fixed width, read through a function that undoes the one it is written through. -/
theorem take_eq_ok_iff {β : Type} {width : Nat} {write : β → Nat} {read : Nat → β}
    (write_lt : ∀ x, write x < Bytes.capacity width) (read_write : ∀ x, read (write x) = x)
    (write_read : ∀ n, n < Bytes.capacity width → write (read n) = n) {data rest : Bytes} {x : β} :
    (Decoder.take width >>= fun bytes => pure (read bytes.toNat)) data = Except.ok (x, rest) ↔
      data = Bytes.ofNat width (write x) ++ rest := by
  rw [Decoder.bind_eq_ok]
  constructor
  · rintro ⟨bytes, between, htake, hpure⟩
    obtain ⟨hlength, rfl⟩ := Decoder.take_eq_ok.1 htake
    cases hpure
    have hlt : bytes.toNat < Bytes.capacity width := hlength ▸ Bytes.toNat_lt bytes
    rw [write_read _ hlt, ← hlength, Bytes.ofNat_toNat]
  · rintro rfl
    refine ⟨Bytes.ofNat width (write x), rest, Decoder.take_append (Bytes.length_ofNat _ _), ?_⟩
    rw [Bytes.toNat_ofNat _ _ (write_lt x), read_write]
    rfl

theorem canonical_uint32 : Canonical UInt32 fun _ => True := by
  intro data x rest
  rw [true_and]
  exact @take_eq_ok_iff UInt32 4 UInt32.toNat UInt32.ofNat (fun x => x.toNat_lt) (fun x => x.ofNat_toNat)
    (fun _ hn => UInt32.toNat_ofNat_of_lt' hn) data rest x

theorem canonical_uint64 : Canonical UInt64 fun _ => True := by
  intro data x rest
  rw [true_and]
  exact @take_eq_ok_iff UInt64 8 UInt64.toNat UInt64.ofNat (fun x => x.toNat_lt) (fun x => x.ofNat_toNat)
    (fun _ hn => UInt64.toNat_ofNat_of_lt' hn) data rest x

theorem canonical_int64 : Canonical Int64 fun _ => True := by
  intro data x rest
  show ((decode : Decoder UInt64) >>= fun n => pure n.toInt64) data = _ ↔ _
  rw [Decoder.bind_eq_ok]
  constructor
  · rintro ⟨n, between, hread, hpure⟩
    cases hpure
    exact (canonical_uint64 data n rest).1 hread
  · rintro ⟨_, rfl⟩
    exact ⟨x.toUInt64, rest, canonical_uint64.decode_encode trivial rest, rfl⟩

theorem canonical_address : Canonical Address fun _ => True := by
  intro data x rest
  show (if h : data.length < 32 then _ else _) = _ ↔ _
  constructor
  · intro h
    split at h
    · cases h
    · cases h
      exact ⟨trivial, (List.take_append_drop 32 data).symm⟩
  · rintro ⟨_, rfl⟩
    have hlength := x.length_bytes
    have hlong : ¬ (encode x ++ rest).length < 32 := by
      simp [encode, hlength]
    rw [dif_neg hlong]
    simp only [encode, Except.ok.injEq, Prod.mk.injEq, Address.ext_iff]
    exact ⟨List.take_left' hlength, List.drop_left' hlength⟩

/-! ## Texts -/

theorem canonical_string : Canonical String fun text => text.utf8ByteSize < UInt32.size := by
  intro data x rest
  show ((decode : Decoder UInt32) >>= fun length => Decoder.take length.toNat >>= ofContent)
    data = _ ↔ _
  rw [Decoder.bind_eq_ok]
  constructor
  · rintro ⟨length, behind, hlength, hrest⟩
    obtain ⟨content, left, htake, hread⟩ := Decoder.bind_eq_ok.1 hrest
    obtain ⟨hsize, rfl⟩ := Decoder.take_eq_ok.1 htake
    obtain ⟨_, rfl⟩ := (canonical_uint32 data length _).1 hlength
    unfold ofContent at hread
    cases hutf8 : ofUtf8? content with
    | none =>
        rw [hutf8] at hread
        cases hread
    | some text =>
        rw [hutf8] at hread
        cases hread
        have hcontent := ofUtf8?_eq_some_iff.1 hutf8
        have hbytes : x.utf8ByteSize = length.toNat := by
          rw [← hsize, ← hcontent, length_utf8]
        have hlt : x.utf8ByteSize < UInt32.size := by
          rw [hbytes]
          exact length.toNat_lt
        refine ⟨hlt, ?_⟩
        show _ = encode (UInt32.ofNat x.utf8ByteSize) ++ utf8 x ++ rest
        rw [hbytes, UInt32.ofNat_toNat, hcontent, List.append_assoc]
  · rintro ⟨hsize, rfl⟩
    refine ⟨UInt32.ofNat x.utf8ByteSize, utf8 x ++ rest, ?_, Decoder.bind_eq_ok.2 ⟨utf8 x, rest, ?_, ?_⟩⟩
    · exact (canonical_uint32 _ _ _).2 ⟨trivial, by simp [encode]⟩
    · exact Decoder.take_append (by rw [length_utf8, UInt32.toNat_ofNat_of_lt' hsize])
    · rw [ofContent, ofUtf8?_utf8]
      rfl

end Codec

end NetIdentity
