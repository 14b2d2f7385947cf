import NetIdentity.NetworkAddress

/-!
# The written form of network addresses

An address is written as the number of bytes that its text has, followed by these bytes. It is read from its written
form and from nothing else, with or without bytes behind it, so whoever is sent an address finds the one that was
meant.

All other data is refused, and why can be seen from the data alone. A text is read in two steps, first the number
and then as many bytes as it says, and both may find too little. Whether the bytes are a text, and whether there are
more of them than there should be, is only looked at when none are missing (`Codec.decode_string_eq`).
-/

namespace NetIdentity

namespace Codec

/-! ## The bytes of a text -/

/-- How many bytes of a text the first four bytes announce. -/
def announced (data : Bytes) : Nat := Bytes.toNat (data.take 4)

/-- As many bytes behind the first four as these announce. -/
def content (data : Bytes) : Bytes := (data.drop 4).take (announced data)

/-- What stands behind the content. -/
def behind (data : Bytes) : Bytes := (data.drop 4).drop (announced data)

/-- The data ends before the number does, or before the content that the number announces. -/
def CutShort (data : Bytes) : Prop := data.length < 4 ∨ (data.drop 4).length < announced data

instance (data : Bytes) : Decidable (CutShort data) :=
  inferInstanceAs (Decidable (data.length < 4 ∨ (data.drop 4).length < announced data))

variable {data : Bytes}

theorem announced_lt (h : 4 ≤ data.length) : announced data < UInt32.size := by
  have hlt := Bytes.toNat_lt (data.take 4)
  rw [List.length_take, Nat.min_eq_left h] at hlt
  exact hlt

theorem decode_uint32_eq (h : 4 ≤ data.length) :
    (decode : Decoder UInt32) data = .ok (UInt32.ofNat (announced data), data.drop 4) := by
  have htake : Decoder.take 4 data = .ok (data.take 4, data.drop 4) := by
    rw [Decoder.take, if_neg (Nat.not_lt.2 h)]
  exact Decoder.bind_of_ok htake

/-- A text is read from data that is not cut short if the content is one. -/
theorem decode_string_eq (data : Bytes) :
    (decode : Decoder String) data =
      if CutShort data then .error .truncated else ofContent (content data) (behind data) := by
  show ((decode : Decoder UInt32) >>= fun length => Decoder.take length.toNat >>= ofContent) data = _
  by_cases hnumber : data.length < 4
  · have hcut : CutShort data := Or.inl hnumber
    have htake : Decoder.take 4 data = .error .truncated := by
      rw [Decoder.take, if_pos hnumber]
    rw [if_pos hcut]
    exact Decoder.bind_of_error (Decoder.bind_of_error htake)
  · have hlong := Nat.not_lt.1 hnumber
    rw [Decoder.bind_of_ok (decode_uint32_eq hlong), UInt32.toNat_ofNat_of_lt' (announced_lt hlong)]
    by_cases hcontent : (data.drop 4).length < announced data
    · have hcut : CutShort data := Or.inr hcontent
      have htake : Decoder.take (announced data) (data.drop 4) = .error .truncated := by
        rw [Decoder.take, if_pos hcontent]
      rw [if_pos hcut]
      exact Decoder.bind_of_error htake
    · have hwhole : ¬ CutShort data := not_or.2 ⟨hnumber, hcontent⟩
      have htake : Decoder.take (announced data) (data.drop 4) = .ok (content data, behind data) := by
        rw [Decoder.take, if_neg hcontent]
        rfl
      rw [if_neg hwhole]
      exact Decoder.bind_of_ok htake

/-- Bytes are a text and nothing is taken from what stands behind them, or they are none. -/
theorem ofContent_cases (bytes rest : Bytes) :
    (∃ text, utf8 text = bytes ∧ ofContent bytes rest = .ok (text, rest)) ∨
      (∀ text, utf8 text ≠ bytes) ∧ ofContent bytes rest = .error .malformed := by
  cases hread : ofUtf8? bytes with
  | some text =>
      refine Or.inl ⟨text, ofUtf8?_eq_some_iff.1 hread, ?_⟩
      rw [ofContent, hread]
      rfl
  | none =>
      refine Or.inr ⟨fun text htext => ?_, ?_⟩
      · rw [ofUtf8?_eq_some_iff.2 htext] at hread
        cases hread
      · rw [ofContent, hread]
        rfl

end Codec

namespace NetworkAddress

open Codec

variable {data bytes : Bytes} {address : NetworkAddress}

/-! ## Reading an address -/

/-- The number of bytes of the text stands in four bytes, the least significant one first, and the text behind it.
There are texts with more bytes than can be said in four of them. -/
structure WrittenAs (address : NetworkAddress) (bytes : Bytes) : Prop where
  fits : address.text.utf8ByteSize < UInt32.size
  bytes_eq : bytes = Bytes.ofNat 4 address.text.utf8ByteSize ++ utf8 address.text

theorem encode_eq (h : address.text.utf8ByteSize < UInt32.size) :
    encode address = Bytes.ofNat 4 address.text.utf8ByteSize ++ utf8 address.text := by
  show Bytes.ofNat 4 (UInt32.ofNat address.text.utf8ByteSize).toNat ++ utf8 address.text = _
  rw [UInt32.toNat_ofNat_of_lt' h]

theorem writtenAs_iff :
    address.WrittenAs bytes ↔ address.text.utf8ByteSize < UInt32.size ∧ bytes = encode address := by
  constructor
  · rintro ⟨hfits, hbytes⟩
    exact ⟨hfits, hbytes.trans (encode_eq hfits).symm⟩
  · rintro ⟨hfits, hbytes⟩
    exact ⟨hfits, hbytes.trans (encode_eq hfits)⟩

/-- What comes of reading an address, whatever the data is. -/
inductive Decoded (data : Bytes) : Except DecodeError (NetworkAddress × Bytes) → Prop where
  | cutShort (cut : CutShort data) : Decoded data (.error .truncated)
  | noText (whole : ¬ CutShort data) (no_text : ∀ text, utf8 text ≠ content data) :
      Decoded data (.error .malformed)
  | address {text : String} (whole : ¬ CutShort data) (text_eq : utf8 text = content data) :
      Decoded data (.ok (⟨text⟩, behind data))

theorem decoded_decode (data : Bytes) : Decoded data (decode data) := by
  show Decoded data (((decode : Decoder String) >>= fun text => pure (mk text)) data)
  have hread := decode_string_eq data
  by_cases hcut : CutShort data
  · rw [if_pos hcut] at hread
    rw [Decoder.bind_of_error hread]
    exact .cutShort hcut
  · rw [if_neg hcut] at hread
    rcases ofContent_cases (content data) (behind data) with ⟨text, htext, hfound⟩ | ⟨hnone, hfails⟩
    · rw [Decoder.bind_of_ok (hread.trans hfound)]
      exact .address hcut htext
    · rw [Decoder.bind_of_error (hread.trans hfails)]
      exact .noText hcut hnone

namespace Decoded

variable {found : Except DecodeError (NetworkAddress × Bytes)}

theorem eq_truncated_iff (h : Decoded data found) : found = .error .truncated ↔ CutShort data := by
  cases h with
  | cutShort cut => simp [cut]
  | noText whole no_text => simp [whole]
  | address whole text_eq => simp [whole]

theorem eq_malformed_iff (h : Decoded data found) :
    found = .error .malformed ↔ ¬ CutShort data ∧ ∀ text, utf8 text ≠ content data := by
  cases h with
  | cutShort cut => simp [cut]
  | noText whole no_text => simp [whole, no_text]
  | address whole text_eq =>
      have hsome : ¬ ∀ text, utf8 text ≠ content data := fun hnone => hnone _ text_eq
      simp [hsome]

/-- Nothing was found, or there is something behind what was found. -/
theorem spoiled_iff (h : Decoded data found) :
    (found = .error .malformed ∨ ∃ address rest, found = .ok (address, rest) ∧ rest ≠ []) ↔
      ¬ CutShort data ∧ ((∀ text, utf8 text ≠ content data) ∨ behind data ≠ []) := by
  cases h with
  | cutShort cut => simp [cut]
  | noText whole no_text => simp [whole, no_text]
  | address whole text_eq =>
      constructor
      · rintro (h | ⟨_, _, hfound, hrest⟩)
        · cases h
        · cases hfound
          exact ⟨whole, Or.inr hrest⟩
      · rintro ⟨_, hnone | hbehind⟩
        · exact absurd text_eq (hnone _)
        · exact Or.inr ⟨_, _, rfl, hbehind⟩

end Decoded

/-- **The written form is exact.** An address is read from the bytes it is written as, whatever stands behind them,
and from no other bytes; where all of the data is to be read, nothing may stand behind. Data that is cut short is
said to be truncated, whatever else may be wrong with it. All other data that is refused is malformed: its content is
no text, or there is something behind it where there should be nothing. -/
theorem written_form_exact (data : Bytes) :
    (∀ address : NetworkAddress,
      address.WrittenAs (encode address) ↔ address.text.utf8ByteSize < UInt32.size) ∧
    (∀ (address : NetworkAddress) (rest : Bytes),
      decode data = .ok (address, rest) ↔ ∃ front, address.WrittenAs front ∧ data = front ++ rest) ∧
    (∀ address : NetworkAddress,
      (decode : Decoder NetworkAddress).all data = .ok address ↔ address.WrittenAs data) ∧
    ((decode : Decoder NetworkAddress) data = .error .truncated ↔ CutShort data) ∧
    ((decode : Decoder NetworkAddress) data = .error .malformed ↔
      ¬ CutShort data ∧ ∀ text, utf8 text ≠ content data) ∧
    ((decode : Decoder NetworkAddress).all data = .error .truncated ↔ CutShort data) ∧
    ((decode : Decoder NetworkAddress).all data = .error .malformed ↔
      ¬ CutShort data ∧ ((∀ text, utf8 text ≠ content data) ∨ behind data ≠ [])) := by
  have hdecoded := decoded_decode data
  refine ⟨fun address => ?_, fun address rest => ?_, fun address => ?_, hdecoded.eq_truncated_iff,
    hdecoded.eq_malformed_iff, ?_, ?_⟩
  · simp [writtenAs_iff]
  · rw [canonical data address rest]
    constructor
    · rintro ⟨hfits, hdata⟩
      exact ⟨encode address, writtenAs_iff.2 ⟨hfits, rfl⟩, hdata⟩
    · rintro ⟨front, hfront, hdata⟩
      obtain ⟨hfits, rfl⟩ := writtenAs_iff.1 hfront
      exact ⟨hfits, hdata⟩
  · rw [Decoder.all_eq_ok_iff, canonical data address [], List.append_nil, writtenAs_iff]
  · rw [Decoder.all_eq_error_iff, hdecoded.eq_truncated_iff]
    simp
  · rw [Decoder.all_eq_error_iff, ← hdecoded.spoiled_iff]
    simp

end NetworkAddress

end NetIdentity
