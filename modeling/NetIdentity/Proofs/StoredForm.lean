import NetIdentity.Proofs.Rewriting

/-!
# The stored form is exact

A record is read from exactly the bytes that start with its stored form, and what has been read can be
written again as the bytes it was read from. So a stored form followed by anything reads as its record, no
two records have the same stored form, and none is the front of another one.

Reading looks at the mark first and at the rest afterwards. The rest alone decides what a record says
(`readContent_eq_read`), and each of the three faults has its own place: no mark, another mark, or the right
mark with something behind it that is no record (`read_eq_error`).
-/

namespace NetIdentity

namespace Record

/-! ## The mark and the rest -/

theorem read_of_short {data : Bytes} (h : data.length < discriminatorSize) :
    read data = .error .noDiscriminator := by
  rw [read, if_pos h]

theorem read_of_other_mark {data : Bytes} (hlong : discriminatorSize ≤ data.length)
    (h : data.take discriminatorSize ≠ discriminator) : read data = .error .wrongDiscriminator := by
  rw [read, if_neg (Nat.not_lt.2 hlong), if_pos h]

theorem take_of_mark {data : Bytes} (h : discriminator <+: data) :
    data.take discriminatorSize = discriminator := by
  rw [← length_discriminator]
  exact (List.prefix_iff_eq_take.1 h).symm

/-- Data has the right mark or another one. -/
theorem mark_cases (data : Bytes) :
    discriminator <+: data ∨ data.take discriminatorSize ≠ discriminator := by
  by_cases hmark : data.take discriminatorSize = discriminator
  · left
    rw [← hmark]
    exact List.take_prefix discriminatorSize data
  · exact Or.inr hmark

theorem read_of_mark {data : Bytes} (h : discriminator <+: data) : read data = readContent data := by
  have hlong : discriminatorSize ≤ data.length := h.length_le
  rw [read, if_neg (Nat.not_lt.2 hlong), if_neg (not_not_intro (take_of_mark h))]

/-- What stands in place of the mark does not matter to the rest. -/
theorem readContent_eq_read (data : Bytes) :
    readContent data = read (discriminator ++ data.drop discriminatorSize) := by
  have hrest : (discriminator ++ data.drop discriminatorSize).drop discriminatorSize =
      data.drop discriminatorSize := List.drop_left' length_discriminator
  rw [read_of_mark (List.prefix_append _ _), readContent, readContent, hrest]

theorem readContent_eq_error {data : Bytes} {fault : Fault} (h : readContent data = .error fault) :
    fault = .undecodableRecord := by
  unfold readContent at h
  split at h
  · cases h
  · cases h
    rfl

/-! ## Faults -/

/-- Why data does not read as a record: the first of the three things that is wrong with it. -/
theorem read_eq_error {data : Bytes} {fault : Fault} (h : read data = .error fault) :
    (data.length < discriminatorSize ∧ fault = .noDiscriminator) ∨
    (discriminatorSize ≤ data.length ∧ data.take discriminatorSize ≠ discriminator ∧
      fault = .wrongDiscriminator) ∨
    (discriminator <+: data ∧ fault = .undecodableRecord) := by
  by_cases hlong : discriminatorSize ≤ data.length
  · rcases mark_cases data with hmark | hother
    · rw [read_of_mark hmark] at h
      exact Or.inr (Or.inr ⟨hmark, readContent_eq_error h⟩)
    · rw [read_of_other_mark hlong hother] at h
      cases h
      exact Or.inr (Or.inl ⟨hlong, hother, rfl⟩)
  · have hshort := Nat.not_le.1 hlong
    rw [read_of_short hshort] at h
    cases h
    exact Or.inl ⟨hshort, rfl⟩

/-- The three faults exclude each other, so each of them tells what the data is like. -/
theorem fault_iff {data : Bytes} {fault : Fault} (h : read data = .error fault) :
    (fault = .noDiscriminator ↔ data.length < discriminatorSize) ∧
    (fault = .wrongDiscriminator ↔
      discriminatorSize ≤ data.length ∧ data.take discriminatorSize ≠ discriminator) ∧
    (fault = .undecodableRecord ↔ discriminator <+: data) := by
  rcases read_eq_error h with ⟨hshort, rfl⟩ | ⟨hlong, hother, rfl⟩ | ⟨hmark, rfl⟩
  · have hnone : ¬ discriminator <+: data := fun hmark => Nat.not_le.2 hshort hmark.length_le
    simp [hshort, Nat.not_le.2 hshort, hnone]
  · have hnone : ¬ discriminator <+: data := fun hmark => hother (take_of_mark hmark)
    simp [Nat.not_lt.2 hlong, hlong, hother, hnone]
  · have hlong : discriminatorSize ≤ data.length := hmark.length_le
    simp [Nat.not_lt.2 hlong, take_of_mark hmark, hmark]

/-! ## Records -/

/-- What has been read is written as the bytes that reading took, and reading leaves the others. -/
theorem decode_of_read {data : Bytes} {r : Record} (h : read data = .ok r) :
    ∃ rest, decode (data.drop discriminatorSize) = .ok (r, rest) ∧ data = r.stored ++ rest := by
  obtain ⟨hsize, rest, rfl⟩ := read_eq_ok_iff.1 h
  have hcontent : (r.stored ++ rest).drop discriminatorSize = encode r ++ rest := by
    rw [stored, List.append_assoc]
    exact List.drop_left' length_discriminator
  refine ⟨rest, ?_, rfl⟩
  rw [hcontent]
  exact canonical.decode_encode hsize rest

/-- **The stored form is exact.** Data reads as a record exactly when it starts with the stored form, which
is never the front of another one; what is read is written as the bytes it was read from; the rest reads as
it would behind the right mark; and the fault tells what is wrong. -/
theorem stored_form_exact :
    (∀ (data : Bytes) (r : Record), r.networkId.utf8ByteSize < UInt32.size →
      (read data = .ok r ↔ r.stored <+: data)) ∧
    (∀ (r : Record) (rest : Bytes), r.networkId.utf8ByteSize < UInt32.size →
      read (r.stored ++ rest) = .ok r) ∧
    (∀ (data : Bytes) (r : Record), read data = .ok r →
      r.networkId.utf8ByteSize < UInt32.size ∧
        ∃ rest, decode (data.drop discriminatorSize) = .ok (r, rest) ∧ data = r.stored ++ rest) ∧
    (∀ (r s : Record) (x y : Bytes), r.networkId.utf8ByteSize < UInt32.size →
      s.networkId.utf8ByteSize < UInt32.size → r.stored ++ x = s.stored ++ y → r = s ∧ x = y) ∧
    (∀ data : Bytes, discriminatorSize ≤ data.length →
      readContent data = read (discriminator ++ data.drop discriminatorSize)) ∧
    ∀ (data : Bytes) (fault : Fault), read data = .error fault →
      (fault = .noDiscriminator ↔ data.length < discriminatorSize) ∧
      (fault = .wrongDiscriminator ↔
        discriminatorSize ≤ data.length ∧ data.take discriminatorSize ≠ discriminator) ∧
      (fault = .undecodableRecord ↔ discriminator <+: data) := by
  have hread : ∀ (r : Record) (rest : Bytes), r.networkId.utf8ByteSize < UInt32.size →
      read (r.stored ++ rest) = .ok r := by
    intro r rest hsize
    exact read_eq_ok_iff.2 ⟨hsize, List.prefix_append _ _⟩
  refine ⟨?_, hread, ?_, ?_, fun data _ => readContent_eq_read data, fun _ _ => fault_iff⟩
  · intro data r hsize
    rw [read_eq_ok_iff, and_iff_right hsize]
  · intro data r h
    exact ⟨(read_eq_ok_iff.1 h).1, decode_of_read h⟩
  · intro r s x y hr hs heq
    have hsame : r = s := by
      have hother := hread s y hs
      rw [← heq, hread r x hr] at hother
      exact Except.ok.inj hother
    subst hsame
    exact ⟨rfl, List.append_cancel_left heq⟩

/-- A record made before the epoch, with a network id of two letters in six bytes. -/
def sample : Record := initial Address.nativeLoader "日本" (-1) 255

/-- The sample is read back from its stored form with bytes behind it, and also behind another mark if
nobody looks at it; without its last byte it is no record. -/
theorem stored_form_exact_small :
    sample.networkId.utf8ByteSize < UInt32.size ∧
      read (sample.stored ++ [7, 7]) = .ok sample ∧
      readContent (List.replicate 8 0 ++ encode sample) = .ok sample ∧
      read (List.replicate 8 0 ++ encode sample) = .error .wrongDiscriminator ∧
      ¬ discriminator <+: List.replicate 8 0 ++ encode sample ∧
      read sample.stored.dropLast = .error .undecodableRecord ∧
      discriminator <+: sample.stored.dropLast := by
  obtain ⟨_, hread, _, _, hcontent, hfault⟩ := stored_form_exact
  have hsize : sample.networkId.utf8ByteSize < UInt32.size := by decide
  have hother : read (List.replicate 8 0 ++ encode sample) = .error .wrongDiscriminator := by rfl
  have hcut : read sample.stored.dropLast = .error .undecodableRecord := by rfl
  have hrest : readContent (List.replicate 8 0 ++ encode sample) = read (sample.stored ++ []) := by
    rw [List.append_nil]
    exact hcontent _ (by decide +kernel)
  refine ⟨hsize, hread sample [7, 7] hsize, hrest.trans (hread sample [] hsize), hother, ?_, hcut,
    (hfault _ _ hcut).2.2.1 rfl⟩
  intro hfront
  have hwrong := (hfault _ _ hother).2.2.2 hfront
  cases hwrong

end Record

end NetIdentity
