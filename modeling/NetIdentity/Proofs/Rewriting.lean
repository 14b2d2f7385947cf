import NetIdentity.Record.Canonical
import NetIdentity.Record.Stored
import NetIdentity.Store

/-!
# Reading and rewriting stored records

Data reads as a record exactly when the stored form of the record stands at its front
(`read_eq_ok_iff`). So data holds at most one record (`stored_unique`), and the bytes behind a record
are never looked at.

An amendment keeps the length of the stored form, because only the network id varies in length and
no amendment touches it. Hence an amended record always fits where the record was read from, covers
exactly its bytes, and leaves what stands behind them (`load_rewrite`).
-/

namespace NetIdentity

theorem Bytes.overwrite_append {front bytes rest : Bytes} (h : bytes.length = front.length) :
    Bytes.overwrite (front ++ rest) bytes = bytes ++ rest := by
  rw [Bytes.overwrite, List.take_of_length_le, h, List.drop_left]
  rw [List.length_append, h]
  exact Nat.le_add_right _ _

namespace Record

theorem writeOver_eq {r : Record} (hsize : r.networkId.utf8ByteSize < UInt32.size) (data : Bytes) :
    writeOver data r =
      (data.overwrite r.stored,
        if r.stored.length ≤ data.length then .ok () else .error .recordTooLarge) := by
  simp [writeOver, hsize, Bytes.fill_eq, flatten_pieces]

/-- All of a record has been written when its network id is not too long and the data is long enough. -/
theorem writeOver_eq_ok_iff {data after : Bytes} {r : Record} :
    writeOver data r = (after, .ok ()) ↔
      r.networkId.utf8ByteSize < UInt32.size ∧ r.stored.length ≤ data.length ∧
        after = data.overwrite r.stored := by
  by_cases hsize : r.networkId.utf8ByteSize < UInt32.size
  · by_cases hroom : r.stored.length ≤ data.length
    · simp [writeOver_eq hsize, hsize, hroom, eq_comm]
    · simp [writeOver_eq hsize, hroom]
  · simp [writeOver, hsize]

/-- A record that fits the space of its account has a network id whose length can be written. -/
theorem networkId_lt_of_length_le {r : Record} (h : r.stored.length ≤ space) :
    r.networkId.utf8ByteSize < UInt32.size := by
  have hspace : space < UInt32.size := by decide
  rw [length_stored] at h
  omega

theorem length_discriminator : discriminator.length = discriminatorSize := rfl

/-- Data reads as a record exactly when the record's stored form is the front of it. -/
theorem read_eq_ok_iff {data : Bytes} {r : Record} :
    read data = .ok r ↔ r.networkId.utf8ByteSize < UInt32.size ∧ r.stored <+: data := by
  constructor
  · intro h
    unfold read at h
    split at h
    · cases h
    split at h
    · cases h
    next hmark =>
      unfold readContent at h
      split at h
      · next found rest hdecode =>
        cases h
        obtain ⟨hsize, hcontent⟩ := (canonical _ _ _).1 hdecode
        refine ⟨hsize, rest, ?_⟩
        rw [stored, List.append_assoc, ← hcontent, ← Decidable.not_not.1 hmark, List.take_append_drop]
      · cases h
  · rintro ⟨hsize, rest, rfl⟩
    have hfront : (r.stored ++ rest).take discriminatorSize = discriminator := by
      rw [stored, List.append_assoc]
      exact List.take_left' length_discriminator
    have hcontent : (r.stored ++ rest).drop discriminatorSize = encode r ++ rest := by
      rw [stored, List.append_assoc]
      exact List.drop_left' length_discriminator
    have hlong : ¬ (r.stored ++ rest).length < discriminatorSize := by
      rw [List.length_append, length_stored, discriminatorSize]
      omega
    rw [read, if_neg hlong, if_neg (not_not_intro hfront), readContent, hcontent,
      canonical.decode_encode hsize]

/-- A stored form is never the front of the stored form of another record. -/
theorem stored_unique {data : Bytes} {r s : Record} (hr : read data = .ok r) (hs : s.stored <+: data)
    (hsize : s.networkId.utf8ByteSize < UInt32.size) : s = r := by
  have hread := read_eq_ok_iff.2 ⟨hsize, hs⟩
  rw [hr, Except.ok.injEq] at hread
  exact hread.symm

/-- A record that stands in data of less than four gigabytes has a network id whose length can be read
back. -/
theorem networkId_lt_of_stored {data : Bytes} {r : Record} (h : r.stored <+: data)
    (hdata : data.length < UInt32.size) : r.networkId.utf8ByteSize < UInt32.size := by
  have hle := h.length_le
  rw [length_stored] at hle
  omega

end Record

/-! ## Amendments -/

namespace Amendment

theorem length_stored_apply (a : Amendment) (r : Record) :
    (a.apply r).stored.length = r.stored.length := by
  rw [Record.length_stored, Record.length_stored, networkId_apply]

def rewrite (a : Amendment) (r : Record) (account : Account) : Account :=
  { account with data := account.data.overwrite (a.apply r).stored }

/-- Where a record was read, the amended record takes the place of it and nothing else changes. -/
theorem data_rewrite {a : Amendment} {r : Record} {account : Account} {rest : Bytes}
    (h : account.data = r.stored ++ rest) :
    (a.rewrite r account).data = (a.apply r).stored ++ rest := by
  rw [rewrite, h]
  exact Bytes.overwrite_append (length_stored_apply a r)

end Amendment

namespace Store

section

variable {program : Address} {x y : Account}

theorem isCreated_congr (h : x.SameContent y) : isCreated program x = isCreated program y := by
  rw [isCreated, isCreated, h.owner, h.data]

theorem load_congr (h : x.SameContent y) : load program x = load program y := by
  rw [load, load, isCreated_congr h, h.data]

end

theorem isCreated_eq_true_iff {program : Address} {account : Account} :
    isCreated program account = true ↔ account.owner = program ∧ account.data ≠ [] := by
  rw [isCreated, decide_eq_true_eq]

theorem load_of_not_created {program : Address} {account : Account}
    (h : isCreated program account = false) : load program account = .ok none := by
  rw [load, h]
  rfl

theorem load_eq_none_iff {program : Address} {account : Account} :
    load program account = .ok none ↔ isCreated program account = false := by
  constructor
  · intro h
    unfold load at h
    split at h
    · split at h <;> cases h
    · next hmissing => exact Bool.eq_false_iff.2 hmissing
  · exact load_of_not_created

/-- A record is loaded exactly from an account of the program whose data starts with it. -/
theorem load_eq_some_iff {program : Address} {account : Account} {r : Record} :
    load program account = .ok (some r) ↔
      account.owner = program ∧ r.networkId.utf8ByteSize < UInt32.size ∧ r.stored <+: account.data := by
  unfold load
  constructor
  · intro h
    split at h
    · next hcreated =>
      split at h
      · next found hread =>
        cases h
        exact ⟨(isCreated_eq_true_iff.1 hcreated).1, Record.read_eq_ok_iff.1 hread⟩
      · cases h
    · cases h
  · rintro ⟨howner, hread⟩
    have hne : account.data ≠ [] := by
      intro hempty
      have hle := hread.2.length_le
      rw [hempty, Record.length_stored, List.length_nil] at hle
      omega
    rw [if_pos (isCreated_eq_true_iff.2 ⟨howner, hne⟩), Record.read_eq_ok_iff.2 hread]

theorem isCreated_of_load {program : Address} {account : Account} {r : Record}
    (h : load program account = .ok (some r)) : isCreated program account = true := by
  cases hcreated : isCreated program account with
  | true => rfl
  | false =>
      rw [load_of_not_created hcreated] at h
      cases h

theorem loadInitialized_eq_ok_iff {program : Address} {account : Account} {r : Record} :
    loadInitialized program account = .ok r ↔ load program account = .ok (some r) := by
  unfold loadInitialized
  constructor
  · intro h
    split at h
    · next found hload =>
      cases h
      exact hload
    · cases h
    · cases h
  · intro h
    rw [h]

theorem load_rewrite {program : Address} {account : Account} {r : Record} {a : Amendment}
    (h : load program account = .ok (some r)) :
    load program (a.rewrite r account) = .ok (some (a.apply r)) := by
  obtain ⟨howner, hsize, rest, hdata⟩ := load_eq_some_iff.1 h
  refine load_eq_some_iff.2 ⟨howner, ?_, rest, (Amendment.data_rewrite hdata.symm).symm⟩
  rw [Amendment.networkId_apply]
  exact hsize

end Store

end NetIdentity
