import NetIdentity.Proofs.StoreHistories

/-!
# Torn records

A save writes over the old record also when there is no room for all of the new one. What is left then is *torn*:
it ends inside the stored form of a record. No stored form is the front of another one, so torn data is never
read as a record, not even as a wrong one (`Record.Torn.read_eq`).

Later saves do not mend it by accident. One that fails for want of room tears the data anew, and one that fails
because its network id is too long to be written has replaced the two addresses by then, which leaves the data as
torn as it was (`Record.Torn.writeOver`). Only a save that succeeds brings a record back, and then all of it.
-/

namespace NetIdentity

namespace Bytes

/-- Data may be cut before or after it is written over. -/
theorem overwrite_take (data bytes : Bytes) (n : Nat) :
    overwrite (data.take n) bytes = (data.overwrite bytes).take n := by
  have hfront : bytes.take (data.take n).length = (bytes.take data.length).take n := by
    rw [List.take_take, List.length_take]
  have hback : (data.take n).drop bytes.length =
      (data.drop bytes.length).take (n - (bytes.take data.length).length) := by
    rw [List.drop_take, List.length_take]
    by_cases h : bytes.length ≤ data.length
    · rw [Nat.min_eq_right h]
    · rw [List.drop_of_length_le (Nat.le_of_not_le h), List.take_nil, List.take_nil]
  rw [overwrite, overwrite, List.take_append, hfront, hback]

end Bytes

namespace Record

/-- The data ends inside the stored form of a record. -/
def Torn (data : Bytes) : Prop :=
  ∃ r : Record, r.networkId.utf8ByteSize < UInt32.size ∧ data <+: r.stored ∧ data.length < r.stored.length

/-- What is wrong with torn data: it ends before the mark does, or behind it. -/
def tornFault (data : Bytes) : Fault :=
  if data.length < discriminatorSize then .noDiscriminator else .undecodableRecord

theorem tornFault_congr {data other : Bytes} (h : data.length = other.length) :
    tornFault data = tornFault other := by
  rw [tornFault, h, tornFault]

theorem Torn.read_eq {data : Bytes} (h : Torn data) : read data = .error (tornFault data) := by
  obtain ⟨r, hsize, hprefix, hshort⟩ := h
  unfold tornFault
  split
  · next hnone => exact read_of_short hnone
  · next hlong =>
    have hmark : discriminator <+: data := by
      refine List.prefix_of_prefix_length_le (List.prefix_append _ _) hprefix ?_
      exact Nat.le_of_not_lt hlong
    cases hread : read data with
    | error fault => rw [(fault_iff hread).2.2.2 hmark]
    | ok s =>
        -- The record that was read would stand at the front of the one that was torn.
        obtain ⟨hs, hfront⟩ := read_eq_ok_iff.1 hread
        have hwhole : read r.stored = .ok r := read_eq_ok_iff.2 ⟨hsize, List.prefix_refl _⟩
        obtain rfl : s = r := stored_unique hwhole (hfront.trans hprefix) hs
        exact absurd hfront.length_le (Nat.not_le.2 hshort)

/-! ## Writing over data -/

variable {data : Bytes} {r : Record}

/-- Whatever the data was, what is left of it when a record has no room is torn. -/
theorem torn_of_no_room (hsize : r.networkId.utf8ByteSize < UInt32.size)
    (hroom : data.length < r.stored.length) : Torn (writeOver data r).1 := by
  have hleft : (writeOver data r).1 = r.stored.take data.length := by
    rw [writeOver_eq hsize, Bytes.overwrite, List.drop_of_length_le (Nat.le_of_lt hroom), List.append_nil]
  refine ⟨r, hsize, ?_, ?_⟩
  · rw [hleft]
    exact List.take_prefix _ _
  · rw [length_writeOver]
    exact hroom

/-- A record with a network id that cannot be written replaces the addresses of another one. -/
theorem overwrite_leadingPieces (r s : Record) :
    s.stored.overwrite r.leadingPieces.flatten =
      stored { s with admin := r.admin, feeHandler := r.feeHandler } := by
  have hstored : ∀ s : Record, s.stored = s.leadingPieces.flatten ++ (encode s.networkId ++
      (encode s.protocolFee ++ (encode s.createdAt ++ encode s.bump))) := by
    intro s
    simp [stored, leadingPieces, encode]
  have hlength : r.leadingPieces.flatten.length = s.leadingPieces.flatten.length := by
    simp [leadingPieces, encode, Address.length_bytes]
  rw [hstored s, hstored, Bytes.overwrite_append hlength]
  rfl

/-- A write that fails leaves torn data torn. -/
theorem Torn.writeOver (h : Torn data) (hfails : (Record.writeOver data r).2 ≠ .ok ()) :
    Torn (Record.writeOver data r).1 := by
  by_cases hsize : r.networkId.utf8ByteSize < UInt32.size
  · refine torn_of_no_room hsize (Nat.lt_of_not_le fun hroom => hfails ?_)
    rw [writeOver_eq hsize, if_pos hroom]
  · obtain ⟨s, hs, hprefix, hshort⟩ := h
    have hcut : data = s.stored.take data.length := List.prefix_iff_eq_take.1 hprefix
    have hleft : (Record.writeOver data r).1 =
        (stored { s with admin := r.admin, feeHandler := r.feeHandler }).take data.length := by
      have hpieces : (Record.writeOver data r).1 = data.overwrite r.leadingPieces.flatten := by
        rw [Record.writeOver, if_neg hsize, Bytes.fill_eq]
      rw [hpieces, ← overwrite_leadingPieces, ← Bytes.overwrite_take, ← hcut]
    refine ⟨{ s with admin := r.admin, feeHandler := r.feeHandler }, hs, ?_, ?_⟩
    · rw [hleft]
      exact List.take_prefix _ _
    · rw [length_writeOver, length_stored]
      rw [length_stored] at hshort
      exact hshort

end Record

/-! ## Histories of torn accounts -/

namespace Store

/-- The call is a save that has succeeded. -/
def Call.Saves (c : Call) (outcome : Outcome) : Prop :=
  (∃ r, c = .save r) ∧ outcome.result = .ok .done

/-- The account has been created, and its data is torn. -/
structure Torn (program : Address) (account : Account) : Prop where
  created : isCreated program account = true
  data : Record.Torn account.data

variable {program : Address} {account : Account}

theorem Torn.load_eq (h : Torn program account) :
    load program account = .error (Record.tornFault account.data) := by
  rw [load, if_pos h.created, h.data.read_eq]

theorem Torn.loadInitialized_eq (h : Torn program account) :
    loadInitialized program account = .error (Record.tornFault account.data) := by
  rw [loadInitialized, h.load_eq]

namespace Site

variable {site : Site} {ledger : Ledger} {read : Bool} {r : Record}

theorem save_of_no_room (hcreated : Store.isCreated site.program (ledger site.target.address) = true)
    (hsize : r.networkId.utf8ByteSize < UInt32.size)
    (hroom : (ledger site.target.address).data.length < r.stored.length) :
    (site.call ledger false (.save r)).result = .error (.fault .recordTooLarge) := by
  rw [call_save_of_created hcreated, Record.writeOver_eq hsize, if_neg (Nat.not_le.2 hroom)]
  rfl

/-- A save that finds no room has torn the record. -/
theorem torn_of_save (hcreated : Store.isCreated site.program (ledger site.target.address) = true)
    (hsize : r.networkId.utf8ByteSize < UInt32.size)
    (hfails : (site.call ledger read (.save r)).result = .error (.fault .recordTooLarge)) :
    Torn site.program ((site.call ledger read (.save r)).ledger site.target.address) := by
  refine ⟨(sameShape_call hcreated read _).isCreated hcreated, ?_⟩
  cases read with
  | true =>
      rw [call_save_of_read hcreated] at hfails
      cases hfails
  | false =>
      rw [call_save_of_created hcreated] at hfails ⊢
      dsimp only at hfails ⊢
      rw [Ledger.set_self]
      refine Record.torn_of_no_room hsize (Nat.lt_of_not_le fun hroom => ?_)
      rw [Record.writeOver_eq hsize, if_pos hroom] at hfails
      cases hfails

/-- The step: a torn account stays torn, unless a save succeeds. -/
theorem torn_call {c : Call} (h : Torn site.program (ledger site.target.address))
    (hunsaved : ¬ c.Saves (site.call ledger read c)) :
    Torn site.program ((site.call ledger read c).ledger site.target.address) := by
  rcases call_of_created h.created read c with hledger | ⟨⟨⟨r, rfl⟩, _⟩, hshape⟩
  · rw [hledger]
    exact h
  · refine ⟨hshape.isCreated h.created, ?_⟩
    cases read with
    | true =>
        rw [call_save_of_read h.created]
        exact h.data
    | false =>
        have hfails : (Record.writeOver (ledger site.target.address).data r).2 ≠ .ok () := by
          intro hverdict
          refine hunsaved ⟨⟨r, rfl⟩, ?_⟩
          rw [call_save_of_created h.created, hverdict]
          rfl
        rw [call_save_of_created h.created]
        dsimp only
        rw [Ledger.set_self]
        exact h.data.writeOver hfails

/-- So it does along a history. -/
theorem torn_after {history : List (Bool × Call)} (h : Torn site.program (ledger site.target.address))
    (hunsaved : ∀ entry ∈ history.zip (site.run ledger history), ¬ entry.1.2.Saves entry.2) :
    Torn site.program (site.after ledger history site.target.address) := by
  induction history generalizing ledger with
  | nil => exact h
  | cons entry rest ih =>
      rw [run, List.zip_cons_cons, List.forall_mem_cons] at hunsaved
      exact ih (torn_call h hunsaved.1) hunsaved.2

/-- **A record that does not fit is torn**, and stays so until a save succeeds. What a write leaves is the front
of the record, as far as there is room, and what it did not reach. After a save that has failed for want of room
every load fails, at whatever point of a history, until a save succeeds; and that one brings its record back. -/
theorem torn_until_saved :
    (∀ (r : Record) (buffer : Bytes), r.networkId.utf8ByteSize < UInt32.size →
      ((Record.writeOver buffer r).2 = .ok () ↔ r.stored.length ≤ buffer.length) ∧
      (buffer.length < r.stored.length → (Record.writeOver buffer r).2 = .error .recordTooLarge) ∧
      (Record.writeOver buffer r).1 = r.stored.take buffer.length ++ buffer.drop r.stored.length) ∧
    ∀ (site : Site) (ledger : Ledger) (read : Bool) (r : Record) (later : List (Bool × Call)),
      Store.isCreated site.program (ledger site.target.address) = true →
      r.networkId.utf8ByteSize < UInt32.size →
      (site.call ledger read (.save r)).result = .error (.fault .recordTooLarge) →
      (∀ entry ∈ later.zip (site.run (site.call ledger read (.save r)).ledger later),
        ¬ entry.1.2.Saves entry.2) →
      let left := site.after ledger ((read, .save r) :: later)
      (∀ reading,
        (site.call left reading .load).result =
            .error (.fault (Record.tornFault (ledger site.target.address).data)) ∧
          (site.call left reading .loadInitialized).result =
            .error (.fault (Record.tornFault (ledger site.target.address).data))) ∧
      ∀ s : Record, s.networkId.utf8ByteSize < UInt32.size →
        s.stored.length ≤ (ledger site.target.address).data.length →
        (site.call left false (.save s)).result = .ok .done ∧
        ∀ reading,
          (site.call (site.call left false (.save s)).ledger reading .load).result = .ok (.found (some s)) ∧
            (site.call (site.call left false (.save s)).ledger reading .loadInitialized).result =
              .ok (.record s) := by
  refine ⟨?_, ?_⟩
  · intro r buffer hsize
    rw [Record.writeOver_eq hsize]
    refine ⟨?_, fun hshort => if_neg (Nat.not_le.2 hshort), rfl⟩
    by_cases hroom : r.stored.length ≤ buffer.length <;> simp [hroom]
  · intro site ledger read r later hcreated hsize hfails hunsaved left
    have hstays := torn_after (torn_of_save hcreated hsize hfails) hunsaved
    have htorn : Torn site.program (left site.target.address) := hstays
    have hlength : (left site.target.address).data.length = (ledger site.target.address).data.length :=
      (sameShape_after ((read, .save r) :: later) hcreated).size
    refine ⟨fun reading => ?_, fun s hs hroom => ?_⟩
    · rw [call_load, call_loadInitialized, htorn.load_eq, htorn.loadInitialized_eq,
        Record.tornFault_congr hlength]
      exact ⟨rfl, rfl⟩
    · rw [← hlength] at hroom
      have hsaved := save_of_room htorn.created hs hroom
      have hload := load_of_save hsaved
      refine ⟨hsaved, fun reading => ?_⟩
      rw [call_load, call_loadInitialized, hload, loadInitialized_eq_ok_iff.2 hload]
      exact ⟨rfl, rfl⟩

/-- Ninety-five bytes do not hold the sample, and no later call of this history mends what its save has torn. A
record with a shorter network id fits. -/
theorem torn_until_saved_small :
    let ledger := Ledger.fresh.set Program.recordAddress ⟨1, Program.id, List.replicate 95 0, false⟩
    let history : List (Bool × Call) :=
      [(false, .save Record.sample), (true, .save Record.sample), (false, .create 255 Record.sample)]
    let short := Record.initial Address.systemProgram "a" 5 1
    (Record.writeOver (List.replicate 95 0) Record.sample).2 = .error .recordTooLarge ∧
      Store.isCreated Program.id (ledger Program.recordAddress) = true ∧
      (sample.call ledger false (.save Record.sample)).result = .error (.fault .recordTooLarge) ∧
      (sample.call (sample.after ledger history) true .load).result =
        .error (.fault .undecodableRecord) ∧
      (sample.call (sample.after ledger history) false (.save short)).result = .ok .done ∧
      (sample.call (sample.call (sample.after ledger history) false (.save short)).ledger true .load).result =
        .ok (.found (some short)) := by
  intro ledger history short
  have hcreated : Store.isCreated Program.id (ledger Program.recordAddress) = true := by rfl
  have hlength : (ledger Program.recordAddress).data.length = 95 := by
    rw [show ledger = Ledger.fresh.set Program.recordAddress _ from rfl, Ledger.set_self,
      List.length_replicate]
  have hfails : (sample.call ledger false (.save Record.sample)).result =
      .error (.fault .recordTooLarge) := by
    refine save_of_no_room hcreated (by decide) ?_
    rw [show sample.target.address = Program.recordAddress from rfl, hlength, Record.length_stored]
    decide
  have hthen := (@sameShape_call sample ledger hcreated false (.save Record.sample)).isCreated hcreated
  have hunsaved : ∀ entry ∈
      List.zip [(true, Call.save Record.sample), (false, .create 255 Record.sample)]
        (sample.run (sample.call ledger false (.save Record.sample)).ledger
          [(true, .save Record.sample), (false, .create 255 Record.sample)]),
      ¬ entry.1.2.Saves entry.2 := by
    rw [run, call_save_of_read hthen, run, call_create_of_created hthen]
    simp [Call.Saves]
  obtain ⟨hloads, hsaves⟩ :=
    torn_until_saved.2 sample ledger false Record.sample _ hcreated (by decide) hfails hunsaved
  have hverdict := (torn_until_saved.1 Record.sample (List.replicate 95 0) (by decide)).2.1 (by decide +kernel)
  have hshort : short.stored.length ≤ (ledger Program.recordAddress).data.length := by
    rw [hlength, Record.length_stored]
    decide
  obtain ⟨hsaved, hfound⟩ := hsaves short (by decide) hshort
  refine ⟨hverdict, hcreated, hfails, ?_, hsaved, (hfound true).1⟩
  rw [(hloads true).1, Record.tornFault, if_neg]
  rw [show sample.target.address = Program.recordAddress from rfl, hlength]
  decide

end Site

end Store

end NetIdentity
