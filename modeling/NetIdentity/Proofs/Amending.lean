import NetIdentity.Proofs.Answers
import NetIdentity.Proofs.Custody
import NetIdentity.Proofs.Layout

/-!
# When an amendment succeeds, and what it writes

An amendment succeeds when the record's account and a signer are given, the account holds a record, the signer
has the say on what is amended, and there is a clock (`CanAmend`). How long the data is does not matter, nor what
stands behind the record.

The whole record is written again, and yet it is only a patch: the new value takes the place of the old one and
all other bytes are as before (`Amendment.data_rewrite_eq_patch`). Where the place is can be seen from the data
without reading it as a record: two of the fields stand at fixed places, and the third behind the network id,
whose length stands at byte 72 (`Record.idLength_of_stored`).
-/

namespace NetIdentity

open NetIdentity.Program

/-! ## Patches -/

namespace Bytes

/-- Other bytes in place of those from `start` up to `stop`. -/
def replace (data : Bytes) (start stop : Nat) (bytes : Bytes) : Bytes :=
  data.take start ++ (bytes ++ data.drop stop)

theorem replace_append (front old rest bytes : Bytes) :
    replace (front ++ (old ++ rest)) front.length (front.length + old.length) bytes =
      front ++ (bytes ++ rest) := by
  rw [replace, List.take_left, ← List.drop_drop, List.drop_left, List.drop_left]

end Bytes

namespace Record

/-- The length of the network id, as it is written before the id. -/
def idLength (data : Bytes) : Nat := Bytes.toNat ((data.drop 72).take 4)

/-- In data that starts with a record, that is the length of the record's network id. -/
theorem idLength_of_stored {data : Bytes} {r : Record} (h : r.stored <+: data)
    (hsize : r.networkId.utf8ByteSize < UInt32.size) : idLength data = r.networkId.utf8ByteSize := by
  obtain ⟨rest, rfl⟩ := h
  have hbehind : (r.stored ++ rest).drop 72 =
      Bytes.ofNat 4 (UInt32.ofNat r.networkId.utf8ByteSize).toNat ++
        (utf8 r.networkId ++ (encode r.protocolFee ++ (encode r.createdAt ++ encode r.bump)) ++ rest) := by
    have hfront : (Field.front .feeHandler r ++ Field.content .feeHandler r).length = 72 := by
      rw [List.length_append, Field.length_front, Field.length_content]
      rfl
    rw [Field.stored_eq .feeHandler, ← List.append_assoc, List.append_assoc, ← hfront, List.drop_left]
    simp only [Field.back, encode, List.append_assoc]
  rw [idLength, hbehind, List.take_left' (Bytes.length_ofNat 4 _), UInt32.toNat_ofNat_of_lt' hsize]
  exact Bytes.toNat_ofNat 4 _ hsize

end Record

namespace Amendment

/-- The new value in place of the old one. -/
def patch (a : Amendment) (data : Bytes) : Bytes :=
  match a with
  | .admin successor => data.replace 8 40 successor.bytes
  | .feeHandler successor => data.replace 40 72 successor.bytes
  | .protocolFee fee =>
      data.replace (76 + Record.idLength data) (84 + Record.idLength data) (Bytes.ofNat 8 fee.toNat)

theorem patch_eq_replace {r : Record} {data : Bytes} (a : Amendment) (h : r.stored <+: data)
    (hsize : r.networkId.utf8ByteSize < UInt32.size) :
    a.patch data =
      data.replace (a.field.offset r) (a.field.offset r + a.field.width) (a.field.content (a.apply r)) := by
  cases a with
  | admin successor => rfl
  | feeHandler successor => rfl
  | protocolFee fee =>
      rw [patch, Record.idLength_of_stored h hsize, show 84 + r.networkId.utf8ByteSize =
        76 + r.networkId.utf8ByteSize + 8 by omega]
      rfl

/-- Rewriting a record that has been read changes no more than a patch would. -/
theorem data_rewrite_eq_patch {r : Record} {account : Account} (a : Amendment)
    (h : r.stored <+: account.data) (hsize : r.networkId.utf8ByteSize < UInt32.size) :
    (a.rewrite r account).data = a.patch account.data := by
  rw [a.patch_eq_replace h hsize]
  obtain ⟨rest, hdata⟩ := h
  have hbefore : account.data = a.field.front r ++ (a.field.content r ++ (a.field.back r ++ rest)) := by
    rw [← hdata, a.field.stored_eq]
    simp only [List.append_assoc]
  rw [data_rewrite hdata.symm, a.field.stored_eq, a.front_apply, a.back_apply, hbefore,
    ← a.field.length_front r, ← a.field.length_content r, Bytes.replace_append]
  simp only [List.append_assoc]

/-- A field that has its new value already is written as it was. -/
theorem rewrite_of_apply_eq {r : Record} {account : Account} {a : Amendment} (h : r.stored <+: account.data)
    (hsame : a.apply r = r) : a.rewrite r account = account := by
  obtain ⟨rest, hdata⟩ := h
  have hkept : (a.rewrite r account).data = account.data := by
    rw [data_rewrite hdata.symm, hsame, hdata]
  exact congrArg (fun data => { account with data := data }) hkept

end Amendment

theorem Store.load_eq_some_iff_read {program : Address} {account : Account} {r : Record} :
    load program account = .ok (some r) ↔
      isCreated program account = true ∧ Record.read account.data = .ok r := by
  constructor
  · intro h
    exact ⟨isCreated_of_load h, Record.read_eq_ok_iff.2 (load_eq_some_iff.1 h).2⟩
  · rintro ⟨hcreated, hread⟩
    rw [load, if_pos hcreated, hread]

namespace Program

variable {env : Environment} {ledger : Ledger} {i : Instruction} {a : Amendment} {record signer : Mention}
  {r : Record}

/-- The instruction brings what it takes to amend the record, and finds what it takes on the ledger. -/
structure CanAmend (env : Environment) (ledger : Ledger) (i : Instruction) (a : Amendment)
    (record signer : Mention) (r : Record) : Prop where
  accounts : ∃ others, i.accounts = record :: signer :: others
  recordAddress : record.address = Program.recordAddress
  recordWritable : record.writable = true
  signed : signer.signer = true
  created : Store.isCreated id (ledger Program.recordAddress) = true
  readable : Record.read (ledger Program.recordAddress).data = .ok r
  authority : signer.address = a.authority r
  clockAvailable : env.clock.isSome = true

theorem canAmend_of_outcome {report : Report} (h : Outcome env ledger i (.amend a) report) :
    ∃ record signer r, CanAmend env ledger i a record signer r ∧
      report.ledger = ledger.set Program.recordAddress (a.rewrite r (ledger Program.recordAddress)) := by
  cases h with
  | @amend _ record signer r now haccounts hload hholder htimed =>
      obtain ⟨others, hmentions, haddress, hrecord, hsigned⟩ := amendmentAccounts_eq_ok_iff.1 haccounts
      obtain ⟨hcreated, hread⟩ := Store.load_eq_some_iff_read.1 hload
      refine ⟨record, signer, r, ?_, rfl⟩
      exact {
        accounts := ⟨others, hmentions⟩
        recordAddress := haddress
        recordWritable := hrecord
        signed := hsigned
        created := hcreated
        readable := hread
        authority := by rw [← hholder, a.holder_role]
        clockAvailable := by rw [htimed]; rfl }

theorem CanAmend.outcome (h : CanAmend env ledger i a record signer r) :
    ∃ report, Outcome env ledger i (.amend a) report := by
  obtain ⟨others, hmentions⟩ := h.accounts
  obtain ⟨now, htimed⟩ := Option.isSome_iff_exists.1 h.clockAvailable
  have haccounts : amendmentAccounts a.role i.accounts = .ok (record, signer) :=
    amendmentAccounts_eq_ok_iff.2 ⟨others, hmentions, h.recordAddress, h.recordWritable, h.signed⟩
  have hload : Store.load id (ledger Program.recordAddress) = .ok (some r) :=
    Store.load_eq_some_iff_read.2 ⟨h.created, h.readable⟩
  have hholder : a.role.holder r = signer.address := by
    rw [a.holder_role, h.authority]
  exact ⟨_, .amend haccounts hload hholder htimed⟩

/-- **When an amendment succeeds**, and what it does then: in the data of the record's account the new value
takes the place of the old one, and nothing else in it changes, nor does anything else of the account. -/
theorem amend_succeeds_iff (hprogram : i.program = id) (hcommand : i.command? = some (.amend a)) :
    ((∃ answer, (submit env ledger i).result = .ok answer) ↔
      ∃ record signer r, CanAmend env ledger i a record signer r) ∧
    ∀ answer, (submit env ledger i).result = .ok answer →
      ((submit env ledger i).ledger recordAddress).data = a.patch (ledger recordAddress).data ∧
      ((submit env ledger i).ledger recordAddress).data.length = (ledger recordAddress).data.length ∧
      ((submit env ledger i).ledger recordAddress).owner = (ledger recordAddress).owner ∧
      ((submit env ledger i).ledger recordAddress).lamports = (ledger recordAddress).lamports ∧
      ((submit env ledger i).ledger recordAddress).executable = (ledger recordAddress).executable ∧
      ∀ r, Record.read (ledger recordAddress).data = .ok r → a.apply r = r →
        ((submit env ledger i).ledger recordAddress).data = (ledger recordAddress).data := by
  constructor
  · rw [succeeds_iff_outcome hcommand]
    constructor
    · rintro ⟨_, report, houtcome⟩
      obtain ⟨record, signer, r, h, _⟩ := canAmend_of_outcome houtcome
      exact ⟨record, signer, r, h⟩
    · rintro ⟨record, signer, r, h⟩
      exact ⟨hprogram, h.outcome⟩
  · intro answer hsucceeds
    obtain ⟨_, houtcome⟩ := outcome_of_ok hcommand hsucceeds
    obtain ⟨record, signer, r, h, hledger⟩ := canAmend_of_outcome houtcome
    obtain ⟨hsize, hfront⟩ := Record.read_eq_ok_iff.1 h.readable
    have hafter : (submit env ledger i).ledger recordAddress = a.rewrite r (ledger recordAddress) := by
      rw [hledger, Ledger.set_self]
    rw [hafter]
    refine ⟨a.data_rewrite_eq_patch hfront hsize, Amendment.length_data_rewrite hfront, rfl, rfl, rfl, ?_⟩
    intro s hread hsame
    rw [h.readable] at hread
    cases hread
    rw [Amendment.rewrite_of_apply_eq hfront hsame]

/-- The network id of the sample takes six bytes, so its fee stands at byte 82, and two bytes behind the record
stay where they are. The admin may name himself, which changes nothing; without a clock nothing succeeds. -/
theorem amend_succeeds_iff_small :
    let ledger := holding id (Record.sample.stored ++ [7, 7])
    let fee := (Command.amend (.protocolFee 258)).instruction Address.nativeLoader
    let same := (Command.amend (.admin Address.nativeLoader)).instruction Address.nativeLoader
    (fee.program = id ∧ fee.command? = some (.amend (.protocolFee 258)) ∧
      (∃ answer, (submit Environment.default ledger fee).result = .ok answer) ∧
      ((submit Environment.default ledger fee).ledger recordAddress).data =
        (ledger recordAddress).data.replace 82 90 [2, 1, 0, 0, 0, 0, 0, 0]) ∧
    (same.program = id ∧ same.command? = some (.amend (.admin Address.nativeLoader)) ∧
      (∃ answer, (submit Environment.default ledger same).result = .ok answer) ∧
      ((submit Environment.default ledger same).ledger recordAddress).data = (ledger recordAddress).data) ∧
    ¬ ∃ answer, (submit { Environment.default with clock := none } ledger fee).result = .ok answer := by
  intro ledger fee same
  have hfee : fee.command? = some (.amend (.protocolFee 258)) := by decide +kernel
  have hsame : same.command? = some (.amend (.admin Address.nativeLoader)) := by decide +kernel
  have hread : Record.read (ledger recordAddress).data = .ok Record.sample :=
    Record.read_eq_ok_iff.2 ⟨by decide, List.prefix_append _ _⟩
  have hcreated : Store.isCreated id (ledger recordAddress) = true := by decide
  have hcan : ∀ a : Amendment, a.authority Record.sample = Address.nativeLoader →
      CanAmend Environment.default ledger ((Command.amend a).instruction Address.nativeLoader) a
        ⟨recordAddress, false, true⟩ ⟨Address.nativeLoader, true, false⟩ Record.sample := by
    intro a hauthority
    exact {
      accounts := ⟨[], rfl⟩
      recordAddress := rfl
      recordWritable := rfl
      signed := rfl
      created := hcreated
      readable := hread
      authority := hauthority.symm
      clockAvailable := rfl }
  obtain ⟨hfeeIff, hfeeData⟩ := @amend_succeeds_iff Environment.default ledger fee _ rfl hfee
  obtain ⟨hsameIff, hsameData⟩ := @amend_succeeds_iff Environment.default ledger same _ rfl hsame
  obtain ⟨answer, hanswer⟩ := hfeeIff.2 ⟨_, _, _, hcan _ rfl⟩
  obtain ⟨reply, hreply⟩ := hsameIff.2 ⟨_, _, _, hcan _ rfl⟩
  refine ⟨⟨rfl, hfee, ⟨answer, hanswer⟩, ?_⟩, ⟨rfl, hsame, ⟨reply, hreply⟩, ?_⟩, ?_⟩
  · have hpatch : Amendment.patch (.protocolFee 258) (ledger recordAddress).data =
        (ledger recordAddress).data.replace 82 90 [2, 1, 0, 0, 0, 0, 0, 0] := by
      decide +kernel
    rw [(hfeeData answer hanswer).1, hpatch]
  · exact (hsameData reply hreply).2.2.2.2.2 _ hread rfl
  · intro hsucceeds
    obtain ⟨record, signer, r, h⟩ := (amend_succeeds_iff rfl hfee).1.1 hsucceeds
    have hclock := h.clockAvailable
    cases hclock

end Program

end NetIdentity
