import NetIdentity.Proofs.Outcomes
import NetIdentity.Proofs.StoredForm

/-!
# What the queries answer

All queries read the same account, so there are three cases and no others. Where the account has not been
made, the identity is absent and the other queries have nothing to answer from. Where it holds no record, all
of them find the same fault. Where it holds a record, each of them answers with its part of that record
(`Query.part`), and what the identity answers stands in the account byte by byte.

None of this depends on how the account came to be what it is, and asking changes nothing.
-/

namespace NetIdentity

open NetIdentity.Action

/-! ## Answers from an account -/

/-- A record that is not loaded has not been made, or what is stored is no record. -/
theorem Store.loadInitialized_eq_error {program : Address} {account : Account} {fault : Fault}
    (h : loadInitialized program account = .error fault) :
    fault = .notInitialized ∨ Record.read account.data = .error fault := by
  unfold loadInitialized load at h
  split at h
  · cases h
  · cases h
    exact Or.inl rfl
  · next other hload =>
    cases h
    split at hload
    · split at hload
      · cases hload
      · next hread =>
        cases hload
        exact Or.inr hread
    · cases hload

namespace Query

/-- The part of a record that a query asks for. -/
def part (q : Query) (r : Record) : Bytes :=
  match q with
  | .identity => encode (some r)
  | .admin => encode r.admin
  | .protocolFee => encode r.protocolFee
  | .feeHandler => encode r.feeHandler
  | .networkAddress => encode (Program.networkAddress r)

variable {account : Account} {q : Query}

/-- All queries but the one for the identity need a record. -/
theorem answer_of_ne_identity (hq : q ≠ .identity) :
    q.answer account = (Store.loadInitialized Program.id account).map fun r => q.part r := by
  cases q with
  | identity => exact absurd rfl hq
  | admin => rfl
  | protocolFee => rfl
  | feeHandler => rfl
  | networkAddress => rfl

theorem answer_of_record {r : Record} (h : Store.load Program.id account = .ok (some r)) (q : Query) :
    q.answer account = .ok (q.part r) := by
  by_cases hq : q = .identity
  · rw [hq, answer, h]
    rfl
  · rw [answer_of_ne_identity hq, Store.loadInitialized_eq_ok_iff.2 h]
    rfl

theorem answer_of_absent (h : Store.load Program.id account = .ok none) (hq : q ≠ .identity) :
    q.answer account = .error .notInitialized := by
  rw [answer_of_ne_identity hq, Store.loadInitialized, h]
  rfl

theorem answer_of_fault {fault : Fault} (h : Store.load Program.id account = .error fault) (q : Query) :
    q.answer account = .error fault := by
  by_cases hq : q = .identity
  · rw [hq, answer, h]
    rfl
  · rw [answer_of_ne_identity hq, Store.loadInitialized, h]
    rfl

/-- What a query cannot answer has not been loaded. -/
theorem answer_eq_error {fault : Fault} (h : q.answer account = .error fault) :
    Store.loadInitialized Program.id account = .error fault := by
  cases hload : Store.load Program.id account with
  | error other =>
      rw [answer_of_fault hload] at h
      cases h
      rw [Store.loadInitialized, hload]
  | ok found =>
      cases found with
      | some r =>
          rw [answer_of_record hload] at h
          cases h
      | none =>
          by_cases hq : q = .identity
          · rw [hq, answer, hload] at h
            cases h
          · rw [answer_of_absent hload hq] at h
            cases h
            rw [Store.loadInitialized, hload]

end Query

/-! ## Bytes of a record -/

namespace Record

/-- Two records that are written as the same bytes have network ids of the same length, so if one of them can
be read back, they are the same record. -/
theorem eq_of_encode_eq {r s : Record} (hr : r.networkId.utf8ByteSize < UInt32.size)
    (h : encode s = encode r) : s = r := by
  have hlength := congrArg List.length h
  rw [length_encode, length_encode] at hlength
  have hs : s.networkId.utf8ByteSize < UInt32.size := by omega
  have hsame : encode s ++ [] = encode r ++ [] := by rw [h]
  exact (canonical.encode_inj hs hr hsame).1

/-- What stands behind the mark, up to the end of the record, is the record's encoding. -/
theorem drop_take_of_stored {data : Bytes} {r : Record} (h : r.stored <+: data) :
    (data.take r.stored.length).drop discriminatorSize = encode r := by
  have htake : data.take r.stored.length = r.stored := (List.prefix_iff_eq_take.1 h).symm
  rw [htake, stored]
  exact List.drop_left' length_discriminator

/-- In data of less than four gigabytes the network id leaves room for the program's own address behind
it. -/
theorem networkAddress_lt_of_stored {data : Bytes} {r : Record} (h : r.stored <+: data)
    (hdata : data.length < UInt32.size) :
    (Program.networkAddress r).text.utf8ByteSize < UInt32.size := by
  have hle := h.length_le
  have haccount : Program.id.base58.utf8ByteSize = 44 := by decide +kernel
  have hdelimiter : NetworkAddress.delimiter.toString.utf8ByteSize = 1 := by decide +kernel
  rw [length_stored] at hle
  simp only [Program.networkAddress, NetworkAddress.join, String.utf8ByteSize_append, haccount, hdelimiter]
  omega

end Record

/-- What the identity answers tells what was loaded. -/
theorem Query.load_of_identity {account : Account} {found : Option Record}
    (h : Query.identity.answer account = .ok (encode found)) :
    Store.load Program.id account = .ok found := by
  cases hload : Store.load Program.id account with
  | error fault =>
      rw [answer_of_fault hload] at h
      cases h
  | ok loaded =>
      have hsame : encode loaded = encode found := by
        rw [answer, hload] at h
        exact Except.ok.inj h
      cases loaded with
      | none =>
          cases found with
          | none => rfl
          | some r => cases hsame
      | some r =>
          cases found with
          | none => cases hsame
          | some s =>
              have hsize := (Store.load_eq_some_iff.1 hload).2.1
              have hrecord : encode s = encode r := (List.cons.inj hsame).2.symm
              rw [Record.eq_of_encode_eq hsize hrecord]

/-! ## Asking the program -/

/-- The instruction asks the query of this program, with the record's account in the first place. -/
structure Instruction.Asks (i : Instruction) (q : Query) : Prop where
  program : i.program = Program.id
  command : i.command? = some (.query q)
  account : i.accounts.head?.map Mention.address = some Program.recordAddress

/-- The instruction that a client sends for a query asks that query. -/
theorem Command.asks_instruction (q : Query) (signer : Address) :
    ((Command.query q).instruction signer).Asks q where
  program := rfl
  command := by
    have hfront : (Command.query q).data.take 8 = (Command.query q).selector.discriminator :=
      List.take_left' (Selector.length_discriminator _)
    exact Instruction.command?_eq_some_iff.2 ⟨Selector.ofData?_eq_some_iff.2 hfront, rfl⟩
  account := rfl

namespace Program

theorem queryAccounts_of_head {mentions : List Mention}
    (h : mentions.head?.map Mention.address = some recordAddress) :
    ∃ record, queryAccounts mentions = .ok record ∧ record.address = recordAddress := by
  cases mentions with
  | nil => cases h
  | cons record rest =>
      have haddress : record.address = recordAddress := Option.some.inj h
      refine ⟨record, ?_, haddress⟩
      exact except_bind_eq_ok.2 ⟨(record, rest), takeAccount_eq_ok.2 rfl,
        except_bind_eq_ok.2 ⟨(), checkRecordAddress_eq_ok.2 haddress, rfl⟩⟩

variable {env : Environment} {ledger : Ledger} {i : Instruction} {q : Query}

theorem submit_of_answer {answer : Bytes} (h : i.Asks q)
    (hanswer : q.answer (ledger recordAddress) = .ok answer) :
    submit env ledger i = ⟨.ok (some answer), [.instruction (Selector.query q).title], [], ledger⟩ := by
  obtain ⟨record, haccounts, _⟩ := queryAccounts_of_head h.account
  exact submit_of_outcome h.program h.command (.query haccounts hanswer)

theorem submit_of_fault {fault : Fault} (h : i.Asks q)
    (hfault : q.answer (ledger recordAddress) = .error fault) :
    submit env ledger i = ⟨.error (.fault fault),
      [.instruction (Selector.query q).title, .failure (.fault fault)], [], ledger⟩ := by
  obtain ⟨record, haccounts, haddress⟩ := queryAccounts_of_head h.account
  rw [← haddress] at hfault
  have hexecute : execute env i.accounts (.query q) ⟨ledger, [], [.instruction (Selector.query q).title]⟩ =
      .error (.fault fault) ⟨ledger, [], [.instruction (Selector.query q).title]⟩ := by
    simp only [execute, bind_run, haccounts, check_ok, pure_run, account_run, hfault, check_error, throw_run]
  exact submit_of_execute_error h.program h.command hexecute

/-- A query reads and does nothing else. -/
theorem ledger_of_asks (env : Environment) (ledger : Ledger) (h : i.Asks q) :
    (submit env ledger i).calls = [] ∧ (submit env ledger i).ledger = ledger := by
  cases hanswer : q.answer (ledger recordAddress) with
  | ok answer =>
      rw [submit_of_answer h hanswer]
      exact ⟨rfl, rfl⟩
  | error fault =>
      rw [submit_of_fault h hanswer]
      exact ⟨rfl, rfl⟩

theorem result_eq_ok_iff (h : i.Asks q) {answer : Option Bytes} :
    (submit env ledger i).result = .ok answer ↔
      ∃ bytes, q.answer (ledger recordAddress) = .ok bytes ∧ answer = some bytes := by
  cases hanswer : q.answer (ledger recordAddress) with
  | ok bytes => simp [submit_of_answer h hanswer, eq_comm]
  | error fault => simp [submit_of_fault h hanswer]

theorem result_eq_error_iff (h : i.Asks q) {failure : Failure} :
    (submit env ledger i).result = .error failure ↔
      ∃ fault, q.answer (ledger recordAddress) = .error fault ∧ failure = .fault fault := by
  cases hanswer : q.answer (ledger recordAddress) with
  | ok bytes => simp [submit_of_answer h hanswer]
  | error fault => simp [submit_of_fault h hanswer, eq_comm]

/-- What the identity's answer says was loaded. -/
theorem load_of_result {found : Option Record} (h : i.Asks .identity)
    (hresult : (submit env ledger i).result = .ok (some (encode found))) :
    Store.load id (ledger recordAddress) = .ok found := by
  obtain ⟨bytes, hanswer, hbytes⟩ := (result_eq_ok_iff h).1 hresult
  cases hbytes
  exact Query.load_of_identity hanswer

/-- **The queries agree**, whatever the account of the record holds. Each of them may be asked by an
instruction of its own, at a time of its own. -/
theorem queries_agree (asked : Query → Instruction) (env : Query → Environment) (ledger : Ledger)
    (hasks : ∀ q, (asked q).Asks q) (hdata : (ledger recordAddress).data.length < UInt32.size) :
    ((submit (env .identity) ledger (asked .identity)).result =
        .ok (some (encode (none : Option Record))) →
      ∀ q, q ≠ .identity →
        (submit (env q) ledger (asked q)).result = .error (.fault .notInitialized)) ∧
    (∀ failure, (submit (env .identity) ledger (asked .identity)).result = .error failure →
      ∀ q, (submit (env q) ledger (asked q)).result = .error failure) ∧
    (∀ r : Record,
      (submit (env .identity) ledger (asked .identity)).result = .ok (some (encode (some r))) →
      (submit (env .identity) ledger (asked .identity)).result =
        .ok (some (1 :: ((ledger recordAddress).data.take r.stored.length).drop
          Record.discriminatorSize)) ∧
      (submit (env .admin) ledger (asked .admin)).result = .ok (some (encode r.admin)) ∧
      (submit (env .protocolFee) ledger (asked .protocolFee)).result =
        .ok (some (encode r.protocolFee)) ∧
      (submit (env .feeHandler) ledger (asked .feeHandler)).result =
        .ok (some (encode r.feeHandler)) ∧
      (submit (env .networkAddress) ledger (asked .networkAddress)).result =
        .ok (some (encode (NetworkAddress.join r.networkId id.base58))) ∧
      (NetworkAddress.join r.networkId id.base58).text.utf8ByteSize < UInt32.size) ∧
    (∀ answer, (submit (env .identity) ledger (asked .identity)).result = .ok answer →
      answer = some (encode (none : Option Record)) ∨ ∃ r : Record, answer = some (encode (some r))) ∧
    ∀ q, (submit (env q) ledger (asked q)).calls = [] ∧
      (submit (env q) ledger (asked q)).ledger = ledger := by
  refine ⟨?_, ?_, ?_, ?_, fun q => ledger_of_asks (env q) ledger (hasks q)⟩
  · intro hresult q hq
    have habsent := @load_of_result _ _ _ none (hasks .identity) hresult
    exact (result_eq_error_iff (hasks q)).2 ⟨_, Query.answer_of_absent habsent hq, rfl⟩
  · intro failure hresult q
    obtain ⟨fault, hanswer, rfl⟩ := (result_eq_error_iff (hasks .identity)).1 hresult
    cases hload : Store.load id (ledger recordAddress) with
    | error other =>
        have hsame := Query.answer_of_fault hload .identity
        rw [hanswer] at hsame
        cases hsame
        exact (result_eq_error_iff (hasks q)).2 ⟨fault, Query.answer_of_fault hload q, rfl⟩
    | ok found =>
        rw [Query.answer, hload] at hanswer
        cases hanswer
  · intro r hresult
    have hload := @load_of_result _ _ _ (some r) (hasks .identity) hresult
    have hfront := (Store.load_eq_some_iff.1 hload).2.2
    have hpart : ∀ q, (submit (env q) ledger (asked q)).result = .ok (some (q.part r)) := by
      intro q
      exact (result_eq_ok_iff (hasks q)).2 ⟨_, Query.answer_of_record hload q, rfl⟩
    refine ⟨?_, hpart .admin, hpart .protocolFee, hpart .feeHandler, hpart .networkAddress,
      Record.networkAddress_lt_of_stored hfront hdata⟩
    rw [Record.drop_take_of_stored hfront]
    exact hpart .identity
  · intro answer hresult
    obtain ⟨bytes, hanswer, rfl⟩ := (result_eq_ok_iff (hasks .identity)).1 hresult
    cases hload : Store.load id (ledger recordAddress) with
    | error fault =>
        rw [Query.answer_of_fault hload] at hanswer
        cases hanswer
    | ok found =>
        rw [Query.answer, hload] at hanswer
        cases hanswer
        cases found with
        | none => exact Or.inl rfl
        | some r => exact Or.inr ⟨r, rfl⟩

/-- A fresh ledger but for the record's account, which belongs to `owner` and holds `data`. -/
def holding (owner : Address) (data : Bytes) : Ledger :=
  Ledger.fresh.set recordAddress ⟨1, owner, data, false⟩

/-- The sample is found with bytes behind it. In an account of the system program nothing is found, and in
an account of the program that ends early all queries find the same fault. -/
theorem queries_agree_small :
    (∀ q, ((Command.query q).instruction Address.nativeLoader).Asks q) ∧
    (holding id (Record.sample.stored ++ [7, 7]) recordAddress).data.length < UInt32.size ∧
    (submit Environment.default (holding id (Record.sample.stored ++ [7, 7]))
      ((Command.query .networkAddress).instruction Address.nativeLoader)).result =
      .ok (some (encode (NetworkAddress.join "日本" id.base58))) ∧
    (submit Environment.default (holding Address.systemProgram Record.sample.stored)
      ((Command.query .admin).instruction Address.nativeLoader)).result =
      .error (.fault .notInitialized) ∧
    (submit Environment.default (holding id (Record.sample.stored.take 40))
      ((Command.query .protocolFee).instruction Address.nativeLoader)).result =
      .error (.fault .undecodableRecord) := by
  have hasks := fun q => Command.asks_instruction q Address.nativeLoader
  have hfound : Query.identity.answer (holding id (Record.sample.stored ++ [7, 7]) recordAddress) =
      .ok (encode (some Record.sample)) := by
    refine Query.answer_of_record (Store.load_eq_some_iff.2 ⟨rfl, by decide, ?_⟩) .identity
    exact List.prefix_append _ _
  have hlength : (holding id (Record.sample.stored ++ [7, 7]) recordAddress).data.length < UInt32.size := by
    decide +kernel
  have habsent : Query.identity.answer
      (holding Address.systemProgram Record.sample.stored recordAddress) =
      .ok (encode (none : Option Record)) := by
    rfl
  have hcut : Query.identity.answer (holding id (Record.sample.stored.take 40) recordAddress) =
      .error .undecodableRecord := by
    rfl
  have hrecord := (queries_agree _ (fun _ => Environment.default) _ hasks hlength).2.2.1
    Record.sample ((result_eq_ok_iff (hasks .identity)).2 ⟨_, hfound, rfl⟩)
  have hnone := (queries_agree _ (fun _ => Environment.default) _ hasks (by decide +kernel)).1
    ((result_eq_ok_iff (hasks .identity)).2 ⟨_, habsent, rfl⟩)
  have hfault := (queries_agree _ (fun _ => Environment.default) _ hasks (by decide +kernel)).2.1 _
    ((result_eq_error_iff (hasks .identity)).2 ⟨_, hcut, rfl⟩)
  exact ⟨hasks, hlength, hrecord.2.2.2.2.1, hnone .admin nofun, hfault .protocolFee⟩

end Program

end NetIdentity
