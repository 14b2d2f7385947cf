import NetIdentity.Proofs.Establishing

/-!
# Why establishing fails

Making the record's account takes up to three calls to the system program, and each of them may be stopped
at two places: by the runtime, which looks at flags, seeds and borrowed data, and by the system program
itself. `Store.Need` lists the calls, so that everything about the first place is said once for all of them:
with the right flags and seeds no call that is needed is stopped there (`Permitted.authorize_eq`).

At the second place there are three refusals and no others (`SystemCall.refusals`). That the lamports of an
account might overflow is none of them. The account lacks something only if it has less than the minimum, and
what it is given brings it to the minimum (`makeAccount_eq_error`).

Once the accounts of a request have been checked, flags, seeds and space are all as they should be, whoever
pays, the record's account included. What can still fail is listed in `establish_refusals`. Only where the
rent of a record comes to more than can be counted, the program is aborted as it asks (`Program.Aborts`).
-/

namespace NetIdentity

open NetIdentity.Action

/-! ## Where a system call is stopped -/

namespace SystemCall

variable {inUse : Option Address} {signing : Option SignerSeeds} {passed : List Mention}
  {call : SystemCall} {p q : Progress} {e : Failure}

/-- What the system program itself has to say against a call. -/
def refusals : List Failure :=
  [.runtime (.custom 0), .runtime (.custom 1), .runtime .invalidArgument]

/-- A call that is stopped by the runtime has done nothing. -/
theorem invoke_of_stopped {error : RuntimeError} (h : call.authorize inUse signing passed = .error error) :
    invoke inUse signing passed call p = .error (.runtime error) p := by
  rw [invoke, h, ask_error, bind_run, throw_run]

theorem invoke_eq_error (h : invoke inUse signing passed call p = .error e q) :
    (∃ error, call.authorize inUse signing passed = .error error ∧ e = .runtime error ∧ q = p) ∨
      call.run { p with calls := p.calls ++ [call] } = .error e q := by
  cases hverdict : call.authorize inUse signing passed with
  | error error =>
      rw [invoke_of_stopped hverdict] at h
      cases h
      exact Or.inl ⟨error, rfl, rfl, rfl⟩
  | ok _ =>
      rw [invoke, hverdict, ask_ok, bind_run, pure_run] at h
      exact Or.inr h

theorem authorizeParty_eq_error {signed : Option Address} {party : Mention} {error : RuntimeError}
    (h : authorizeParty signed passed party = .error error) :
    error = .immutable ∨ error = .missingSignature := by
  unfold authorizeParty at h
  dsimp only at h
  split at h
  · cases h
    exact Or.inl rfl
  · split at h
    · cases h
      exact Or.inr rfl
    · cases h

theorem authorizeParties_eq_error {signed : Option Address} {parties : List Mention} {error : RuntimeError}
    (h : authorizeParties signed passed parties = .error error) :
    error = .immutable ∨ error = .missingSignature := by
  induction parties with
  | nil => cases h
  | cons party rest ih =>
      rw [authorizeParties] at h
      cases hparty : authorizeParty signed passed party with
      | error first =>
          rw [hparty] at h
          cases h
          exact authorizeParty_eq_error hparty
      | ok _ =>
          rw [hparty] at h
          exact ih h

theorem signed_eq_error {derived : Option Address} {error : RuntimeError}
    (h : SignerSeeds.signed derived = .error error) : error = .invalidSeeds := by
  cases derived with
  | none =>
      cases h
      rfl
  | some address => cases h

theorem address?_eq_error {error : RuntimeError} (h : SignerSeeds.address? signing = .error error) :
    error = .invalidSeeds := by
  cases signing with
  | none => cases h
  | some signer =>
      rw [SignerSeeds.address?] at h
      exact signed_eq_error h

/-- The runtime has four reasons to stop a call. -/
theorem authorize_eq_error {error : RuntimeError} (h : call.authorize inUse signing passed = .error error) :
    error = .dataInUse ∨ error = .invalidSeeds ∨ error = .immutable ∨ error = .missingSignature := by
  unfold authorize at h
  split at h
  · cases h
    exact Or.inl rfl
  · right
    cases hsigned : SignerSeeds.address? signing with
    | error first =>
        rw [hsigned] at h
        cases h
        exact Or.inl (address?_eq_error hsigned)
    | ok signed =>
        rw [hsigned] at h
        exact Or.inr (authorizeParties_eq_error h)

/-! ## What the system program refuses -/

theorem runAllocate_eq_error {a : Address} {space : Nat} (h : runAllocate a space p = .error e q) :
    e ∈ refusals := by
  rw [runAllocate, bind_run, account_run] at h
  dsimp only at h
  split at h
  · cases h
    simp [refusals]
  · cases h

/-- A transfer to an account that has room for it before the payer has paid finds room afterwards, since
paying makes no account larger. -/
theorem runTransfer_eq_error {source target : Address} {lamports : UInt64}
    (hroom : (p.ledger target).lamports.toNat + lamports.toNat < UInt64.size)
    (h : runTransfer source target lamports p = .error e q) : e ∈ refusals := by
  rw [runTransfer, bind_run, account_run] at h
  dsimp only at h
  split at h
  · cases h
    simp [refusals]
  · split at h
    · cases h
      simp [refusals]
    · next henough =>
      have hle : lamports ≤ (p.ledger source).lamports := UInt64.not_lt.1 henough
      rw [bind_run, put_run] at h
      dsimp only at h
      rw [bind_run, account_run] at h
      dsimp only at h
      split at h
      · next hfull =>
        exfalso
        by_cases hself : target = source
        · have hdebit := Ledger.lamports_debit hle
          rw [Ledger.debit, Ledger.set_self] at hdebit
          have hlt := (p.ledger source).lamports.toNat_lt
          have hamount := UInt64.le_iff_toNat_le.1 hle
          rw [hself, Ledger.set_self, hdebit] at hfull
          change UInt64.size ≤ _ at hfull
          change _ < UInt64.size at hlt
          omega
        · rw [Ledger.set_of_ne _ _ hself] at hfull
          omega
      · cases h

theorem runCreateAccount_eq_error {payer target program : Address} {lamports : UInt64} {space : Nat}
    (h : runCreateAccount payer target lamports space program p = .error e q) : e ∈ refusals := by
  rw [runCreateAccount, bind_run, account_run] at h
  dsimp only at h
  split at h
  · cases h
    simp [refusals]
  · next hnothing =>
    have hzero := UInt64.le_zero_iff.1 (UInt64.not_lt.1 hnothing)
    rcases bind_eq_error h with hallocate | ⟨_, allocated, hallocate, h⟩
    · exact runAllocate_eq_error hallocate
    obtain ⟨_, rfl⟩ := runAllocate_eq_ok_iff.1 hallocate
    rw [bind_run, runAssign_run] at h
    -- The account has been given data and an owner, but no lamports yet.
    refine runTransfer_eq_error ?_ h
    dsimp only
    rw [Ledger.set_self, Ledger.set_self]
    dsimp only
    rw [hzero, UInt64.toNat_zero, Nat.zero_add]
    exact lamports.toNat_lt

end SystemCall

/-! ## Making the account -/

namespace Store

/-- A call that making the account may take, with the accounts passed to it and whether the program signs. -/
inductive Need (program : Address) (signer : SignerSeeds) (target payer : Mention) :
    Option SignerSeeds → List Mention → SystemCall → Prop where
  | account (lamports : UInt64) :
      Need program signer target payer (some signer) [payer, target]
        (.createAccount payer.address target.address lamports Record.space program)
  | lamports (missing : UInt64) :
      Need program signer target payer none [payer, target]
        (.transfer payer.address target.address missing)
  | data : Need program signer target payer (some signer) [target] (.allocate target.address Record.space)
  | owner : Need program signer target payer (some signer) [target] (.assign target.address program)

variable {program : Address} {signer : SignerSeeds} {target payer : Mention}

/-- With the flags and the seeds, no call that is needed is stopped by the runtime. -/
theorem Permitted.authorize_eq (h : Permitted signer target payer) {signing : Option SignerSeeds}
    {passed : List Mention} {call : SystemCall}
    (hneed : Need program signer target payer signing passed call) :
    call.authorize none signing passed = .ok () := by
  cases hneed with
  | account lamports => exact h.createAccount lamports Record.space program
  | lamports missing => exact h.transfer missing
  | data => exact h.alone rfl
  | owner => exact h.alone rfl

variable {inUse : Option Address} {minimum : UInt64} {p q : Progress} {e : Failure}

/-- A call that is needed has been stopped by the runtime. -/
def Stopped (inUse : Option Address) (program : Address) (signer : SignerSeeds) (target payer : Mention)
    (e : Failure) : Prop :=
  ∃ signing passed call error, Need program signer target payer signing passed call ∧
    call.authorize inUse signing passed = .error error ∧ e = .runtime error

theorem stopped_or_refused {signing : Option SignerSeeds} {passed : List Mention} {call : SystemCall}
    (hneed : Need program signer target payer signing passed call)
    (hrun : call.run { p with calls := p.calls ++ [call] } = .error e q → e ∈ SystemCall.refusals)
    (h : call.invoke inUse signing passed p = .error e q) :
    Stopped inUse program signer target payer e ∨ e ∈ SystemCall.refusals := by
  rcases SystemCall.invoke_eq_error h with ⟨error, hverdict, he, _⟩ | hrefused
  · exact Or.inl ⟨signing, passed, call, error, hneed, hverdict, he⟩
  · exact Or.inr (hrun hrefused)

/-- Lamports that bring an account to the minimum fit it. -/
theorem room_for_missing {lamports : UInt64} (h : lamports ≤ minimum) :
    lamports.toNat + (minimum - lamports).toNat < UInt64.size := by
  have hle := UInt64.le_iff_toNat_le.1 h
  have hlt : minimum.toNat < UInt64.size := minimum.toNat_lt
  rw [UInt64.toNat_sub_of_le _ _ h]
  omega

theorem topUp_eq_error {missing : UInt64}
    (hroom : (p.ledger target.address).lamports.toNat + missing.toNat < UInt64.size)
    (h : topUp inUse target payer missing p = .error e q) :
    Stopped inUse program signer target payer e ∨ e ∈ SystemCall.refusals := by
  unfold topUp at h
  split at h
  · exact stopped_or_refused (.lamports missing) (SystemCall.runTransfer_eq_error hroom) h
  · cases h

/-- Where making the account fails: a call that is needed is stopped by the runtime, or the system program
refuses it. -/
theorem makeAccount_eq_error
    (h : makeAccount inUse program signer target payer minimum (p.ledger target.address).lamports p =
      .error e q) :
    Stopped inUse program signer target payer e ∨ e ∈ SystemCall.refusals := by
  unfold makeAccount at h
  split at h
  · exact stopped_or_refused (.account minimum) SystemCall.runCreateAccount_eq_error h
  · rcases bind_eq_error h with htopUp | ⟨_, toppedUp, _, h⟩
    · refine topUp_eq_error ?_ htopUp
      split
      · rw [UInt64.toNat_zero, Nat.add_zero]
        exact UInt64.toNat_lt _
      · next hshort => exact room_for_missing (UInt64.le_of_lt (UInt64.not_le.1 hshort))
    rcases bind_eq_error h with hallocate | ⟨_, allocated, _, hassign⟩
    · exact stopped_or_refused .data SystemCall.runAllocate_eq_error hallocate
    · refine stopped_or_refused .owner (fun hrun => ?_) hassign
      rw [SystemCall.run, SystemCall.runAssign_run] at hrun
      cases hrun

/-- What has been stopped by the runtime has one of its four reasons. -/
theorem Stopped.reason (h : Stopped inUse program signer target payer e) :
    e ∈ [.runtime .dataInUse, .runtime .invalidSeeds, .runtime .immutable, .runtime .missingSignature] := by
  obtain ⟨_, _, _, error, _, hverdict, rfl⟩ := h
  rcases SystemCall.authorize_eq_error hverdict with rfl | rfl | rfl | rfl <;> simp

theorem Permitted.not_stopped (h : Permitted signer target payer) :
    ¬ Stopped none program signer target payer e := by
  rintro ⟨signing, passed, call, error, hneed, hverdict, _⟩
  rw [h.authorize_eq hneed] at hverdict
  cases hverdict

theorem write_eq_error {a : Address} {r : Record} (h : write inUse a r p = .error e q) :
    (inUse = some a ∧ e = .runtime .dataInUse) ∨
      (¬ (r.networkId.utf8ByteSize < UInt32.size ∧ r.stored.length ≤ (p.ledger a).data.length) ∧
        e = .fault .recordTooLarge) := by
  by_cases hbusy : inUse = some a
  · rw [write, if_pos hbusy] at h
    cases h
    exact Or.inl ⟨hbusy, rfl⟩
  · right
    have hfull : ¬ (r.networkId.utf8ByteSize < UInt32.size ∧
        r.stored.length ≤ (p.ledger a).data.length) := by
      rintro ⟨hsize, hroom⟩
      rw [write_eq_ok_iff.2 ⟨hbusy, hsize, hroom, rfl⟩] at h
      cases h
    rw [write_run hbusy] at h
    obtain ⟨fault, hverdict, rfl, _⟩ := check_eq_error h
    refine ⟨hfull, ?_⟩
    unfold Record.writeOver at hverdict
    split at hverdict
    · dsimp only at hverdict
      split at hverdict
      · cases hverdict
      · cases hverdict
        rfl
    · cases hverdict
      rfl

/-- Why creating fails: the account is there or the minimum cannot be had, and then nothing has been done; or
one of the steps fails. -/
theorem create_error_cases {env : Environment} {bump : UInt8} {r : Record}
    (h : create env inUse program target payer bump r p = .error e q) :
    (q = p ∧ (e = .fault .alreadyInitialized ∨
      ∃ error, env.minimumBalance Record.space = .error error ∧ e = .runtime error)) ∨
      Stopped inUse program ⟨program, [seed, [bump]]⟩ target payer e ∨ e ∈ SystemCall.refusals ∨
      (inUse = some target.address ∧ e = .runtime .dataInUse) ∨
      (Record.space < r.stored.length ∧ e = .fault .recordTooLarge) := by
  by_cases hcreated : isCreated program (p.ledger target.address) = true
  · rw [create_run_of_created hcreated] at h
    cases h
    exact Or.inl ⟨rfl, Or.inl rfl⟩
  rw [create_run_of_fresh (Bool.eq_false_iff.2 hcreated)] at h
  cases hminimum : env.minimumBalance Record.space with
  | error error =>
      rw [hminimum, ask_error, bind_run, throw_run] at h
      cases h
      exact Or.inl ⟨rfl, Or.inr ⟨error, rfl, rfl⟩⟩
  | ok minimum =>
      right
      rw [hminimum, ask_ok, bind_run, pure_run] at h
      rcases bind_eq_error h with hmake | ⟨_, made, hmake, hwrite⟩
      · rcases makeAccount_eq_error hmake with hstopped | hrefused
        · exact Or.inl hstopped
        · exact Or.inr (Or.inl hrefused)
      · right
        right
        rcases write_eq_error hwrite with hbusy | ⟨hfull, he⟩
        · exact Or.inl hbusy
        · obtain ⟨hmade, _⟩ := makeAccount_eq_ok hmake
          rw [hmade.data_eq, List.length_replicate] at hfull
          refine Or.inr ⟨Nat.not_le.1 fun hroom => hfull ⟨?_, hroom⟩, he⟩
          exact Record.networkId_lt_of_length_le hroom

theorem create_eq_error {env : Environment} {bump : UInt8} {r : Record}
    (h : create env inUse program target payer bump r p = .error e q) :
    e = .fault .alreadyInitialized ∨
      (∃ error, env.minimumBalance Record.space = .error error ∧ e = .runtime error) ∨
      Stopped inUse program ⟨program, [seed, [bump]]⟩ target payer e ∨ e ∈ SystemCall.refusals ∨
      (inUse = some target.address ∧ e = .runtime .dataInUse) ∨
      (Record.space < r.stored.length ∧ e = .fault .recordTooLarge) := by
  rcases create_error_cases h with ⟨_, hcreated | hminimum⟩ | hstep
  · exact Or.inl hcreated
  · exact Or.inr (Or.inl hminimum)
  · exact Or.inr (Or.inr hstep)

end Store

/-! ## Establishing -/

/-- What a record costs in a year comes to more lamports than can be counted. -/
def Environment.RentOverflows (env : Environment) : Prop :=
  ∃ rent, env.rent = some rent ∧ UInt64.size ≤ rent.perYear Record.space

namespace Program

variable {env : Environment} {ledger : Ledger} {record payer : Mention} {networkId : String}
  {p q : Progress} {e : Failure}

/-- What can stand in the way of a request whose accounts are in order. -/
def obstacles : List Failure :=
  [.fault .invalidNetworkId, .fault .networkIdTooLong, .fault .alreadyInitialized,
    .runtime .unsupportedSysvar] ++ SystemCall.refusals

/-- What else can stand in the way: over the rent the program does not come to an end. -/
def Aborts (env : Environment) (e : Failure) : Prop := e = .runtime .aborted ∧ env.RentOverflows

/-- Such a request has done nothing when it fails, unless it is the system program that refuses. -/
theorem establish_error_cases
    (hpermitted : Store.Permitted ⟨id, [Store.seed, [recordBump]]⟩ record payer)
    (h : establish env record payer networkId p = .error e q) :
    (q = p ∧ (e ∈ obstacles ∨ Aborts env e)) ∨ e ∈ SystemCall.refusals := by
  unfold establish at h
  rcases bind_eq_error h with hcheck | ⟨_, r, hcheck, h⟩
  · obtain ⟨fault, hinvalid, rfl, rfl⟩ := check_eq_error hcheck
    refine Or.inl ⟨rfl, Or.inl ?_⟩
    rw [NetworkId.validate_eq_error hinvalid]
    split <;> simp [obstacles]
  obtain ⟨haccepted, rfl⟩ := check_eq_ok.1 hcheck
  cases hclock : env.clock with
  | none =>
      rw [Environment.time, hclock, ask_error, bind_run, throw_run] at h
      cases h
      exact Or.inl ⟨rfl, Or.inl (by simp [obstacles])⟩
  | some now =>
      rw [Environment.time, hclock, ask_ok, bind_run, pure_run] at h
      rcases bind_eq_error h with hcreate | ⟨_, created, _, h⟩
      · have hroom : (Record.initial payer.address networkId now recordBump).stored.length ≤ Record.space :=
          Record.length_stored_le haccepted
        rcases Store.create_error_cases hcreate with
          ⟨hq, rfl | ⟨error, hminimum, rfl⟩⟩ | hstopped | hrefused | ⟨hbusy, _⟩ | ⟨hlarge, _⟩
        · exact Or.inl ⟨hq, Or.inl (by simp [obstacles])⟩
        · rcases Environment.minimumBalance_eq_error hminimum with rfl | ⟨rfl, hlarge⟩
          · exact Or.inl ⟨hq, Or.inl (by simp [obstacles])⟩
          · exact Or.inl ⟨hq, Or.inr ⟨rfl, hlarge⟩⟩
        · exact absurd hstopped hpermitted.not_stopped
        · exact Or.inr hrefused
        · cases hbusy
        · exact absurd hroom (Nat.not_le.2 hlarge)
      · rw [bind_run, log_run] at h
        cases h

theorem establish_eq_error (hpermitted : Store.Permitted ⟨id, [Store.seed, [recordBump]]⟩ record payer)
    (h : establish env record payer networkId p = .error e q) : e ∈ obstacles ∨ Aborts env e := by
  rcases establish_error_cases hpermitted h with ⟨_, hfailure⟩ | hrefused
  · exact hfailure
  · exact Or.inl (List.mem_append_right _ hrefused)

theorem permitted_of_accounts {mentions : List Mention}
    (h : establishAccounts ledger mentions = .ok (record, payer)) :
    Store.Permitted ⟨id, [Store.seed, [recordBump]]⟩ record payer := by
  obtain ⟨_, _, _, haddress, hrecord, hsigned, hpayer, _, _⟩ := establishAccounts_eq_ok_iff.1 h
  exact permitted haddress hrecord hsigned hpayer

variable {i : Instruction}

end Program

end NetIdentity
