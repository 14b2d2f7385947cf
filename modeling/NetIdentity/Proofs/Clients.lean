import NetIdentity.Proofs.Answers
import NetIdentity.Proofs.Reading
import NetIdentity.Proofs.Refusals

/-!
# Instructions that clients build

A client writes a command as data and lists accounts for it; the program reads the data and checks the
accounts. The two are defined apart from each other, and they agree: an instruction as a client builds it gets
to its command whoever signs it, and the command finds the argument, the record and the signer that the client
has put in (`clients_reach_handlers`).

The signer may be an account that is listed a second time. Flags belong to a mention and not to an address, so
one mention of an account takes nothing from another one.

Behind the gates there are other reasons to fail, and none of them has the number of a gate
(`not_atGate_of_handle`).
-/

namespace NetIdentity

open NetIdentity.Action

namespace Program

/-! ## The accounts that clients list -/

/-- The accounts that a client lists pass all checks, as long as the system program is one. -/
theorem accepts_instruction (c : Command) (signer : Address) {ledger : Ledger}
    (hsystem : (ledger Address.systemProgram).executable = true) :
    ∃ record payer, record.address = recordAddress ∧ payer.address = signer ∧
      Accepts ledger (c.instruction signer).accounts record payer c := by
  cases c with
  | establish networkId =>
      refine ⟨⟨recordAddress, false, true⟩, ⟨signer, true, true⟩, rfl, rfl, ?_⟩
      exact establishAccounts_eq_ok_iff.2
        ⟨⟨Address.systemProgram, false, false⟩, [], rfl, rfl, rfl, rfl, rfl, rfl, hsystem⟩
  | amend a =>
      refine ⟨⟨recordAddress, false, true⟩, ⟨signer, true, false⟩, rfl, rfl, ?_⟩
      exact amendmentAccounts_eq_ok_iff.2 ⟨[], rfl, rfl, rfl, rfl⟩
  | query q =>
      have hfirst : ((Command.query q).instruction signer).accounts.head?.map Mention.address =
          some recordAddress := rfl
      obtain ⟨record, haccounts, haddress⟩ := queryAccounts_of_head hfirst
      exact ⟨record, ⟨signer, false, false⟩, haddress, rfl, haccounts⟩

end Program

/-! ## Numbers of the gates -/

namespace Failure

/-- The numbers of all faults that are found before a command runs. -/
def gateNumbers : List Nat := [101, 102, 1500, 2000, 2006, 3005, 3008, 3009, 3010, 4100]

/-- The failure leaves the program with the number of a gate. -/
def AtGate (failure : Failure) : Prop := ∃ number ∈ gateNumbers, failure.exit = .custom number

instance (failure : Failure) : Decidable failure.AtGate :=
  inferInstanceAs (Decidable (∃ number ∈ gateNumbers, failure.exit = .custom number))

theorem atGate_fault_iff {fault : Fault} : (Failure.fault fault).AtGate ↔ fault.code ∈ gateNumbers := by
  simp [AtGate, exit]

theorem not_atGate_of_obstacle {failure : Failure} (h : failure ∈ Program.obstacles) :
    ¬ failure.AtGate := by
  have hall : ∀ failure ∈ Program.obstacles, ¬ failure.AtGate := by decide
  exact hall failure h

theorem not_atGate_of_loadInitialized {program : Address} {account : Account} {fault : Fault}
    (h : Store.loadInitialized program account = .error fault) : ¬ (Failure.fault fault).AtGate := by
  rw [atGate_fault_iff]
  rcases Store.loadInitialized_eq_error h with rfl | hread
  · decide
  · rcases Record.read_eq_error hread with ⟨_, rfl⟩ | ⟨_, _, rfl⟩ | ⟨_, rfl⟩ <;> decide

end Failure

namespace Program

variable {env : Environment} {ledger : Ledger} {record signer : Mention} {c : Command} {p q : Progress}
  {failure : Failure}

/-- Behind the gates nothing fails with the number of a gate. -/
theorem not_atGate_of_handle {mentions : List Mention} (haccepts : Accepts p.ledger mentions record signer c)
    (h : handle env record signer c p = .error failure q) : ¬ failure.AtGate := by
  cases c with
  | establish networkId =>
      rcases bind_eq_error h with hestablish | ⟨_, _, _, hreturn⟩
      · rcases establish_eq_error (permitted_of_accounts haccepts) hestablish with hobstacle | ⟨rfl, _⟩
        · exact Failure.not_atGate_of_obstacle hobstacle
        · decide
      · cases hreturn
  | amend a =>
      rcases bind_eq_error h with hamend | ⟨_, _, _, hreturn⟩
      · rcases (amend_eq_error hamend).2 with ⟨fault, hload, rfl⟩ | ⟨r, rfl⟩ | rfl
        · exact Failure.not_atGate_of_loadInitialized hload
        · rw [Failure.atGate_fault_iff]
          cases a.role <;> simp [Role.denial, Fault.code, Failure.gateNumbers]
        · decide
      · cases hreturn
  | query kind =>
      rcases bind_eq_error h with haccount | ⟨account, r, haccount, h⟩
      · cases haccount
      cases haccount
      rcases bind_eq_error h with hanswer | ⟨_, _, _, hreturn⟩
      · obtain ⟨fault, hfault, rfl, _⟩ := check_eq_error hanswer
        exact Failure.not_atGate_of_loadInitialized (Query.answer_eq_error hfault)
      · cases hreturn

/-- **What clients build reaches its command.** An instruction that a client builds is read as the command it
was built from and passes all checks of its accounts, whoever signs it. The command is given its argument, the
record and the signer as the client gave them, and what it does is all that is left to do. A text too long to be
written makes no instruction, so it is left out. -/
theorem clients_reach_handlers (env : Environment) (ledger : Ledger) (c : Command) (signer : Address)
    (hfits : c.Fits) (hsystem : (ledger Address.systemProgram).executable = true) :
    (c.instruction signer).ReadAs c ∧
    (∃ record payer, record.address = recordAddress ∧ payer.address = signer ∧
      Accepts ledger (c.instruction signer).accounts record payer c ∧
      run env (c.instruction signer) (Progress.start ledger) =
        handle env record payer c ⟨ledger, [], [.instruction c.selector.title]⟩) ∧
    ∀ failure, (submit env ledger (c.instruction signer)).result = .error failure →
      ∀ number ∈ Failure.gateNumbers, failure.exit ≠ .custom number := by
  have hread : (c.instruction signer).ReadAs c := Instruction.readAs_iff.2 ⟨hfits, List.prefix_refl _⟩
  obtain ⟨record, payer, haddress, hsigner, haccepts⟩ := accepts_instruction c signer hsystem
  have hrun : run env (c.instruction signer) (Progress.start ledger) =
      handle env record payer c ⟨ledger, [], [.instruction c.selector.title]⟩ := by
    rw [run_of_command rfl hread.command?_eq]
    exact execute_of_accepts haccepts
  refine ⟨hread, ⟨record, payer, haddress, hsigner, haccepts, hrun⟩, ?_⟩
  intro failure hfails number hnumber hexit
  cases hresult : run env (c.instruction signer) (Progress.start ledger) with
  | ok answer q =>
      rw [submit_of_ok hresult] at hfails
      cases hfails
  | error other q =>
      rw [submit_of_error hresult] at hfails
      cases hfails
      rw [hresult] at hrun
      exact not_atGate_of_handle (p := ⟨ledger, [], [.instruction c.selector.title]⟩) haccepts hrun.symm
        ⟨number, hnumber, hexit⟩

/-- The record's account may sign for itself, and so may the system program. On a fresh ledger their commands
fail, and not at a gate. -/
theorem clients_reach_handlers_small :
    (Ledger.fresh Address.systemProgram).executable = true ∧
    ∀ signer ∈ [recordAddress, Address.systemProgram],
      ∀ c ∈ [Command.establish "solana", .amend (.protocolFee 5000), .query .networkAddress], c.Fits ∧
        (c.instruction signer).ReadAs c ∧
        ∃ failure, (submit Environment.default Ledger.fresh (c.instruction signer)).result =
          .error failure ∧ ¬ failure.AtGate := by
  have hfits : ∀ c ∈ [Command.establish "solana", .amend (.protocolFee 5000), .query .networkAddress],
      c.Fits := by
    refine List.forall_mem_cons.2 ⟨?_, by simp [Command.Fits]⟩
    show "solana".utf8ByteSize < UInt32.size
    decide
  have hfails : ∀ signer ∈ [recordAddress, Address.systemProgram],
      ∀ c ∈ [Command.establish "solana", .amend (.protocolFee 5000), .query .networkAddress],
      (submit Environment.default Ledger.fresh (c.instruction signer)).result.isOk = false := by
    decide +kernel
  refine ⟨rfl, ?_⟩
  intro signer hsigner c hc
  obtain ⟨hread, _, hgates⟩ := clients_reach_handlers Environment.default Ledger.fresh c signer
    (hfits c hc) rfl
  cases hresult : (submit Environment.default Ledger.fresh (c.instruction signer)).result with
  | ok answer =>
      have hfailed := hfails signer hsigner c hc
      rw [hresult] at hfailed
      cases hfailed
  | error failure =>
      refine ⟨hfits c hc, hread, failure, rfl, ?_⟩
      rintro ⟨number, hnumber, hexit⟩
      exact hgates failure hresult number hnumber hexit

end Program

end NetIdentity
