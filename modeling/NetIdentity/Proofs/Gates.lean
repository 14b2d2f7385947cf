import NetIdentity.Program.Entry

/-!
# What an instruction asks for

An instruction asks for a command when its data selects one and the argument can be read; who asks is
the account in the second place, if it has signed. Up to the point where the command runs nothing has
been done: an instruction that asks for nothing, or for another program, is refused with one of four
faults (`run_cases`), and one with the wrong accounts with one of the faults of the account checks. What is
left once the accounts have been let through is `handle` (`execute_of_accepts`).

An instruction of the framework asks for no command (`ForFramework.command?_eq_none`), so what is said of
commands is not about the framework, and the other way round.
-/

namespace NetIdentity

open NetIdentity.Action

namespace Instruction

/-- The command that the data holds. -/
def command? (i : Instruction) : Option Command :=
  (Selector.ofData? i.data).bind fun selector => (Command.read selector i.data).toOption

/-- Who has signed in the second place. -/
def signer? (i : Instruction) : Option Address :=
  (i.accounts[1]?).bind fun mention => if mention.signer then some mention.address else none

end Instruction

theorem Instruction.signer?_eq_some_iff {i : Instruction} {a : Address} :
    i.signer? = some a ↔
      ∃ mention, i.accounts[1]? = some mention ∧ mention.signer = true ∧ mention.address = a := by
  unfold signer?
  rw [Option.bind_eq_some_iff]
  constructor
  · rintro ⟨mention, hsecond, h⟩
    split at h
    · next hsigned => exact ⟨mention, hsecond, hsigned, Option.some.inj h⟩
    · cases h
  · rintro ⟨mention, hsecond, hsigned, rfl⟩
    exact ⟨mention, hsecond, if_pos hsigned⟩

/-! ## Reading the command -/

namespace Command

theorem selector_of_read {selector : Selector} {data : Bytes} {c : Command}
    (h : read selector data = .ok c) : c.selector = selector := by
  unfold read at h
  split at h
  · next found rest hdecode =>
    cases h
    rcases selector with _ | field | q
    · obtain ⟨networkId, _, _, hpure⟩ := Decoder.bind_eq_ok.1 hdecode
      cases hpure
      rfl
    · cases field <;>
      · obtain ⟨value, _, _, hpure⟩ := Decoder.bind_eq_ok.1 hdecode
        cases hpure
        rfl
    · cases hdecode
      rfl
  · cases h

theorem read_eq_error {selector : Selector} {data : Bytes} {fault : Fault}
    (h : read selector data = .error fault) : fault = .undecodableArgument := by
  unfold read at h
  split at h
  · cases h
  · cases h
    rfl

end Command

theorem Instruction.command?_eq_some_iff {i : Instruction} {c : Command} :
    i.command? = some c ↔
      Selector.ofData? i.data = some c.selector ∧ Command.read c.selector i.data = .ok c := by
  unfold command?
  constructor
  · intro h
    obtain ⟨selector, hselector, h⟩ := Option.bind_eq_some_iff.1 h
    cases hread : Command.read selector i.data with
    | ok found =>
        rw [hread] at h
        cases h
        rw [Command.selector_of_read hread]
        exact ⟨hselector, hread⟩
    | error fault =>
        rw [hread] at h
        cases h
  · rintro ⟨hselector, hread⟩
    rw [hselector, Option.bind_some, hread]
    rfl

/-! ## Instructions of the framework -/

/-- No command is taken for an instruction of the framework. -/
theorem Selector.discriminator_ne_mark (s : Selector) : s.discriminator ≠ Framework.mark := by
  have hall : ∀ s ∈ all, s.discriminator ≠ Framework.mark := by decide
  exact hall s (mem_all s)

namespace Instruction

variable {i : Instruction}

theorem ForFramework.command?_eq_none (h : i.ForFramework) : i.command? = none := by
  cases hcommand : i.command? with
  | none => rfl
  | some c =>
      have hmark := Selector.ofData?_eq_some_iff.1 (command?_eq_some_iff.1 hcommand).1
      exact absurd (hmark.symm.trans h) c.selector.discriminator_ne_mark

theorem not_forFramework {c : Command} (h : i.command? = some c) : ¬ i.ForFramework := by
  intro hmeant
  rw [hmeant.command?_eq_none] at h
  cases h

end Instruction

namespace Program

variable {env : Environment} {i : Instruction} {p q : Progress}

theorem run_of_other_program (hprogram : i.program ≠ id) : run env i p = .error (.fault .wrongProgram) p := by
  unfold run
  rw [if_pos hprogram]
  rfl

/-- An instruction of the framework is answered by the framework, and hands nothing back. -/
theorem run_of_forFramework (hprogram : i.program = id) (hmeant : i.ForFramework) :
    run env i p =
      (env.framework.answer id env.rent i.accounts (i.data.drop 8) >>= fun _ => pure none) p := by
  unfold run
  rw [if_neg (not_not_intro hprogram), if_pos hmeant]

/-- All other data is read as a command. -/
theorem run_of_not_forFramework (hprogram : i.program = id) (hmeant : ¬ i.ForFramework) :
    run env i p =
      (check (Selector.read i.data) >>= fun selector => log (.instruction selector.title) >>= fun _ =>
        check (Command.read selector i.data) >>= execute env i.accounts) p := by
  unfold run
  rw [if_neg (not_not_intro hprogram), if_neg hmeant]

theorem run_of_command {c : Command} (hprogram : i.program = id) (hcommand : i.command? = some c) :
    run env i p =
      execute env i.accounts c { p with log := p.log ++ [.instruction c.selector.title] } := by
  obtain ⟨hselector, hread⟩ := Instruction.command?_eq_some_iff.1 hcommand
  rw [run_of_not_forFramework hprogram (Instruction.not_forFramework hcommand), Selector.read, hselector]
  simp only [bind_run, check_ok, pure_run, log_run, hread]

/-- Either the command that was asked for runs, or the framework answers, or one of four faults is found and
nothing is done. -/
theorem run_cases (env : Environment) (i : Instruction) (p : Progress) :
    (∃ c, i.program = id ∧ i.command? = some c ∧
      run env i p =
        execute env i.accounts c { p with log := p.log ++ [.instruction c.selector.title] }) ∨
    (i.program = id ∧ i.ForFramework) ∨
    ∃ fault q, run env i p = .error (.fault fault) q ∧ q.ledger = p.ledger ∧ q.calls = p.calls ∧
      fault ∈ [.wrongProgram, .unknownInstruction, .eventInstruction, .undecodableArgument] := by
  by_cases hprogram : i.program = id
  · by_cases hmeant : i.ForFramework
    · exact Or.inr (Or.inl ⟨hprogram, hmeant⟩)
    cases hselector : Selector.ofData? i.data with
    | none =>
        refine Or.inr (Or.inr ⟨
          if i.data.take 8 = Selector.eventMark then .eventInstruction else .unknownInstruction,
          p, ?_, rfl, rfl, ?_⟩)
        · rw [run_of_not_forFramework hprogram hmeant, Selector.read, hselector]
          rfl
        · split <;> simp
    | some selector =>
        cases hread : Command.read selector i.data with
        | ok c =>
            have hcommand : i.command? = some c := by
              rw [Instruction.command?_eq_some_iff, Command.selector_of_read hread]
              exact ⟨hselector, hread⟩
            exact Or.inl ⟨c, hprogram, hcommand, run_of_command hprogram hcommand⟩
        | error fault =>
            refine Or.inr (Or.inr
              ⟨fault, { p with log := p.log ++ [.instruction selector.title] }, ?_, rfl, rfl, ?_⟩)
            · rw [run_of_not_forFramework hprogram hmeant, Selector.read, hselector]
              simp only [bind_run, check_ok, pure_run, log_run, hread, check_error, throw_run]
            · rw [Command.read_eq_error hread]
              simp
  · exact Or.inr (Or.inr ⟨.wrongProgram, p, run_of_other_program hprogram, rfl, rfl, by simp⟩)

/-! ## The accounts -/

theorem except_bind_eq_ok {α β : Type} {first : Except Fault α} {next : α → Except Fault β} {y : β} :
    (first >>= next) = .ok y ↔ ∃ x, first = .ok x ∧ next x = .ok y := by
  cases first with
  | ok x =>
      constructor
      · intro h
        exact ⟨x, rfl, h⟩
      · rintro ⟨_, heq, h⟩
        cases heq
        exact h
  | error fault =>
      constructor
      · nofun
      · rintro ⟨_, ⟨⟩, _⟩

theorem except_bind_eq_error {α β : Type} {first : Except Fault α} {next : α → Except Fault β}
    {fault : Fault} (h : (first >>= next) = .error fault) :
    first = .error fault ∨ ∃ x, first = .ok x ∧ next x = .error fault := by
  cases first with
  | ok x => exact Or.inr ⟨x, rfl, h⟩
  | error other =>
      cases h
      exact Or.inl rfl

theorem takeAccount_eq_ok {slot : Slot} {mentions rest : List Mention} {mention : Mention} :
    takeAccount slot mentions = .ok (mention, rest) ↔ mentions = mention :: rest := by
  cases mentions with
  | nil => simp [takeAccount]
  | cons first others => simp [takeAccount]

theorem takeSigner_eq_ok {slot : Slot} {mentions rest : List Mention} {mention : Mention} :
    takeSigner slot mentions = .ok (mention, rest) ↔
      mentions = mention :: rest ∧ mention.signer = true := by
  unfold takeSigner
  rw [except_bind_eq_ok]
  constructor
  · rintro ⟨⟨first, others⟩, htake, h⟩
    dsimp only at h
    split at h
    · next hsigned =>
      cases h
      exact ⟨takeAccount_eq_ok.1 htake, hsigned⟩
    · cases h
  · rintro ⟨hmentions, hsigned⟩
    exact ⟨(mention, rest), takeAccount_eq_ok.2 hmentions, if_pos hsigned⟩

theorem takeSystemProgram_eq_ok {ledger : Ledger} {mentions rest : List Mention} {mention : Mention} :
    takeSystemProgram ledger mentions = .ok (mention, rest) ↔
      mentions = mention :: rest ∧ mention.address = Address.systemProgram ∧
        (ledger Address.systemProgram).executable = true := by
  unfold takeSystemProgram
  rw [except_bind_eq_ok]
  constructor
  · rintro ⟨⟨first, others⟩, htake, h⟩
    dsimp only at h
    split at h
    · cases h
    next haddress =>
    split at h
    · cases h
    next hexecutable =>
    cases h
    rw [← Decidable.not_not.1 haddress]
    exact ⟨takeAccount_eq_ok.1 htake, rfl, Decidable.not_not.1 hexecutable⟩
  · rintro ⟨hmentions, haddress, hexecutable⟩
    refine ⟨(mention, rest), takeAccount_eq_ok.2 hmentions, ?_⟩
    dsimp only
    rw [haddress, if_neg (not_not_intro rfl), if_neg (not_not_intro hexecutable)]

theorem checkRecordAddress_eq_ok {record : Mention} :
    checkRecordAddress record = .ok () ↔ record.address = recordAddress := by
  unfold checkRecordAddress
  split <;> simp [*]

theorem checkWritable_eq_ok {slot : Slot} {mention : Mention} :
    checkWritable slot mention = .ok () ↔ mention.writable = true := by
  unfold checkWritable
  split <;> simp [*]

/-- The accounts that `establish` accepts: the record, one who pays and has signed, and the system
program. -/
theorem establishAccounts_eq_ok_iff {ledger : Ledger} {mentions : List Mention} {record payer : Mention} :
    establishAccounts ledger mentions = .ok (record, payer) ↔
      ∃ system rest, mentions = record :: payer :: system :: rest ∧
        record.address = recordAddress ∧ record.writable = true ∧
        payer.signer = true ∧ payer.writable = true ∧
        system.address = Address.systemProgram ∧ (ledger Address.systemProgram).executable = true := by
  unfold establishAccounts
  constructor
  · intro h
    obtain ⟨⟨first, others⟩, htake, h⟩ := except_bind_eq_ok.1 h
    obtain ⟨⟨second, more⟩, hsigner, h⟩ := except_bind_eq_ok.1 h
    obtain ⟨⟨system, rest⟩, hsystem, h⟩ := except_bind_eq_ok.1 h
    obtain ⟨_, haddress, h⟩ := except_bind_eq_ok.1 h
    obtain ⟨_, hrecord, h⟩ := except_bind_eq_ok.1 h
    obtain ⟨_, hpayer, h⟩ := except_bind_eq_ok.1 h
    cases h
    obtain ⟨hothers, hsigned⟩ := takeSigner_eq_ok.1 hsigner
    obtain ⟨hmore, hprogram⟩ := takeSystemProgram_eq_ok.1 hsystem
    refine ⟨system, rest, ?_, checkRecordAddress_eq_ok.1 haddress, checkWritable_eq_ok.1 hrecord, hsigned,
      checkWritable_eq_ok.1 hpayer, hprogram⟩
    rw [takeAccount_eq_ok.1 htake, hothers, hmore]
  · rintro ⟨system, rest, rfl, haddress, hrecord, hsigned, hpayer, hprogram⟩
    exact except_bind_eq_ok.2 ⟨_, takeAccount_eq_ok.2 rfl,
      except_bind_eq_ok.2 ⟨_, takeSigner_eq_ok.2 ⟨rfl, hsigned⟩,
      except_bind_eq_ok.2 ⟨_, takeSystemProgram_eq_ok.2 ⟨rfl, hprogram⟩,
      except_bind_eq_ok.2 ⟨(), checkRecordAddress_eq_ok.2 haddress,
      except_bind_eq_ok.2 ⟨(), checkWritable_eq_ok.2 hrecord,
      except_bind_eq_ok.2 ⟨(), checkWritable_eq_ok.2 hpayer, rfl⟩⟩⟩⟩⟩⟩

theorem establishAccounts_eq_ok {ledger : Ledger} {mentions : List Mention} {record payer : Mention}
    (h : establishAccounts ledger mentions = .ok (record, payer)) :
    record.address = recordAddress ∧ payer.signer = true ∧ mentions[1]? = some payer := by
  obtain ⟨_, _, rfl, haddress, _, hsigned, _⟩ := establishAccounts_eq_ok_iff.1 h
  exact ⟨haddress, hsigned, rfl⟩

/-- The accounts that an amendment accepts: the record, and one who has signed. -/
theorem amendmentAccounts_eq_ok_iff {role : Role} {mentions : List Mention} {record signer : Mention} :
    amendmentAccounts role mentions = .ok (record, signer) ↔
      ∃ rest, mentions = record :: signer :: rest ∧
        record.address = recordAddress ∧ record.writable = true ∧ signer.signer = true := by
  unfold amendmentAccounts
  constructor
  · intro h
    obtain ⟨⟨first, others⟩, htake, h⟩ := except_bind_eq_ok.1 h
    obtain ⟨⟨second, rest⟩, hsigner, h⟩ := except_bind_eq_ok.1 h
    obtain ⟨_, haddress, h⟩ := except_bind_eq_ok.1 h
    obtain ⟨_, hrecord, h⟩ := except_bind_eq_ok.1 h
    cases h
    obtain ⟨hothers, hsigned⟩ := takeSigner_eq_ok.1 hsigner
    refine ⟨rest, ?_, checkRecordAddress_eq_ok.1 haddress, checkWritable_eq_ok.1 hrecord, hsigned⟩
    rw [takeAccount_eq_ok.1 htake, hothers]
  · rintro ⟨rest, rfl, haddress, hrecord, hsigned⟩
    exact except_bind_eq_ok.2 ⟨_, takeAccount_eq_ok.2 rfl,
      except_bind_eq_ok.2 ⟨_, takeSigner_eq_ok.2 ⟨rfl, hsigned⟩,
      except_bind_eq_ok.2 ⟨(), checkRecordAddress_eq_ok.2 haddress,
      except_bind_eq_ok.2 ⟨(), checkWritable_eq_ok.2 hrecord, rfl⟩⟩⟩⟩

theorem amendmentAccounts_eq_ok {role : Role} {mentions : List Mention} {record signer : Mention}
    (h : amendmentAccounts role mentions = .ok (record, signer)) :
    record.address = recordAddress ∧ signer.signer = true ∧ mentions[1]? = some signer := by
  obtain ⟨_, rfl, haddress, _, hsigned⟩ := amendmentAccounts_eq_ok_iff.1 h
  exact ⟨haddress, hsigned, rfl⟩

theorem queryAccounts_eq_ok {mentions : List Mention} {record : Mention}
    (h : queryAccounts mentions = .ok record) : record.address = recordAddress := by
  obtain ⟨⟨first, others⟩, _, h⟩ := except_bind_eq_ok.1 h
  obtain ⟨_, haddress, h⟩ := except_bind_eq_ok.1 h
  cases h
  exact checkRecordAddress_eq_ok.1 haddress

/-! ## Behind the accounts -/

/-- What is done for a command once its accounts have been let through. A query has no need of a signer. -/
def handle (env : Environment) (record signer : Mention) : Command → Action (Option Bytes)
  | .establish networkId => do
      establish env record signer networkId
      return none
  | .amend amendment => do
      amend env record.address signer.address amendment
      return none
  | .query query => do
      let answer ← check (query.answer (← account record.address))
      return some answer

/-- The accounts are let through, as those of the record and of the signer. -/
def Accepts (ledger : Ledger) (mentions : List Mention) (record signer : Mention) : Command → Prop
  | .establish _ => establishAccounts ledger mentions = .ok (record, signer)
  | .amend amendment => amendmentAccounts amendment.role mentions = .ok (record, signer)
  | .query _ => queryAccounts mentions = .ok record

theorem execute_of_accepts {mentions : List Mention} {record signer : Mention} {c : Command}
    (h : Accepts p.ledger mentions record signer c) :
    execute env mentions c p = handle env record signer c p := by
  cases c with
  | establish networkId =>
      rw [execute, bind_run, get_run]
      dsimp only
      rw [show establishAccounts p.ledger mentions = .ok (record, signer) from h, check_ok]
      rfl
  | amend a =>
      rw [execute, show amendmentAccounts a.role mentions = .ok (record, signer) from h, check_ok]
      rfl
  | query q =>
      rw [execute, show queryAccounts mentions = .ok record from h, check_ok]
      rfl

/-! ## The faults of the account checks -/

variable {fault : Fault}

theorem takeAccount_eq_error {slot : Slot} {mentions : List Mention}
    (h : takeAccount slot mentions = .error fault) : fault.code = 3005 := by
  cases mentions with
  | nil =>
      cases h
      rfl
  | cons _ _ => cases h

theorem takeSigner_eq_error {slot : Slot} {mentions : List Mention}
    (h : takeSigner slot mentions = .error fault) : fault.code = 3005 ∨ fault.code = 3010 := by
  rcases except_bind_eq_error h with htake | ⟨⟨first, others⟩, _, h⟩
  · exact Or.inl (takeAccount_eq_error htake)
  · dsimp only at h
    split at h
    · cases h
    · cases h
      exact Or.inr rfl

theorem checkRecordAddress_eq_error {record : Mention} (h : checkRecordAddress record = .error fault) :
    fault.code = 2006 := by
  unfold checkRecordAddress at h
  split at h
  · cases h
  · cases h
    rfl

theorem checkWritable_eq_error {slot : Slot} {mention : Mention}
    (h : checkWritable slot mention = .error fault) : fault.code = 2000 := by
  unfold checkWritable at h
  split at h
  · cases h
  · cases h
    rfl

theorem amendmentAccounts_eq_error {role : Role} {mentions : List Mention}
    (h : amendmentAccounts role mentions = .error fault) : fault.code ∈ [2000, 2006, 3005, 3010] := by
  rcases except_bind_eq_error h with htake | ⟨⟨first, others⟩, _, h⟩
  · simp [takeAccount_eq_error htake]
  rcases except_bind_eq_error h with htake | ⟨⟨second, rest⟩, _, h⟩
  · rcases takeSigner_eq_error htake with hcode | hcode <;> simp [hcode]
  rcases except_bind_eq_error h with hcheck | ⟨_, _, h⟩
  · simp [checkRecordAddress_eq_error hcheck]
  rcases except_bind_eq_error h with hcheck | ⟨_, _, h⟩
  · simp [checkWritable_eq_error hcheck]
  · cases h

theorem queryAccounts_eq_error {mentions : List Mention} (h : queryAccounts mentions = .error fault) :
    fault.code ∈ [2006, 3005] := by
  rcases except_bind_eq_error h with htake | ⟨⟨first, others⟩, _, h⟩
  · simp [takeAccount_eq_error htake]
  rcases except_bind_eq_error h with hcheck | ⟨_, _, h⟩
  · simp [checkRecordAddress_eq_error hcheck]
  · cases h

end Program

end NetIdentity
