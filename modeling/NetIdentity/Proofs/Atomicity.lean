import NetIdentity.Proofs.Answers
import NetIdentity.Proofs.Refusals

/-!
# A command that fails has done nothing

A transaction rolls back what its instructions have done when one of them fails. For most commands there is
nothing to roll back: they look at all that may refuse them before they write, and the one write of an
amendment cannot fail, because the amended record takes exactly the place of the one that was read, however
long the data is (`save_of_load`).

The exception is the system program. The record's account is made in up to three calls, and when the system
program refuses a later one, the earlier ones have been done. Nothing else that can go wrong with a request to
establish the identity comes after the first of these calls (`establish_error_cases`).
-/

namespace NetIdentity

open NetIdentity.Action

namespace Program

variable {env : Environment} {mentions : List Mention} {p q : Progress} {failure : Failure}

/-- A command that fails has done nothing, or it is a request that the system program has refused. -/
theorem untouched_or_refused {c : Command} (h : execute env mentions c p = .error failure q) :
    q = p ∨ (∃ networkId, c = .establish networkId) ∧ failure ∈ SystemCall.refusals := by
  rcases execute_error_cases h with hq | ⟨networkId, record, payer, rfl, haccounts, hestablish⟩
  · exact Or.inl hq
  · rcases establish_error_cases (permitted_of_accounts haccounts) hestablish with ⟨hq, _⟩ | hrefused
    · exact Or.inl hq
    · exact Or.inr ⟨⟨networkId, rfl⟩, hrefused⟩

/-- Where a record has been read, an amendment does not fail for want of room. -/
theorem room_of_execute_amend {a : Amendment} {r : Record}
    (hload : Store.load id (p.ledger recordAddress) = .ok (some r))
    (h : execute env mentions (.amend a) p = .error failure q) : failure ≠ .fault .recordTooLarge := by
  rcases execute_amend_eq_error h with ⟨fault, haccounts, rfl, _⟩ | ⟨signer, hamend⟩
  · rintro ⟨⟩
    have hcode := amendmentAccounts_eq_error haccounts
    simp [Fault.code] at hcode
  · rcases (amend_eq_error hamend).2 with ⟨fault, hmissing, _⟩ | ⟨s, rfl⟩ | rfl
    · rw [Store.loadInitialized_eq_ok_iff.2 hload] at hmissing
      cases hmissing
    · cases a.role <;> simp [Role.denial]
    · simp

/-! ## Submitting an instruction -/

variable {ledger : Ledger} {i : Instruction}

/-- Where a record has been read, an amendment of it takes effect as a whole or not at all. -/
theorem amended_or_refused {a : Amendment} {r : Record} (hcommand : i.command? = some (.amend a))
    (hload : Store.load id (ledger recordAddress) = .ok (some r)) :
    ((submit env ledger i).result = .ok none ∧
      (submit env ledger i).ledger = ledger.set recordAddress (a.rewrite r (ledger recordAddress))) ∨
    ∃ failure, (submit env ledger i).result = .error failure ∧ failure ≠ .fault .recordTooLarge := by
  cases hresult : (submit env ledger i).result with
  | ok answer =>
      obtain ⟨_, houtcome⟩ := outcome_of_ok hcommand hresult
      left
      generalize submit env ledger i = report at houtcome hresult
      cases houtcome with
      | @amend _ record signer s now haccounts hfound hholder htimed =>
          rw [hload] at hfound
          cases hfound
          cases hresult
          exact ⟨rfl, rfl⟩
  | error failure =>
      refine Or.inr ⟨failure, rfl, ?_⟩
      rcases execute_error_of_command hcommand hresult with ⟨q, hexecute⟩ | rfl
      · exact room_of_execute_amend hload hexecute
      · nofun

/-- **Failures leave the ledger alone**, at the moment when the call returns and before anything is rolled
back. The one exception among the program's own instructions is a request to establish the identity that the
system program has refused. Where a record has been read, an amendment of it never finds too little room, and
what it leaves is the old record or all of the new one, however long the data is. -/
theorem failures_leave_ledger (env : Environment) (ledger : Ledger) (i : Instruction) :
    (¬ i.ForFramework → ∀ failure, (submit env ledger i).result = .error failure →
      (∀ networkId, i.command? = some (.establish networkId) → failure ∉ SystemCall.refusals) →
      (submit env ledger i).ledger = ledger) ∧
    ∀ a r, i.command? = some (.amend a) → Store.load id (ledger recordAddress) = .ok (some r) →
      ((submit env ledger i).result = .ok none ∧
        (submit env ledger i).ledger = ledger.set recordAddress (a.rewrite r (ledger recordAddress)) ∧
        Store.load id ((submit env ledger i).ledger recordAddress) = .ok (some (a.apply r))) ∨
      ∃ failure, (submit env ledger i).result = .error failure ∧ failure ≠ .fault .recordTooLarge ∧
        (submit env ledger i).ledger = ledger := by
  have hleaves : ¬ i.ForFramework → ∀ failure, (submit env ledger i).result = .error failure →
      (∀ networkId, i.command? = some (.establish networkId) → failure ∉ SystemCall.refusals) →
      (submit env ledger i).ledger = ledger := by
    intro hown failure hfails hnotRefused
    rcases submit_error_cases hfails with ⟨c, q, hcommand, hexecute, hledger⟩ | hmeant | ⟨hledger, _⟩
    · rcases untouched_or_refused hexecute with rfl | ⟨⟨networkId, rfl⟩, hrefused⟩
      · exact hledger
      · exact absurd hrefused (hnotRefused networkId hcommand)
    · exact absurd hmeant hown
    · exact hledger
  refine ⟨hleaves, fun a r hcommand hload => ?_⟩
  rcases amended_or_refused hcommand hload with ⟨hsucceeds, hledger⟩ | ⟨failure, hfails, hroom⟩
  · refine Or.inl ⟨hsucceeds, hledger, ?_⟩
    rw [hledger, Ledger.set_self]
    exact Store.load_rewrite hload
  · have hown := Instruction.not_forFramework hcommand
    refine Or.inr ⟨failure, hfails, hroom, hleaves hown failure hfails ?_⟩
    intro networkId hasked
    rw [hcommand] at hasked
    cases hasked

/-- In data that ends where the record ends, the admin hands on his role; somebody else cannot, the identity is
not established again, and neither leaves a trace. The exception is needed: a request that the system program
refuses for want of lamports leaves a half-made account. -/
theorem failures_leave_ledger_small :
    let tight := holding id Record.sample.stored
    let handOver := (Command.amend (.admin (Address.ofByte 1))).instruction
    let request := (Command.establish "solana").instruction (Address.ofByte 1)
    ((∀ signer, (handOver signer).command? = some (.amend (.admin (Address.ofByte 1)))) ∧
      Store.load id (tight recordAddress) = .ok (some Record.sample) ∧
      Store.load id ((submit Environment.default tight (handOver Address.nativeLoader)).ledger recordAddress) =
        .ok (some { Record.sample with admin := Address.ofByte 1 })) ∧
    (∃ failure,
      (submit Environment.default tight (handOver (Address.ofByte 1))).result = .error failure ∧
      (submit Environment.default tight (handOver (Address.ofByte 1))).ledger = tight) ∧
    (Failure.fault .alreadyInitialized ∉ SystemCall.refusals ∧
      (submit Environment.default tight request).result = .error (.fault .alreadyInitialized) ∧
      (submit Environment.default tight request).ledger = tight) ∧
    (submit Environment.default Ledger.fresh request).log =
      [.instruction "Initialize", .failure (.runtime (.custom 1))] ∧
    (submit Environment.default Ledger.fresh request).ledger recordAddress ≠ Ledger.fresh recordAddress := by
  intro tight handOver request
  have hdata : (handOver Address.nativeLoader).command? = some (.amend (.admin (Address.ofByte 1))) := by
    decide +kernel
  have hcommand : ∀ signer, (handOver signer).command? = some (.amend (.admin (Address.ofByte 1))) :=
    fun _ => hdata
  have hload : Store.load id (tight recordAddress) = .ok (some Record.sample) :=
    Store.load_eq_some_iff.2 ⟨rfl, by decide, List.prefix_refl _⟩
  have hother : Failure.fault .alreadyInitialized ∉ SystemCall.refusals := by decide
  have hexists : (submit Environment.default (holding id Record.sample.stored)
      ((Command.establish "solana").instruction (Address.ofByte 1))).result =
      .error (.fault .alreadyInitialized) := by
    rfl
  refine ⟨⟨hcommand, hload, ?_⟩, ?_, ⟨hother, hexists, ?_⟩, by decide +kernel, by decide +kernel⟩
  · rcases (failures_leave_ledger Environment.default tight (handOver Address.nativeLoader)).2 _ _
      (hcommand _) hload with ⟨_, _, hafter⟩ | ⟨failure, hfails, _⟩
    · exact hafter
    · have hsucceeds : (submit Environment.default tight (handOver Address.nativeLoader)).result.isOk = true := by
        decide +kernel
      rw [hfails] at hsucceeds
      cases hsucceeds
  · rcases (failures_leave_ledger Environment.default tight (handOver (Address.ofByte 1))).2 _ _
      (hcommand _) hload with ⟨hsucceeds, _⟩ | ⟨failure, hfails, _, hkept⟩
    · have hfails : (submit Environment.default tight (handOver (Address.ofByte 1))).result.isOk = false := by
        decide +kernel
      rw [hsucceeds] at hfails
      cases hfails
    · exact ⟨failure, hfails, hkept⟩
  · have hown : ¬ request.ForFramework := by decide
    exact (failures_leave_ledger Environment.default tight request).1 hown _ hexists fun _ _ => hother

end Program

end NetIdentity
