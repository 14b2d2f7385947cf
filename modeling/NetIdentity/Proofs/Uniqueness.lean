import NetIdentity.Proofs.Deeds

/-!
# The identity is established once

Nothing records that the identity has been established. What stands in the way of doing it again is the
account itself: it holds a record, and no deed takes that away (`Effect.load_some`). So a path has at most
one deed that establishes, whoever sends it and whatever else happens in between
(`Path.countP_establishes_le_one`).

A transaction is a path of its own, which is why one that asks for the identity twice never commits. It
fails at the second time, and then the first one is rolled back as well.
-/

namespace NetIdentity

open NetIdentity.Action NetIdentity.Program

def Instruction.establishes (i : Instruction) : Bool :=
  decide (Selector.ofData? i.data = some .establish)

theorem Instruction.establishes_iff {i : Instruction} {c : Command} (h : i.command? = some c) :
    i.establishes = true ↔ ∃ networkId, c = .establish networkId := by
  rw [establishes, decide_eq_true_eq, (command?_eq_some_iff.1 h).1, Option.some.injEq]
  cases c with
  | establish networkId => exact ⟨fun _ => ⟨networkId, rfl⟩, fun _ => rfl⟩
  | amend a => exact ⟨nofun, nofun⟩
  | query q => exact ⟨nofun, nofun⟩

theorem Instruction.establishes_of_forFramework {i : Instruction} (h : i.ForFramework) :
    i.establishes = false := by
  rw [establishes, decide_eq_false_iff_not]
  intro hselector
  exact Selector.discriminator_ne_mark _ ((Selector.ofData?_eq_some_iff.1 hselector).symm.trans h)

def Deed.establishes (d : Deed) : Bool := d.instruction.establishes

namespace Path

/-- The deed that establishes finds no account and leaves a record. -/
theorem load_of_establishes {d : Deed} {a b : Account} {rest : List Deed}
    (h : Path a (d :: rest) b) (hd : d.establishes = true) :
    Store.isCreated id a = false ∧ ∃ r, Store.load id d.left = .ok (some r) := by
  have heffect := h.effect
  cases hcommand : d.command? with
  | none =>
      obtain ⟨_, ⟨answer, hok⟩, _⟩ := h
      rw [Deed.establishes, Instruction.establishes_of_forFramework (answered_of_ok hcommand hok).meant] at hd
      cases hd
  | some c =>
      rw [hcommand] at heffect
      obtain ⟨networkId, rfl⟩ := (Instruction.establishes_iff hcommand).1 hd
      obtain ⟨_, _, _, _, hload⟩ := heffect.load_establish
      exact ⟨heffect.fresh_of_establish, _, hload⟩

/-- From a record on, nothing is established. -/
theorem countP_establishes_eq_zero : {a b : Account} → {deeds : List Deed} → Path a deeds b →
    (∃ r, Store.load id a = .ok (some r)) → deeds.countP Deed.establishes = 0
  | _, _, [], _, _ => rfl
  | _, _, d :: _, h, hload => by
      have hrest := countP_establishes_eq_zero h.2.2 (h.effect.load_some hload)
      have hd : ¬ d.establishes = true := fun hd => by
        obtain ⟨r, hr⟩ := hload
        have hcreated := Store.isCreated_of_load hr
        rw [(h.load_of_establishes hd).1] at hcreated
        cases hcreated
      rw [List.countP_cons_of_neg hd, hrest]

/-- A path has at most one deed that establishes, wherever it starts. -/
theorem countP_establishes_le_one : {a b : Account} → {deeds : List Deed} → Path a deeds b →
    deeds.countP Deed.establishes ≤ 1
  | _, _, [], _ => Nat.zero_le 1
  | _, _, d :: rest, h => by
      by_cases hd : d.establishes = true
      · have hleft := (h.load_of_establishes hd).2
        have hrest := countP_establishes_eq_zero h.2.2 hleft
        have hone : (d :: rest).countP Deed.establishes = 1 := by
          rw [List.countP_cons_of_pos hd, hrest]
        exact Nat.le_of_eq hone
      · rw [List.countP_cons_of_neg hd]
        exact countP_establishes_le_one h.2.2

end Path

namespace Transaction

theorem countP_establishes (t : Transaction) (env : Environment) (ledger : Ledger) :
    t.countP Instruction.establishes = (t.deeds env ledger).countP Deed.establishes := by
  conv => lhs; rw [← t.map_instruction_deeds env ledger]
  rw [List.countP_map]
  rfl

theorem not_committed_of_establishes_twice {t : Transaction}
    (h : 2 ≤ t.countP Instruction.establishes) (env : Environment) (ledger : Ledger) :
    (t.submit env ledger).1.committed = false := by
  cases hcommitted : (t.submit env ledger).1.committed with
  | false => rfl
  | true =>
      have honce := (path_of_committed hcommitted).countP_establishes_le_one
      rw [← countP_establishes] at honce
      omega

end Transaction

namespace Program

/-- A request that would have been granted is refused for the single reason that the identity has been
established, and nothing is done. -/
theorem submit_of_established {env : Environment} {ledger : Ledger} {i : Instruction}
    {networkId : String} {record payer : Mention}
    (hcreated : Store.isCreated id (ledger recordAddress) = true) (hprogram : i.program = id)
    (hcommand : i.command? = some (.establish networkId))
    (haccounts : establishAccounts ledger i.accounts = .ok (record, payer))
    (hvalid : NetworkId.validate networkId = .ok ()) (hclock : env.clock.isSome) :
    (submit env ledger i).result = .error (.fault .alreadyInitialized) ∧
      (submit env ledger i).calls = [] ∧ (submit env ledger i).ledger = ledger := by
  have haddress := (establishAccounts_eq_ok haccounts).1
  rw [← haddress] at hcreated
  obtain ⟨failure, hfails, hreason⟩ := establish_of_created env
    (p := ⟨ledger, [], [.instruction Selector.establish.title]⟩) payer networkId hcreated
  rw [hreason hvalid hclock] at hfails
  have hexecute : execute env i.accounts (.establish networkId)
        ⟨ledger, [], [.instruction Selector.establish.title]⟩ =
      .error (.fault .alreadyInitialized) ⟨ledger, [], [.instruction Selector.establish.title]⟩ := by
    simp only [execute, bind_run, get_run, haccounts, check_ok, pure_run, hfails]
  rw [submit_of_execute_error hprogram hcommand hexecute]
  exact ⟨rfl, rfl, rfl⟩

end Program

namespace Chain

/-- **The identity is established at most once.** No history has two deeds that establish it, no
transaction that asks for it twice commits, and where the record's account has been made, whatever is in
it, a request that is well-formed in itself is refused without a system call. -/
theorem established_once (chain : Chain) {steps : List Step} (hspares : ∀ s ∈ steps, s.SparesRecord) :
    (chain.deeds steps).countP Deed.establishes ≤ 1 ∧
    (∀ (t : Transaction) (env : Environment) (ledger : Ledger),
      2 ≤ t.countP Instruction.establishes → (t.submit env ledger).1.committed = false) ∧
    ∀ (env : Environment) (ledger : Ledger) (i : Instruction) (networkId : String)
      (record payer : Mention),
      Store.isCreated id (ledger recordAddress) = true → i.program = Program.id →
      i.command? = some (.establish networkId) →
      establishAccounts ledger i.accounts = .ok (record, payer) →
      NetworkId.validate networkId = .ok () → env.clock.isSome →
      (Program.submit env ledger i).result = .error (.fault .alreadyInitialized) ∧
        (Failure.fault .alreadyInitialized).exit = .custom 6000 ∧
        (Program.submit env ledger i).calls = [] := by
  refine ⟨(chain.path hspares).countP_establishes_le_one, ?_, ?_⟩
  · intro t env ledger htwice
    exact Transaction.not_committed_of_establishes_twice htwice env ledger
  · intro env ledger i networkId record payer hcreated hprogram hcommand haccounts hvalid hclock
    obtain ⟨hresult, hcalls, _⟩ :=
      submit_of_established hcreated hprogram hcommand haccounts hvalid hclock
    exact ⟨hresult, rfl, hcalls⟩

/-- One deed establishes in the small history; the two requests fail in one transaction although each
would succeed alone; and an account that holds a single byte is enough to be refused. -/
theorem established_once_small :
    ((small.deeds Step.small).countP Deed.establishes = 1 ∧ ∀ s ∈ Step.small, s.SparesRecord) ∧
    (let request := (Command.establish "solana").instruction (Address.ofByte 1)
     let again := (Command.establish "ethereum").instruction (Address.ofByte 1)
     2 ≤ [request, again].countP Instruction.establishes ∧
      (Transaction.submit small.env small.ledger [request]).1.committed = true ∧
      (Transaction.submit small.env small.ledger [again]).1.committed = true ∧
      (Transaction.submit small.env small.ledger [request, again]).1.committed = false) ∧
    (let occupied := small.ledger.set recordAddress ⟨0, Program.id, [0], false⟩
     let request := (Command.establish "solana").instruction (Address.ofByte 1)
     Store.isCreated id (occupied recordAddress) = true ∧
      request.command? = some (.establish "solana") ∧
      establishAccounts occupied request.accounts =
        .ok (⟨recordAddress, false, true⟩, ⟨Address.ofByte 1, true, true⟩) ∧
      NetworkId.validate "solana" = .ok () ∧ small.env.clock.isSome ∧
      (Program.submit small.env occupied request).result = .error (.fault .alreadyInitialized)) := by
  obtain ⟨_, htwice, hrefused⟩ := established_once small Step.small_sparesRecord
  have htwo : 2 ≤ List.countP Instruction.establishes
      [ (Command.establish "solana").instruction (Address.ofByte 1),
        (Command.establish "ethereum").instruction (Address.ofByte 1) ] := by
    decide +kernel
  have hoccupied : Store.isCreated id
      ((small.ledger.set recordAddress ⟨0, Program.id, [0], false⟩) recordAddress) = true := by
    rw [Ledger.set_self]
    decide +kernel
  have hcommand : ((Command.establish "solana").instruction (Address.ofByte 1)).command? =
      some (.establish "solana") := by
    decide +kernel
  have haccounts : establishAccounts (small.ledger.set recordAddress ⟨0, Program.id, [0], false⟩)
      ((Command.establish "solana").instruction (Address.ofByte 1)).accounts =
        .ok (⟨recordAddress, false, true⟩, ⟨Address.ofByte 1, true, true⟩) := by
    rfl
  have hvalid : NetworkId.validate "solana" = .ok () := by
    rw [NetworkId.validate_eq_ok_iff]
    decide +kernel
  refine ⟨⟨by decide +kernel, Step.small_sparesRecord⟩, ?_, ?_⟩
  · exact ⟨htwo, by decide +kernel, by decide +kernel, htwice _ small.env small.ledger htwo⟩
  · exact ⟨hoccupied, hcommand, haccounts, hvalid, rfl,
      (hrefused small.env _ _ _ _ _ hoccupied rfl hcommand haccounts hvalid rfl).1⟩

end Chain

end NetIdentity
