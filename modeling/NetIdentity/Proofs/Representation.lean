import NetIdentity.Proofs.Answers
import NetIdentity.Proofs.Deeds

/-!
# How the record is stored

The account of the record is either not made or holds exactly one record: its stored form, and behind it
zeros up to the end of the space. The buffer is written over in place and never cleared, so the zeros stay
only because no amendment changes the length of the stored form; and the stored form fits in the first
place only because the network id has been validated. `Account.Holds` puts this together, and
`Effect.orderly` shows that it is kept. The framework keeps it too, since it claims no account of this kind.

What is stored in this way can be read, so no command ever stumbles over it.
-/

namespace NetIdentity

open NetIdentity.Action NetIdentity.Program

/-- The account is the program's, and all that it holds is the record. -/
structure Account.Holds (account : Account) (r : Record) : Prop where
  owner : account.owner = Program.id
  data : account.data = r.stored ++ List.replicate (Record.space - r.stored.length) 0
  length : account.data.length = Record.space
  nonempty : r.networkId ≠ ""
  short : r.networkId.utf8ByteSize ≤ NetworkId.maxBytes
  undelimited : NetworkAddress.delimiter ∉ r.networkId.toList
  bump : Store.location? Program.id = some (recordAddress, r.bump)

namespace Account.Holds

variable {account : Account} {r : Record}

theorem load (h : account.Holds r) : Store.load Program.id account = .ok (some r) := by
  have hsize : r.networkId.utf8ByteSize < UInt32.size := Nat.lt_of_le_of_lt h.short (by decide)
  refine Store.load_eq_some_iff.2 ⟨h.owner, hsize, ?_⟩
  rw [h.data]
  exact List.prefix_append _ _

theorem eq_of_stored {other : Record} (h : account.Holds r) (hother : other.stored <+: account.data) :
    other = r := by
  obtain ⟨_, hread⟩ := Store.load_eq_some_iff.1 h.load
  have hdata : account.data.length < UInt32.size := by
    rw [h.length]
    decide
  exact Record.stored_unique (Record.read_eq_ok_iff.2 hread) hother
    (Record.networkId_lt_of_stored hother hdata)

/-- An amended record takes exactly the bytes of the one before. -/
theorem rewrite (h : account.Holds r) (a : Amendment) : (a.rewrite r account).Holds (a.apply r) := by
  have hdata := Amendment.data_rewrite (a := a) h.data
  have hlength := a.length_stored_apply r
  refine ⟨h.owner, ?_, ?_, ?_, ?_, ?_, ?_⟩
  · rw [hdata, hlength]
  · rw [hdata, List.length_append, hlength, ← List.length_append, ← h.data]
    exact h.length
  · rw [Amendment.networkId_apply]
    exact h.nonempty
  · rw [Amendment.networkId_apply]
    exact h.short
  · rw [Amendment.networkId_apply]
    exact h.undelimited
  · rw [Amendment.bump_apply]
    exact h.bump

end Account.Holds

def Account.Orderly (account : Account) : Prop :=
  Store.isCreated Program.id account = false ∨ ∃ r, account.Holds r

theorem Account.Orderly.load {account : Account} (h : account.Orderly) :
    ∃ state, Store.load Program.id account = .ok state := by
  rcases h with hfresh | ⟨r, hr⟩
  · exact ⟨none, Store.load_of_not_created hfresh⟩
  · exact ⟨some r, hr.load⟩

theorem Account.Orderly.holds {account : Account} {r : Record} (h : account.Orderly)
    (hload : Store.load Program.id account = .ok (some r)) : account.Holds r := by
  rcases h with hfresh | ⟨s, hs⟩
  · rw [Store.load_of_not_created hfresh] at hload
    cases hload
  · rw [hs.load] at hload
    cases hload
    exact hs

/-- All that matters of an orderly account is whose it is and what it holds. -/
theorem Account.Holds.congr {x y : Account} {r : Record} (h : x.Holds r) (hsame : y.SameContent x) :
    y.Holds r where
  owner := hsame.owner.trans h.owner
  data := hsame.data.trans h.data
  length := by rw [hsame.data, h.length]
  nonempty := h.nonempty
  short := h.short
  undelimited := h.undelimited
  bump := h.bump

theorem Account.Orderly.congr {x y : Account} (h : x.Orderly) (hsame : y.SameContent x) : y.Orderly := by
  rcases h with hfresh | ⟨r, hr⟩
  · exact Or.inl ((Store.isCreated_congr hsame).trans hfresh)
  · exact Or.inr ⟨r, hr.congr hsame⟩

/-! ## Every effect keeps it -/

namespace Program

theorem Effect.holds_establish {signer : Option Address} {clock : Option Int64}
    {before after : Account} {networkId : String}
    (h : Effect signer clock before (some (.establish networkId)) after) : ∃ r, after.Holds r := by
  cases h with
  | @establish _ founder now _ _ _ accepted _ owner data =>
      obtain ⟨hnonempty, hshort, hundelimited⟩ := NetworkId.validate_eq_ok_iff.1 accepted
      refine ⟨_, owner, data, ?_, ?_, hshort, hundelimited, location?_id⟩
      · have hroom : (Record.initial founder networkId now recordBump).stored.length ≤ Record.space :=
          Record.length_stored_le accepted
        rw [data, List.length_append, List.length_replicate]
        omega
      · rintro rfl
        exact hnonempty rfl

theorem Effect.orderly {signer : Option Address} {clock : Option Int64} {before after : Account}
    {c : Option Command} (h : Effect signer clock before c after) (hbefore : before.Orderly) :
    after.Orderly := by
  obtain ⟨state, hload⟩ := hbefore.load
  cases h with
  | establish signed timed accepted fresh owner data =>
      exact Or.inr (Effect.establish signed timed accepted fresh owner data).holds_establish
  | @amend a r loaded _ => exact Or.inr ⟨a.apply r, (hbefore.holds loaded).rewrite a⟩
  | query => exact hbefore
  | framework spared => exact hbefore.congr (spared.content (Framework.not_claims_of_load hload))

end Program

/-! ## Nothing stumbles over it -/

/-- The failure is about what is stored: it is no record, or it has no room for one. -/
def Failure.AboutStorage (failure : Failure) : Prop :=
  failure.exit ∈ [.custom 3001, .custom 3002, .custom 3003, .custom 3004]

instance (failure : Failure) : Decidable failure.AboutStorage :=
  inferInstanceAs (Decidable (_ ∈ _))

theorem Failure.aboutStorage_fault_iff {fault : Fault} :
    (Failure.fault fault).AboutStorage ↔ fault.code ∈ [3001, 3002, 3003, 3004] := by
  simp [AboutStorage, exit]

theorem Failure.not_aboutStorage_of_code {fault : Fault} {codes : List Nat} (hcode : fault.code ∈ codes)
    (hother : ∀ code ∈ codes, code ∉ [3001, 3002, 3003, 3004]) :
    ¬ (Failure.fault fault).AboutStorage := by
  intro hstorage
  exact hother fault.code hcode (aboutStorage_fault_iff.1 hstorage)

namespace Program

variable {account : Account} {fault : Fault}

/-- Where there is something to be loaded, all that can be missing is the record. -/
theorem loadInitialized_eq_error (h : account.Orderly)
    (hload : Store.loadInitialized id account = .error fault) : fault = .notInitialized := by
  obtain ⟨state, hstate⟩ := h.load
  unfold Store.loadInitialized at hload
  rw [hstate] at hload
  cases state with
  | none =>
      cases hload
      rfl
  | some r => cases hload

theorem answer_eq_error {q : Query} (h : account.Orderly) (hanswer : q.answer account = .error fault) :
    fault = .notInitialized :=
  loadInitialized_eq_error h (Query.answer_eq_error hanswer)

variable {env : Environment} {mentions : List Mention} {failure : Failure} {p q : Progress}

theorem amend_not_aboutStorage {signer : Address} {a : Amendment}
    (h : (p.ledger recordAddress).Orderly)
    (hfails : amend env recordAddress signer a p = .error failure q) : ¬ failure.AboutStorage := by
  rcases (amend_eq_error hfails).2 with ⟨fault, hload, rfl⟩ | ⟨r, rfl⟩ | rfl
  · rw [loadInitialized_eq_error h hload]
    decide
  · rw [Failure.aboutStorage_fault_iff]
    cases a.role <;> simp [Role.denial, Fault.code]
  · decide

theorem execute_not_aboutStorage {c : Command} (h : (p.ledger recordAddress).Orderly)
    (hc : ∀ networkId, c ≠ .establish networkId)
    (hfails : execute env mentions c p = .error failure q) : ¬ failure.AboutStorage := by
  cases c with
  | establish networkId => exact absurd rfl (hc networkId)
  | amend a =>
      rcases execute_amend_eq_error hfails with ⟨fault, haccounts, rfl, _⟩ | ⟨signer, hamend⟩
      · exact Failure.not_aboutStorage_of_code (amendmentAccounts_eq_error haccounts) (by decide)
      · exact amend_not_aboutStorage h hamend
  | query kind =>
      obtain ⟨_, fault, rfl, haccounts | hanswer⟩ := execute_query_eq_error hfails
      · exact Failure.not_aboutStorage_of_code (queryAccounts_eq_error haccounts) (by decide)
      · rw [answer_eq_error h hanswer]
        decide

/-- Over an orderly account no command but one to establish fails because of what is stored. -/
theorem submit_not_aboutStorage {ledger : Ledger} {i : Instruction} {c : Command}
    (h : (ledger recordAddress).Orderly) (hcommand : i.command? = some c)
    (hc : ∀ networkId, c ≠ .establish networkId)
    (hfails : (submit env ledger i).result = .error failure) : ¬ failure.AboutStorage := by
  rcases execute_error_of_command hcommand hfails with ⟨q, hexecute⟩ | rfl
  · exact execute_not_aboutStorage h hc hexecute
  · decide

end Program

/-! ## Histories -/

namespace Chain

theorem orderly {chain : Chain} {steps : List Step}
    (hfresh : Store.isCreated Program.id (chain.ledger recordAddress) = false)
    (hspares : ∀ s ∈ steps, s.SparesRecord) :
    ((chain.run steps).2.ledger recordAddress).Orderly :=
  (chain.path hspares).preserves (fun _ _ _ heffect => heffect.orderly) (Or.inl hfresh)

/-- **What is stored is one record and nothing else**, at every point of every history that starts without
one; and there neither an amendment nor a query ever fails because of what is stored. -/
theorem holds_one_record {chain : Chain} {steps : List Step}
    (hfresh : Store.isCreated Program.id (chain.ledger recordAddress) = false)
    (hspares : ∀ s ∈ steps, s.SparesRecord) :
    (Store.isCreated Program.id ((chain.run steps).2.ledger recordAddress) = false ∨
      ∃ r, ((chain.run steps).2.ledger recordAddress).Holds r ∧
        ∀ other, other.stored <+: ((chain.run steps).2.ledger recordAddress).data → other = r) ∧
    ∀ (env : Environment) (i : Instruction) (c : Command) (failure : Failure),
      i.command? = some c → (∀ networkId, c ≠ .establish networkId) →
      (Program.submit env (chain.run steps).2.ledger i).result = .error failure →
      failure.exit ∉ [.custom 3001, .custom 3002, .custom 3003, .custom 3004] := by
  have horderly := orderly hfresh hspares
  refine ⟨?_, ?_⟩
  · rcases horderly with hnone | ⟨r, hr⟩
    · exact Or.inl hnone
    · exact Or.inr ⟨r, hr, fun _ => hr.eq_of_stored⟩
  · intro env i c failure hcommand hc hfails
    exact submit_not_aboutStorage horderly hcommand hc hfails

/-- At the end of the small history one record is held, and the founder's attempt on the fee is refused
for another reason than what is stored. -/
theorem holds_one_record_small :
    Store.isCreated Program.id (small.ledger recordAddress) = false ∧
    (∀ s ∈ Step.small, s.SparesRecord) ∧
    (∃ r, ((small.run Step.small).2.ledger recordAddress).Holds r) ∧
    (let attempt := (Command.amend (.protocolFee 5)).instruction (Address.ofByte 1)
     attempt.command? = some (.amend (.protocolFee 5)) ∧
      ∃ failure, (Program.submit small.env (small.run Step.small).2.ledger attempt).result =
          .error failure ∧
        failure.exit ∉ [.custom 3001, .custom 3002, .custom 3003, .custom 3004]) := by
  obtain ⟨hstored, hcalls⟩ := holds_one_record small_fresh Step.small_sparesRecord
  have hcommand : ((Command.amend (.protocolFee 5)).instruction (Address.ofByte 1)).command? =
      some (.amend (.protocolFee 5)) := by
    decide +kernel
  refine ⟨small_fresh, Step.small_sparesRecord, ?_, hcommand, ?_⟩
  · rcases hstored with hnone | ⟨r, hr, _⟩
    · have hcreated : Store.isCreated Program.id ((small.run Step.small).2.ledger recordAddress) = true := by
        decide +kernel
      rw [hcreated] at hnone
      cases hnone
    · exact ⟨r, hr⟩
  · cases hresult : (Program.submit small.env (small.run Step.small).2.ledger
        ((Command.amend (.protocolFee 5)).instruction (Address.ofByte 1))).result with
    | error failure => exact ⟨failure, rfl, hcalls _ _ _ failure hcommand nofun hresult⟩
    | ok answer =>
        have hrefused : (Program.submit small.env (small.run Step.small).2.ledger
            ((Command.amend (.protocolFee 5)).instruction (Address.ofByte 1))).result.isOk = false := by
          decide +kernel
        rw [hresult] at hrefused
        cases hrefused

end Chain

end NetIdentity
