import NetIdentity.Proofs.Representation
import NetIdentity.Proofs.Splitting

/-!
# The published address

Whoever wants to reach the program from another network asks it for its network address, and will go on using the
answer. So the answer must never change, and it must fall apart into the network id and the program again wherever it
is taken apart.

The first follows from what is stored: from the moment when the identity is established, the account holds a record
of that network (`Account.Names`), and every effect keeps this, since amendments leave the network id alone. The
second is why network ids are validated before they are stored.
-/

namespace NetIdentity

open NetIdentity.Program

/-- The account holds a record of the network. -/
def Account.Names (account : Account) (networkId : String) : Prop :=
  ∃ r, account.Holds r ∧ r.networkId = networkId

variable {networkId : String}

/-! ## The network is named once and for all -/

namespace Program.Effect

variable {signer : Option Address} {clock : Option Int64} {before after : Account} {c : Option Command}

theorem names_establish (h : Effect signer clock before (some (.establish networkId)) after) :
    after.Names networkId := by
  obtain ⟨r, hr⟩ := h.holds_establish
  obtain ⟨founder, now, _, _, hload⟩ := h.load_establish
  rw [hr.load] at hload
  cases hload
  exact ⟨_, hr, rfl⟩

theorem names (h : Effect signer clock before c after) (hbefore : before.Names networkId) :
    after.Names networkId := by
  obtain ⟨r, hr, hnetworkId⟩ := hbefore
  rcases h.amend_or_endures_of_load hr.load with ⟨a, _, _, rfl⟩ | ⟨_, hendures, _⟩
  · exact ⟨a.apply r, hr.rewrite a, by rw [a.networkId_apply, hnetworkId]⟩
  · exact ⟨r, hr.congr hendures.content, hnetworkId⟩

end Program.Effect

theorem Path.names {a b : Account} {deeds : List Deed} (h : Path a deeds b) (ha : a.Names networkId) :
    b.Names networkId :=
  h.preserves (fun _ _ _ heffect => heffect.names) ha

/-- A path names the network from the deed on that establishes it. -/
theorem Path.names_left {a b : Account} {d : Deed} {rest : List Deed} (h : Path a (d :: rest) b)
    (hestablished : d.command? = some (.establish networkId)) : d.left.Names networkId := by
  have heffect := h.effect
  rw [hestablished] at heffect
  exact heffect.names_establish

/-! ## What is answered -/

theorem Program.result_of_names {env : Environment} {ledger : Ledger} {i : Instruction}
    (h : (ledger recordAddress).Names networkId) (hasks : i.Asks .networkAddress) :
    (submit env ledger i).result =
      .ok (some (encode (NetworkAddress.join networkId Program.id.base58))) := by
  obtain ⟨r, hr, rfl⟩ := h
  exact (result_eq_ok_iff hasks).2 ⟨_, Query.answer_of_record hr.load .networkAddress, rfl⟩

/-- The answer can be decoded again. -/
theorem Account.Names.decode_encode {account : Account} (h : account.Names networkId) :
    (decode : Decoder NetworkAddress).all (encode (NetworkAddress.join networkId Program.id.base58)) =
      .ok (NetworkAddress.join networkId Program.id.base58) := by
  obtain ⟨r, hr, rfl⟩ := h
  have hfront := (Store.load_eq_some_iff.1 hr.load).2.2
  have hdata : account.data.length < UInt32.size := by
    rw [hr.length]
    decide
  exact NetworkAddress.canonical.all_encode (Record.networkAddress_lt_of_stored hfront hdata)

/-- The address is spelled by the network id and the program. -/
theorem Account.Names.spells {account : Account} (h : account.Names networkId) :
    NetworkAddress.Spells networkId Program.id.base58
      (NetworkAddress.join networkId Program.id.base58).text := by
  obtain ⟨r, hr, rfl⟩ := h
  have haccount : Program.id.base58 ≠ "" := by
    rw [base58_id]
    decide
  exact ⟨hr.nonempty, haccount, hr.undelimited, rfl⟩

namespace Chain

/-- **The published address is stable and splits back.** Once a history has established the identity of a network,
everybody who has asked for the network address since then, and everybody who will ask for it, alone or behind other
instructions of a transaction, is given the same bytes. They decode to an address that can be parsed, and whose parts
are the network id and the program. -/
theorem published_address_stable {chain : Chain} {steps : List Step} {done later : List Deed} {d : Deed}
    (hspares : ∀ s ∈ steps, s.SparesRecord) (hdeeds : chain.deeds steps = done ++ d :: later)
    (hestablished : d.command? = some (.establish networkId)) :
    ∃ (published : Bytes) (address : NetworkAddress),
      (∀ asked ∈ later, asked.instruction.Asks .networkAddress →
        asked.report.result = .ok (some published)) ∧
      (∀ more, (∀ s ∈ more, s.SparesRecord) →
        ∀ (env : Environment) (before : Transaction) (between : Ledger),
          (before.run env ((chain.run steps).2.run more).2.ledger).2 = some between →
          ∀ i : Instruction, i.Asks .networkAddress →
            (Program.submit env between i).result = .ok (some published)) ∧
      (decode : Decoder NetworkAddress).all published = .ok address ∧
      address.text = networkId ++ "/" ++ Program.id.base58 ∧
      address.networkId = networkId ∧ address.account = Program.id.base58 ∧
      NetworkAddress.parse address.text = .ok address := by
  have hpath := chain.path hspares
  rw [hdeeds] at hpath
  obtain ⟨_, _, hpath⟩ := hpath.split
  have hnames := hpath.names_left hestablished
  have hend := hpath.2.2.names hnames
  refine ⟨encode (NetworkAddress.join networkId Program.id.base58), _, ?_, ?_, hnames.decode_encode, rfl,
    NetworkAddress.networkId_join hnames.spells.undelimited,
    NetworkAddress.account_join hnames.spells.undelimited, hnames.spells.parse_eq⟩
  · intro asked hasked hasks
    exact result_of_names (hpath.2.2.preserves_found Effect.names hnames hasked) hasks
  · intro more hmore env before between hbefore i hasks
    have hreached := ((chain.run steps).2.path hmore).names hend
    exact result_of_names ((Transaction.path hbefore).names hreached) hasks

/-- After the small history the address is asked for twice, the second time behind a hand-over of the admin role in
the same transaction. -/
theorem published_address_stable_small :
    let asking := (Command.query .networkAddress).instruction (Address.ofByte 9)
    let handOver := (Command.amend (.admin (Address.ofByte 4))).instruction (Address.ofByte 2)
    (∀ s ∈ Step.small, s.SparesRecord) ∧
    (∃ done d later, small.deeds Step.small = done ++ d :: later ∧
      d.command? = some (.establish "solana")) ∧
    asking.Asks .networkAddress ∧
    ∃ published address between,
      (Program.submit small.env (small.run Step.small).2.ledger asking).result = .ok (some published) ∧
      (Transaction.run small.env (small.run Step.small).2.ledger [handOver]).2 = some between ∧
      (Program.submit small.env between asking).result = .ok (some published) ∧
      (decode : Decoder NetworkAddress).all published = .ok address ∧
      toString address = "solana/DoSLJH36FLrQVjZ8wDD4tHHfLbisj4VwMzpvTV9yyyp2" ∧
      address.networkId = "solana" ∧ NetworkAddress.parse address.text = .ok address := by
  intro asking handOver
  have hestablishes : (small.deeds Step.small).any
      (fun d => d.command? == some (.establish "solana")) = true := by
    decide +kernel
  obtain ⟨d, hd, hcommand⟩ := List.any_eq_true.1 hestablishes
  rw [beq_iff_eq] at hcommand
  obtain ⟨done, later, hdeeds⟩ := List.append_of_mem hd
  have hcommits : (Transaction.run small.env (small.run Step.small).2.ledger [handOver]).2.isSome = true := by
    decide +kernel
  obtain ⟨between, hbetween⟩ := Option.isSome_iff_exists.1 hcommits
  have hasks := Command.asks_instruction .networkAddress (Address.ofByte 9)
  obtain ⟨published, address, _, hanswers, hdecode, htext, hnetworkId, _, hparse⟩ :=
    published_address_stable Step.small_sparesRecord hdeeds hcommand
  have hnext := hanswers [] (List.forall_mem_nil _) small.env
  simp only [Chain.run] at hnext
  refine ⟨Step.small_sparesRecord, ⟨done, d, later, hdeeds, hcommand⟩, hasks, published, address, between,
    hnext [] _ (by rw [Transaction.run]) asking hasks, hbetween, hnext [handOver] between hbetween asking hasks,
    hdecode, ?_, hnetworkId, hparse⟩
  rw [base58_id] at htext
  exact htext

end Chain

end NetIdentity
