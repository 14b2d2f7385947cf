import NetIdentity.Proofs.Outcomes

/-!
# What an instruction does to the record

All that an instruction can do to the account of the record is in `Effect`: the record is established,
it is amended, or it is only read; or the framework has answered, and then the account is spared unless the
framework claims it. It is what an outcome says about this one account, without the log and the rest of the
ledger.

The framework claims no account that holds a record, so a record that can be loaded is changed by amendments
only (`Effect.amend_or_endures`), and there is one ever after (`Effect.load_some`).

`effect_of_ok` is the inversion behind the laws on histories: an instruction that succeeds has exactly one
of these effects, and carries the authority for it.
-/

namespace NetIdentity

open NetIdentity.Action

/-! ## What is none of the framework's -/

namespace Framework

variable {program : Address} {account : Account}

/-- An account that has not been made is not claimed. -/
theorem not_claims_of_fresh (h : Store.isCreated program account = false) : ¬ Claims program account := by
  rintro ⟨howner, hmark⟩
  refine Bool.eq_false_iff.1 h (Store.isCreated_eq_true_iff.2 ⟨howner, ?_⟩)
  intro hempty
  rw [hempty, List.take_nil] at hmark
  revert hmark
  decide

/-- Nor is one that can be loaded: it starts with the mark of a record. -/
theorem not_claims_of_load {state : Option Record} (h : Store.load program account = .ok state) :
    ¬ Claims program account := by
  cases state with
  | none => exact not_claims_of_fresh (Store.load_eq_none_iff.1 h)
  | some r =>
      obtain ⟨_, _, rest, hdata⟩ := Store.load_eq_some_iff.1 h
      have hmark : account.data.take 8 = Record.discriminator := by
        rw [← hdata, Record.stored, List.append_assoc]
        exact List.take_left' Record.length_discriminator
      rintro ⟨_, hother⟩
      rw [hmark] at hother
      revert hother
      decide

/-- The framework keeps its description elsewhere. -/
theorem record_not_mem_homes : Program.recordAddress ∉ homes Program.id := by
  decide +kernel

end Framework

/-- The account has stayed what it is, and may have been given lamports. -/
structure Account.Endures (before after : Account) : Prop where
  content : after.SameContent before
  executable : after.executable = before.executable
  lamports : before.lamports ≤ after.lamports

namespace Account.Endures

variable {first second third : Account}

theorem refl (account : Account) : account.Endures account :=
  ⟨⟨rfl, rfl⟩, rfl, UInt64.le_refl _⟩

theorem trans (h : first.Endures second) (h' : second.Endures third) : first.Endures third where
  content := ⟨h'.content.owner.trans h.content.owner, h'.content.data.trans h.content.data⟩
  executable := h'.executable.trans h.executable
  lamports := UInt64.le_trans h.lamports h'.lamports

end Account.Endures

namespace Program

/-! ## Effects -/

/-- What is left of the record's account when the framework has answered. -/
structure Spares (before after : Account) : Prop where
  executable : after.executable = before.executable
  content : ¬ Framework.Claims id before → after.SameContent before
  lamports : ¬ Framework.Claims id before → before.data ≠ [] → before.lamports ≤ after.lamports

/-- What an instruction that succeeds makes of the record's account, for a command or without one, by whom
and at what time. -/
inductive Effect (signer : Option Address) (clock : Option Int64) (before : Account) :
    Option Command → Account → Prop where
  | establish {networkId : String} {founder : Address} {now : Int64} {after : Account}
      (signed : signer = some founder) (timed : clock = some now)
      (accepted : NetworkId.validate networkId = .ok ())
      (fresh : Store.isCreated id before = false) (owner : after.owner = id)
      (data : after.data = (Record.initial founder networkId now recordBump).stored ++
        List.replicate (Record.space -
          (Record.initial founder networkId now recordBump).stored.length) 0) :
      Effect signer clock before (some (.establish networkId)) after
  | amend {a : Amendment} {r : Record} (loaded : Store.load id before = .ok (some r))
      (signed : signer = some (a.role.holder r)) :
      Effect signer clock before (some (.amend a)) (a.rewrite r before)
  | query {q : Query} : Effect signer clock before (some (.query q)) before
  | framework {after : Account} (spared : Spares before after) : Effect signer clock before none after

theorem Spares.endures {before after : Account} (h : Spares before after)
    (hunclaimed : ¬ Framework.Claims id before) (hdata : before.data ≠ []) : before.Endures after :=
  ⟨h.content hunclaimed, h.executable, h.lamports hunclaimed hdata⟩

namespace Effect

variable {signer : Option Address} {clock : Option Int64} {before after : Account} {c : Option Command}

/-- The record that has been established is the one that is loaded. -/
theorem load_establish {networkId : String}
    (h : Effect signer clock before (some (.establish networkId)) after) :
    ∃ founder now, signer = some founder ∧ clock = some now ∧
      Store.load id after = .ok (some (Record.initial founder networkId now recordBump)) := by
  cases h with
  | @establish _ founder now _ signed timed accepted fresh owner data =>
      have hshort : networkId.utf8ByteSize ≤ NetworkId.maxBytes :=
        (NetworkId.validate_eq_ok_iff.1 accepted).2.1
      have hsize : networkId.utf8ByteSize < UInt32.size := Nat.lt_of_le_of_lt hshort (by decide)
      exact ⟨founder, now, signed, timed,
        Store.load_eq_some_iff.2 ⟨owner, hsize, by rw [data]; exact List.prefix_append _ _⟩⟩

theorem fresh_of_establish {networkId : String}
    (h : Effect signer clock before (some (.establish networkId)) after) :
    Store.isCreated id before = false := by
  cases h with
  | establish _ _ _ fresh _ _ => exact fresh

/-- Of the commands, only amendments change an account that has been made. -/
theorem amend_or_query {command : Command} (h : Effect signer clock before (some command) after)
    (hcreated : Store.isCreated id before = true) :
    (∃ a r, command = .amend a ∧ Store.load id before = .ok (some r) ∧ signer = some (a.role.holder r) ∧
      after = a.rewrite r before) ∨
    (∃ q, command = .query q) ∧ after = before := by
  cases h with
  | establish _ _ _ fresh _ _ =>
      rw [hcreated] at fresh
      cases fresh
  | @amend a r loaded signed => exact Or.inl ⟨a, r, rfl, loaded, signed, rfl⟩
  | @query q => exact Or.inr ⟨⟨q, rfl⟩, rfl⟩

/-- And unless the framework claims the account, it may only be given lamports besides. -/
theorem amend_or_endures (h : Effect signer clock before c after)
    (hcreated : Store.isCreated id before = true)
    (hunclaimed : c = none → ¬ Framework.Claims id before) :
    (∃ a r, c = some (.amend a) ∧ Store.load id before = .ok (some r) ∧
      signer = some (a.role.holder r) ∧ after = a.rewrite r before) ∨
    (∀ a, c ≠ some (.amend a)) ∧ before.Endures after ∧ (c ≠ none → after = before) := by
  cases c with
  | some command =>
      rcases h.amend_or_query hcreated with ⟨a, r, rfl, hload, hsigned, rfl⟩ | ⟨⟨q, rfl⟩, rfl⟩
      · exact Or.inl ⟨a, r, rfl, hload, hsigned, rfl⟩
      · exact Or.inr ⟨nofun, .refl after, fun _ => rfl⟩
  | none =>
      cases h with
      | framework spared =>
          have hdata := (Store.isCreated_eq_true_iff.1 hcreated).2
          exact Or.inr ⟨nofun, spared.endures (hunclaimed rfl) hdata, fun hnone => absurd rfl hnone⟩

/-- The same from a record that can be loaded, which the framework does not claim. -/
theorem amend_or_endures_of_load {r : Record} (h : Effect signer clock before c after)
    (hload : Store.load id before = .ok (some r)) :
    (∃ a, c = some (.amend a) ∧ signer = some (a.role.holder r) ∧ after = a.rewrite r before) ∨
    (∀ a, c ≠ some (.amend a)) ∧ before.Endures after ∧ (c ≠ none → after = before) := by
  rcases h.amend_or_endures (Store.isCreated_of_load hload)
    (fun _ => Framework.not_claims_of_load hload) with ⟨a, found, rfl, hfound, hsigned, rfl⟩ | hother
  · rw [hfound] at hload
    cases hload
    exact Or.inl ⟨a, rfl, hsigned, rfl⟩
  · exact Or.inr hother

/-- Where there is a record, there is one afterwards. -/
theorem load_some (h : Effect signer clock before c after)
    (hload : ∃ r, Store.load id before = .ok (some r)) : ∃ r, Store.load id after = .ok (some r) := by
  obtain ⟨r, hr⟩ := hload
  rcases h.amend_or_endures_of_load hr with ⟨a, _, _, rfl⟩ | ⟨_, hendures, _⟩
  · exact ⟨a.apply r, Store.load_rewrite hr⟩
  · exact ⟨r, (Store.load_congr hendures.content).trans hr⟩

/-- Whatever a command does but to ask, there is a record afterwards. -/
theorem load_after {command : Command} (h : Effect signer clock before (some command) after)
    (hquery : ∀ q, command ≠ .query q) : ∃ r, Store.load id after = .ok (some r) := by
  cases command with
  | establish _ =>
      obtain ⟨_, _, _, _, hload⟩ := h.load_establish
      exact ⟨_, hload⟩
  | amend a =>
      cases h with
      | amend loaded _ => exact ⟨_, Store.load_rewrite loaded⟩
  | query q => exact absurd rfl (hquery q)

/-- Without a command, what can be loaded stays what it is. -/
theorem load_framework {state : Option Record} (h : Effect signer clock before none after)
    (hload : Store.load id before = .ok state) : Store.load id after = .ok state := by
  cases h with
  | framework spared =>
      exact (Store.load_congr (spared.content (Framework.not_claims_of_load hload))).trans hload

end Effect

variable {env : Environment} {ledger : Ledger} {i : Instruction} {c : Command} {report : Report}
  {answer : Option Bytes}

theorem Outcome.effect (h : Outcome env ledger i c report) :
    Effect i.signer? env.clock (ledger recordAddress) (some c) (report.ledger recordAddress) := by
  cases h with
  | @establish networkId record payer now created haccounts haccepted htimed hcreate =>
      obtain ⟨haddress, hsigned, hsecond⟩ := establishAccounts_eq_ok haccounts
      obtain ⟨hfresh, _, made, _, hmade, hroom, hledger, _⟩ := Store.create_eq_ok hcreate
      rw [haddress] at hfresh hmade hledger
      rw [Instruction.signer?_eq_some_iff.2 ⟨payer, hsecond, hsigned, rfl⟩]
      refine .establish rfl htimed haccepted hfresh ?_ ?_
      · rw [hledger]
        exact hmade.owner_inscribe _
      · rw [hledger]
        exact hmade.data_inscribe hroom
  | @amend a record signer r now haccounts hload hholder htimed =>
      obtain ⟨_, hsigned, hsecond⟩ := amendmentAccounts_eq_ok haccounts
      simp only [Ledger.set_self]
      exact .amend hload (Instruction.signer?_eq_some_iff.2 ⟨signer, hsecond, hsigned, hholder.symm⟩)
  | query _ _ => exact .query

theorem Answered.spares (h : Answered ledger i report) :
    Spares (ledger recordAddress) (report.ledger recordAddress) where
  executable := h.disciplined.executable recordAddress
  content hunclaimed := h.disciplined.content recordAddress hunclaimed Framework.record_not_mem_homes
  lamports hunclaimed hdata := UInt64.not_lt.1 fun hless => by
    rcases h.disciplined.payers recordAddress hless with hclaims | ⟨hempty, _⟩
    · exact hunclaimed hclaims
    · exact hdata hempty

/-- An instruction that succeeds has the effect of the command that it asks for, or that of the framework. -/
theorem effect_of_ok (h : (submit env ledger i).result = .ok answer) :
    Effect i.signer? env.clock (ledger recordAddress) i.command?
      ((submit env ledger i).ledger recordAddress) := by
  obtain ⟨_, ⟨c, hcommand, houtcome⟩ | hanswered⟩ := success_cases h
  · rw [hcommand]
    exact houtcome.effect
  · rw [hanswered.meant.command?_eq_none]
    exact .framework hanswered.spares

end Program

end NetIdentity
