import NetIdentity.Event.Canonical
import NetIdentity.Proofs.Refinement

/-!
# What an observer of the log knows

An observer reads the logs of the transactions that committed, and in them the events. Each of them reads
as an event of one kind, and folding them (`Observed.hear`) tells the observer all of the record but the
bump, at any time (`Chain.events_replay`).

`Deed.Announces` says which event a deed owes: the value that was stored before, the new one, the record's
address and the time. A deed writes the events it owes and no others (`Program.Outcome.announces`), and
hearing them follows the record from what the deed has found to what it leaves (`Deed.Announces.hear`).
-/

namespace NetIdentity

open NetIdentity.Program

/-! ## The events in the log -/

def LogEntry.payload? : LogEntry → Option Bytes
  | .event payload => some payload
  | _ => none

/-- The events of a call, as bytes. -/
def Report.payloads (report : Report) : List Bytes := report.log.filterMap LogEntry.payload?

/-- What a transaction that was rolled back has logged does not count. -/
def Receipt.payloads (receipt : Receipt) : List Bytes :=
  if receipt.committed then receipt.reports.flatMap Report.payloads else []

/-- The events that an observer of a history sees, as bytes. -/
def Chain.payloads (chain : Chain) (steps : List Step) : List Bytes :=
  (chain.run steps).1.flatMap fun receipt => (receipt.map Receipt.payloads).getD []

/-- The reports of a transaction that commits are those of its deeds. -/
theorem Transaction.map_report_deeds {env : Environment} :
    {t : Transaction} → {ledger after : Ledger} → (run env ledger t).2 = some after →
    (t.deeds env ledger).map Deed.report = (run env ledger t).1
  | [], _, _, _ => rfl
  | _ :: _, _, _, h => by
      obtain ⟨_, hrest, hreports⟩ := run_cons_eq_some h
      rw [hreports]
      exact congrArg (List.cons _) (map_report_deeds hrest)

theorem Step.payloads_transaction (t : Transaction) (chain : Chain) :
    (t.submit chain.env chain.ledger).1.payloads =
      (Step.deeds chain (.transaction t)).flatMap fun d => d.report.payloads := by
  rw [deeds, Receipt.payloads]
  cases hcommitted : (t.submit chain.env chain.ledger).1.committed with
  | true =>
      obtain ⟨hrun, hreports⟩ := Transaction.submit_of_committed hcommitted
      rw [if_pos rfl, if_pos rfl, hreports, ← Transaction.map_report_deeds hrun, List.flatMap_map]
  | false => rfl

/-- What the observer sees is what the deeds have logged. -/
theorem Chain.payloads_eq_flatMap_deeds : (steps : List Step) → (chain : Chain) →
    chain.payloads steps = (chain.deeds steps).flatMap fun d => d.report.payloads
  | [], _ => rfl
  | s :: rest, chain => by
      have hrest := payloads_eq_flatMap_deeds rest (chain.step s).2
      have hstep : (((chain.step s).1.map Receipt.payloads).getD []) =
          (s.deeds chain).flatMap fun d => d.report.payloads := by
        cases s with
        | transaction t => exact Step.payloads_transaction t chain
        | setClock _ => rfl
        | setRent _ => rfl
        | setAccount _ _ => rfl
      rw [deeds, List.flatMap_append, ← hrest, ← hstep]
      rfl

/-! ## What a deed announces -/

/-- The events that a deed owes to observers. -/
inductive Deed.Announces (d : Deed) : List Event → Prop where
  | established {networkId : String} {founder : Address} {now : Int64}
      (command : d.command? = some (.establish networkId)) (signed : d.signer? = some founder)
      (timed : d.env.clock = some now) :
      Deed.Announces d [.initialized recordAddress founder networkId now]
  | admin {successor : Address} {r : Record} {now : Int64}
      (command : d.command? = some (.amend (.admin successor)))
      (stored : Store.load id d.found = .ok (some r)) (timed : d.env.clock = some now) :
      Deed.Announces d [.adminUpdated recordAddress r.admin successor now]
  | feeHandler {successor : Address} {r : Record} {now : Int64}
      (command : d.command? = some (.amend (.feeHandler successor)))
      (stored : Store.load id d.found = .ok (some r)) (timed : d.env.clock = some now) :
      Deed.Announces d [.feeHandlerUpdated recordAddress r.feeHandler successor now]
  | protocolFee {fee : UInt64} {r : Record} {now : Int64}
      (command : d.command? = some (.amend (.protocolFee fee)))
      (stored : Store.load id d.found = .ok (some r)) (timed : d.env.clock = some now) :
      Deed.Announces d [.protocolFeeUpdated recordAddress r.protocolFee fee now]
  | query {q : Query} (command : d.command? = some (.query q)) : Deed.Announces d []
  | framework (command : d.command? = none) : Deed.Announces d []

/-- A command that succeeds writes the events that it owes, and they can be read back. -/
theorem Program.Outcome.announces {env : Environment} {ledger : Ledger} {i : Instruction} {c : Command}
    {report : Report} (hcommand : i.command? = some c) (h : Outcome env ledger i c report) :
    ∃ events, Deed.Announces ⟨env, ledger, i⟩ events ∧ (∀ e ∈ events, e.Fits) ∧
      report.payloads = events.map Event.payload := by
  cases h with
  | @establish networkId record payer now created haccounts haccepted htimed hcreate =>
      obtain ⟨haddress, hsigned, hsecond⟩ := establishAccounts_eq_ok haccounts
      obtain ⟨_, _, _, _, _, _, _, hlog⟩ := Store.create_eq_ok hcreate
      have hsigner := Instruction.signer?_eq_some_iff.2 ⟨payer, hsecond, hsigned, rfl⟩
      refine ⟨_, .established hcommand hsigner htimed, ?_, ?_⟩
      · have hshort := (NetworkId.validate_eq_ok_iff.1 haccepted).2.1
        exact List.forall_mem_singleton.2 (Nat.lt_of_le_of_lt hshort (by decide))
      · rw [haddress, hlog]
        rfl
  | @amend a record signer r now _ hload _ htimed =>
      cases a with
      | admin successor =>
          exact ⟨_, .admin hcommand hload htimed, List.forall_mem_singleton.2 trivial, rfl⟩
      | feeHandler successor =>
          exact ⟨_, .feeHandler hcommand hload htimed, List.forall_mem_singleton.2 trivial, rfl⟩
      | protocolFee fee =>
          exact ⟨_, .protocolFee hcommand hload htimed, List.forall_mem_singleton.2 trivial, rfl⟩
  | query _ _ => exact ⟨[], .query hcommand, List.forall_mem_nil _, rfl⟩

/-- The framework announces nothing. -/
theorem Program.Answered.payloads_eq_nil {ledger : Ledger} {i : Instruction} {report : Report}
    (h : Answered ledger i report) : report.payloads = [] := by
  rw [Report.payloads, List.filterMap_eq_nil_iff]
  intro entry hentry
  cases entry with
  | event payload => cases h.disciplined.quiet payload hentry
  | instruction _ => rfl
  | message _ => rfl
  | failure _ => rfl

/-! ## What the observer makes of it -/

/-- All of a record that an observer can know. -/
structure Observed where
  admin : Address
  feeHandler : Address
  networkId : String
  protocolFee : UInt64
  createdAt : Int64
deriving DecidableEq

def Record.observed (r : Record) : Observed :=
  ⟨r.admin, r.feeHandler, r.networkId, r.protocolFee, r.createdAt⟩

/-- What the observer knows after one more event. -/
def Observed.hear : Option Observed → Event → Option Observed
  | _, .initialized _ admin networkId time => some ⟨admin, admin, networkId, 0, time⟩
  | known, .adminUpdated _ _ new _ => known.map fun o => { o with admin := new }
  | known, .feeHandlerUpdated _ _ new _ => known.map fun o => { o with feeHandler := new }
  | known, .protocolFeeUpdated _ _ new _ => known.map fun o => { o with protocolFee := new }

/-- Who hears the events of a deed and knew the identity before knows it afterwards. -/
theorem Deed.Announces.hear {d : Deed} {events : List Event} {state next : Identity}
    (h : d.Announces events) (hload : Store.load id d.found = .ok state)
    (hadvance : Identity.advanceBy d state = some next) :
    events.foldl Observed.hear (state.map Record.observed) = next.map Record.observed := by
  cases h with
  | established hcommand hsigned htimed =>
      rw [Identity.advanceBy_of_command hcommand, hsigned, htimed] at hadvance
      cases state with
      | none =>
          cases hadvance
          rfl
      | some r => cases hadvance
  | admin hcommand hstored _ | feeHandler hcommand hstored _ | protocolFee hcommand hstored _ =>
      rw [hload] at hstored
      cases hstored
      rw [Identity.advanceBy_of_command hcommand] at hadvance
      cases hadvance
      rfl
  | query hcommand =>
      rw [Identity.advanceBy_of_command hcommand] at hadvance
      cases hadvance
      rfl
  | framework hcommand =>
      rw [Identity.advanceBy_of_framework hcommand] at hadvance
      cases hadvance
      rfl

/-! ## Along a path -/

theorem Program.Outcome.payloads_query {env : Environment} {ledger : Ledger} {i : Instruction} {q : Query}
    {report : Report} (h : Outcome env ledger i (.query q) report) : report.payloads = [] := by
  cases h
  rfl

namespace Path

/-- Where something has been announced, there is a record. -/
theorem load_of_payloads {a b : Account} {d : Deed} {rest : List Deed} (h : Path a (d :: rest) b)
    (hannounced : d.report.payloads ≠ []) : ∃ r, Store.load id b = .ok (some r) := by
  obtain ⟨_, ⟨answer, hok⟩, hrest⟩ := h
  obtain ⟨_, ⟨c, _, houtcome⟩ | hanswered⟩ := success_cases hok
  · have hquery : ∀ q, c ≠ .query q := by
      rintro q rfl
      exact hannounced houtcome.payloads_query
    exact hrest.preserves (I := fun account => ∃ r, Store.load id account = .ok (some r))
      (fun _ _ _ heffect => heffect.load_some) (houtcome.effect.load_after hquery)
  · exact absurd hanswered.payloads_eq_nil hannounced

/-- Each deed of a path announces what it owes. -/
theorem announces : {a b : Account} → {deeds : List Deed} → Path a deeds b → ∀ d ∈ deeds,
    ∃ events, d.Announces events ∧ (∀ e ∈ events, e.Fits) ∧
      d.report.payloads = events.map Event.payload
  | _, _, first :: _, ⟨_, ⟨_, hok⟩, hrest⟩, d, hd => by
      rcases List.mem_cons.1 hd with rfl | hd
      · obtain ⟨_, ⟨c, hcommand, houtcome⟩ | hanswered⟩ := success_cases hok
        · exact houtcome.announces hcommand
        · exact ⟨[], .framework hanswered.meant.command?_eq_none, List.forall_mem_nil _,
            hanswered.payloads_eq_nil⟩
      · exact hrest.announces d hd

/-- What the deeds of a path announce follows the record from one end of the path to the other. -/
theorem hear : {a b : Account} → {deeds : List Deed} → {state : Identity} → Path a deeds b →
    Store.load id a = .ok state →
    ∃ (events : List Event) (next : Identity),
      (deeds.flatMap fun d => d.report.payloads) = events.map Event.payload ∧
      (∀ e ∈ events, e.Fits) ∧ Store.load id b = .ok next ∧
      events.foldl Observed.hear (state.map Record.observed) = next.map Record.observed
  | _, _, [], state, h, hload => by
      cases h
      exact ⟨[], state, rfl, List.forall_mem_nil _, hload, rfl⟩
  | _, _, d :: _, state, h, hload => by
      obtain ⟨announced, hannounces, hfits, hpayloads⟩ := h.announces d (List.mem_cons_self ..)
      obtain ⟨between, hadvance, hleft⟩ := Identity.advanceBy_of_path h hload
      have hfound : Store.load id d.found = .ok state := by rw [h.1, hload]
      obtain ⟨events, next, hrest, hrestFits, hb, hfold⟩ := h.2.2.hear hleft
      refine ⟨announced ++ events, next, ?_, ?_, hb, ?_⟩
      · rw [List.flatMap_cons, hpayloads, hrest, List.map_append]
      · exact List.forall_mem_append.2 ⟨hfits, hrestFits⟩
      · rw [List.foldl_append, hannounces.hear hfound hadvance, hfold]

end Path

/-- Payloads read as the events they were written for. -/
theorem Event.mapM_read?_map_payload : {events : List Event} → (∀ e ∈ events, e.Fits) →
    (events.map payload).mapM read? = some events
  | [], _ => rfl
  | e :: rest, h => by
      have hread := read?_eq_some_iff.2 ⟨h e (List.mem_cons_self ..), rfl⟩
      have hrest := mapM_read?_map_payload fun other hother => h other (List.mem_cons_of_mem _ hother)
      rw [List.map_cons, List.mapM_cons, hread, hrest]
      rfl

namespace Chain

/-- **The log tells what the record says.** From a ledger without a record, at any point of any history:
the events of the transactions that committed can be read, each as one kind only; their fold is the record,
and there are none just as long as there is no record. They are what the deeds announce, one for each deed
that establishes or amends. -/
theorem events_replay {chain : Chain} {steps : List Step}
    (hfresh : Store.isCreated id (chain.ledger recordAddress) = false)
    (hspares : ∀ s ∈ steps, s.SparesRecord) :
    (∃ events state, (chain.payloads steps).mapM Event.read? = some events ∧
      Store.load id ((chain.run steps).2.ledger recordAddress) = .ok state ∧
      events.foldl Observed.hear none = state.map Record.observed) ∧
    (∀ payload ∈ chain.payloads steps, ∃ kind, ∀ other,
      (Event.readAs? other payload).isSome = true ↔ other = kind) ∧
    (chain.payloads steps = [] ↔
      Store.isCreated id ((chain.run steps).2.ledger recordAddress) = false) ∧
    chain.payloads steps = (chain.deeds steps).flatMap (fun d => d.report.payloads) ∧
    ∀ d ∈ chain.deeds steps, ∃ announced, d.Announces announced ∧
      d.report.payloads.mapM Event.read? = some announced := by
  have hpath := chain.path hspares
  have hpayloads := chain.payloads_eq_flatMap_deeds steps
  obtain ⟨events, state, hevents, hfits, hload, hfold⟩ := hpath.hear (Store.load_of_not_created hfresh)
  rw [← hpayloads] at hevents
  refine ⟨⟨events, state, ?_, hload, hfold⟩, ?_, ⟨fun hnone => ?_, fun hmissing => ?_⟩, hpayloads, ?_⟩
  · rw [hevents]
    exact Event.mapM_read?_map_payload hfits
  · rintro payload hpayload
    rw [hevents] at hpayload
    obtain ⟨e, he, rfl⟩ := List.mem_map.1 hpayload
    exact ⟨e.kind, fun _ => Event.isSome_readAs?_payload_iff (hfits e he)⟩
  · rw [hnone] at hevents
    rw [List.map_eq_nil_iff.1 hevents.symm] at hfold
    rw [Option.map_eq_none_iff.1 hfold.symm] at hload
    exact Store.load_eq_none_iff.1 hload
  · rw [hpayloads, List.flatMap_eq_nil_iff]
    intro d hd
    obtain ⟨done, rest, hdeeds⟩ := List.append_of_mem hd
    rw [hdeeds] at hpath
    obtain ⟨_, _, hrest⟩ := hpath.split
    refine Decidable.not_not.1 fun hannounced => ?_
    obtain ⟨r, hr⟩ := hrest.load_of_payloads hannounced
    rw [Store.isCreated_of_load hr] at hmissing
    cases hmissing
  · intro d hd
    obtain ⟨announced, hannounces, hfits, hannounced⟩ := hpath.announces d hd
    refine ⟨announced, hannounces, ?_⟩
    rw [hannounced]
    exact Event.mapM_read?_map_payload hfits

/-- The small history is heard as four events: what failed, and what was only asked for, is not heard. -/
theorem events_replay_small :
    Store.isCreated id (small.ledger recordAddress) = false ∧ (∀ s ∈ Step.small, s.SparesRecord) ∧
      (small.payloads Step.small).mapM Event.read? =
        some
          [ .initialized recordAddress (Address.ofByte 1) "solana" 1700000000,
            .adminUpdated recordAddress (Address.ofByte 1) (Address.ofByte 2) 1700000100,
            .feeHandlerUpdated recordAddress (Address.ofByte 1) (Address.ofByte 3) 1700000100,
            .protocolFeeUpdated recordAddress 0 7 1700000100 ] ∧
      ∃ r, Store.load id ((small.run Step.small).2.ledger recordAddress) = .ok (some r) ∧
        r.observed = ⟨Address.ofByte 2, Address.ofByte 3, "solana", 7, 1700000000⟩ := by
  have hevents : (small.payloads Step.small).mapM Event.read? =
      some
        [ .initialized recordAddress (Address.ofByte 1) "solana" 1700000000,
          .adminUpdated recordAddress (Address.ofByte 1) (Address.ofByte 2) 1700000100,
          .feeHandlerUpdated recordAddress (Address.ofByte 1) (Address.ofByte 3) 1700000100,
          .protocolFeeUpdated recordAddress 0 7 1700000100 ] := by
    decide +kernel
  obtain ⟨⟨events, state, hread, hload, hfold⟩, _⟩ := events_replay small_fresh Step.small_sparesRecord
  refine ⟨small_fresh, Step.small_sparesRecord, hevents, ?_⟩
  rw [hread, Option.some.injEq] at hevents
  rw [hevents] at hfold
  obtain ⟨r, rfl, hobserved⟩ := Option.map_eq_some_iff.1 hfold.symm
  exact ⟨r, hload, hobserved⟩

end Chain

end NetIdentity
