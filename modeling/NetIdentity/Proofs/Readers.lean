import NetIdentity.Proofs.Refusals
import NetIdentity.Proofs.StoreHistories

/-!
# While somebody reads the record

Whoever reads the data of the record's account holds it until he is done. Others may read along, and whoever wants
to write has to come back later: until then he finds everything as it was, his own lamports included.

For a save there is little to show. Making the account is another matter, since it takes up to three system calls
before it comes to the write, and one of them is a payment. But all of them change the record's account
(`Need.changes_target`), and the runtime looks for readers before it lets a call through. So the first call is
stopped, whichever of them it is (`makeAccount_of_read`), and nothing has been paid by then.

Hence a history ends as if the calls that were made while somebody was reading had never been made, and the other
calls have the same outcomes (`after_eq_undisturbed`, `outcomes_eq_undisturbed`).
-/

namespace NetIdentity

open NetIdentity.Action

namespace SystemCall

variable {signing : Option SignerSeeds} {passed : List Mention} {call : SystemCall}

/-- A call that changes an account is stopped while somebody reads the data of that account. -/
theorem authorize_of_read {party : Mention} (hparty : party ∈ call.parties) (hwritable : party.writable = true) :
    call.authorize (some party.address) signing passed = .error .dataInUse := by
  have hbusy : (call.parties.any fun other =>
      other.writable && some party.address == some other.address) = true :=
    List.any_eq_true.2 ⟨party, hparty, by simp [hwritable]⟩
  rw [authorize, if_pos hbusy]

end SystemCall

namespace Store

variable {program : Address} {signer : SignerSeeds} {target payer : Mention} {p : Progress}

/-! ## Making the account -/

/-- Every call that making the account may take changes the account. -/
theorem Need.changes_target {signing : Option SignerSeeds} {passed : List Mention} {call : SystemCall}
    (h : Need program signer target payer signing passed call) :
    ∃ party ∈ call.parties, party.address = target.address ∧ party.writable = true := by
  cases h with
  | account lamports => exact ⟨⟨target.address, true, true⟩, by simp [SystemCall.parties], rfl, rfl⟩
  | lamports missing => exact ⟨⟨target.address, false, true⟩, by simp [SystemCall.parties], rfl, rfl⟩
  | data => exact ⟨⟨target.address, true, true⟩, by simp [SystemCall.parties], rfl, rfl⟩
  | owner => exact ⟨⟨target.address, true, true⟩, by simp [SystemCall.parties], rfl, rfl⟩

theorem Need.invoke_of_read {signing : Option SignerSeeds} {passed : List Mention} {call : SystemCall}
    (h : Need program signer target payer signing passed call) :
    call.invoke (some target.address) signing passed p = .error (.runtime .dataInUse) p := by
  obtain ⟨party, hparty, haddress, hwritable⟩ := h.changes_target
  rw [← haddress]
  exact SystemCall.invoke_of_stopped (SystemCall.authorize_of_read hparty hwritable)

theorem createFunded_of_read (missing : UInt64) :
    createFunded (some target.address) program signer target payer missing p =
      .error (.runtime .dataInUse) p := by
  rw [createFunded, bind_run, topUp]
  by_cases hmissing : 0 < missing
  · have hneed : Need program signer target payer none [payer, target]
        (.transfer payer.address target.address missing) := .lamports missing
    rw [if_pos hmissing, hneed.invoke_of_read]
  · -- Nothing is missing, so the first call is the one that gives the account its data.
    have hneed : Need program signer target payer (some signer) [target]
        (.allocate target.address Record.space) := .data
    rw [if_neg hmissing, pure_run]
    dsimp only
    rw [bind_run, hneed.invoke_of_read]

/-- Whatever the account holds and whoever pays, nothing is done. -/
theorem makeAccount_of_read (minimum lamports : UInt64) :
    makeAccount (some target.address) program signer target payer minimum lamports p =
      .error (.runtime .dataInUse) p := by
  unfold makeAccount
  split
  · exact (Need.account minimum).invoke_of_read
  · exact createFunded_of_read _

/-- Why the account is not made while somebody reads: either the minimum cannot be had, or there is the reader. -/
def refusalInUse (env : Environment) : RuntimeError :=
  match env.minimumBalance Record.space with
  | .ok _ => .dataInUse
  | .error error => error

theorem create_of_read {env : Environment} (hfresh : isCreated program (p.ledger target.address) = false)
    (bump : UInt8) (r : Record) :
    create env (some target.address) program target payer bump r p = .error (.runtime (refusalInUse env)) p := by
  rw [create_run_of_fresh hfresh, bind_run, refusalInUse]
  cases env.minimumBalance Record.space with
  | error error => rfl
  | ok minimum =>
      rw [ask_ok, pure_run]
      dsimp only
      rw [bind_run, makeAccount_of_read]

namespace Site

variable {site : Site} {ledger : Ledger}

/-! ## Single calls -/

/-- What has not been created cannot be saved, whether somebody reads it or not. -/
theorem call_save_of_fresh (hfresh : Store.isCreated site.program (ledger site.target.address) = false)
    (read : Bool) (r : Record) :
    site.call ledger read (.save r) = ⟨.error (.fault .notInitialized), [], ledger⟩ := by
  refine call_of_error (q := Progress.start ledger) ?_
  simp only [perform, Store.save, bind_run, account_run, Progress.start, hfresh, Bool.false_eq_true, if_false,
    throw_run]

theorem call_save_in_use (site : Site) (ledger : Ledger) (r : Record) :
    site.call ledger true (.save r) =
      ⟨.error (if Store.isCreated site.program (ledger site.target.address) then .runtime .dataInUse
        else .fault .notInitialized), [], ledger⟩ := by
  cases hcreated : Store.isCreated site.program (ledger site.target.address) with
  | true => exact call_save_of_read hcreated r
  | false => exact call_save_of_fresh hcreated true r

theorem call_create_in_use (site : Site) (ledger : Ledger) (bump : UInt8) (r : Record) :
    site.call ledger true (.create bump r) =
      ⟨.error (if Store.isCreated site.program (ledger site.target.address) then .fault .alreadyInitialized
        else .runtime (refusalInUse site.env)), [], ledger⟩ := by
  cases hcreated : Store.isCreated site.program (ledger site.target.address) with
  | true => exact call_create_of_created hcreated true bump r
  | false =>
      refine call_of_error (q := Progress.start ledger) ?_
      rw [perform, bind_run, show site.inUse true = some site.target.address from rfl,
        create_of_read (p := Progress.start ledger) hcreated]
      rfl

/-- The step: while somebody reads, no call does anything. -/
theorem ledger_call_in_use (site : Site) (ledger : Ledger) (c : Call) :
    (site.call ledger true c).ledger = ledger := by
  cases c with
  | isCreated => rfl
  | load => rw [call_load]
  | loadInitialized => rw [call_loadInitialized]
  | save r => rw [call_save_in_use]
  | create bump r => rw [call_create_in_use]

/-! ## Histories -/

/-- The calls of a history that are made while nobody else reads. -/
def undisturbed (history : List (Bool × Call)) : List (Bool × Call) :=
  history.filter fun entry => !entry.1

theorem after_eq_undisturbed (site : Site) (ledger : Ledger) (history : List (Bool × Call)) :
    site.after ledger history = site.after ledger (undisturbed history) := by
  induction history generalizing ledger with
  | nil => rfl
  | cons entry rest ih =>
      obtain ⟨read, c⟩ := entry
      cases read with
      | true =>
          rw [after, ledger_call_in_use]
          exact ih ledger
      | false => exact ih _

theorem outcomes_eq_undisturbed (site : Site) (ledger : Ledger) (history : List (Bool × Call)) :
    ((history.zip (site.run ledger history)).filter fun entry => !entry.1.1) =
      (undisturbed history).zip (site.run ledger (undisturbed history)) := by
  induction history generalizing ledger with
  | nil => rfl
  | cons entry rest ih =>
      obtain ⟨read, c⟩ := entry
      cases read with
      | true =>
          rw [run, ledger_call_in_use]
          exact ih ledger
      | false => exact congrArg (List.cons _) (ih _)

/-- **A reader keeps the store as it is.** While somebody reads the data of the record's account, everybody else
can read what he could read otherwise; whoever saves or creates fails for a reason that is known beforehand, without
a single call to the system program; and nothing has changed on the ledger, whatever the accounts hold and whoever
pays. So the calls that are made while somebody reads can be left out of a history, and neither the ledger it leaves
nor any other outcome is different. -/
theorem read_only_in_use (site : Site) (ledger : Ledger) :
    (site.call ledger true .isCreated = site.call ledger false .isCreated ∧
      site.call ledger true .load = site.call ledger false .load ∧
      site.call ledger true .loadInitialized = site.call ledger false .loadInitialized) ∧
    (∀ r, site.call ledger true (.save r) =
      ⟨.error (if Store.isCreated site.program (ledger site.target.address) then .runtime .dataInUse
        else .fault .notInitialized), [], ledger⟩) ∧
    (∀ bump r, site.call ledger true (.create bump r) =
      ⟨.error (if Store.isCreated site.program (ledger site.target.address) then .fault .alreadyInitialized
        else .runtime (refusalInUse site.env)), [], ledger⟩) ∧
    (∀ c, (site.call ledger true c).ledger = ledger) ∧
    ∀ history,
      site.after ledger history = site.after ledger (undisturbed history) ∧
        ((history.zip (site.run ledger history)).filter fun entry => !entry.1.1) =
          (undisturbed history).zip (site.run ledger (undisturbed history)) := by
  refine ⟨⟨rfl, ?_, ?_⟩, call_save_in_use site ledger, call_create_in_use site ledger,
    ledger_call_in_use site ledger, fun history => ⟨?_, ?_⟩⟩
  · rw [call_load, call_load]
  · rw [call_loadInitialized, call_loadInitialized]
  · exact after_eq_undisturbed site ledger history
  · exact outcomes_eq_undisturbed site ledger history

/-- The account has one lamport, and the payer could pay all the others. He does so only when nobody reads. -/
example :
    let payer := Address.ofByte 1
    let ledger := (Ledger.fresh.set Program.recordAddress { Account.untouched with lamports := 1 }).set payer
      { Account.untouched with lamports := 2000000 }
    let target : Mention := ⟨Program.recordAddress, false, true⟩
    let site : Site := ⟨Program.id, target, ⟨payer, true, true⟩, Environment.default⟩
    let create := Call.create Program.recordBump (Record.initial payer "solana" 5 Program.recordBump)
    ((site.call ledger true create).ledger payer).lamports = 2000000 ∧
      ((site.call ledger false create).ledger payer).lamports = 16401 := by
  decide +kernel

end Site

end Store

end NetIdentity
