import NetIdentity.Proofs.Creation
import NetIdentity.Proofs.Gates

/-!
# What a call does

`Outcome` says of each command when it succeeds and what its report is then: what it asks of the accounts
and the ledger, the log it writes, the ledger it leaves. A call that asks for a command succeeds exactly when
there is such an outcome (`succeeds_iff_outcome`), so every law on commands that succeed is read off its three
cases. The only other calls that succeed are those that the framework has answered (`Answered`), and all that
is known of them is that it has kept to its own accounts.

Whether an amendment takes effect is decided before anything is written (`Amendment.verdict`), so one that is
refused has done nothing.

A command that fails may leave a half-made account behind, but only where there was none
(`ledger_of_error`). Once the account has been made, whatever is in it, a failure leaves the ledger
alone.
-/

namespace NetIdentity

open NetIdentity.Action

/-! ## The verdict on an amendment -/

namespace Amendment

/-- The record that the signer may amend, and the time of it; or what stands in the way. -/
def verdict (env : Environment) (signer : Address) (a : Amendment) :
    Except Fault Record → Except Failure (Record × Int64)
  | .error fault => .error (.fault fault)
  | .ok r =>
      if a.role.holder r = signer then
        match env.clock with
        | some now => .ok (r, now)
        | none => .error (.runtime .unsupportedSysvar)
      else .error (.fault (a.role.denial (a.role.holder r) signer))

variable {env : Environment} {signer : Address} {a : Amendment} {loaded : Except Fault Record}

theorem verdict_eq_ok {r : Record} {now : Int64} (h : a.verdict env signer loaded = .ok (r, now)) :
    loaded = .ok r ∧ a.role.holder r = signer ∧ env.clock = some now := by
  unfold verdict at h
  split at h
  · cases h
  split at h
  case isFalse => cases h
  next hholder =>
  split at h
  · next hclock =>
    cases h
    exact ⟨rfl, hholder, hclock⟩
  · cases h

/-- What can stand in the way of an amendment: the record, the authority or the clock. -/
theorem verdict_eq_error {failure : Failure} (h : a.verdict env signer loaded = .error failure) :
    (∃ fault, loaded = .error fault ∧ failure = .fault fault) ∨
      (∃ r, failure = .fault (a.role.denial (a.role.holder r) signer)) ∨
      failure = .runtime .unsupportedSysvar := by
  unfold verdict at h
  split at h
  · cases h
    exact Or.inl ⟨_, rfl, rfl⟩
  · next r =>
    split at h
    · split at h
      · cases h
      · cases h
        exact Or.inr (Or.inr rfl)
    · cases h
      exact Or.inr (Or.inl ⟨r, rfl⟩)

end Amendment

namespace Program

variable {env : Environment} {p q : Progress}

/-! ## Establishing -/

theorem time_eq_ok_iff {now : Int64} : env.time = .ok now ↔ env.clock = some now := by
  unfold Environment.time
  cases env.clock with
  | some time => simp
  | none => simp

/-- Where the account has been made, it is not made again: nothing is done, and no system call is
made. -/
theorem establish_of_created (env : Environment) {record : Mention} (payer : Mention)
    (networkId : String) (h : Store.isCreated id (p.ledger record.address) = true) :
    ∃ failure, establish env record payer networkId p = .error failure p ∧
      (NetworkId.validate networkId = .ok () → env.clock.isSome →
        failure = .fault .alreadyInitialized) := by
  unfold establish
  cases hvalid : NetworkId.validate networkId with
  | error fault => exact ⟨.fault fault, rfl, nofun⟩
  | ok _ =>
      cases hclock : env.clock with
      | none =>
          refine ⟨.runtime .unsupportedSysvar, ?_, nofun⟩
          simp only [check_ok, bind_run, pure_run, Environment.time, hclock, ask_error, throw_run]
      | some now =>
          refine ⟨.fault .alreadyInitialized, ?_, fun _ _ => rfl⟩
          have htime : env.time = .ok now := by rw [Environment.time, hclock]
          simp only [check_ok, bind_run, pure_run, htime, ask_ok, Store.create_run_of_created h]

/-! ## Amending -/

/-- A record that was read fits where it was read from, so saving an amendment of it succeeds. -/
theorem save_of_load {record : Address} {r : Record} {a : Amendment}
    (h : Store.load id (p.ledger record) = .ok (some r)) :
    Store.save none id record (a.apply r) p =
      .ok () { p with ledger := p.ledger.set record (a.rewrite r (p.ledger record)) } := by
  obtain ⟨_, hsize, hfront⟩ := Store.load_eq_some_iff.1 h
  have hkept : (a.apply r).networkId.utf8ByteSize < UInt32.size := by
    rw [Amendment.networkId_apply]
    exact hsize
  have hroom : (a.apply r).stored.length ≤ (p.ledger record).data.length := by
    rw [Amendment.length_stored_apply]
    exact hfront.length_le
  rw [Store.save_run (Store.isCreated_of_load h)]
  exact Store.write_eq_ok_iff.2 ⟨nofun, hkept, hroom, rfl⟩

/-- An amendment by the holder of the role, of a record that is there, takes effect. -/
theorem amend_of_load {record : Address} {r : Record} {a : Amendment} {now : Int64}
    (hload : Store.load id (p.ledger record) = .ok (some r)) (hclock : env.clock = some now) :
    amend env record (a.role.holder r) a p =
      .ok () ⟨p.ledger.set record (a.rewrite r (p.ledger record)), p.calls,
        p.log ++ [.event (a.event record r now).payload] ++ [.message (a.announcement r)]⟩ := by
  have hfound := Store.loadInitialized_eq_ok_iff.2 hload
  unfold amend
  simp only [bind_run, account_run, hfound, check_ok, pure_run, Role.require, if_true,
    Environment.time, hclock, ask_ok, save_of_load hload, log_run]

/-- An amendment on which the verdict is against it has done nothing. -/
theorem amend_of_verdict {record signer : Address} {a : Amendment} {failure : Failure}
    (h : a.verdict env signer (Store.loadInitialized id (p.ledger record)) = .error failure) :
    amend env record signer a p = .error failure p := by
  unfold amend
  cases hload : Store.loadInitialized id (p.ledger record) with
  | error fault =>
      rw [hload] at h
      cases h
      simp only [bind_run, account_run, hload, check_error, throw_run]
  | ok r =>
      rw [hload, Amendment.verdict] at h
      split at h
      case isFalse hholder =>
        cases h
        simp only [bind_run, account_run, hload, check_ok, pure_run, Role.require, if_neg hholder,
          check_error, throw_run]
      next hholder =>
      split at h
      · cases h
      · next hclock =>
        cases h
        simp only [bind_run, account_run, hload, check_ok, pure_run, Role.require, if_pos hholder,
          Environment.time, hclock, ask_error, throw_run]

/-- An amendment is refused, for want of a record, of authority or of a clock, and then nothing has been
done; or it takes effect. -/
theorem amend_cases (env : Environment) (record signer : Address) (a : Amendment) (p : Progress) :
    (∃ failure, amend env record signer a p = .error failure p ∧
      ((∃ fault, Store.loadInitialized id (p.ledger record) = .error fault ∧ failure = .fault fault) ∨
        (∃ r, failure = .fault (a.role.denial (a.role.holder r) signer)) ∨
        failure = .runtime .unsupportedSysvar)) ∨
    ∃ r now, Store.load id (p.ledger record) = .ok (some r) ∧ a.role.holder r = signer ∧
      env.clock = some now := by
  cases hverdict : a.verdict env signer (Store.loadInitialized id (p.ledger record)) with
  | error failure => exact Or.inl ⟨failure, amend_of_verdict hverdict, Amendment.verdict_eq_error hverdict⟩
  | ok found =>
      obtain ⟨hload, hholder, hclock⟩ := Amendment.verdict_eq_ok hverdict
      exact Or.inr ⟨found.1, found.2, Store.loadInitialized_eq_ok_iff.1 hload, hholder, hclock⟩

variable {failure : Failure}

/-- An amendment that fails has done nothing, and has one of these reasons. -/
theorem amend_eq_error {record signer : Address} {a : Amendment}
    (h : amend env record signer a p = .error failure q) :
    q = p ∧
      ((∃ fault, Store.loadInitialized id (p.ledger record) = .error fault ∧ failure = .fault fault) ∨
        (∃ r, failure = .fault (a.role.denial (a.role.holder r) signer)) ∨
        failure = .runtime .unsupportedSysvar) := by
  rcases amend_cases env record signer a p with
    ⟨other, hfails, hreason⟩ | ⟨r, now, hload, hholder, hclock⟩
  · rw [hfails] at h
    cases h
    exact ⟨rfl, hreason⟩
  · rw [← hholder, amend_of_load hload hclock] at h
    cases h

/-! ## Outcomes -/

/-- When a command succeeds on a ledger, and its report. -/
inductive Outcome (env : Environment) (ledger : Ledger) (i : Instruction) : Command → Report → Prop where
  | establish {networkId : String} {record payer : Mention} {now : Int64} {created : Progress}
      (accounts : establishAccounts ledger i.accounts = .ok (record, payer))
      (accepted : NetworkId.validate networkId = .ok ()) (timed : env.clock = some now)
      (creates : Store.create env none id record payer recordBump
        (Record.initial payer.address networkId now recordBump)
        ⟨ledger, [], [.instruction Selector.establish.title]⟩ = .ok () created) :
      Outcome env ledger i (.establish networkId)
        ⟨.ok none,
          created.log ++
            [.event (Event.initialized record.address payer.address networkId now).payload] ++
            [.message
              ("xcall initialized for network " ++ networkId ++ " with admin " ++ payer.address.base58)],
          created.calls, created.ledger⟩
  | amend {a : Amendment} {record signer : Mention} {r : Record} {now : Int64}
      (accounts : amendmentAccounts a.role i.accounts = .ok (record, signer))
      (loaded : Store.load id (ledger recordAddress) = .ok (some r))
      (authority : a.role.holder r = signer.address) (timed : env.clock = some now) :
      Outcome env ledger i (.amend a)
        ⟨.ok none,
          [ .instruction (Selector.amend a.field).title, .event (a.event recordAddress r now).payload,
            .message (a.announcement r) ],
          [], ledger.set recordAddress (a.rewrite r (ledger recordAddress))⟩
  | query {q : Query} {record : Mention} {answer : Bytes}
      (accounts : queryAccounts i.accounts = .ok record)
      (answered : q.answer (ledger recordAddress) = .ok answer) :
      Outcome env ledger i (.query q)
        ⟨.ok (some answer), [.instruction (Selector.query q).title], [], ledger⟩

variable {i : Instruction} {ledger : Ledger} {answer : Option Bytes} {report : Report} {c : Command}

theorem outcome_of_execute
    (h : execute env i.accounts c ⟨ledger, [], [.instruction c.selector.title]⟩ = .ok answer q) :
    Outcome env ledger i c ⟨.ok answer, q.log, q.calls, q.ledger⟩ := by
  cases c with
  | establish networkId =>
      obtain ⟨current, r, hget, h⟩ := bind_eq_ok.1 h
      cases hget
      obtain ⟨⟨record, payer⟩, r, hcheck, h⟩ := bind_eq_ok.1 h
      obtain ⟨haccounts, rfl⟩ := check_eq_ok.1 hcheck
      obtain ⟨_, r, hestablish, h⟩ := bind_eq_ok.1 h
      cases h
      obtain ⟨_, s, hcheck, h⟩ := bind_eq_ok.1 hestablish
      obtain ⟨haccepted, rfl⟩ := check_eq_ok.1 hcheck
      obtain ⟨now, s, hask, h⟩ := bind_eq_ok.1 h
      obtain ⟨htime, rfl⟩ := ask_eq_ok.1 hask
      obtain ⟨_, created, hcreate, h⟩ := bind_eq_ok.1 h
      obtain ⟨_, announced, hevent, hmessage⟩ := bind_eq_ok.1 h
      rw [log_run] at hevent hmessage
      cases hevent
      cases hmessage
      exact .establish haccounts haccepted (time_eq_ok_iff.1 htime) hcreate
  | amend a =>
      obtain ⟨⟨record, signer⟩, r, hcheck, h⟩ := bind_eq_ok.1 h
      obtain ⟨haccounts, rfl⟩ := check_eq_ok.1 hcheck
      obtain ⟨_, r, hamend, h⟩ := bind_eq_ok.1 h
      cases h
      rw [(amendmentAccounts_eq_ok haccounts).1] at hamend
      rcases amend_cases env recordAddress signer.address a
          ⟨ledger, [], [.instruction (Selector.amend a.field).title]⟩ with
        ⟨failure, hfails, _⟩ | ⟨r, now, hload, hholder, hclock⟩
      · rw [Command.selector, hfails] at hamend
        cases hamend
      · rw [Command.selector, ← hholder, amend_of_load hload hclock] at hamend
        cases hamend
        exact .amend haccounts hload hholder hclock
  | query kind =>
      obtain ⟨record, r, hcheck, h⟩ := bind_eq_ok.1 h
      obtain ⟨haccounts, rfl⟩ := check_eq_ok.1 hcheck
      obtain ⟨account, r, haccount, h⟩ := bind_eq_ok.1 h
      cases haccount
      obtain ⟨reply, r, hanswer, h⟩ := bind_eq_ok.1 h
      obtain ⟨hreply, rfl⟩ := check_eq_ok.1 hanswer
      cases h
      rw [queryAccounts_eq_ok haccounts] at hreply
      exact .query haccounts hreply

theorem execute_of_outcome (h : Outcome env ledger i c report) :
    ∃ answer q, execute env i.accounts c ⟨ledger, [], [.instruction c.selector.title]⟩ = .ok answer q ∧
      report = ⟨.ok answer, q.log, q.calls, q.ledger⟩ := by
  cases h with
  | @establish networkId record payer now created haccounts haccepted htimed hcreate =>
      have hestablish : Program.establish env record payer networkId
          ⟨ledger, [], [.instruction Selector.establish.title]⟩ = .ok () _ :=
        bind_eq_ok.2 ⟨(), _, check_eq_ok.2 ⟨haccepted, rfl⟩, bind_eq_ok.2 ⟨now, _,
          ask_eq_ok.2 ⟨time_eq_ok_iff.2 htimed, rfl⟩, bind_eq_ok.2 ⟨(), created, hcreate,
          bind_eq_ok.2 ⟨(), _, log_run _ _, log_run _ _⟩⟩⟩⟩
      exact ⟨none, _, bind_eq_ok.2 ⟨_, _, get_run _, bind_eq_ok.2 ⟨(record, payer), _,
        check_eq_ok.2 ⟨haccounts, rfl⟩, bind_eq_ok.2 ⟨(), _, hestablish, rfl⟩⟩⟩, rfl⟩
  | @amend a record signer r now haccounts hload hholder htimed =>
      have hamend := amend_of_load (p := ⟨ledger, [], [.instruction (Selector.amend a.field).title]⟩)
        (a := a) hload htimed
      obtain ⟨address, _, _⟩ := record
      obtain rfl : address = recordAddress := (amendmentAccounts_eq_ok haccounts).1
      rw [hholder] at hamend
      exact ⟨none, _, bind_eq_ok.2 ⟨_, _, check_eq_ok.2 ⟨haccounts, rfl⟩,
        bind_eq_ok.2 ⟨(), _, hamend, rfl⟩⟩, rfl⟩
  | @query kind record answer haccounts hanswer =>
      rw [← queryAccounts_eq_ok haccounts] at hanswer
      exact ⟨some answer, _, bind_eq_ok.2 ⟨record, _, check_eq_ok.2 ⟨haccounts, rfl⟩,
        bind_eq_ok.2 ⟨_, _, account_run _ _, bind_eq_ok.2 ⟨answer, _,
        check_eq_ok.2 ⟨hanswer, rfl⟩, rfl⟩⟩⟩, rfl⟩

/-! ## Commands that fail -/

variable {mentions : List Mention} {failure : Failure}

theorem execute_amend_eq_error {a : Amendment}
    (h : execute env mentions (.amend a) p = .error failure q) :
    (∃ fault, amendmentAccounts a.role mentions = .error fault ∧ failure = .fault fault ∧ q = p) ∨
      ∃ signer, amend env recordAddress signer a p = .error failure q := by
  rcases bind_eq_error h with hcheck | ⟨⟨record, signer⟩, r, hcheck, hrest⟩
  · exact Or.inl (check_eq_error hcheck)
  · obtain ⟨haccounts, rfl⟩ := check_eq_ok.1 hcheck
    rcases bind_eq_error hrest with hamend | ⟨_, _, _, hreturn⟩
    · rw [(amendmentAccounts_eq_ok haccounts).1] at hamend
      exact Or.inr ⟨signer.address, hamend⟩
    · cases hreturn

theorem execute_query_eq_error {kind : Query}
    (h : execute env mentions (.query kind) p = .error failure q) :
    q = p ∧ ∃ fault, failure = .fault fault ∧
      (queryAccounts mentions = .error fault ∨ kind.answer (p.ledger recordAddress) = .error fault) := by
  rcases bind_eq_error h with hcheck | ⟨record, r, hcheck, hrest⟩
  · obtain ⟨fault, haccounts, hfailure, hq⟩ := check_eq_error hcheck
    exact ⟨hq, fault, hfailure, Or.inl haccounts⟩
  · obtain ⟨haccounts, rfl⟩ := check_eq_ok.1 hcheck
    rcases bind_eq_error hrest with haccount | ⟨account, r, haccount, hrest⟩
    · cases haccount
    cases haccount
    rcases bind_eq_error hrest with hanswer | ⟨_, _, _, hreturn⟩
    · obtain ⟨fault, hfault, hfailure, hq⟩ := check_eq_error hanswer
      rw [queryAccounts_eq_ok haccounts] at hfault
      exact ⟨hq, fault, hfailure, Or.inr hfault⟩
    · cases hreturn

theorem execute_establish_eq_error {networkId : String}
    (h : execute env mentions (.establish networkId) p = .error failure q) :
    q = p ∨ ∃ record payer, establishAccounts p.ledger mentions = .ok (record, payer) ∧
      establish env record payer networkId p = .error failure q := by
  rcases bind_eq_error h with hget | ⟨current, r, hget, h⟩
  · cases hget
  cases hget
  rcases bind_eq_error h with hcheck | ⟨⟨record, payer⟩, r, hcheck, h⟩
  · obtain ⟨_, _, _, hq⟩ := check_eq_error hcheck
    exact Or.inl hq
  obtain ⟨haccounts, rfl⟩ := check_eq_ok.1 hcheck
  rcases bind_eq_error h with hestablish | ⟨_, r, _, hreturn⟩
  · exact Or.inr ⟨record, payer, haccounts, hestablish⟩
  · cases hreturn

/-- A command that fails has done nothing, unless it is a request whose accounts are in order. -/
theorem execute_error_cases {c : Command} (h : execute env mentions c p = .error failure q) :
    q = p ∨ ∃ networkId record payer, c = .establish networkId ∧
      establishAccounts p.ledger mentions = .ok (record, payer) ∧
      establish env record payer networkId p = .error failure q := by
  cases c with
  | establish networkId =>
      rcases execute_establish_eq_error h with hq | ⟨record, payer, haccounts, hestablish⟩
      · exact Or.inl hq
      · exact Or.inr ⟨networkId, record, payer, rfl, haccounts, hestablish⟩
  | amend a =>
      rcases execute_amend_eq_error h with ⟨_, _, _, hq⟩ | ⟨signer, hamend⟩
      · exact Or.inl hq
      · exact Or.inl (amend_eq_error hamend).1
  | query kind => exact Or.inl (execute_query_eq_error h).1

theorem submit_of_ok (h : run env i (Progress.start ledger) = .ok answer q) :
    submit env ledger i = ⟨.ok answer, q.log, q.calls, q.ledger⟩ := by
  unfold submit
  rw [h]

theorem submit_of_error (h : run env i (Progress.start ledger) = .error failure q) :
    submit env ledger i = ⟨.error failure, q.log ++ [.failure failure], q.calls, q.ledger⟩ := by
  unfold submit
  rw [h]

/-- A command that was asked for and fails. -/
theorem submit_of_execute_error (hprogram : i.program = id) (hcommand : i.command? = some c)
    (h : execute env i.accounts c ⟨ledger, [], [.instruction c.selector.title]⟩ = .error failure q) :
    submit env ledger i = ⟨.error failure, q.log ++ [.failure failure], q.calls, q.ledger⟩ :=
  submit_of_error ((run_of_command hprogram hcommand).trans h)

/-- An instruction that asks for a command fails where the command fails, or for being meant for another
program. -/
theorem execute_error_of_command (hcommand : i.command? = some c)
    (h : (submit env ledger i).result = .error failure) :
    (∃ q, execute env i.accounts c ⟨ledger, [], [.instruction c.selector.title]⟩ = .error failure q) ∨
      failure = .fault .wrongProgram := by
  by_cases hprogram : i.program = id
  · cases hexecute : execute env i.accounts c ⟨ledger, [], [.instruction c.selector.title]⟩ with
    | ok answer q =>
        rw [submit_of_ok ((run_of_command hprogram hcommand).trans hexecute)] at h
        cases h
    | error other q =>
        rw [submit_of_execute_error hprogram hcommand hexecute] at h
        cases h
        exact Or.inl ⟨q, rfl⟩
  · rw [submit_of_error (run_of_other_program hprogram)] at h
    cases h
    exact Or.inr rfl

/-- The framework has answered the instruction. -/
structure Answered (ledger : Ledger) (i : Instruction) (report : Report) : Prop where
  meant : i.ForFramework
  result : report.result = .ok none
  disciplined : Framework.Disciplined id i.accounts (Progress.start ledger)
    ⟨report.ledger, report.calls, report.log⟩

/-- An instruction that succeeds asks for a command and has its outcome, or the framework has answered it. -/
theorem success_cases (h : (submit env ledger i).result = .ok answer) :
    i.program = id ∧ ((∃ c, i.command? = some c ∧ Outcome env ledger i c (submit env ledger i)) ∨
      Answered ledger i (submit env ledger i)) := by
  cases hrun : run env i (Progress.start ledger) with
  | error failure q =>
      rw [submit_of_error hrun] at h
      cases h
  | ok reply q =>
      rw [submit_of_ok hrun]
      rcases run_cases env i (Progress.start ledger) with
        ⟨c, hprogram, hcommand, hexecute⟩ | ⟨hprogram, hmeant⟩ | ⟨fault, r, hfails, _⟩
      · rw [hexecute] at hrun
        exact ⟨hprogram, Or.inl ⟨c, hcommand, outcome_of_execute hrun⟩⟩
      · rw [run_of_forFramework hprogram hmeant] at hrun
        obtain ⟨_, r, hanswered, hreply⟩ := bind_eq_ok.1 hrun
        cases hreply
        exact ⟨hprogram, Or.inr ⟨hmeant, rfl, env.framework.disciplined hanswered⟩⟩
      · rw [hfails] at hrun
        cases hrun

theorem outcome_of_ok (hcommand : i.command? = some c) (h : (submit env ledger i).result = .ok answer) :
    i.program = id ∧ Outcome env ledger i c (submit env ledger i) := by
  obtain ⟨hprogram, ⟨other, hother, houtcome⟩ | hanswered⟩ := success_cases h
  · rw [hcommand] at hother
    cases hother
    exact ⟨hprogram, houtcome⟩
  · exact absurd hanswered.meant (Instruction.not_forFramework hcommand)

/-- Without a command, only the framework can make an instruction succeed. -/
theorem answered_of_ok (hcommand : i.command? = none) (h : (submit env ledger i).result = .ok answer) :
    Answered ledger i (submit env ledger i) := by
  obtain ⟨_, ⟨c, hother, _⟩ | hanswered⟩ := success_cases h
  · rw [hcommand] at hother
    cases hother
  · exact hanswered

theorem submit_of_outcome (hprogram : i.program = id) (hcommand : i.command? = some c)
    (h : Outcome env ledger i c report) : submit env ledger i = report := by
  obtain ⟨answer, q, hexecute, rfl⟩ := execute_of_outcome h
  refine submit_of_ok ?_
  rw [run_of_command hprogram hcommand]
  exact hexecute

theorem Outcome.result_eq (h : Outcome env ledger i c report) : ∃ answer, report.result = .ok answer := by
  cases h with
  | establish _ _ _ _ => exact ⟨_, rfl⟩
  | amend _ _ _ _ => exact ⟨_, rfl⟩
  | query _ _ => exact ⟨_, rfl⟩

/-- A call that asks for a command succeeds exactly when the command has an outcome. -/
theorem succeeds_iff_outcome (hcommand : i.command? = some c) :
    (∃ answer, (submit env ledger i).result = .ok answer) ↔
      i.program = id ∧ ∃ report, Outcome env ledger i c report := by
  constructor
  · rintro ⟨answer, h⟩
    obtain ⟨hprogram, houtcome⟩ := outcome_of_ok hcommand h
    exact ⟨hprogram, _, houtcome⟩
  · rintro ⟨hprogram, report, houtcome⟩
    rw [submit_of_outcome hprogram hcommand houtcome]
    exact houtcome.result_eq

/-- An instruction that fails has been stopped at a gate, or the command that it asks for has failed, or the
framework has refused it. -/
theorem submit_error_cases (h : (submit env ledger i).result = .error failure) :
    (∃ c q, i.command? = some c ∧
      execute env i.accounts c ⟨ledger, [], [.instruction c.selector.title]⟩ = .error failure q ∧
      (submit env ledger i).ledger = q.ledger) ∨
    i.ForFramework ∨
    (submit env ledger i).ledger = ledger ∧ ∃ fault, failure = .fault fault ∧
      fault ∈ [.wrongProgram, .unknownInstruction, .eventInstruction, .undecodableArgument] := by
  cases hrun : run env i (Progress.start ledger) with
  | ok answer q =>
      rw [submit_of_ok hrun] at h
      cases h
  | error other q =>
      rw [submit_of_error hrun] at h ⊢
      cases h
      rcases run_cases env i (Progress.start ledger) with
        ⟨c, _, hcommand, hexecute⟩ | ⟨_, hmeant⟩ | ⟨fault, r, hfails, hledger, _, hfault⟩
      · rw [hexecute] at hrun
        exact Or.inl ⟨c, q, hcommand, hrun, rfl⟩
      · exact Or.inr (Or.inl hmeant)
      · rw [hfails] at hrun
        cases hrun
        exact Or.inr (Or.inr ⟨hledger, fault, rfl, hfault⟩)

end Program

/-! ## A buffer -/

def Address.ofByte (byte : UInt8) : Address :=
  ⟨List.replicate 32 byte, List.length_replicate⟩

/-- The account is the program's and has room for a record, but nothing has been written into it. -/
def Account.vacant : Account := ⟨5000000, Program.id, List.replicate Record.space 0, false⟩

/-- The framework is asked to make a buffer of an account. The first person is to be in charge of it. -/
def Instruction.makeBuffer (a : Address) : Instruction where
  program := Program.id
  data := Framework.mark ++ [1]
  accounts := [⟨a, false, true⟩, ⟨Address.ofByte 1, true, false⟩]

end NetIdentity
