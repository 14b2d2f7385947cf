import NetIdentity.Proofs.Announcements

/-!
# Administration in either order

The admin and the fee handler do not wait for each other. When one hands over the admin role and the other sets the
fee, each in a transaction of its own, it makes no difference whose transaction comes first: both are told the same,
the same is announced, and the same is stored in the end.

Every amendment reads the whole record and writes all of it, so this is not because they touch different bytes. What
an amendment comes to is decided before anything is written (`Program.ruling`), and its report follows from the
ruling (`Program.submit_eq_ruled`). Two amendments are independent if each of them leaves alone what the other one
goes by, and the record comes out the same (`Amendment.Independent`); the ruling on the one is then the same before
and after the other (`Program.ruling_apply`).
-/

namespace NetIdentity

open NetIdentity.Action NetIdentity.Program

/-! ## Independent amendments -/

namespace Amendment

/-- What the amendment `a` goes by, its authority and what it announces, is the same after `b`. -/
structure Spares (b a : Amendment) : Prop where
  authority : ∀ r, a.role.holder (b.apply r) = a.role.holder r
  event : ∀ record r time, a.event record (b.apply r) time = a.event record r time
  announcement : ∀ r, a.announcement (b.apply r) = a.announcement r

structure Independent (a b : Amendment) : Prop where
  spares : a.Spares b
  spared : b.Spares a
  apply_comm : ∀ r, a.apply (b.apply r) = b.apply (a.apply r)

/-- The fee handler decides on the fee, and neither the admin role nor the fee tells who that is. -/
theorem independent_admin_protocolFee (successor : Address) (fee : UInt64) :
    (admin successor).Independent (protocolFee fee) where
  spares := ⟨fun _ => rfl, fun _ _ _ => rfl, fun _ => rfl⟩
  spared := ⟨fun _ => rfl, fun _ _ _ => rfl, fun _ => rfl⟩
  apply_comm _ := rfl

theorem Independent.rewrite_comm {a b : Amendment} {account : Account} {r : Record} (h : a.Independent b)
    (hload : Store.load id account = .ok (some r)) :
    b.rewrite (a.apply r) (a.rewrite r account) = a.rewrite (b.apply r) (b.rewrite r account) := by
  obtain ⟨_, _, rest, hdata⟩ := Store.load_eq_some_iff.1 hload
  have ha := data_rewrite (a := a) hdata.symm
  have hb := data_rewrite (a := b) hdata.symm
  have hboth : (b.rewrite (a.apply r) (a.rewrite r account)).data =
      (a.rewrite (b.apply r) (b.rewrite r account)).data := by
    rw [data_rewrite ha, data_rewrite hb, h.apply_comm]
  exact congrArg (fun data => { account with data := data }) hboth

end Amendment

/-! ## What an amendment comes to -/

variable {env later : Environment} {ledger : Ledger} {i j : Instruction} {a b : Amendment} {r : Record}
  {signer : Address} {loaded : Except Fault Record} {failure : Failure}

namespace Program

/-- What an amendment comes to for an instruction: it has to be meant for this program and to come with the right
accounts, and then it is for the verdict on the amendment. -/
def ruling (env : Environment) (ledger : Ledger) (i : Instruction) (a : Amendment) :
    Except Failure (Record × Int64) :=
  if i.program ≠ id then .error (.fault .wrongProgram)
  else
    match amendmentAccounts a.role i.accounts with
    | .error fault => .error (.fault fault)
    | .ok (_, signer) => a.verdict env signer.address (Store.loadInitialized id (ledger recordAddress))

/-- The report of an amendment that comes to this. An instruction for another program is not logged. -/
def ruled (i : Instruction) (a : Amendment) (ledger : Ledger) : Except Failure (Record × Int64) → Report
  | .ok (r, now) =>
      ⟨.ok none,
        [ .instruction (Selector.amend a.field).title, .event (a.event recordAddress r now).payload,
          .message (a.announcement r) ],
        [], ledger.set recordAddress (a.rewrite r (ledger recordAddress))⟩
  | .error failure =>
      ⟨.error failure,
        (if i.program = id then [.instruction (Selector.amend a.field).title] else []) ++ [.failure failure],
        [], ledger⟩

end Program

namespace Amendment

/-- What the amendment goes by is in the record that `b` has amended as it was before. -/
theorem verdict_apply (h : b.Spares a) :
    a.verdict env signer (loaded.map b.apply) =
      (a.verdict env signer loaded).map fun found => (b.apply found.1, found.2) := by
  cases loaded with
  | error fault => rfl
  | ok r =>
      show a.verdict env signer (.ok (b.apply r)) = _
      rw [verdict, verdict, h.authority]
      split
      · cases env.clock with
        | some now => rfl
        | none => rfl
      · rfl

end Amendment

namespace Program

/-- An amendment whose accounts are in order is refused by the verdict. -/
theorem execute_amend_of_verdict {mentions : List Mention} {record signer : Mention} {p : Progress}
    (haccounts : amendmentAccounts a.role mentions = .ok (record, signer))
    (h : a.verdict env signer.address (Store.loadInitialized id (p.ledger recordAddress)) = .error failure) :
    execute env mentions (.amend a) p = .error failure p := by
  rw [execute, haccounts, check_ok, bind_run, pure_run]
  dsimp only
  rw [(amendmentAccounts_eq_ok haccounts).1, bind_run, amend_of_verdict h]

/-- The report of an amendment is that of the ruling on it. -/
theorem submit_eq_ruled (hcommand : i.command? = some (.amend a)) :
    submit env ledger i = ruled i a ledger (ruling env ledger i a) := by
  by_cases hprogram : i.program = id
  case neg =>
    rw [submit_of_error (run_of_other_program hprogram), ruling, if_pos hprogram, ruled, if_neg hprogram]
    rfl
  rw [ruling, if_neg (not_not_intro hprogram)]
  cases haccounts : amendmentAccounts a.role i.accounts with
  | error fault =>
      have hexecute : execute env i.accounts (.amend a)
            ⟨ledger, [], [.instruction (Selector.amend a.field).title]⟩ =
          .error (.fault fault) ⟨ledger, [], [.instruction (Selector.amend a.field).title]⟩ := by
        rw [execute, haccounts]
        rfl
      rw [submit_of_execute_error hprogram hcommand hexecute, ruled, if_pos hprogram]
  | ok accounts =>
      obtain ⟨record, signer⟩ := accounts
      dsimp only
      cases hverdict : a.verdict env signer.address (Store.loadInitialized id (ledger recordAddress)) with
      | error failure =>
          rw [submit_of_execute_error hprogram hcommand (execute_amend_of_verdict haccounts hverdict), ruled,
            if_pos hprogram]
          rfl
      | ok found =>
          obtain ⟨hload, hholder, hclock⟩ := Amendment.verdict_eq_ok hverdict
          exact submit_of_outcome hprogram hcommand
            (.amend haccounts (Store.loadInitialized_eq_ok_iff.1 hload) hholder hclock)

theorem ruling_congr (hclock : later.clock = env.clock) : ruling later ledger i a = ruling env ledger i a := by
  have hverdict : ∀ signer loaded, a.verdict later signer loaded = a.verdict env signer loaded := by
    intro signer loaded
    cases loaded with
    | error _ => rfl
    | ok _ => rw [Amendment.verdict, Amendment.verdict, hclock]
  simp only [ruling, hverdict]

theorem load_of_ruling {now : Int64} (h : ruling env ledger i a = .ok (r, now)) :
    Store.load id (ledger recordAddress) = .ok (some r) := by
  unfold ruling at h
  split at h
  · cases h
  split at h
  · cases h
  · exact Store.loadInitialized_eq_ok_iff.1 (Amendment.verdict_eq_ok h).1

/-- Where `b` has taken effect, what the amendment comes to is what it came to before. -/
theorem ruling_apply (env : Environment) (i : Instruction) (h : b.Spares a)
    (hload : Store.load id (ledger recordAddress) = .ok (some r)) :
    ruling env (ledger.set recordAddress (b.rewrite r (ledger recordAddress))) i a =
      (ruling env ledger i a).map fun found => (b.apply found.1, found.2) := by
  have hafter : Store.loadInitialized id (b.rewrite r (ledger recordAddress)) =
      (Store.loadInitialized id (ledger recordAddress)).map b.apply := by
    rw [Store.loadInitialized_eq_ok_iff.2 hload]
    exact Store.loadInitialized_eq_ok_iff.2 (Store.load_rewrite hload)
  unfold ruling
  split
  · rfl
  split
  · rfl
  · rw [Ledger.set_self, hafter, Amendment.verdict_apply h]

end Program

/-! ## What is told -/

/-- What a call tells: its answer or its failure, its log, and its calls to the system program. -/
def Report.told (report : Report) : Except Failure (Option Bytes) × List LogEntry × List SystemCall :=
  (report.result, report.log, report.calls)

def Receipt.told (receipt : Receipt) :
    Bool × List (Except Failure (Option Bytes) × List LogEntry × List SystemCall) :=
  (receipt.committed, receipt.reports.map Report.told)

theorem Receipt.payloads_eq_of_told {first second : Receipt} (h : first.told = second.told) :
    first.payloads = second.payloads := by
  have heard : ∀ reports : List Report, reports.flatMap Report.payloads =
      (reports.map Report.told).flatMap fun told => told.2.1.filterMap LogEntry.payload? := by
    intro reports
    rw [List.flatMap_map]
    rfl
  obtain ⟨hcommitted, hreports⟩ := Prod.mk.inj h
  rw [payloads, payloads, hcommitted, heard, heard, hreports]

namespace Program

theorem told_ruled_apply (h : b.Spares a) (after : Ledger) (found : Except Failure (Record × Int64)) :
    (ruled i a after (found.map fun found => (b.apply found.1, found.2))).told =
      (ruled i a ledger found).told := by
  cases found with
  | error failure => rfl
  | ok found =>
      show Report.told (ruled i a after (.ok (b.apply found.1, found.2))) = _
      rw [ruled, h.event, h.announcement]
      rfl

/-- An amendment is told the same after another one as before it. -/
theorem told_after (hi : i.command? = some (.amend a)) (hj : j.command? = some (.amend b)) (h : b.Spares a)
    (hclock : later.clock = env.clock) :
    (submit later (submit env ledger j).ledger i).told = (submit env ledger i).told := by
  rw [submit_eq_ruled hi, submit_eq_ruled hi, submit_eq_ruled hj, ruling_congr hclock]
  cases hj : ruling env ledger j b with
  | error failure => rfl
  | ok found =>
      show Report.told (ruled i a _ (ruling env (ledger.set recordAddress _) i a)) = _
      rw [ruling_apply env i h (load_of_ruling hj), told_ruled_apply h]

theorem ledger_ruled_error : (ruled i a ledger (.error failure)).ledger = ledger := rfl

theorem ledger_ruled_ok {found : Record × Int64} :
    (ruled i a ledger (.ok found)).ledger =
      ledger.set recordAddress (a.rewrite found.1 (ledger recordAddress)) := rfl

/-- Two independent amendments leave the same, whichever comes first. -/
theorem ledger_comm (hi : i.command? = some (.amend a)) (hj : j.command? = some (.amend b))
    (h : a.Independent b) (hclock : later.clock = env.clock) :
    (submit later (submit env ledger i).ledger j).ledger =
      (submit later (submit env ledger j).ledger i).ledger := by
  rw [submit_eq_ruled hi, submit_eq_ruled hi, submit_eq_ruled hj, submit_eq_ruled hj,
    ruling_congr hclock, ruling_congr hclock]
  cases ha : ruling env ledger i a with
  | error _ =>
      cases hb : ruling env ledger j b with
      | error _ => simp only [ledger_ruled_error, ha, hb]
      | ok found =>
          have hafter := ruling_apply env i h.spared (load_of_ruling hb)
          simp only [ledger_ruled_error, ledger_ruled_ok, hb, hafter, ha, Except.map]
  | ok found =>
      have hload := load_of_ruling ha
      have hafter := ruling_apply env j h.spares hload
      cases hb : ruling env ledger j b with
      | error _ => simp only [ledger_ruled_error, ledger_ruled_ok, ha, hafter, hb, Except.map]
      | ok other =>
          -- Both have read the same record, so each rewrites what the other one has written.
          have hsame : other.1 = found.1 := by
            have hother := load_of_ruling hb
            rw [hload, Except.ok.injEq, Option.some.injEq] at hother
            exact hother.symm
          have hbefore := ruling_apply env i h.spared hload
          simp only [ledger_ruled_ok, hafter, hbefore, ha, hb, Except.map, Ledger.set_set,
            Ledger.set_self, hsame, h.rewrite_comm hload]

end Program

/-! ## Transactions of one amendment -/

namespace Transaction

/-- A transaction of one amendment tells what the amendment tells. -/
theorem told_submit (env : Environment) (ledger : Ledger) (i : Instruction) :
    (submit env ledger [i]).1.told =
      ((Program.submit env ledger i).told.1.isOk, [(Program.submit env ledger i).told]) := by
  rw [submit, run]
  show Receipt.told _ = ((Program.submit env ledger i).result.isOk, _)
  cases (Program.submit env ledger i).result with
  | error failure => rfl
  | ok answer => rfl

/-- It leaves what the amendment leaves, since one that fails has changed nothing. -/
theorem ledger_submit (hcommand : i.command? = some (.amend a)) :
    (submit env ledger [i]).2 = (Program.submit env ledger i).ledger := by
  rw [submit, run, submit_eq_ruled hcommand]
  cases ruling env ledger i a with
  | error failure => rfl
  | ok found => rfl

/-- An amendment in a transaction of its own is told the same after an amendment that spares it. -/
theorem told_submit_after (ledger : Ledger) (hi : i.command? = some (.amend a))
    (hj : j.command? = some (.amend b)) (h : b.Spares a) (hclock : later.clock = env.clock) :
    (submit later (submit env ledger [j]).2 [i]).1.told = (submit env ledger [i]).1.told := by
  rw [told_submit, told_submit, ledger_submit hj, told_after hi hj h hclock]

theorem ledger_submit_comm (hi : i.command? = some (.amend a)) (hj : j.command? = some (.amend b))
    (h : a.Independent b) (hclock : later.clock = env.clock) :
    (submit later (submit env ledger [i]).2 [j]).2 = (submit later (submit env ledger [j]).2 [i]).2 := by
  rw [ledger_submit hi, ledger_submit hj, ledger_submit hi, ledger_submit hj, ledger_comm hi hj h hclock]

/-- **Administration commutes.** One transaction hands over the admin role and another one sets the fee, at the same
time and on any ledger. Each of them tells the same whether it comes first or second, events included, and in the end
the same is stored. Either may fail, and whoever signs for one may sign for the other. -/
theorem administration_commutes {env later : Environment} {ledger : Ledger} {i j : Instruction}
    {successor : Address} {fee : UInt64} (hclock : later.clock = env.clock)
    (hi : i.command? = some (.amend (.admin successor)))
    (hj : j.command? = some (.amend (.protocolFee fee))) :
    let handedOver := submit env ledger [i]
    let priced := submit env ledger [j]
    let pricedAfter := submit later handedOver.2 [j]
    let handedOverAfter := submit later priced.2 [i]
    handedOverAfter.1.told = handedOver.1.told ∧ pricedAfter.1.told = priced.1.told ∧
      handedOverAfter.1.payloads = handedOver.1.payloads ∧ pricedAfter.1.payloads = priced.1.payloads ∧
      pricedAfter.2 = handedOverAfter.2 := by
  have h := Amendment.independent_admin_protocolFee successor fee
  have hhandedOver := told_submit_after ledger hi hj h.spared hclock
  have hpriced := told_submit_after ledger hj hi h.spares hclock
  exact ⟨hhandedOver, hpriced, Receipt.payloads_eq_of_told hhandedOver, Receipt.payloads_eq_of_told hpriced,
    ledger_submit_comm hi hj h hclock⟩

/-- The founder holds both roles, and may give one of them away before or after setting the fee. -/
theorem administration_commutes_small :
    let i := (Command.amend (.admin (Address.ofByte 2))).instruction (Address.ofByte 1)
    let j := (Command.amend (.protocolFee 7)).instruction (Address.ofByte 1)
    let env := Chain.founded.env
    let ledger := Chain.founded.ledger
    let handedOver := submit env ledger [i]
    let priced := submit env ledger [j]
    let pricedAfter := submit env handedOver.2 [j]
    let handedOverAfter := submit env priced.2 [i]
    i.command? = some (.amend (.admin (Address.ofByte 2))) ∧ j.command? = some (.amend (.protocolFee 7)) ∧
      handedOver.1.committed = true ∧ priced.1.committed = true ∧
      handedOverAfter.1.told = handedOver.1.told ∧ pricedAfter.1.told = priced.1.told ∧
      handedOverAfter.1.payloads.mapM Event.read? =
        some [.adminUpdated recordAddress (Address.ofByte 1) (Address.ofByte 2) 1700000000] ∧
      pricedAfter.2 = handedOverAfter.2 ∧
      Store.load id (handedOverAfter.2 recordAddress) =
        .ok (some ⟨Address.ofByte 2, Address.ofByte 1, "solana", 7, 1700000000, 255⟩) := by
  intro i j env ledger handedOver priced pricedAfter handedOverAfter
  have hi : i.command? = some (.amend (.admin (Address.ofByte 2))) := by decide +kernel
  have hj : j.command? = some (.amend (.protocolFee 7)) := by decide +kernel
  obtain ⟨hhandedOver, hpriced, hevents, _, hledger⟩ :=
    @administration_commutes env env ledger i j _ _ rfl hi hj
  have hcommitted : handedOver.1.committed = true ∧ priced.1.committed = true := by decide +kernel
  have hread : handedOver.1.payloads.mapM Event.read? =
      some [.adminUpdated recordAddress (Address.ofByte 1) (Address.ofByte 2) 1700000000] := by
    decide +kernel
  refine ⟨hi, hj, hcommitted.1, hcommitted.2, hhandedOver, hpriced, ?_, hledger, ?_⟩
  · rw [← hread]
    exact congrArg (List.mapM Event.read?) hevents
  · rw [Store.load_eq_some_iff]
    decide +kernel

end Transaction

end NetIdentity
