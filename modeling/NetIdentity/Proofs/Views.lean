import NetIdentity.Proofs.Creation

/-!
# What a call can see

A `View` says how much of a ledger is looked at: some accounts altogether, and of others only whose they
are and what they hold. Two ledgers that agree on a view may differ in everything else.

An action keeps to a view when it runs alike on any two ledgers that agree on it: it ends with the same value
or the same failure, after the same system calls and the same log, and leaves ledgers that still agree
(`RunAlike`). Runs are composed like actions, so one rule for each action is enough, and every operation of
the system program and of the store is a short composition. Two runs see different values only where they
read what is not wholly in view (`RunAlike.get`, `RunAlike.account`).
-/

namespace NetIdentity

/-- How much of a ledger is looked at: some accounts altogether, of others the owner and the data. -/
structure View where
  whole : Address → Prop
  content : Address → Prop

/-! ## Ledgers that agree -/

namespace View

/-- As far as one can see, the account at the address is the same. -/
structure Same (view : View) (a : Address) (x y : Account) : Prop where
  whole : view.whole a → x = y
  content : view.content a → x.SameContent y

def Agree (view : View) (first second : Ledger) : Prop := ∀ a, view.Same a (first a) (second a)

variable {view : View} {a : Address} {x y : Account}

theorem Same.refl (view : View) (a : Address) (x : Account) : view.Same a x x :=
  ⟨fun _ => rfl, fun _ => ⟨rfl, rfl⟩⟩

theorem Agree.set {first second : Ledger} (h : view.Agree first second) (hxy : view.Same a x y) :
    view.Agree (first.set a x) (second.set a y) := by
  intro b
  by_cases hb : b = a
  · subst hb
    simp only [Ledger.set_self]
    exact hxy
  · simp only [Ledger.set_of_ne _ _ hb]
    exact h b

end View

/-! ## Runs that look alike -/

structure Progress.Alike (view : View) (p q : Progress) : Prop where
  ledger : view.Agree p.ledger q.ledger
  calls : p.calls = q.calls
  log : p.log = q.log

namespace Action

variable {α β : Type} {view : View}

/-- The same value or the same failure, and what has been done until then looks the same. -/
inductive EndAlike (view : View) :
    EStateM.Result Failure Progress α → EStateM.Result Failure Progress α → Prop where
  | ok {x : α} {p q : Progress} (alike : p.Alike view q) : EndAlike view (.ok x p) (.ok x q)
  | error {e : Failure} {p q : Progress} (alike : p.Alike view q) :
      EndAlike view (.error e p) (.error e q)

theorem EndAlike.ok_or_error {r s : EStateM.Result Failure Progress α} (h : EndAlike view r s) :
    (∃ x p q, r = .ok x p ∧ s = .ok x q ∧ p.Alike view q) ∨
      ∃ e p q, r = .error e p ∧ s = .error e q ∧ p.Alike view q := by
  cases h with
  | ok halike => exact Or.inl ⟨_, _, _, rfl, rfl, halike⟩
  | error halike => exact Or.inr ⟨_, _, _, rfl, rfl, halike⟩

/-- From progress that looks alike, the two actions end alike. -/
def RunAlike (view : View) (first second : Action α) : Prop :=
  ∀ p q : Progress, p.Alike view q → EndAlike view (first p) (second q)

namespace RunAlike

theorem pure (x : α) : RunAlike view (Pure.pure x : Action α) (Pure.pure x) := by
  intro p q h
  exact .ok h

theorem throw (e : Failure) :
    RunAlike view (MonadExcept.throw e : Action α) (MonadExcept.throw e) := by
  intro p q h
  exact .error h

/-- Actions that run alike, and after every value again run alike. -/
theorem bind {first second : Action α} {next other : α → Action β} (h : RunAlike view first second)
    (hnext : ∀ x, RunAlike view (next x) (other x)) :
    RunAlike view (first >>= next) (second >>= other) := by
  intro p q hpq
  rw [bind_run, bind_run]
  rcases (h p q hpq).ok_or_error with
    ⟨x, p', q', hfirst, hsecond, halike⟩ | ⟨e, p', q', hfirst, hsecond, halike⟩
  · rw [hfirst, hsecond]
    exact hnext x p' q' halike
  · rw [hfirst, hsecond]
    exact .error halike

theorem check (verdict : Except Fault α) : RunAlike view (Action.check verdict) (Action.check verdict) := by
  cases verdict with
  | ok x => exact .pure x
  | error fault => exact .throw (.fault fault)

theorem ask (verdict : Except RuntimeError α) :
    RunAlike view (Action.ask verdict) (Action.ask verdict) := by
  cases verdict with
  | ok x => exact .pure x
  | error error => exact .throw (.runtime error)

theorem note (call : SystemCall) : RunAlike view (Action.note call) (Action.note call) := by
  intro p q h
  have hcalls : p.calls ++ [call] = q.calls ++ [call] := by rw [h.calls]
  exact .ok ⟨h.ledger, hcalls, h.log⟩

theorem log (entry : LogEntry) : RunAlike view (Action.log entry) (Action.log entry) := by
  intro p q h
  have hlog : p.log ++ [entry] = q.log ++ [entry] := by rw [h.log]
  exact .ok ⟨h.ledger, h.calls, hlog⟩

/-- Two ledgers are read, and all that is known of them is that they agree. -/
theorem get {next other : Progress → Action β}
    (h : ∀ p q : Progress, p.Alike view q → RunAlike view (next p) (other q)) :
    RunAlike view (MonadState.get >>= next) (MonadState.get >>= other) := by
  intro p q hpq
  exact h p q hpq p q hpq

/-- Two accounts are read, and all that is known of them is that they look the same. -/
theorem account {a : Address} {next other : Account → Action β}
    (h : ∀ x y, view.Same a x y → RunAlike view (next x) (other y)) :
    RunAlike view (Action.account a >>= next) (Action.account a >>= other) := by
  intro p q hpq
  rw [bind_run, bind_run, account_run, account_run]
  exact h (p.ledger a) (q.ledger a) (hpq.ledger a) p q hpq

theorem put {a : Address} {x y : Account} (h : view.Same a x y) :
    RunAlike view (Action.put a x) (Action.put a y) := by
  intro p q hpq
  exact .ok ⟨hpq.ledger.set h, hpq.calls, hpq.log⟩

end RunAlike

end Action

open NetIdentity.Action

/-! ## System calls -/

namespace SystemCall

variable {view : View} {a source target : Address}

end SystemCall

/-! ## The store -/

namespace Store

variable {view : View} {a : Address} {program : Address} {x y : Account}

variable {target payer : Mention} {signer : SignerSeeds} {inUse : Option Address}

end Store

end NetIdentity
