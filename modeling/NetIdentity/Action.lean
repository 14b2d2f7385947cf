import NetIdentity.Log
import NetIdentity.SystemCall

/-!
# Running a call

A call changes the ledger, calls the system program, and writes to the log. `Progress` is what it has done
so far. When it fails, its progress does not vanish: the log is kept, and whether the ledger is rolled back
is decided by whoever made the call.
-/

namespace NetIdentity

/-- What a call has done so far. -/
structure Progress where
  ledger : Ledger
  /-- The calls to the system program that the runtime let through. -/
  calls : List SystemCall
  log : List LogEntry

def Progress.start (ledger : Ledger) : Progress := ⟨ledger, [], []⟩

/-- A step of a call: it may fail, and what it has done until then stays. -/
abbrev Action := EStateM Failure Progress

namespace Action

/-- Let a verdict of the program decide. -/
def check {α : Type} : Except Fault α → Action α
  | .ok value => pure value
  | .error fault => throw (.fault fault)

/-- Let a verdict of the runtime decide. -/
def ask {α : Type} : Except RuntimeError α → Action α
  | .ok value => pure value
  | .error error => throw (.runtime error)

def account (address : Address) : Action Account := do
  return (← get).ledger address

def put (address : Address) (account : Account) : Action Unit :=
  modify fun progress => { progress with ledger := progress.ledger.set address account }

def note (call : SystemCall) : Action Unit :=
  modify fun progress => { progress with calls := progress.calls ++ [call] }

def log (entry : LogEntry) : Action Unit :=
  modify fun progress => { progress with log := progress.log ++ [entry] }

/-! ## What the actions do

One equation for each: an action is known by what it makes of the progress it starts from. -/

variable {α β : Type}

/-- The second action starts from where the first one ends, unless that failed. -/
theorem bind_run (first : Action α) (next : α → Action β) (p : Progress) :
    (first >>= next) p =
      match first p with
      | .ok x q => next x q
      | .error e q => .error e q := by
  show EStateM.bind first next p = _
  unfold EStateM.bind
  cases first p <;> rfl

theorem bind_eq_ok {first : Action α} {next : α → Action β} {p q : Progress} {y : β} :
    (first >>= next) p = .ok y q ↔ ∃ x r, first p = .ok x r ∧ next x r = .ok y q := by
  rw [bind_run]
  cases first p with
  | ok x r =>
      constructor
      · intro h
        exact ⟨x, r, rfl, h⟩
      · rintro ⟨_, _, heq, h⟩
        cases heq
        exact h
  | error e r =>
      constructor
      · intro h
        cases h
      · rintro ⟨_, _, heq, _⟩
        cases heq

theorem bind_eq_error {first : Action α} {next : α → Action β} {p q : Progress} {e : Failure}
    (h : (first >>= next) p = .error e q) :
    first p = .error e q ∨ ∃ x r, first p = .ok x r ∧ next x r = .error e q := by
  rw [bind_run] at h
  cases hfirst : first p with
  | ok x r =>
      rw [hfirst] at h
      exact Or.inr ⟨x, r, rfl, h⟩
  | error other r =>
      rw [hfirst] at h
      cases h
      exact Or.inl rfl

@[simp] theorem pure_run (x : α) (p : Progress) : (pure x : Action α) p = .ok x p := rfl

@[simp] theorem throw_run (e : Failure) (p : Progress) : (throw e : Action α) p = .error e p := rfl

@[simp] theorem get_run (p : Progress) : (get : Action Progress) p = .ok p p := rfl

@[simp] theorem check_ok (x : α) : check (.ok x) = (pure x : Action α) := rfl

@[simp] theorem check_error (fault : Fault) : check (.error fault) = (throw (.fault fault) : Action α) := rfl

@[simp] theorem ask_ok (x : α) : ask (.ok x) = (pure x : Action α) := rfl

@[simp] theorem ask_error (error : RuntimeError) :
    ask (.error error) = (throw (.runtime error) : Action α) := rfl

theorem check_eq_ok {verdict : Except Fault α} {x : α} {p q : Progress} :
    check verdict p = .ok x q ↔ verdict = .ok x ∧ p = q := by
  cases verdict with
  | ok y =>
      rw [check_ok, pure_run, EStateM.Result.ok.injEq, Except.ok.injEq]
  | error fault =>
      rw [check_error, throw_run]
      constructor
      · nofun
      · rintro ⟨⟨⟩, _⟩

theorem check_eq_error {verdict : Except Fault α} {e : Failure} {p q : Progress}
    (h : check verdict p = .error e q) : ∃ fault, verdict = .error fault ∧ e = .fault fault ∧ q = p := by
  cases verdict with
  | ok y => cases h
  | error fault =>
      cases h
      exact ⟨fault, rfl, rfl, rfl⟩

theorem ask_eq_ok {verdict : Except RuntimeError α} {x : α} {p q : Progress} :
    ask verdict p = .ok x q ↔ verdict = .ok x ∧ p = q := by
  cases verdict with
  | ok y =>
      rw [ask_ok, pure_run, EStateM.Result.ok.injEq, Except.ok.injEq]
  | error error =>
      rw [ask_error, throw_run]
      constructor
      · nofun
      · rintro ⟨⟨⟩, _⟩

@[simp] theorem account_run (address : Address) (p : Progress) :
    account address p = .ok (p.ledger address) p := rfl

@[simp] theorem put_run (address : Address) (a : Account) (p : Progress) :
    put address a p = .ok () { p with ledger := p.ledger.set address a } := rfl

@[simp] theorem note_run (call : SystemCall) (p : Progress) :
    note call p = .ok () { p with calls := p.calls ++ [call] } := rfl

@[simp] theorem log_run (entry : LogEntry) (p : Progress) :
    log entry p = .ok () { p with log := p.log ++ [entry] } := rfl

end Action

end NetIdentity
