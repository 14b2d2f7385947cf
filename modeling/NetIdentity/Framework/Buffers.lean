import NetIdentity.Framework

/-!
# A framework with buffers

The framework fills a description into a buffer first. A buffer is an account of the program that holds
nothing yet; to make it one, the framework writes its mark and who is in charge over the front of the data
(`Buffer.create`).

`Framework.buffers` has this one instruction and knows no other. It changes accounts that are claimed and
nothing else, which makes it the least framework under which what is claimed can be seen to change.
-/

namespace NetIdentity

namespace Framework

open NetIdentity.Action

namespace Buffer

/-- The mark, who is in charge, and how long the description is. -/
def headerSize : Nat := 44

def title : String := "IdlCreateBuffer"

def missing (account? : Option String) : Fault :=
  .framework 3005 "AccountNotEnoughKeys" "Not enough account keys given to the instruction" account? none

/-- A fault in the account that is to be a buffer. -/
def fault (code : Nat) (name message : String) : Fault :=
  .framework code name message (some "buffer") none

/-- The account that is to be a buffer, and who will be in charge of it. -/
def parties : List Mention → Except Fault (Mention × Mention)
  | [] => .error (missing none)
  | [_] => .error (missing (some "authority"))
  | buffer :: authority :: _ =>
      if authority.signer then .ok (buffer, authority)
      else .error (.framework 3010 "AccountNotSigner" "The given account did not sign" (some "authority") none)

/-- A buffer is made of an account of the program whose first bytes are blank. Data that has no first eight
bytes stops the program. -/
def checkBlank (program : Address) (account : Account) : Except Failure Unit :=
  if account.data.length < blank.length then .error (.runtime .aborted)
  else if account.data.take 8 ≠ blank then
    .error (.fault (fault 2013 "ConstraintZero" "Expected zero account discriminant"))
  else if account.owner = Address.systemProgram ∧ account.lamports = 0 then
    .error (.fault (fault 3012 "AccountNotInitialized"
      "The program expected this account to be already initialized"))
  else if account.owner ≠ program then
    .error (.fault (.framework 3007 "AccountOwnedByWrongProgram"
      "The given account is owned by a different program than expected" (some "buffer")
      (some (account.owner, program))))
  else if account.data.length < headerSize then
    .error (.fault (fault 3003 "AccountDidNotDeserialize" "Failed to deserialize the account"))
  else .ok ()

/-- It is writable, and has the lamports to be kept. -/
def checkKept (rent : Rent) (buffer : Mention) (account : Account) : Except Failure Unit :=
  if ¬ buffer.writable then .error (.fault (fault 2000 "ConstraintMut" "A mut constraint was violated"))
  else
    match rent.minimumBalance account.data.length with
    | .error error => .error (.runtime error)
    | .ok minimum =>
        if account.lamports < minimum then
          .error (.fault (fault 2005 "ConstraintRentExempt" "A rent exemption constraint was violated"))
        else .ok ()

/-- Nobody is in charge of an account that the zero address is put in charge of. -/
def checkAuthority (authority : Mention) : Except Failure Unit :=
  if authority.address = Address.systemProgram then
    .error (.fault (.framework 2003 "ConstraintRaw" "A raw constraint was violated" (some "authority") none))
  else .ok ()

/-- All that has to be in order, in the order in which it is looked at. -/
def check (program : Address) (rent : Option Rent) (buffer authority : Mention) (account : Account) :
    Except Failure Unit :=
  match rent with
  | none => .error (.runtime .unsupportedSysvar)
  | some rent => do
      checkBlank program account
      checkKept rent buffer account
      checkAuthority authority

/-- The header is written over the front of the data. How long the description is stays as it was read. -/
def inscribe (authority : Address) (account : Account) : Account :=
  { account with data := accountMark ++ authority.bytes ++ account.data.drop 40 }

def create (program : Address) (rent : Option Rent) (mentions : List Mention) : Action Unit := do
  let (buffer, authority) ← Action.check (parties mentions)
  let target ← account buffer.address
  match check program rent buffer authority target with
  | .error failure => throw failure
  | .ok _ =>
      log (.instruction title)
      put buffer.address (inscribe authority.address target)

variable {program : Address} {rent : Option Rent} {mentions : List Mention} {buffer authority : Mention}
  {account : Account} {p q : Progress}

/-- Only the first two accounts matter. -/
theorem parties_append {extra : List Mention} (h : accountLimit ≤ mentions.length) :
    parties (mentions ++ extra) = parties mentions := by
  rcases mentions with _ | ⟨first, _ | ⟨second, rest⟩⟩
  · cases h
  · have hone : ¬ accountLimit ≤ 1 := by decide
    exact absurd h hone
  · rfl

theorem parties_eq_ok (h : parties mentions = .ok (buffer, authority)) : buffer ∈ mentions := by
  unfold parties at h
  split at h
  · cases h
  · cases h
  · split at h
    · cases h
      exact List.mem_cons_self ..
    · cases h

theorem checkBlank_eq_ok (h : checkBlank program account = .ok ()) : Claims program account := by
  unfold checkBlank at h
  split at h
  · cases h
  split at h
  · cases h
  next hblank =>
  split at h
  · cases h
  split at h
  · cases h
  next howner =>
  exact ⟨Decidable.not_not.1 howner, Or.inl (Decidable.not_not.1 hblank)⟩

theorem checkKept_eq_ok {rent : Rent} (h : checkKept rent buffer account = .ok ()) :
    buffer.writable = true := by
  unfold checkKept at h
  split at h
  · cases h
  · next hwritable => exact Decidable.not_not.1 hwritable

theorem check_eq_ok (h : check program rent buffer authority account = .ok ()) :
    Claims program account ∧ buffer.writable = true := by
  cases rent with
  | none => cases h
  | some rent =>
      cases hblank : checkBlank program account with
      | error failure =>
          rw [check, hblank] at h
          cases h
      | ok _ =>
          cases hkept : checkKept rent buffer account with
          | error failure =>
              rw [check, hblank, hkept] at h
              cases h
          | ok _ => exact ⟨checkBlank_eq_ok hblank, checkKept_eq_ok hkept⟩

/-- A buffer that has been made was claimed and writable, and got nothing but other data. -/
theorem create_eq_ok (h : create program rent mentions p = .ok () q) :
    ∃ buffer ∈ mentions, ∃ authority, buffer.writable = true ∧ Claims program (p.ledger buffer.address) ∧
      q = { p with
        ledger := p.ledger.set buffer.address (inscribe authority (p.ledger buffer.address))
        log := p.log ++ [.instruction title] } := by
  obtain ⟨⟨buffer, authority⟩, r, hparties, h⟩ := bind_eq_ok.1 h
  obtain ⟨hverdict, rfl⟩ := Action.check_eq_ok.1 hparties
  obtain ⟨target, r, haccount, h⟩ := bind_eq_ok.1 h
  cases haccount
  cases hcheck : check program rent buffer authority (p.ledger buffer.address) with
  | error failure =>
      rw [hcheck] at h
      cases h
  | ok _ =>
  rw [hcheck] at h
  obtain ⟨hclaims, hwritable⟩ := check_eq_ok hcheck
  cases h
  exact ⟨buffer, parties_eq_ok hverdict, authority.address, hwritable, hclaims, rfl⟩

/-- Only the data of one account is written. -/
theorem set_inscribe (ledger : Ledger) (target authority a : Address) :
    ((ledger.set target (inscribe authority (ledger target))) a).lamports = (ledger a).lamports ∧
      ((ledger.set target (inscribe authority (ledger target))) a).executable = (ledger a).executable := by
  by_cases ha : a = target
  · rw [ha, Ledger.set_self]
    exact ⟨rfl, rfl⟩
  · rw [Ledger.set_of_ne _ _ ha]
    exact ⟨rfl, rfl⟩

theorem disciplined_of_create (h : create program rent mentions p = .ok () q) :
    Disciplined program mentions p q := by
  obtain ⟨buffer, hbuffer, authority, hwritable, hclaims, rfl⟩ := create_eq_ok h
  have hwritten := set_inscribe p.ledger buffer.address authority
  exact {
    passed := fun a hchanged => by
      refine ⟨buffer, hbuffer, Decidable.not_not.1 fun hother => hchanged ?_, hwritable⟩
      exact Ledger.set_of_ne _ _ (Ne.symm hother)
    executable := fun a => (hwritten a).2
    content := fun a hunclaimed _ => by
      have ha : a ≠ buffer.address := fun ha => hunclaimed (ha ▸ hclaims)
      have hkept := Ledger.set_of_ne p.ledger (inscribe authority (p.ledger buffer.address)) ha
      exact ⟨congrArg Account.owner hkept, congrArg Account.data hkept⟩
    payers := fun a hless => absurd hless (UInt64.not_lt.2 (UInt64.le_of_eq (hwritten a).1.symm))
    together := fun _ _ _ => Ledger.lamportsOf_congr fun a => (hwritten a).1
    quiet := fun payload hevent => by
      rcases List.mem_append.1 hevent with hbefore | htitle
      · exact hbefore
      · cases List.mem_singleton.1 htitle }

end Buffer

/-- The framework that makes buffers. Its instructions are numbered by one byte behind the mark. -/
def buffers : Framework where
  answer program rent mentions
    | 1 :: _ => Buffer.create program rent mentions
    | _ => throw (.fault .undecodableArgument)
  declared extra h := by
    split
    · rw [Buffer.create, Buffer.parties_append h]
      rfl
    · rfl
  disciplined {program rent mentions argument p q} h := by
    split at h
    · exact Buffer.disciplined_of_create h
    · cases h

end Framework

end NetIdentity
