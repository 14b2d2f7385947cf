import NetIdentity.Proofs.Payments
import NetIdentity.Proofs.Rewriting

/-!
# Making the record's account

Each system call that succeeds is known by what it asks of the ledger and by what it makes of it: a
transfer asks that the source can pay (`Ledger.CanPay`), an allocation that the account is free
(`Account.Free`). From these laws follows what there is to know about making the account. There are
three ways, with one system call, with two or with three, and `Store.Made` lists them; where the
runtime lets the calls through, the account is made in one of these ways or not at all
(`makeAccount_eq_ok`, `makeAccount_of_made`).

All ways end in the same place. An account that was untouched but for its lamports belongs to the
program and holds the first record with zeros behind it (`create_eq_ok`). Transfers do nothing to owners
and data (`MovesLamports`), so they drop out of this part of the argument, whoever pays.
-/

namespace NetIdentity

open NetIdentity.Action

/-! ## Giving an account to a program -/

namespace Ledger

/-- Give an account to a program, with so many zeros in it. -/
def allot (ledger : Ledger) (a program : Address) (space : Nat) : Ledger :=
  ledger.set a { ledger a with owner := program, data := List.replicate space 0 }

/-- Data first and the owner next, as the system program does it. -/
theorem set_owner_set_data (ledger : Ledger) (a program : Address) (space : Nat) :
    (ledger.set a { ledger a with data := List.replicate space 0 }).set a
      { (ledger.set a { ledger a with data := List.replicate space 0 }) a with owner := program } =
      ledger.allot a program space := by
  rw [set_set, set_self]
  rfl

theorem canPay_allot_iff_of_ne {ledger : Ledger} {source target program : Address} {lamports : UInt64}
    {space : Nat} (hne : source ≠ target) :
    (ledger.allot target program space).CanPay source target lamports ↔
      ledger.CanPay source target lamports := by
  rw [canPay_iff_of_ne hne, canPay_iff_of_ne hne, allot, set_of_ne _ _ hne, set_self]

end Ledger

/-! ## Calls that succeed -/

namespace SystemCall

theorem invoke_eq_ok_iff {inUse : Option Address} {signer : Option SignerSeeds} {passed : List Mention}
    {call : SystemCall} {p q : Progress} :
    invoke inUse signer passed call p = .ok () q ↔
      call.authorize inUse signer passed = .ok () ∧
        call.run { p with calls := p.calls ++ [call] } = .ok () q := by
  constructor
  · intro h
    obtain ⟨_, r, hask, h⟩ := bind_eq_ok.1 h
    obtain ⟨hauthorized, rfl⟩ := ask_eq_ok.1 hask
    obtain ⟨_, s, hnote, h⟩ := bind_eq_ok.1 h
    rw [note_run] at hnote
    cases hnote
    exact ⟨hauthorized, h⟩
  · rintro ⟨hauthorized, hrun⟩
    exact bind_eq_ok.2 ⟨(), p, ask_eq_ok.2 ⟨hauthorized, rfl⟩, bind_eq_ok.2 ⟨(), _, note_run _ _, hrun⟩⟩

theorem runAllocate_eq_ok_iff {a : Address} {space : Nat} {p q : Progress} :
    runAllocate a space p = .ok () q ↔
      (p.ledger a).Free ∧
        q = { p with ledger := p.ledger.set a { p.ledger a with data := List.replicate space 0 } } := by
  constructor
  · intro h
    obtain ⟨target, r, haccount, h⟩ := bind_eq_ok.1 h
    rw [account_run] at haccount
    cases haccount
    split at h
    · cases h
    next hfree =>
      rw [not_or, Decidable.not_not, Decidable.not_not] at hfree
      rw [put_run] at h
      cases h
      exact ⟨⟨hfree.2, hfree.1⟩, rfl⟩
  · rintro ⟨⟨howner, hdata⟩, rfl⟩
    have hfree : ¬ ((p.ledger a).data ≠ [] ∨ (p.ledger a).owner ≠ Address.systemProgram) := by
      rintro (h | h)
      · exact h hdata
      · exact h howner
    refine bind_eq_ok.2 ⟨p.ledger a, p, account_run a p, ?_⟩
    rw [if_neg hfree, put_run]

theorem runAssign_run (a owner : Address) (p : Progress) :
    runAssign a owner p =
      .ok () { p with ledger := p.ledger.set a { p.ledger a with owner := owner } } := rfl

theorem runTransfer_eq_ok_iff {source target : Address} {lamports : UInt64} {p q : Progress} :
    runTransfer source target lamports p = .ok () q ↔
      p.ledger.CanPay source target lamports ∧
        q = { p with ledger := p.ledger.pay source target lamports } := by
  constructor
  · intro h
    obtain ⟨payer, r, haccount, h⟩ := bind_eq_ok.1 h
    rw [account_run] at haccount
    cases haccount
    split at h
    · cases h
    next hdata =>
    split at h
    · cases h
    next henough =>
    obtain ⟨_, s, hput, h⟩ := bind_eq_ok.1 h
    rw [put_run] at hput
    cases hput
    obtain ⟨payee, s, haccount, h⟩ := bind_eq_ok.1 h
    rw [account_run] at haccount
    cases haccount
    split at h
    · cases h
    next hroom =>
    rw [put_run] at h
    cases h
    exact ⟨⟨Decidable.not_not.1 hdata, UInt64.not_lt.1 henough, Nat.not_le.1 hroom⟩, rfl⟩
  · rintro ⟨⟨hdata, henough, hroom⟩, rfl⟩
    refine bind_eq_ok.2 ⟨p.ledger source, p, account_run source p, ?_⟩
    rw [if_neg (not_not_intro hdata), if_neg (UInt64.not_lt.2 henough)]
    refine bind_eq_ok.2 ⟨(), { p with ledger := p.ledger.debit source lamports }, rfl,
      bind_eq_ok.2 ⟨_, _, account_run target _, ?_⟩⟩
    rw [if_neg (Nat.not_le.2 hroom), put_run]
    rfl

/-- What the payer can pay is looked at when the account has been made: if it is the payer's own, it has
data by then. -/
theorem runCreateAccount_eq_ok_iff {payer target program : Address} {lamports : UInt64} {space : Nat}
    {p q : Progress} :
    runCreateAccount payer target lamports space program p = .ok () q ↔
      (p.ledger target).lamports = 0 ∧ (p.ledger target).Free ∧
        (p.ledger.allot target program space).CanPay payer target lamports ∧
        q = { p with ledger := (p.ledger.allot target program space).pay payer target lamports } := by
  constructor
  · intro h
    obtain ⟨account, r, haccount, h⟩ := bind_eq_ok.1 h
    rw [account_run] at haccount
    cases haccount
    split at h
    · cases h
    next hzero =>
    obtain ⟨_, allocated, hallocate, h⟩ := bind_eq_ok.1 h
    obtain ⟨_, assigned, hassign, htransfer⟩ := bind_eq_ok.1 h
    obtain ⟨hfree, rfl⟩ := runAllocate_eq_ok_iff.1 hallocate
    rw [runAssign_run, Ledger.set_owner_set_data] at hassign
    cases hassign
    obtain ⟨hpay, rfl⟩ := runTransfer_eq_ok_iff.1 htransfer
    exact ⟨UInt64.le_zero_iff.1 (UInt64.not_lt.1 hzero), hfree, hpay, rfl⟩
  · rintro ⟨hzero, hfree, hpay, rfl⟩
    refine bind_eq_ok.2 ⟨p.ledger target, p, account_run target p, ?_⟩
    rw [hzero, if_neg (UInt64.not_lt.2 (UInt64.le_refl 0))]
    refine bind_eq_ok.2 ⟨(), _, runAllocate_eq_ok_iff.2 ⟨hfree, rfl⟩, ?_⟩
    refine bind_eq_ok.2 ⟨(), _, runAssign_run _ _ _, ?_⟩
    rw [Ledger.set_owner_set_data]
    exact runTransfer_eq_ok_iff.2 ⟨hpay, rfl⟩

end SystemCall

/-! ## Calls that are let through -/

namespace SystemCall

/-- Nobody is using the data: a call is let through when each of its parties is. -/
theorem authorize_eq_ok {signer : Option SignerSeeds} {signed : Option Address} {passed : List Mention}
    {call : SystemCall} (hsigned : SignerSeeds.address? signer = .ok signed)
    (hparties : ∀ party ∈ call.parties, authorizeParty signed passed party = .ok ()) :
    call.authorize none signer passed = .ok () := by
  have hfree : (call.parties.any fun party => party.writable && none == some party.address) = false := by
    simp
  have hall : ∀ parties : List Mention,
      (∀ party ∈ parties, authorizeParty signed passed party = .ok ()) →
      authorizeParties signed passed parties = .ok () := by
    intro parties h
    induction parties with
    | nil => rfl
    | cons party rest ih =>
        rw [authorizeParties, h party (List.mem_cons_self ..)]
        exact ih fun later hlater => h later (List.mem_cons_of_mem _ hlater)
  unfold authorize
  rw [hfree, hsigned]
  exact hall call.parties hparties

/-- A party is let through when it is passed as writable, and if it has to sign, when its holder has
agreed or the calling program signs for it. -/
theorem authorizeParty_eq_ok {signed : Option Address} {passed : List Mention} {party : Mention}
    (hwritable : (passedAs passed party.address).writable = true)
    (hsigner : party.signer = true →
      (passedAs passed party.address).signer = true ∨ signed = some party.address) :
    authorizeParty signed passed party = .ok () := by
  unfold authorizeParty
  have himmutable : ¬ (party.writable = true ∧ ¬ (passedAs passed party.address).writable = true) :=
    fun h => h.2 hwritable
  have hmissing : ¬ (party.signer = true ∧ ¬ (passedAs passed party.address).signer = true ∧
      signed ≠ some party.address) := by
    rintro ⟨hneeded, hunsigned, hother⟩
    rcases hsigner hneeded with h | h
    · exact hunsigned h
    · exact hother h
  rw [if_neg himmutable, if_neg hmissing]

@[simp] theorem passedAs_head (mention : Mention) (rest : List Mention) :
    passedAs (mention :: rest) mention.address = mention := by
  simp [passedAs]

/-- If both are the same account, the first mention counts for both. -/
theorem passedAs_second (first second : Mention) :
    passedAs [first, second] second.address = first ∧ first.address = second.address ∨
      passedAs [first, second] second.address = second := by
  by_cases h : first.address = second.address
  · exact Or.inl ⟨by rw [← h, passedAs_head], h⟩
  · exact Or.inr (by simp [passedAs, h])

end SystemCall

namespace Store

variable {program : Address} {signer : SignerSeeds} {target payer : Mention} {p q : Progress}

/-- The flags and the seeds that making the account takes. -/
structure Permitted (signer : SignerSeeds) (target payer : Mention) : Prop where
  payerSigned : payer.signer = true
  payerWritable : payer.writable = true
  targetWritable : target.writable = true
  signs : Address.derived? signer.seeds signer.program = some target.address

namespace Permitted

theorem address?_eq (h : Permitted signer target payer) :
    SignerSeeds.address? (some signer) = .ok (some target.address) := by
  rw [SignerSeeds.address?, h.signs]
  rfl

theorem target_writable (h : Permitted signer target payer) :
    (SystemCall.passedAs [payer, target] target.address).writable = true := by
  rcases SystemCall.passedAs_second payer target with ⟨hfirst, _⟩ | hsecond
  · rw [hfirst]
    exact h.payerWritable
  · rw [hsecond]
    exact h.targetWritable

theorem payer_party (h : Permitted signer target payer) (signed : Option Address) :
    SystemCall.authorizeParty signed [payer, target] ⟨payer.address, true, true⟩ = .ok () := by
  refine SystemCall.authorizeParty_eq_ok ?_ fun _ => Or.inl ?_
  · rw [SystemCall.passedAs_head]
    exact h.payerWritable
  · rw [SystemCall.passedAs_head]
    exact h.payerSigned

theorem createAccount (h : Permitted signer target payer) (lamports : UInt64) (space : Nat)
    (owner : Address) :
    (SystemCall.createAccount payer.address target.address lamports space owner).authorize none
      (some signer) [payer, target] = .ok () := by
  refine SystemCall.authorize_eq_ok h.address?_eq
    (List.forall_mem_cons.2 ⟨h.payer_party _, List.forall_mem_singleton.2 ?_⟩)
  exact SystemCall.authorizeParty_eq_ok h.target_writable fun _ => Or.inr rfl

theorem transfer (h : Permitted signer target payer) (lamports : UInt64) :
    (SystemCall.transfer payer.address target.address lamports).authorize none none [payer, target] =
      .ok () := by
  refine SystemCall.authorize_eq_ok rfl
    (List.forall_mem_cons.2 ⟨h.payer_party _, List.forall_mem_singleton.2 ?_⟩)
  exact SystemCall.authorizeParty_eq_ok h.target_writable nofun

/-- A call on the record's account alone, which is what giving it data and giving it an owner are. -/
theorem alone (h : Permitted signer target payer) {call : SystemCall}
    (hparties : call.parties = [⟨target.address, true, true⟩]) :
    call.authorize none (some signer) [target] = .ok () := by
  refine SystemCall.authorize_eq_ok h.address?_eq fun party hparty => ?_
  rw [hparties, List.mem_singleton] at hparty
  subst hparty
  refine SystemCall.authorizeParty_eq_ok ?_ fun _ => Or.inr rfl
  rw [SystemCall.passedAs_head]
  exact h.targetWritable

end Permitted

/-! ## The ways of making the account -/

/-- What making the account asks of the ledger and what it makes of it. There is one way for an account
without lamports, one for an account with too few, and one for an account that needs no more. -/
inductive Made (program target payer : Address) (minimum : UInt64) (before : Ledger) :
    Ledger → Prop where
  | unfunded (free : (before target).Free) (nothing : (before target).lamports = 0)
      (paid : (before.allot target program Record.space).CanPay payer target minimum) :
      Made program target payer minimum before
        ((before.allot target program Record.space).pay payer target minimum)
  | toppedUp (free : (before target).Free) (something : (before target).lamports ≠ 0)
      (short : (before target).lamports < minimum)
      (paid : before.CanPay payer target (minimum - (before target).lamports)) :
      Made program target payer minimum before
        ((before.pay payer target (minimum - (before target).lamports)).allot target program
          Record.space)
  | funded (free : (before target).Free) (something : (before target).lamports ≠ 0)
      (enough : minimum ≤ (before target).lamports) :
      Made program target payer minimum before (before.allot target program Record.space)

namespace Made

variable {target payer : Address} {minimum : UInt64} {before after : Ledger}

theorem free (h : Made program target payer minimum before after) : (before target).Free := by
  cases h with
  | unfunded free _ _ => exact free
  | toppedUp free _ _ _ => exact free
  | funded free _ _ => exact free

theorem owner_eq (h : Made program target payer minimum before after) :
    (after target).owner = program := by
  cases h with
  | unfunded _ _ _ => rw [(Ledger.MovesLamports.pay _ _ _ _).owner_eq, Ledger.allot, Ledger.set_self]
  | toppedUp _ _ _ _ => rw [Ledger.allot, Ledger.set_self]
  | funded _ _ _ => rw [Ledger.allot, Ledger.set_self]

theorem data_eq (h : Made program target payer minimum before after) :
    (after target).data = List.replicate Record.space 0 := by
  cases h with
  | unfunded _ _ _ => rw [(Ledger.MovesLamports.pay _ _ _ _).data_eq, Ledger.allot, Ledger.set_self]
  | toppedUp _ _ _ _ => rw [Ledger.allot, Ledger.set_self]
  | funded _ _ _ => rw [Ledger.allot, Ledger.set_self]

end Made

variable {inUse : Option Address} {minimum : UInt64}

theorem topUp_eq_ok {missing : UInt64} (h : topUp inUse target payer missing p = .ok () q) :
    missing = 0 ∧ q = p ∨ 0 < missing ∧
      p.ledger.CanPay payer.address target.address missing ∧
        q.ledger = p.ledger.pay payer.address target.address missing ∧ q.log = p.log := by
  unfold topUp at h
  split at h
  · obtain ⟨_, hrun⟩ := SystemCall.invoke_eq_ok_iff.1 h
    obtain ⟨hpay, rfl⟩ := SystemCall.runTransfer_eq_ok_iff.1 hrun
    exact Or.inr ⟨‹0 < missing›, hpay, rfl, rfl⟩
  · next hmissing =>
    cases h
    exact Or.inl ⟨UInt64.le_zero_iff.1 (UInt64.not_lt.1 hmissing), rfl⟩

theorem createFunded_eq_ok {missing : UInt64}
    (h : createFunded inUse program signer target payer missing p = .ok () q) :
    ∃ toppedUp, topUp inUse target payer missing p = .ok () toppedUp ∧
      (toppedUp.ledger target.address).Free ∧
      q.ledger = toppedUp.ledger.allot target.address program Record.space ∧ q.log = toppedUp.log := by
  obtain ⟨_, toppedUp, htopUp, h⟩ := bind_eq_ok.1 h
  obtain ⟨_, allocated, hallocate, hassign⟩ := bind_eq_ok.1 h
  obtain ⟨_, hallocate⟩ := SystemCall.invoke_eq_ok_iff.1 hallocate
  obtain ⟨hfree, rfl⟩ := SystemCall.runAllocate_eq_ok_iff.1 hallocate
  obtain ⟨_, hassign⟩ := SystemCall.invoke_eq_ok_iff.1 hassign
  rw [SystemCall.run, SystemCall.runAssign_run, Ledger.set_owner_set_data] at hassign
  cases hassign
  exact ⟨toppedUp, htopUp, hfree, rfl, rfl⟩

theorem missing_pos {minimum lamports : UInt64} (h : lamports < minimum) : 0 < minimum - lamports := by
  have hle : lamports ≤ minimum := UInt64.le_of_lt h
  rw [UInt64.lt_iff_toNat_lt] at h ⊢
  rw [UInt64.toNat_sub_of_le _ _ hle, UInt64.toNat_zero]
  omega

/-- An account that is made is made in one of the three ways. -/
theorem makeAccount_eq_ok
    (h : makeAccount inUse program signer target payer minimum (p.ledger target.address).lamports p =
      .ok () q) :
    Made program target.address payer.address minimum p.ledger q.ledger ∧ q.log = p.log := by
  unfold makeAccount at h
  split at h
  · obtain ⟨_, hrun⟩ := SystemCall.invoke_eq_ok_iff.1 h
    obtain ⟨hnothing, hfree, hpay, rfl⟩ := SystemCall.runCreateAccount_eq_ok_iff.1 hrun
    exact ⟨.unfunded hfree hnothing hpay, rfl⟩
  · next hsomething =>
    obtain ⟨toppedUp, htopUp, hfree, hledger, hlog⟩ := createFunded_eq_ok h
    rw [hledger, hlog]
    split at htopUp
    · next henough =>
      rcases topUp_eq_ok htopUp with ⟨_, rfl⟩ | ⟨hmissing, _⟩
      · exact ⟨.funded hfree hsomething henough, rfl⟩
      · exact absurd hmissing (UInt64.lt_irrefl 0)
    · next hshort =>
      have hshort := UInt64.not_le.1 hshort
      rcases topUp_eq_ok htopUp with ⟨hmissing, _⟩ | ⟨_, hpay, hpaid, hpaidLog⟩
      · have hpos := missing_pos hshort
        rw [hmissing] at hpos
        exact absurd hpos (UInt64.lt_irrefl 0)
      · rw [hpaid, (Ledger.MovesLamports.pay _ _ _ _).free_iff] at hfree
        rw [hpaid, hpaidLog]
        exact ⟨.toppedUp hfree hsomething hshort hpay, rfl⟩

theorem topUp_of_canPay {missing : UInt64} (hpermitted : Permitted signer target payer)
    (hmissing : 0 < missing) (hpay : p.ledger.CanPay payer.address target.address missing) :
    ∃ q, topUp none target payer missing p = .ok () q ∧
      q.ledger = p.ledger.pay payer.address target.address missing := by
  unfold topUp
  rw [if_pos hmissing]
  exact ⟨_, SystemCall.invoke_eq_ok_iff.2
    ⟨hpermitted.transfer missing, SystemCall.runTransfer_eq_ok_iff.2 ⟨hpay, rfl⟩⟩, rfl⟩

theorem createFunded_of_topUp {missing : UInt64} {toppedUp : Progress}
    (hpermitted : Permitted signer target payer)
    (htopUp : topUp none target payer missing p = .ok () toppedUp)
    (hfree : (toppedUp.ledger target.address).Free) :
    ∃ q, createFunded none program signer target payer missing p = .ok () q ∧
      q.ledger = toppedUp.ledger.allot target.address program Record.space := by
  refine ⟨_, bind_eq_ok.2 ⟨(), toppedUp, htopUp, bind_eq_ok.2 ⟨(), _,
    SystemCall.invoke_eq_ok_iff.2
      ⟨hpermitted.alone rfl, SystemCall.runAllocate_eq_ok_iff.2 ⟨hfree, rfl⟩⟩,
    SystemCall.invoke_eq_ok_iff.2 ⟨hpermitted.alone rfl, SystemCall.runAssign_run _ _ _⟩⟩⟩, ?_⟩
  exact Ledger.set_owner_set_data ..

/-- With the flags and the seeds, each of the three ways can be gone. -/
theorem makeAccount_of_made {after : Ledger} (hpermitted : Permitted signer target payer)
    (h : Made program target.address payer.address minimum p.ledger after) :
    ∃ q, makeAccount none program signer target payer minimum (p.ledger target.address).lamports p =
      .ok () q ∧ q.ledger = after := by
  unfold makeAccount
  cases h with
  | unfunded hfree hnothing hpay =>
      rw [if_pos hnothing]
      exact ⟨_, SystemCall.invoke_eq_ok_iff.2 ⟨hpermitted.createAccount minimum Record.space program,
        SystemCall.runCreateAccount_eq_ok_iff.2 ⟨hnothing, hfree, hpay, rfl⟩⟩, rfl⟩
  | toppedUp hfree hsomething hshort hpay =>
      rw [if_neg hsomething, if_neg (UInt64.not_le.2 hshort)]
      obtain ⟨toppedUp, htopUp, hpaid⟩ := topUp_of_canPay hpermitted (missing_pos hshort) hpay
      rw [← (Ledger.MovesLamports.pay _ _ _ _).free_iff, ← hpaid] at hfree
      rw [← hpaid]
      exact createFunded_of_topUp hpermitted htopUp hfree
  | funded hfree hsomething henough =>
      rw [if_neg hsomething, if_pos henough]
      exact createFunded_of_topUp hpermitted rfl hfree

end Store

/-! ## The first record -/

/-- Write a record over the front of an account's data. -/
def Ledger.inscribe (ledger : Ledger) (a : Address) (r : Record) : Ledger :=
  ledger.set a { ledger a with data := (ledger a).data.overwrite r.stored }

namespace Store

variable {inUse : Option Address} {program : Address} {target payer : Mention} {p q : Progress}

/-- Nobody else is using the data: what fits of the record is written, whether or not that is all of it. -/
theorem write_run {a : Address} (hfree : inUse ≠ some a) (r : Record) (p : Progress) :
    write inUse a r p =
      check (Record.writeOver (p.ledger a).data r).2
        { p with ledger :=
            p.ledger.set a { p.ledger a with data := (Record.writeOver (p.ledger a).data r).1 } } := by
  rw [write, if_neg hfree]
  rfl

/-- Once the account is created, saving is writing. -/
theorem save_run {inUse : Option Address} {program a : Address} {p : Progress}
    (h : isCreated program (p.ledger a) = true) (r : Record) :
    save inUse program a r p = write inUse a r p := by
  rw [save, bind_run, account_run]
  simp only [h, if_true]

/-- What has been created is not created again. -/
theorem create_run_of_created {env : Environment}
    (h : isCreated program (p.ledger target.address) = true) (bump : UInt8) (r : Record) :
    create env inUse program target payer bump r p = .error (.fault .alreadyInitialized) p := by
  rw [create, bind_run, account_run]
  simp only [h, if_true, throw_run]

/-- Otherwise creating goes through three steps, each of which may fail. -/
theorem create_run_of_fresh {env : Environment}
    (h : isCreated program (p.ledger target.address) = false) (bump : UInt8) (r : Record) :
    create env inUse program target payer bump r p =
      (ask (env.minimumBalance Record.space) >>= fun minimum =>
        makeAccount inUse program ⟨program, [seed, [bump]]⟩ target payer minimum
          (p.ledger target.address).lamports >>= fun _ => write inUse target.address r) p := by
  rw [create, bind_run, account_run]
  simp only [h, Bool.false_eq_true, if_false]

/-- What has been created had not been created before. -/
theorem fresh_of_create {env : Environment} {bump : UInt8} {r : Record}
    (h : create env inUse program target payer bump r p = .ok () q) :
    isCreated program (p.ledger target.address) = false := by
  refine Bool.eq_false_iff.2 fun hcreated => ?_
  rw [create_run_of_created hcreated] at h
  cases h

/-- A write that succeeds has had room for all of the record. -/
theorem write_eq_ok_iff {a : Address} {r : Record} :
    write inUse a r p = .ok () q ↔
      inUse ≠ some a ∧ r.networkId.utf8ByteSize < UInt32.size ∧
        r.stored.length ≤ (p.ledger a).data.length ∧ q = { p with ledger := p.ledger.inscribe a r } := by
  constructor
  · intro h
    by_cases hfree : inUse = some a
    · rw [write, if_pos hfree] at h
      cases h
    · rw [write_run hfree] at h
      obtain ⟨hverdict, rfl⟩ := check_eq_ok.1 h
      have hwritten : Record.writeOver (p.ledger a).data r =
          ((Record.writeOver (p.ledger a).data r).1, .ok ()) := Prod.ext rfl hverdict
      obtain ⟨hsize, hroom, hafter⟩ := Record.writeOver_eq_ok_iff.1 hwritten
      rw [hafter]
      exact ⟨hfree, hsize, hroom, rfl⟩
  · rintro ⟨hfree, hsize, hroom, rfl⟩
    rw [write_run hfree, Record.writeOver_eq hsize, if_pos hroom]
    rfl

/-- The account is made where there was none, and the record is written into it. -/
theorem create_eq_ok {env : Environment} {bump : UInt8} {r : Record}
    (h : create env inUse program target payer bump r p = .ok () q) :
    isCreated program (p.ledger target.address) = false ∧
      ∃ minimum made, env.minimumBalance Record.space = .ok minimum ∧
        Made program target.address payer.address minimum p.ledger made ∧
        r.stored.length ≤ Record.space ∧ q.ledger = made.inscribe target.address r ∧ q.log = p.log := by
  have hfresh := fresh_of_create h
  rw [create_run_of_fresh hfresh] at h
  obtain ⟨minimum, s, hask, h⟩ := bind_eq_ok.1 h
  obtain ⟨hminimum, rfl⟩ := ask_eq_ok.1 hask
  obtain ⟨_, made, hmake, hwrite⟩ := bind_eq_ok.1 h
  obtain ⟨hmade, hlog⟩ := makeAccount_eq_ok hmake
  obtain ⟨_, _, hroom, rfl⟩ := write_eq_ok_iff.1 hwrite
  rw [hmade.data_eq, List.length_replicate] at hroom
  exact ⟨hfresh, minimum, made.ledger, hminimum, hmade, hroom, rfl, hlog⟩

/-- What was free is not created, so nothing else stands in the way. -/
theorem create_of_made {env : Environment} {minimum : UInt64} {bump : UInt8} {r : Record} {made : Ledger}
    (hpermitted : Permitted ⟨program, [seed, [bump]]⟩ target payer)
    (hminimum : env.minimumBalance Record.space = .ok minimum)
    (hmade : Made program target.address payer.address minimum p.ledger made)
    (hroom : r.stored.length ≤ Record.space) :
    ∃ q, create env none program target payer bump r p = .ok () q ∧
      q.ledger = made.inscribe target.address r := by
  have hfresh : isCreated program (p.ledger target.address) = false := Bool.eq_false_iff.2 fun hcreated =>
    (isCreated_eq_true_iff.1 hcreated).2 hmade.free.data
  obtain ⟨s, hmake, hs⟩ := makeAccount_of_made hpermitted hmade
  have hwrite : write none target.address r s =
      .ok () { s with ledger := s.ledger.inscribe target.address r } := by
    refine write_eq_ok_iff.2 ⟨nofun, Record.networkId_lt_of_length_le hroom, ?_, rfl⟩
    rw [hs, hmade.data_eq, List.length_replicate]
    exact hroom
  refine ⟨{ s with ledger := s.ledger.inscribe target.address r }, ?_,
    congrArg (Ledger.inscribe · target.address r) hs⟩
  rw [create_run_of_fresh hfresh]
  exact bind_eq_ok.2 ⟨_, p, ask_eq_ok.2 ⟨hminimum, rfl⟩, bind_eq_ok.2 ⟨(), s, hmake, hwrite⟩⟩

theorem Made.owner_inscribe {target payer : Address} {minimum : UInt64} {before made : Ledger}
    (h : Made program target payer minimum before made) (r : Record) :
    (made.inscribe target r target).owner = program := by
  rw [Ledger.inscribe, Ledger.set_self]
  exact h.owner_eq

/-- The first record stands in zeros. -/
theorem Made.data_inscribe {target payer : Address} {minimum : UInt64} {before made : Ledger} {r : Record}
    (h : Made program target payer minimum before made) (hroom : r.stored.length ≤ Record.space) :
    (made.inscribe target r target).data =
      r.stored ++ List.replicate (Record.space - r.stored.length) 0 := by
  rw [Ledger.inscribe, Ledger.set_self, h.data_eq, Bytes.overwrite, List.length_replicate,
    List.take_of_length_le hroom, List.drop_replicate]

end Store

end NetIdentity
