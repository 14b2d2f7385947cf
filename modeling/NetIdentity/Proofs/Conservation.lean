import Mathlib.Algebra.BigOperators.Group.Finset.Basic
import Mathlib.Data.FinEnum
import Mathlib.Data.Fintype.Vector
import NetIdentity.Proofs.Uniqueness

/-!
# What a transaction leaves alone

The program writes to one account, and lamports leave another one only when that one founds the record.
`Ledger.Confined` says this of two ledgers: nothing differs but the target, the payers differ in
lamports only, and no lamport comes or goes. It holds of every system call that succeeds, whoever pays,
and it is transitive, so it holds of every command.

The payer may be the record's own account. Then a payment is taken from it and given back to it, so
even then it has no less than before.

The framework moves lamports too, and writes to accounts of its own. What becomes of the accounts in a whole
transaction is accounted for by its deeds, those of the program and those of the framework
(`Deed.AccountedFor`, `Transaction.accountedFor`).
-/

namespace NetIdentity

open NetIdentity.Program

/-! ## The lamports of all accounts -/

def Address.toVector (a : Address) : List.Vector UInt8 32 := ⟨a.bytes, a.length_bytes⟩

/-- An address is a string of thirty-two bytes, and there are finitely many of them. -/
noncomputable instance : Fintype Address :=
  Fintype.ofInjective Address.toVector fun _ _ h => Address.ext (congrArg List.Vector.toList h)

namespace Ledger

/-- The lamports of all accounts together. -/
noncomputable def total (ledger : Ledger) : Nat := ∑ a : Address, (ledger a).lamports.toNat

/-- The total is what all accounts that there are hold together, whichever way they are listed. -/
theorem total_eq_lamportsOf (ledger : Ledger) : ledger.total = ledger.lamportsOf Finset.univ.toList := by
  have hlist : ∀ addresses : List Address,
      ledger.lamportsOf addresses = (addresses.map fun a => (ledger a).lamports.toNat).sum := by
    intro addresses
    induction addresses with
    | nil => rfl
    | cons a rest ih => rw [lamportsOf, ih, List.map_cons, List.sum_cons]
  rw [hlist, Finset.sum_map_toList, total]

/-- A new account changes the total by what it has more or less than the one it replaces. -/
theorem total_set (ledger : Ledger) (a : Address) (account : Account) :
    (ledger.set a account).total + (ledger a).lamports.toNat = ledger.total + account.lamports.toNat := by
  classical
  have hothers : ∑ b ∈ Finset.univ.erase a, (ledger.set a account b).lamports.toNat =
      ∑ b ∈ Finset.univ.erase a, (ledger b).lamports.toNat := by
    refine Finset.sum_congr rfl fun b hb => ?_
    rw [set_of_ne ledger account (Finset.ne_of_mem_erase hb)]
  have hafter := Finset.add_sum_erase Finset.univ
    (fun b => (ledger.set a account b).lamports.toNat) (Finset.mem_univ a)
  have hbefore := Finset.add_sum_erase Finset.univ
    (fun b => (ledger b).lamports.toNat) (Finset.mem_univ a)
  simp only [set_self] at hafter
  unfold total
  omega

/-- So a new account with as many lamports does not show in the total. -/
theorem total_set_of_lamports_eq {ledger : Ledger} {a : Address} {account : Account}
    (h : account.lamports = (ledger a).lamports) : (ledger.set a account).total = ledger.total := by
  have hset := ledger.total_set a account
  rw [h] at hset
  omega

/-! ## Payments -/

theorem total_debit {ledger : Ledger} {a : Address} {lamports : UInt64}
    (h : lamports ≤ (ledger a).lamports) :
    (ledger.debit a lamports).total + lamports.toNat = ledger.total := by
  have hset := ledger.total_set a (ledger.debit a lamports a)
  have hle := UInt64.le_iff_toNat_le.1 h
  rw [lamports_debit h, debit, set_self] at hset
  rw [debit]
  omega

theorem total_credit {ledger : Ledger} {a : Address} {lamports : UInt64}
    (h : (ledger a).lamports.toNat + lamports.toNat < UInt64.size) :
    (ledger.credit a lamports).total = ledger.total + lamports.toNat := by
  have hset := ledger.total_set a (ledger.credit a lamports a)
  rw [lamports_credit h, credit, set_self] at hset
  rw [credit]
  omega

variable {source target : Address} {lamports : UInt64} {ledger : Ledger}

theorem CanPay.total_pay (h : ledger.CanPay source target lamports) :
    (ledger.pay source target lamports).total = ledger.total := by
  have hdebit := total_debit h.enough
  have hcredit := total_credit h.room
  rw [pay]
  omega

/-! ## Confined changes -/

/-- What a call may do to a ledger: the target is its own, and of the payers it may take lamports, which
have to go somewhere. -/
structure Confined (payers : Address → Prop) (target : Address) (before after : Ledger) : Prop where
  others : ∀ a, a ≠ target → ¬ payers a → after a = before a
  lamportsOnly : ∀ a, a ≠ target → { after a with lamports := (before a).lamports } = before a
  executable : ∀ a, (after a).executable = (before a).executable
  still : (∀ a, ¬ payers a) → ∀ a, (after a).lamports = (before a).lamports
  le_target : (before target).lamports ≤ (after target).lamports
  total : after.total = before.total

namespace Confined

variable {payers : Address → Prop} {before after : Ledger}

theorem refl (ledger : Ledger) : Confined payers target ledger ledger :=
  ⟨fun _ _ _ => rfl, fun _ _ => rfl, fun _ => rfl, fun _ _ => rfl, UInt64.le_refl _, rfl⟩

theorem trans {first second third : Ledger} (h : Confined payers target first second)
    (h' : Confined payers target second third) : Confined payers target first third where
  others a htarget hpayers := (h'.others a htarget hpayers).trans (h.others a htarget hpayers)
  lamportsOnly a htarget := by
    have hfirst := h.lamportsOnly a htarget
    rw [← h'.lamportsOnly a htarget] at hfirst
    exact hfirst
  executable a := (h'.executable a).trans (h.executable a)
  still hpayers a := (h'.still hpayers a).trans (h.still hpayers a)
  le_target := UInt64.le_trans h.le_target h'.le_target
  total := h'.total.trans h.total

/-- More payers permit more. -/
theorem mono {more : Address → Prop} (h : Confined payers target before after)
    (hmore : ∀ a, payers a → more a) : Confined more target before after where
  others a htarget hpayers := h.others a htarget fun ha => hpayers (hmore a ha)
  lamportsOnly := h.lamportsOnly
  executable := h.executable
  still hnone := h.still fun a ha => hnone a (hmore a ha)
  le_target := h.le_target
  total := h.total

/-- The target may get another owner and other data. -/
theorem set_target (ledger : Ledger) {account : Account}
    (hlamports : account.lamports = (ledger target).lamports)
    (hexecutable : account.executable = (ledger target).executable) :
    Confined payers target ledger (ledger.set target account) where
  others a htarget _ := set_of_ne ledger account htarget
  lamportsOnly a htarget := by rw [set_of_ne ledger account htarget]
  executable a := by
    by_cases ha : a = target
    · rw [ha, set_self]
      exact hexecutable
    · rw [set_of_ne ledger account ha]
  still _ a := by
    by_cases ha : a = target
    · rw [ha, set_self]
      exact hlamports
    · rw [set_of_ne ledger account ha]
  le_target := by
    rw [set_self, hlamports]
    exact UInt64.le_refl _
  total := total_set_of_lamports_eq hlamports

theorem allot (ledger : Ledger) (program : Address) (space : Nat) :
    Confined payers target ledger (ledger.allot target program space) := by
  unfold Ledger.allot
  exact set_target ledger rfl rfl

theorem inscribe (ledger : Ledger) (r : Record) :
    Confined payers target ledger (ledger.inscribe target r) := by
  unfold Ledger.inscribe
  exact set_target ledger rfl rfl

theorem pay (h : ledger.CanPay source target lamports) :
    Confined (· = source) target ledger (ledger.pay source target lamports) where
  others a htarget hsource := by
    rw [Ledger.pay, credit, set_of_ne _ _ htarget, debit, set_of_ne _ _ hsource]
  lamportsOnly a _ := MovesLamports.pay ledger source target lamports a
  executable a := by rw [← MovesLamports.pay ledger source target lamports a]
  still hnone := absurd rfl (hnone source)
  le_target := h.le_pay
  total := h.total_pay

end Confined

end Ledger

/-! ## Calls -/

/-- In each of the three ways the payer pays the target or nobody pays. -/
theorem Store.Made.confined {program target payer : Address} {minimum : UInt64} {before after : Ledger}
    (h : Store.Made program target payer minimum before after) :
    Ledger.Confined (· = payer) target before after := by
  cases h with
  | unfunded _ _ hpay => exact (Ledger.Confined.allot before program _).trans (.pay hpay)
  | toppedUp _ _ _ hpay => exact (Ledger.Confined.pay hpay).trans (.allot _ program _)
  | funded _ _ _ => exact .allot before program _

namespace Program

/-- Of a call that succeeds, only one that establishes has a payer, and that is its signer. -/
theorem Outcome.confined {env : Environment} {ledger : Ledger} {i : Instruction} {c : Command}
    {report : Report} (h : Outcome env ledger i c report) :
    Ledger.Confined (fun a => (∃ networkId, c = .establish networkId) ∧ i.signer? = some a)
      recordAddress ledger report.ledger := by
  cases h with
  | @establish networkId record payer now created haccounts haccepted htimed hcreate =>
      obtain ⟨haddress, hsigned, hsecond⟩ := establishAccounts_eq_ok haccounts
      obtain ⟨_, _, made, _, hmade, _, hledger, _⟩ := Store.create_eq_ok hcreate
      rw [haddress] at hmade hledger
      rw [hledger]
      refine (hmade.confined.trans (.inscribe made _)).mono fun a ha => ?_
      rw [ha]
      exact ⟨⟨networkId, rfl⟩, Instruction.signer?_eq_some_iff.2 ⟨payer, hsecond, hsigned, rfl⟩⟩
  | @amend a _ _ r _ _ _ _ _ =>
      unfold Amendment.rewrite
      exact .set_target ledger rfl rfl
  | query _ _ => exact .refl ledger

end Program

/-! ## Deeds -/

namespace Deed

/-- The deed establishes the identity, and the one who signs it is its founder. -/
def FoundedBy (d : Deed) (a : Address) : Prop :=
  d.establishes = true ∧ d.signer? = some a ∧ ∃ answer, d.report.result = .ok answer

/-- The deed is one of the framework that was passed the account as writable. -/
def Opens (d : Deed) (a : Address) : Prop :=
  d.instruction.ForFramework ∧
    ∃ mention ∈ d.instruction.accounts, mention.address = a ∧ mention.writable = true

/-- The deed is one of the framework, and the account is the framework's own. -/
def Rewrites (d : Deed) (a : Address) : Prop :=
  d.instruction.ForFramework ∧ (Framework.Claims Program.id (d.ledger a) ∨ a ∈ Framework.homes Program.id)

/-- The deed is one of the framework, and the account is the framework's own or has no data and has signed. -/
def DrawsOn (d : Deed) (a : Address) : Prop :=
  d.instruction.ForFramework ∧ (Framework.Claims Program.id (d.ledger a) ∨
    (d.ledger a).data = [] ∧
      ∃ mention ∈ d.instruction.accounts, mention.address = a ∧ mention.signer = true)

/-- What has become of the accounts has been done by the deeds. -/
structure AccountedFor (deeds : List Deed) (before after : Ledger) : Prop where
  changed : ∀ a, after a ≠ before a → a = recordAddress ∨ ∃ d ∈ deeds, d.FoundedBy a ∨ d.Opens a
  lamportsOnly : ∀ a, a ≠ recordAddress → (∀ d ∈ deeds, ¬ d.Rewrites a) →
    { after a with lamports := (before a).lamports } = before a
  total : after.total = before.total
  le_record : (∀ d ∈ deeds, ¬ d.DrawsOn recordAddress) →
    (before recordAddress).lamports ≤ (after recordAddress).lamports
  moved : (∃ a, (after a).lamports ≠ (before a).lamports) →
    ∃ d ∈ deeds, (∃ a, d.FoundedBy a) ∨ d.instruction.ForFramework
  executable : ∀ a, (after a).executable = (before a).executable

namespace AccountedFor

theorem nil (ledger : Ledger) : AccountedFor [] ledger ledger where
  changed _ hchanged := absurd rfl hchanged
  lamportsOnly _ _ _ := rfl
  total := rfl
  le_record _ := UInt64.le_refl _
  moved := fun ⟨_, hmoved⟩ => absurd rfl hmoved
  executable _ := rfl

theorem cons {d : Deed} {rest : List Deed} {before between after : Ledger}
    (h : AccountedFor [d] before between) (h' : AccountedFor rest between after) :
    AccountedFor (d :: rest) before after where
  changed a hchanged := by
    by_cases hfirst : between a = before a
    · rw [← hfirst] at hchanged
      refine (h'.changed a hchanged).imp_right ?_
      rintro ⟨later, hlater, hdone⟩
      exact ⟨later, List.mem_cons_of_mem _ hlater, hdone⟩
    · refine (h.changed a hfirst).imp_right ?_
      rintro ⟨_, hd, hdone⟩
      exact ⟨d, List.mem_cons_self .., List.mem_singleton.1 hd ▸ hdone⟩
  lamportsOnly a ha hnone := by
    obtain ⟨hd, hrest⟩ := List.forall_mem_cons.1 hnone
    have hfirst := h.lamportsOnly a ha (List.forall_mem_singleton.2 hd)
    rw [← h'.lamportsOnly a ha hrest] at hfirst
    exact hfirst
  total := h'.total.trans h.total
  le_record hnone := by
    obtain ⟨hd, hrest⟩ := List.forall_mem_cons.1 hnone
    exact UInt64.le_trans (h.le_record (List.forall_mem_singleton.2 hd)) (h'.le_record hrest)
  moved := by
    rintro ⟨a, hmoved⟩
    by_cases hfirst : (between a).lamports = (before a).lamports
    · rw [← hfirst] at hmoved
      obtain ⟨later, hlater, hdone⟩ := h'.moved ⟨a, hmoved⟩
      exact ⟨later, List.mem_cons_of_mem _ hlater, hdone⟩
    · obtain ⟨_, hd, hdone⟩ := h.moved ⟨a, hfirst⟩
      exact ⟨d, List.mem_cons_self .., List.mem_singleton.1 hd ▸ hdone⟩
  executable a := (h'.executable a).trans (h.executable a)

/-- A command changes the record's account and takes lamports from its founder. -/
theorem of_confined {d : Deed} {after : Ledger}
    (h : Ledger.Confined d.FoundedBy recordAddress d.ledger after) : AccountedFor [d] d.ledger after where
  changed a hchanged := by
    by_contra hother
    rw [not_or] at hother
    refine hchanged (h.others a hother.1 fun hfounded => hother.2 ?_)
    exact ⟨d, List.mem_singleton_self d, Or.inl hfounded⟩
  lamportsOnly a ha _ := h.lamportsOnly a ha
  total := h.total
  le_record _ := h.le_target
  moved := by
    rintro ⟨a, hmoved⟩
    by_contra hnone
    refine hmoved (h.still (fun payer hfounded => hnone ?_) a)
    exact ⟨d, List.mem_singleton_self d, Or.inl ⟨payer, hfounded⟩⟩
  executable := h.executable

/-- The framework changes what it was passed, and leaves the total as it is. -/
theorem of_answered {d : Deed} (h : Answered d.ledger d.instruction d.report) :
    AccountedFor [d] d.ledger d.report.ledger where
  changed a hchanged := by
    obtain ⟨mention, hmention, haddress, hwritable⟩ := h.disciplined.passed a hchanged
    exact Or.inr ⟨d, List.mem_singleton_self d, Or.inr ⟨h.meant, mention, hmention, haddress, hwritable⟩⟩
  lamportsOnly a _ hnone := by
    have hother := hnone d (List.mem_singleton_self d)
    have hunclaimed : ¬ Framework.Claims Program.id (d.ledger a) := fun hclaims =>
      hother ⟨h.meant, Or.inl hclaims⟩
    have hcontent := h.disciplined.content a hunclaimed fun hhome => hother ⟨h.meant, Or.inr hhome⟩
    have hexecutable := h.disciplined.executable a
    exact Account.ext rfl hcontent.owner hcontent.data hexecutable
  total := by
    have hall := h.disciplined.together Finset.univ.toList (Finset.nodup_toList _)
      fun mention _ => Finset.mem_toList.2 (Finset.mem_univ mention.address)
    rw [Ledger.total_eq_lamportsOf, Ledger.total_eq_lamportsOf]
    exact hall
  le_record hnone := by
    have hother := hnone d (List.mem_singleton_self d)
    refine UInt64.not_lt.1 fun hless => hother ⟨h.meant, ?_⟩
    exact h.disciplined.payers recordAddress hless
  moved _ := ⟨d, List.mem_singleton_self d, Or.inr h.meant⟩
  executable := h.disciplined.executable

/-- Whatever has succeeded is one or the other. -/
theorem of_ok {d : Deed} {answer : Option Bytes} (h : d.report.result = .ok answer) :
    AccountedFor [d] d.ledger d.report.ledger := by
  obtain ⟨_, ⟨c, hcommand, houtcome⟩ | hanswered⟩ := success_cases h
  · refine of_confined (houtcome.confined.mono ?_)
    rintro a ⟨hestablish, hsigner⟩
    exact ⟨(Instruction.establishes_iff hcommand).2 hestablish, hsigner, answer, h⟩
  · exact of_answered hanswered

end AccountedFor

end Deed

/-! ## Transactions -/

namespace Transaction

theorem accountedFor {env : Environment} : {t : Transaction} → {ledger after : Ledger} →
    (run env ledger t).2 = some after → Deed.AccountedFor (t.deeds env ledger) ledger after
  | [], ledger, _, h => by
      cases h
      exact .nil ledger
  | i :: _, ledger, _, h => by
      obtain ⟨⟨answer, hok⟩, hrest, _⟩ := run_cons_eq_some h
      exact (Deed.AccountedFor.of_ok (d := ⟨env, ledger, i⟩) hok).cons (accountedFor hrest)

/-- **What a transaction leaves alone.** One that commits has changed nothing but the record's account, the
lamports of who founded the record in it, and what it passed to the framework as writable; there, owner and
data only of what is the framework's own. It makes and destroys no lamports, takes none from the record's
account unless the framework draws on it, moves none unless the record is founded or the framework asked, and
makes nothing executable. One that does not commit has changed nothing. -/
theorem changes_confined (t : Transaction) (env : Environment) (ledger : Ledger) :
    ((t.submit env ledger).1.committed = true →
      (∀ a, (t.submit env ledger).2 a ≠ ledger a →
        a = recordAddress ∨ ∃ d ∈ t.deeds env ledger, d.FoundedBy a ∨ d.Opens a) ∧
      (∀ a, a ≠ recordAddress → (∀ d ∈ t.deeds env ledger, ¬ d.Rewrites a) →
        { (t.submit env ledger).2 a with lamports := (ledger a).lamports } = ledger a) ∧
      (t.submit env ledger).2.total = ledger.total ∧
      ((∀ d ∈ t.deeds env ledger, ¬ d.DrawsOn recordAddress) →
        (ledger recordAddress).lamports ≤ ((t.submit env ledger).2 recordAddress).lamports) ∧
      ((∃ a, ((t.submit env ledger).2 a).lamports ≠ (ledger a).lamports) →
        ∃ d ∈ t.deeds env ledger, (∃ a, d.FoundedBy a) ∨ d.instruction.ForFramework) ∧
      ∀ a, ((t.submit env ledger).2 a).executable = (ledger a).executable) ∧
    ((t.submit env ledger).1.committed = false → (t.submit env ledger).2 = ledger) := by
  refine ⟨fun hcommitted => ?_, ledger_of_not_committed⟩
  have h := accountedFor (submit_of_committed hcommitted).1
  exact ⟨h.changed, h.lamportsOnly, h.total, h.le_record, h.moved, h.executable⟩

/-- Where the framework makes a buffer, an account has changed that neither is the record's nor has founded
it. -/
theorem makeBuffer_changes_other :
    ¬ ∀ (t : Transaction) (env : Environment) (ledger : Ledger),
      (t.submit env ledger).1.committed = true → ∀ a, (t.submit env ledger).2 a ≠ ledger a →
        a = recordAddress ∨ ∃ d ∈ t.deeds env ledger, d.FoundedBy a := by
  intro hall
  rcases hall [.makeBuffer (Address.ofByte 2)] Environment.default
    (Ledger.fresh.set (Address.ofByte 2) .vacant) (by decide +kernel) (Address.ofByte 2)
    (by decide +kernel) with hrecord | ⟨d, hd, hfounds, _⟩
  · revert hrecord
    decide
  · have hmeant : (Instruction.makeBuffer (Address.ofByte 2)).ForFramework := by decide
    rw [List.mem_singleton.1 hd, Deed.establishes, Instruction.establishes_of_forFramework hmeant] at hfounds
    cases hfounds

/-- The first of the people founds the record. -/
def founding : Transaction := [(Command.establish "solana").instruction (Address.ofByte 1)]

/-- The first of the people founds the record twice, and the second time fails when lamports have moved
already. -/
def foundingTwice : Transaction := founding ++ founding

/-- Founding the record takes the founder's lamports and gives them to the record; founding it twice
takes none. -/
theorem changes_confined_small :
    (founding.submit Chain.small.env Chain.small.ledger).1.committed = true ∧
      (∃ a, ((founding.submit Chain.small.env Chain.small.ledger).2 a).lamports ≠
        (Chain.small.ledger a).lamports) ∧
      (∃ d ∈ founding.deeds Chain.small.env Chain.small.ledger, ∃ a, d.FoundedBy a) ∧
      (founding.submit Chain.small.env Chain.small.ledger).2.total = Chain.small.ledger.total ∧
      (foundingTwice.submit Chain.small.env Chain.small.ledger).1.committed = false ∧
      (foundingTwice.submit Chain.small.env Chain.small.ledger).2 = Chain.small.ledger := by
  have hcommitted : (founding.submit Chain.small.env Chain.small.ledger).1.committed = true := by
    decide +kernel
  have hmoved : ((founding.submit Chain.small.env Chain.small.ledger).2 (Address.ofByte 1)).lamports ≠
      (Chain.small.ledger (Address.ofByte 1)).lamports := by
    decide +kernel
  have hrefused : (foundingTwice.submit Chain.small.env Chain.small.ledger).1.committed = false := by
    decide +kernel
  have hconfined := (changes_confined founding Chain.small.env Chain.small.ledger).1 hcommitted
  have hunchanged := (changes_confined foundingTwice Chain.small.env Chain.small.ledger).2 hrefused
  obtain ⟨_, _, htotal, _, hfounded, _⟩ := hconfined
  have hown : ∀ d ∈ founding.deeds Chain.small.env Chain.small.ledger, ¬ d.instruction.ForFramework := by
    decide +kernel
  obtain ⟨d, hd, hdone⟩ := hfounded ⟨_, hmoved⟩
  have hfounds := hdone.resolve_right (hown d hd)
  exact ⟨hcommitted, ⟨_, hmoved⟩, ⟨d, hd, hfounds⟩, htotal, hrefused, hunchanged⟩

end Transaction

end NetIdentity
