import NetIdentity.Action
import NetIdentity.Rent

/-!
# The framework around the program

A program that is built with the framework can carry a description of its own interface, in accounts that
belong to the program. The instructions that look after these accounts come with the framework: data that
starts with its mark is meant for the framework, which answers without asking the program.

How it answers is the framework's own affair, and nothing here depends on it. A `Framework` is any way to
answer that keeps to its own accounts: those of the program that hold nothing yet, or a description
(`Claims`), and those at its `homes`. What it does to all others is bounded by `Disciplined`. Nor does it look
at more accounts than its instructions declare (`Framework.declared`).
-/

namespace NetIdentity

namespace Framework

open NetIdentity.Action

/-! ## Marks -/

/-- The front of data that is meant for the framework. -/
def mark : Bytes := [0x40, 0xf4, 0xbc, 0x78, 0xa7, 0xe9, 0x69, 0x0a]

theorem mark_eq_digest : mark = ((Sha256.hash (utf8 "anchor:idl")).take 8).reverse := by
  decide +kernel

/-- The front of an account that holds a description. -/
def accountMark : Bytes := [0x18, 0x46, 0x62, 0xbf, 0x3a, 0x90, 0x7b, 0x9e]

theorem accountMark_eq_digest : accountMark = (Sha256.hash (utf8 "internal:IdlAccount")).take 8 := by
  decide +kernel

/-- The front of an account that holds nothing yet. -/
def blank : Bytes := List.replicate 8 0

/-! ## What belongs to it -/

/-- The account is the program's, and holds nothing yet or a description. -/
def Claims (program : Address) (account : Account) : Prop :=
  account.owner = program ∧ (account.data.take 8 = blank ∨ account.data.take 8 = accountMark)

instance (program : Address) (account : Account) : Decidable (Claims program account) :=
  inferInstanceAs (Decidable (_ ∧ _))

/-- Whether an account is claimed can be seen from its owner and its data. -/
theorem Claims.congr {program : Address} {x y : Account} (h : x.SameContent y) :
    Claims program x ↔ Claims program y := by
  rw [Claims, Claims, h.owner, h.data]

/-- The address that the framework signs for, and the one that a seed names from there, at which it makes the
account of the description. -/
def homes (program : Address) : List Address :=
  match Address.findDerived? [] program with
  | some (base, _) => [base, base.withSeed (utf8 "anchor:idl") program]
  | none => []

/-! ## What it may do -/

/-- What an instruction of the framework that succeeds leaves alone. It changes accounts that it was passed
as writable; owners and data only of its own accounts; it takes lamports from these, and from who has no data
and has signed; no lamports come or go; and there are no events in what it logs. -/
structure Disciplined (program : Address) (mentions : List Mention) (p q : Progress) : Prop where
  passed : ∀ a, q.ledger a ≠ p.ledger a →
    ∃ mention ∈ mentions, mention.address = a ∧ mention.writable = true
  executable : ∀ a, (q.ledger a).executable = (p.ledger a).executable
  content : ∀ a, ¬ Claims program (p.ledger a) → a ∉ homes program →
    (q.ledger a).SameContent (p.ledger a)
  payers : ∀ a, (q.ledger a).lamports < (p.ledger a).lamports →
    Claims program (p.ledger a) ∨
      (p.ledger a).data = [] ∧ ∃ mention ∈ mentions, mention.address = a ∧ mention.signer = true
  together : ∀ addresses : List Address, addresses.Nodup →
    (∀ mention ∈ mentions, mention.address ∈ addresses) →
    q.ledger.lamportsOf addresses = p.ledger.lamportsOf addresses
  quiet : ∀ payload, LogEntry.event payload ∈ q.log → LogEntry.event payload ∈ p.log

end Framework

/-- How many accounts an instruction of the framework declares at most. -/
def Framework.accountLimit : Nat := 5

/-- A way to answer the instructions of the framework, given the accounts and what follows the mark. Accounts
that are listed behind the declared ones are not looked at. -/
structure Framework where
  answer : (program : Address) → Option Rent → List Mention → Bytes → Action Unit
  declared : ∀ {program rent mentions argument} (extra : List Mention),
    Framework.accountLimit ≤ mentions.length →
      answer program rent (mentions ++ extra) argument = answer program rent mentions argument
  disciplined : ∀ {program rent mentions argument p q},
    answer program rent mentions argument p = .ok () q → Framework.Disciplined program mentions p q

end NetIdentity
