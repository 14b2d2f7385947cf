import NetIdentity.Address
import NetIdentity.Utf8

/-!
# Accounts and the ledger

The ledger gives an account to every address: one that nobody has touched has no lamports, no data, and
belongs to the system program. Two ledgers are the same when they give the same accounts, so what a call
leaves alone is said as an equation.
-/

namespace NetIdentity

@[ext]
structure Account where
  lamports : UInt64
  /-- The program that alone may change the data. -/
  owner : Address
  data : Bytes
  executable : Bool
deriving DecidableEq

def Account.untouched : Account := ⟨0, Address.systemProgram, [], false⟩

/-- The accounts belong to the same program and hold the same data. -/
structure Account.SameContent (x y : Account) : Prop where
  owner : x.owner = y.owner
  data : x.data = y.data

/-- One mention of an account in an instruction. The same account may be mentioned again with other
flags. -/
structure Mention where
  address : Address
  /-- Whether the holder of the address has agreed. -/
  signer : Bool
  writable : Bool
deriving DecidableEq

abbrev Ledger := Address → Account

namespace Ledger

def set (ledger : Ledger) (address : Address) (account : Account) : Ledger :=
  fun a => if a = address then account else ledger a

@[simp] theorem set_self (ledger : Ledger) (address : Address) (account : Account) :
    ledger.set address account address = account := by
  simp [set]

@[simp] theorem set_of_ne (ledger : Ledger) {address a : Address} (account : Account) (h : a ≠ address) :
    ledger.set address account a = ledger a := by
  simp [set, h]

@[simp] theorem set_set (ledger : Ledger) (address : Address) (first second : Account) :
    (ledger.set address first).set address second = ledger.set address second := by
  funext a
  by_cases h : a = address <;> simp [set, h]

@[simp] theorem set_get (ledger : Ledger) (address : Address) :
    ledger.set address (ledger address) = ledger := by
  funext a
  by_cases h : a = address <;> simp [set, h]

/-- The lamports of the listed accounts together. -/
def lamportsOf (ledger : Ledger) : List Address → Nat
  | [] => 0
  | a :: rest => (ledger a).lamports.toNat + ledger.lamportsOf rest

theorem lamportsOf_congr {first second : Ledger} {addresses : List Address}
    (h : ∀ a, (second a).lamports = (first a).lamports) :
    second.lamportsOf addresses = first.lamportsOf addresses := by
  induction addresses with
  | nil => rfl
  | cons a rest ih => rw [lamportsOf, lamportsOf, h a, ih]

def systemAccount : Account where
  lamports := 1
  owner := Address.nativeLoader
  data := utf8 "system_program"
  executable := true

/-- A fresh ledger holds the system program and nothing else. -/
def fresh : Ledger :=
  set (fun _ => Account.untouched) Address.systemProgram systemAccount

end Ledger

end NetIdentity
