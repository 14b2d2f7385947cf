import NetIdentity.Ledger

/-!
# Payments

A payment takes lamports from one account and then gives them to another one, which may be the same.
`CanPay` says when that can be done. A payment moves lamports and nothing else (`MovesLamports.pay`), and
whoever pays, the one who is paid has no less afterwards (`CanPay.le_pay`).
-/

namespace NetIdentity

/-- The account holds no data and has not been given to a program. -/
structure Account.Free (account : Account) : Prop where
  owner : account.owner = Address.systemProgram
  data : account.data = []

namespace Ledger

/-! ## What a payment is -/

def debit (ledger : Ledger) (a : Address) (lamports : UInt64) : Ledger :=
  ledger.set a { ledger a with lamports := (ledger a).lamports - lamports }

def credit (ledger : Ledger) (a : Address) (lamports : UInt64) : Ledger :=
  ledger.set a { ledger a with lamports := (ledger a).lamports + lamports }

def pay (ledger : Ledger) (source target : Address) (lamports : UInt64) : Ledger :=
  (ledger.debit source lamports).credit target lamports

/-- The source has the lamports and no data, and the target has room for them once they are taken. -/
structure CanPay (ledger : Ledger) (source target : Address) (lamports : UInt64) : Prop where
  noData : (ledger source).data = []
  enough : lamports ≤ (ledger source).lamports
  room : ((ledger.debit source lamports) target).lamports.toNat + lamports.toNat < UInt64.size

/-! ## What a payment leaves alone -/

/-- Between the two ledgers nothing but lamports has moved. -/
def MovesLamports (before after : Ledger) : Prop :=
  ∀ a, { after a with lamports := (before a).lamports } = before a

namespace MovesLamports

theorem trans {first second third : Ledger} (h : MovesLamports first second)
    (h' : MovesLamports second third) : MovesLamports first third := by
  intro a
  have ha := h a
  rw [← h' a] at ha
  exact ha

theorem set (ledger : Ledger) (a : Address) (lamports : UInt64) :
    MovesLamports ledger (ledger.set a { ledger a with lamports := lamports }) := by
  intro b
  by_cases hb : b = a
  · subst hb
    rw [set_self]
  · rw [set_of_ne _ _ hb]

/-- A payment touches two accounts, or one account twice, and of them only the lamports. -/
theorem pay (ledger : Ledger) (source target : Address) (lamports : UInt64) :
    MovesLamports ledger (ledger.pay source target lamports) :=
  (set ledger source _).trans (set _ target _)

theorem owner_eq {before after : Ledger} (h : MovesLamports before after) (a : Address) :
    (after a).owner = (before a).owner := by
  rw [← h a]

theorem data_eq {before after : Ledger} (h : MovesLamports before after) (a : Address) :
    (after a).data = (before a).data := by
  rw [← h a]

theorem executable_eq {before after : Ledger} (h : MovesLamports before after) (a : Address) :
    (after a).executable = (before a).executable := by
  rw [← h a]

theorem free_iff {before after : Ledger} (h : MovesLamports before after) (a : Address) :
    (after a).Free ↔ (before a).Free := by
  constructor
  · rintro ⟨howner, hdata⟩
    exact ⟨h.owner_eq a ▸ howner, h.data_eq a ▸ hdata⟩
  · rintro ⟨howner, hdata⟩
    exact ⟨h.owner_eq a ▸ howner, h.data_eq a ▸ hdata⟩

end MovesLamports

/-! ## Amounts -/

theorem lamports_debit {ledger : Ledger} {a : Address} {lamports : UInt64}
    (h : lamports ≤ (ledger a).lamports) :
    (ledger.debit a lamports a).lamports.toNat = (ledger a).lamports.toNat - lamports.toNat := by
  rw [debit, set_self]
  exact UInt64.toNat_sub_of_le _ _ h

theorem lamports_credit {ledger : Ledger} {a : Address} {lamports : UInt64}
    (h : (ledger a).lamports.toNat + lamports.toNat < UInt64.size) :
    (ledger.credit a lamports a).lamports.toNat = (ledger a).lamports.toNat + lamports.toNat := by
  rw [credit, set_self]
  show ((ledger a).lamports + lamports).toNat = _
  rw [UInt64.toNat_add]
  exact Nat.mod_eq_of_lt h

variable {source target : Address} {lamports : UInt64} {ledger : Ledger}

/-- Who pays himself has as much as before, and any other target has more. -/
theorem CanPay.le_pay (h : ledger.CanPay source target lamports) :
    (ledger target).lamports ≤ (ledger.pay source target lamports target).lamports := by
  rw [UInt64.le_iff_toNat_le, pay, lamports_credit h.room]
  by_cases hself : target = source
  · subst hself
    have hle := UInt64.le_iff_toNat_le.1 h.enough
    rw [lamports_debit h.enough]
    omega
  · rw [debit, set_of_ne _ _ hself]
    omega

/-- And no other account has lost more than the target has got. -/
theorem CanPay.together_le_pay {a : Address} (h : ledger.CanPay source target lamports) (ha : a ≠ target) :
    (ledger a).lamports.toNat + (ledger target).lamports.toNat ≤
      (ledger.pay source target lamports a).lamports.toNat +
        (ledger.pay source target lamports target).lamports.toNat := by
  have htarget := UInt64.le_iff_toNat_le.1 h.le_pay
  have hother : ledger.pay source target lamports a = ledger.debit source lamports a := by
    rw [pay, credit, set_of_ne _ _ ha]
  rw [hother]
  by_cases hsource : a = source
  · subst hsource
    have henough := UInt64.le_iff_toNat_le.1 h.enough
    rw [pay, lamports_credit h.room, lamports_debit h.enough, debit, set_of_ne _ _ ha.symm]
    omega
  · rw [debit, set_of_ne _ _ hsource]
    omega

/-- Between two accounts there is nothing more to a payment than the two of them. -/
theorem canPay_iff_of_ne (hne : source ≠ target) :
    ledger.CanPay source target lamports ↔
      (ledger source).data = [] ∧ lamports ≤ (ledger source).lamports ∧
        (ledger target).lamports.toNat + lamports.toNat < UInt64.size := by
  have hdebit : ledger.debit source lamports target = ledger target := set_of_ne _ _ hne.symm
  constructor
  · rintro ⟨hdata, henough, hroom⟩
    rw [hdebit] at hroom
    exact ⟨hdata, henough, hroom⟩
  · rintro ⟨hdata, henough, hroom⟩
    rw [← hdebit] at hroom
    exact ⟨hdata, henough, hroom⟩

theorem CanPay.lamports_pay (h : ledger.CanPay source target lamports) (hne : source ≠ target) :
    (ledger.pay source target lamports target).lamports.toNat =
      (ledger target).lamports.toNat + lamports.toNat := by
  rw [pay, lamports_credit h.room, debit, set_of_ne _ _ hne.symm]

end Ledger

end NetIdentity
