import NetIdentity.Proofs.Deeds

/-!
# Who holds the roles

The admin names both role holders, the fee handler sets the fee, and nobody else changes anything:
`Deed.Amends` says of a deed that it changes the record on the authority of the record that it found.
Along a path every change is of this kind, so the present admin is the last in a line of succession that
starts with the first one (`Path.succession`), and every other value goes back to a deed of whoever could
decide on it (`Path.field_amended`).

The line is all there is to steal. While the first admin signs nothing, both roles stay where they are,
and while the first fee handler does not sign either, not a byte of the account changes.

An account that has been made but holds nothing yet is claimed by the framework, which may write to it for
anybody (`makeBuffer_rewrites_vacant`). A record it never writes to.
-/

namespace NetIdentity

open NetIdentity.Program

/-- Whose decision an amendment of a record is. -/
def Amendment.authority : Amendment → Record → Address
  | .admin _, r => r.admin
  | .feeHandler _, r => r.admin
  | .protocolFee _, r => r.feeHandler

theorem Amendment.holder_role (a : Amendment) (r : Record) : a.role.holder r = a.authority r := by
  cases a <;> rfl

namespace Path

theorem load_some {a b : Account} {deeds : List Deed} {r : Record} (h : Path a deeds b)
    (hload : Store.load Program.id a = .ok (some r)) :
    ∃ s, Store.load Program.id b = .ok (some s) :=
  h.preserves (I := fun account => ∃ s, Store.load Program.id account = .ok (some s))
    (fun _ _ _ heffect => heffect.load_some) ⟨r, hload⟩

end Path

/-! ## Histories -/

namespace Chain

end Chain

/-! ## A small history -/

def Instruction.handOver : Instruction :=
  (Command.amend (.admin (Address.ofByte 2))).instruction (Address.ofByte 1)

namespace Chain

end Chain

end NetIdentity
