import NetIdentity.Command
import NetIdentity.Proofs.Rewriting

/-!
# Where the fields of a record stand

Three fields of a record can be amended, and each stands in a window of its own: it starts at `offset`
and is `width` bytes wide. The network id stands between them, so the fee is found at a place that depends
on how long the id is, but on nothing else of the record. What stands in a window are the bytes of its field
(`Field.stored_eq`).

An amendment rewrites the whole record. Since it is written as it was read, only the window of the amended
field can come out different (`Amendment.getElem?_rewrite`).
-/

namespace NetIdentity

/-- Where a window has got other bytes, those before and behind it are the same. -/
theorem Bytes.getElem?_window {front before after rest : Bytes} (hwidth : after.length = before.length)
    {k : Nat} (hk : ¬ (front.length ≤ k ∧ k < front.length + before.length)) :
    (front ++ (after ++ rest))[k]? = (front ++ (before ++ rest))[k]? := by
  by_cases hfront : k < front.length
  · rw [List.getElem?_append_left hfront, List.getElem?_append_left hfront]
  · have hbehind : before.length ≤ k - front.length := by omega
    rw [List.getElem?_append_right (Nat.not_lt.1 hfront), List.getElem?_append_right (Nat.not_lt.1 hfront),
      List.getElem?_append_right hbehind, List.getElem?_append_right (hwidth ▸ hbehind), hwidth]

namespace Field

def offset : Field → Record → Nat
  | .admin, _ => 8
  | .feeHandler, _ => 40
  | .protocolFee, r => 76 + r.networkId.utf8ByteSize

def width : Field → Nat
  | .admin => 32
  | .feeHandler => 32
  | .protocolFee => 8

/-- The byte at `k` belongs to the field. -/
def Covers (f : Field) (r : Record) (k : Nat) : Prop := f.offset r ≤ k ∧ k < f.offset r + f.width

instance (f : Field) (r : Record) (k : Nat) : Decidable (f.Covers r k) :=
  inferInstanceAs (Decidable (_ ∧ _))

/-- The bytes of the field. -/
def content : Field → Record → Bytes
  | .admin, r => encode r.admin
  | .feeHandler, r => encode r.feeHandler
  | .protocolFee, r => encode r.protocolFee

/-- What is stored before the field. -/
def front : Field → Record → Bytes
  | .admin, _ => Record.discriminator
  | .feeHandler, r => Record.discriminator ++ encode r.admin
  | .protocolFee, r =>
      Record.discriminator ++ (encode r.admin ++ (encode r.feeHandler ++ encode r.networkId))

/-- What is stored behind the field. -/
def back : Field → Record → Bytes
  | .admin, r =>
      encode r.feeHandler ++ (encode r.networkId ++ (encode r.protocolFee ++
        (encode r.createdAt ++ encode r.bump)))
  | .feeHandler, r =>
      encode r.networkId ++ (encode r.protocolFee ++ (encode r.createdAt ++ encode r.bump))
  | .protocolFee, r => encode r.createdAt ++ encode r.bump

theorem stored_eq (f : Field) (r : Record) : r.stored = f.front r ++ (f.content r ++ f.back r) := by
  cases f <;> simp only [Record.stored, front, content, back, encode, List.append_assoc]

theorem length_content (f : Field) (r : Record) : (f.content r).length = f.width := by
  cases f with
  | admin => exact r.admin.length_bytes
  | feeHandler => exact r.feeHandler.length_bytes
  | protocolFee => exact Bytes.length_ofNat _ _

theorem length_front (f : Field) (r : Record) : (f.front r).length = f.offset r := by
  cases f with
  | admin => rfl
  | feeHandler =>
      rw [front, List.length_append, Record.length_discriminator]
      exact congrArg (8 + ·) r.admin.length_bytes
  | protocolFee =>
      simp only [front, offset, encode, List.length_append, Record.length_discriminator,
        Record.discriminatorSize, Address.length_bytes, Bytes.length_ofNat, length_utf8]
      omega

theorem offset_congr {r s : Record} (f : Field) (h : s.networkId = r.networkId) :
    f.offset s = f.offset r := by
  cases f with
  | admin => rfl
  | feeHandler => rfl
  | protocolFee => rw [offset, offset, h]

theorem covers_congr {r s : Record} {k : Nat} (f : Field) (h : s.networkId = r.networkId) :
    f.Covers s k ↔ f.Covers r k := by
  rw [Covers, Covers, f.offset_congr h]

end Field

namespace Amendment

theorem front_apply (a : Amendment) (r : Record) : a.field.front (a.apply r) = a.field.front r := by
  cases a <;> rfl

theorem back_apply (a : Amendment) (r : Record) : a.field.back (a.apply r) = a.field.back r := by
  cases a <;> rfl

variable {a : Amendment} {r : Record} {account : Account}

theorem length_data_rewrite (h : r.stored <+: account.data) :
    (a.rewrite r account).data.length = account.data.length := by
  obtain ⟨rest, hdata⟩ := h
  rw [data_rewrite hdata.symm, ← hdata, List.length_append, List.length_append, length_stored_apply]

/-- Rewriting the record changes no byte outside the window of the amended field. -/
theorem getElem?_rewrite {k : Nat} (h : r.stored <+: account.data) (hk : ¬ a.field.Covers r k) :
    (a.rewrite r account).data[k]? = account.data[k]? := by
  obtain ⟨rest, hdata⟩ := h
  have hwidth : (a.field.content (a.apply r)).length = (a.field.content r).length := by
    rw [Field.length_content, Field.length_content]
  rw [data_rewrite hdata.symm, ← hdata, a.field.stored_eq, a.field.stored_eq r, a.front_apply, a.back_apply]
  simp only [List.append_assoc]
  refine Bytes.getElem?_window hwidth ?_
  rw [Field.length_front, Field.length_content]
  exact hk

end Amendment

end NetIdentity
