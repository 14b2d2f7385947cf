import NetIdentity.Address
import NetIdentity.Utf8

/-!
# Binary encoding

One encoding serves accounts, instruction arguments, events and return data: integers have their fixed
width with the least significant byte first, addresses are their bytes, a text is preceded by the number
of its bytes, and fields simply follow each other.

A decoder reads its value from the front and hands back what is left, so decoders compose in the order of
the fields. It fails in two ways: the bytes run out, or they are all there and say nothing.
-/

namespace NetIdentity

/-- Why bytes do not start with a value. -/
inductive DecodeError where
  /-- The bytes end before the value does. -/
  | truncated
  /-- The bytes of the value are there, but stand for nothing. -/
  | malformed
deriving Repr, DecidableEq

/-- Reads a value from the front of some bytes and leaves the bytes after it. -/
abbrev Decoder := StateT Bytes (Except DecodeError)

/-- Values that are written as bytes and read from the front of bytes. -/
class Codec (α : Type) where
  encode : α → Bytes
  decode : Decoder α

export Codec (encode decode)

namespace Decoder

variable {α β : Type}

/-- Cut `width` bytes off the front. -/
def take (width : Nat) : Decoder Bytes := fun data =>
  if data.length < width then .error .truncated else .ok (data.take width, data.drop width)

theorem take_append {width : Nat} {front rest : Bytes} (h : front.length = width) :
    take width (front ++ rest) = .ok (front, rest) := by
  subst h
  simp [take]

theorem take_eq_ok {width : Nat} {data front rest : Bytes} :
    take width data = .ok (front, rest) ↔ front.length = width ∧ data = front ++ rest := by
  constructor
  · intro h
    unfold take at h
    split at h
    · simp at h
    · simp only [Except.ok.injEq, Prod.mk.injEq] at h
      obtain ⟨rfl, rfl⟩ := h
      simp
      omega
  · rintro ⟨h, rfl⟩
    exact take_append h

/-- Two decoders in a row: the second one reads what the first one leaves. -/
theorem bind_eq_ok {first : Decoder α} {next : α → Decoder β} {data rest : Bytes} {y : β} :
    (first >>= next) data = .ok (y, rest) ↔
      ∃ x between, first data = .ok (x, between) ∧ next x between = .ok (y, rest) := by
  show ((first data).bind fun out => next out.1 out.2) = .ok (y, rest) ↔ _
  cases first data with
  | error _ => simp [Except.bind]
  | ok out =>
      obtain ⟨x, between⟩ := out
      simp only [Except.bind, Except.ok.injEq, Prod.mk.injEq]
      constructor
      · intro h
        exact ⟨x, between, ⟨rfl, rfl⟩, h⟩
      · rintro ⟨_, _, ⟨rfl, rfl⟩, h⟩
        exact h

theorem bind_of_ok {first : Decoder α} {next : α → Decoder β} {data rest : Bytes} {x : α}
    (h : first data = .ok (x, rest)) : (first >>= next) data = next x rest := by
  show ((first data).bind fun out => next out.1 out.2) = _
  rw [h]
  rfl

/-- What the first decoder fails on, the second one does not see. -/
theorem bind_of_error {first : Decoder α} {next : α → Decoder β} {data : Bytes} {e : DecodeError}
    (h : first data = .error e) : (first >>= next) data = .error e := by
  show ((first data).bind fun out => next out.1 out.2) = _
  rw [h]
  rfl

/-- Read a value that takes all of the bytes. -/
def all (decoder : Decoder α) (data : Bytes) : Except DecodeError α :=
  match decoder data with
  | .ok (x, []) => .ok x
  | .ok (_, _ :: _) => .error .malformed
  | .error e => .error e

theorem all_eq_ok_iff {decoder : Decoder α} {data : Bytes} {x : α} :
    decoder.all data = .ok x ↔ decoder data = .ok (x, []) := by
  unfold all
  constructor
  · intro h
    split at h
    · next found hdecode =>
      cases h
      exact hdecode
    · cases h
    · cases h
  · intro h
    rw [h]

/-- Bytes that are left over are found last, and spoil a value that has been read. -/
theorem all_eq_error_iff {decoder : Decoder α} {data : Bytes} {e : DecodeError} :
    decoder.all data = .error e ↔
      decoder data = .error e ∨ e = .malformed ∧ ∃ x rest, decoder data = .ok (x, rest) ∧ rest ≠ [] := by
  unfold all
  cases decoder data with
  | error other => simp
  | ok out =>
      obtain ⟨x, rest⟩ := out
      cases rest with
      | nil => simp
      | cons byte rest =>
          constructor
          · rintro ⟨⟩
            exact Or.inr ⟨rfl, x, byte :: rest, rfl, List.cons_ne_nil byte rest⟩
          · rintro (h | ⟨rfl, _⟩)
            · cases h
            · rfl

end Decoder

namespace Codec

/-! ## Integers -/

instance : Codec UInt8 where
  encode n := [n]
  decode
    | [] => .error .truncated
    | byte :: rest => .ok (byte, rest)

instance : Codec UInt32 where
  encode n := Bytes.ofNat 4 n.toNat
  decode := do
    let bytes ← Decoder.take 4
    return UInt32.ofNat bytes.toNat

instance : Codec UInt64 where
  encode n := Bytes.ofNat 8 n.toNat
  decode := do
    let bytes ← Decoder.take 8
    return UInt64.ofNat bytes.toNat

/-- A signed integer is written as the unsigned one with the same bits. -/
instance : Codec Int64 where
  encode n := encode n.toUInt64
  decode := do
    let n : UInt64 ← decode
    return n.toInt64

/-! ## Addresses and texts -/

def ofContent (content : Bytes) : Decoder String :=
  match ofUtf8? content with
  | some text => pure text
  | none => throw .malformed

instance : Codec Address where
  encode address := address.bytes
  decode data :=
    if h : data.length < 32 then .error .truncated
    else .ok (⟨data.take 32, by simp; omega⟩, data.drop 32)

/-- The length comes first, then the content; the content is looked at only when all of it is there. -/
instance : Codec String where
  encode text := encode (UInt32.ofNat text.utf8ByteSize) ++ utf8 text
  decode := do
    let length : UInt32 ← decode
    let content ← Decoder.take length.toNat
    ofContent content

/-! ## Values that may be absent -/

instance {α : Type} [Codec α] : Codec (Option α) where
  encode
    | none => [0]
    | some value => 1 :: encode value
  decode := do
    let tag : UInt8 ← decode
    if tag = 0 then return none
    else if tag = 1 then return some (← decode)
    else throw .malformed

end Codec

end NetIdentity
