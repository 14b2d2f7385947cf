/-!
# Byte strings

Account data, instruction data, return data and event payloads are all byte strings. They are kept as
lists, so that reading a field is pattern matching and every law about a layout is a law about `++`,
`take` and `drop`.

Integers are written with their least significant byte first. `fill` is the one way in which stored data
changes: pieces are written one after another over the front of a buffer whose length never changes, until
one of them does not fit. All in all that is the pieces' bytes, cut off at the end of the buffer, with what
they do not reach left as it was (`fill_eq`).
-/

namespace NetIdentity

abbrev Bytes := List UInt8

namespace Bytes

/-! ## Integers -/

/-- The low `width` bytes of a number, least significant first. -/
def ofNat : (width n : Nat) → Bytes
  | 0, _ => []
  | width + 1, n => UInt8.ofNat n :: ofNat width (n / 256)

/-- How many numbers so many bytes can tell apart. -/
def capacity : (width : Nat) → Nat
  | 0 => 1
  | width + 1 => 256 * capacity width

/-- The number whose bytes are given, least significant first. -/
def toNat : Bytes → Nat
  | [] => 0
  | byte :: rest => byte.toNat + 256 * toNat rest

def toNatBig (bytes : Bytes) : Nat :=
  bytes.foldl (fun n byte => 256 * n + byte.toNat) 0

@[simp] theorem length_ofNat : (width n : Nat) → (ofNat width n).length = width
  | 0, _ => rfl
  | width + 1, n => by simp [ofNat, length_ofNat width]

/-- A number that fits is read back from its bytes. -/
theorem toNat_ofNat : (width n : Nat) → n < capacity width → toNat (ofNat width n) = n
  | 0, n, h => by
      have hzero : n = 0 := Nat.lt_one_iff.1 h
      rw [hzero]
      rfl
  | width + 1, n, h => by
      have hdiv : n / 256 < capacity width := Nat.div_lt_of_lt_mul h
      simp only [ofNat, toNat, toNat_ofNat width (n / 256) hdiv, UInt8.toNat_ofNat']
      omega

/-- So many bytes hold no greater number. -/
theorem toNat_lt : (bytes : Bytes) → toNat bytes < capacity bytes.length
  | [] => Nat.zero_lt_one
  | byte :: rest => by
      have hbyte := byte.toNat_lt
      have hrest := toNat_lt rest
      simp only [toNat, List.length_cons, capacity]
      omega

/-- Reading loses no byte: as many bytes written again are the ones read. -/
theorem ofNat_toNat : (bytes : Bytes) → ofNat bytes.length (toNat bytes) = bytes
  | [] => rfl
  | byte :: rest => by
      have hbyte := byte.toNat_lt
      have hhead : UInt8.ofNat (byte.toNat + 256 * toNat rest) = byte := by
        apply UInt8.toNat_inj.1
        simp only [UInt8.toNat_ofNat']
        omega
      have htail : (byte.toNat + 256 * toNat rest) / 256 = toNat rest := by omega
      simp only [List.length_cons, toNat, ofNat, hhead, htail, ofNat_toNat rest]

/-! ## Buffers -/

/-- Write pieces over the front of a buffer, one after another, and say whether all of them fit. Of the
first piece that does not fit, as much is written as there is room for. -/
def fill (buffer : Bytes) : List Bytes → Bytes × Bool
  | [] => (buffer, true)
  | piece :: rest =>
      if piece.length ≤ buffer.length then
        let (after, complete) := fill (buffer.drop piece.length) rest
        (piece ++ after, complete)
      else (piece.take buffer.length, false)

/-- A buffer whose front has been replaced by some bytes, as far as they fit. -/
def overwrite (buffer bytes : Bytes) : Bytes :=
  bytes.take buffer.length ++ buffer.drop bytes.length

@[simp] theorem length_overwrite (buffer bytes : Bytes) :
    (overwrite buffer bytes).length = buffer.length := by
  simp [overwrite]
  omega

/-- How bytes are cut into pieces does not show in the buffer, nor in whether they fit. -/
theorem fill_eq (buffer : Bytes) (pieces : List Bytes) :
    fill buffer pieces =
      (overwrite buffer pieces.flatten, decide (pieces.flatten.length ≤ buffer.length)) := by
  induction pieces generalizing buffer with
  | nil => simp [fill, overwrite]
  | cons piece rest ih =>
      by_cases h : piece.length ≤ buffer.length
      · simp only [fill, h, if_true, ih, List.flatten_cons, List.length_append, List.length_drop, overwrite,
          Prod.mk.injEq, decide_eq_decide]
        constructor
        · rw [List.take_append, List.take_of_length_le h, List.append_assoc, List.drop_drop]
        · omega
      · simp only [fill, h, if_false, List.flatten_cons, List.length_append, overwrite, Prod.mk.injEq]
        constructor
        · rw [List.take_append_of_le_length (by omega), List.drop_of_length_le (by simp; omega),
            List.append_nil]
        · symm
          simp
          omega

/-! ## Marks -/

/-- Where each value has a mark of its own, the search for a mark finds the value that it belongs to. -/
theorem find?_mark_eq_some_iff {α : Type} {all : List α} {mark : α → Bytes} (mem_all : ∀ a, a ∈ all)
    (mark_inj : ∀ {a b}, mark a = mark b ↔ a = b) {front : Bytes} {a : α} :
    (all.find? fun b => front = mark b) = some a ↔ front = mark a := by
  constructor
  · intro h
    simpa using List.find?_some h
  · intro h
    cases hfind : all.find? fun b => front = mark b with
    | none =>
        have hmissing := List.find?_eq_none.1 hfind a (mem_all a)
        simp [h] at hmissing
    | some b =>
        have hmark : front = mark b := by simpa using List.find?_some hfind
        rw [mark_inj.1 (hmark.symm.trans h)]

/-! ## Hexadecimal text -/

def hexDigit (value : Nat) : Char :=
  if value < 10 then Char.ofNat (48 + value) else Char.ofNat (87 + value)

def hexValue? (digit : Char) : Option Nat :=
  if '0' ≤ digit ∧ digit ≤ '9' then some (digit.toNat - 48)
  else if 'a' ≤ digit ∧ digit ≤ 'f' then some (digit.toNat - 87)
  else none

/-- Two digits a byte, high half first. -/
def toHex (bytes : Bytes) : String :=
  String.ofList (bytes.flatMap fun byte => [hexDigit (byte.toNat / 16), hexDigit (byte.toNat % 16)])

/-- The bytes that a list of digits spells, if it spells any. -/
def ofHexDigits? : List Char → Option Bytes
  | [] => some []
  | high :: low :: rest => do
      let high ← hexValue? high
      let low ← hexValue? low
      let rest ← ofHexDigits? rest
      some (UInt8.ofNat (16 * high + low) :: rest)
  | [_] => none

def ofHex? (text : String) : Option Bytes :=
  ofHexDigits? text.toList

end Bytes

end NetIdentity
