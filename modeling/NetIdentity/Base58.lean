import NetIdentity.Bytes

/-!
# Base 58

Addresses are shown in base 58: the bytes are one number, most significant first, written with fifty-eight
digits that cannot be taken for one another. The number does not show leading zero bytes, so each of them
is written as a leading `1`, the digit of value zero.
-/

namespace NetIdentity

namespace Base58

/-- The digits in the order of their values: no `0`, `O`, `I` or `l`. -/
def alphabet : List Char :=
  "123456789ABCDEFGHJKLMNPQRSTUVWXYZabcdefghijkmnopqrstuvwxyz".toList

/-- The digits of a number below `58 ^ fuel`, most significant first, in front of those already found.
Zero has no digits. -/
def digits : (fuel n : Nat) → List Char → List Char
  | 0, _, found => found
  | fuel + 1, n, found =>
      if n = 0 then found else digits fuel (n / 58) (alphabet.getD (n % 58) '1' :: found)

/-- The bytes of a number below `256 ^ fuel`, most significant first, in front of those already found. Zero
has no bytes. -/
def digitBytes : (fuel n : Nat) → Bytes → Bytes
  | 0, _, found => found
  | fuel + 1, n, found =>
      if n = 0 then found else digitBytes fuel (n / 256) (UInt8.ofNat n :: found)

/-- The text of a byte string. A byte takes less than two digits. -/
def encode (bytes : Bytes) : String :=
  let zeros := bytes.takeWhile (· == 0)
  String.ofList (zeros.map (fun _ => '1') ++ digits (2 * bytes.length) bytes.toNatBig [])

def digitValue? (digit : Char) : Option Nat :=
  alphabet.findIdx? (· == digit)

/-- The byte string that a text shows, if all its characters are digits. -/
def decode? (text : String) : Option Bytes := do
  let values ← text.toList.mapM digitValue?
  let zeros := values.takeWhile (· == 0)
  let n := values.foldl (fun n value => 58 * n + value) 0
  some (zeros.map (fun _ => 0) ++ digitBytes values.length n [])

end Base58

end NetIdentity
