import NetIdentity.Bytes

/-!
# Points of the Edwards curve

Signing keys are compressed points of the curve `y² - x² = 1 + d·x²·y²` over the field of `2²⁵⁵ - 19`
elements: thirty-two bytes that hold `y` and, in the top bit, the sign of `x`. An address that no key can
sign for is one whose bytes are no such point.

The curve equation gives `x² = (y² - 1) / (d·y² + 1)`, and the quotient `u / v` is a square exactly when
`u·v` is. Euler's criterion decides that with one power.
-/

namespace NetIdentity

namespace Edwards25519

/-- The order of the field, `2²⁵⁵ - 19`. -/
def fieldOrder : Nat := 0x7fffffffffffffffffffffffffffffffffffffffffffffffffffffffffffffed

/-- The weight of the bit that tells the sign of `x`. -/
def signWeight : Nat := 0x8000000000000000000000000000000000000000000000000000000000000000

/-- The coefficient `d` of the curve, `-121665 / 121666`. -/
def coefficient : Nat :=
  37095705934669439343138083508754565189542113879843219016388785533085940283555

/-- The power of a base modulo `modulus`, for an exponent of at most `bits` bits. -/
def powMod (modulus : Nat) : (bits base exponent : Nat) → Nat
  | 0, _, _ => 1 % modulus
  | bits + 1, base, exponent =>
      let rest := powMod modulus bits (base * base % modulus) (exponent / 2)
      if exponent % 2 = 1 then base * rest % modulus else rest

/-- Whether a number is a square in the field: zero is, and by Euler's criterion another one is exactly
when its power to half the order of the multiplicative group is one. -/
def isSquare (n : Nat) : Bool :=
  n % fieldOrder == 0 || powMod fieldOrder 255 (n % fieldOrder) ((fieldOrder - 1) / 2) == 1

/-- Whether the bytes are a compressed point. The sign bit is not looked at, and a `y` that is not reduced
stands for its remainder. -/
def isPoint (bytes : Bytes) : Bool :=
  let y := bytes.toNat % signWeight % fieldOrder
  let u := y * y + (fieldOrder - 1)
  let v := coefficient * y * y + 1
  isSquare (u * v)

end Edwards25519

end NetIdentity
