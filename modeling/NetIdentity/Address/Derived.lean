import NetIdentity.Address
import NetIdentity.Edwards25519
import NetIdentity.Sha256
import NetIdentity.Utf8

/-!
# Derived addresses

A program signs for addresses that no key can sign for. Such an address is the digest of some seeds and
the program's own address, provided that the digest is no point of the signing curve. To get one from
given seeds, a last seed of one byte is tried from 255 down to 1; the first byte that works is the
canonical bump.

`derived?_of_findDerived?` is what makes the search useful: the seeds together with the bump that was found
derive exactly the address that was found.
-/

namespace NetIdentity

namespace Address

/-- Ends the bytes that are hashed, so that no other digest is taken for an address. -/
def derivationMarker : Bytes := utf8 "ProgramDerivedAddress"

/-- The address that the seeds derive under a program, unless a key could sign for it. -/
def derived? (seeds : List Bytes) (program : Address) : Option Address :=
  let digest := Sha256.hash (seeds.flatten ++ program.bytes ++ derivationMarker)
  if Edwards25519.isPoint digest then none else some ⟨digest, Sha256.length_hash _⟩

/-- What `derive` gives for the first bump that it accepts, when the bumps from `first` down to one are
tried. -/
def firstBump? (derive : UInt8 → Option Address) : (first : Nat) → Option (Address × UInt8)
  | 0 => none
  | rest + 1 =>
      match derive (UInt8.ofNat (rest + 1)) with
      | some address => some (address, UInt8.ofNat (rest + 1))
      | none => firstBump? derive rest

def findDerived? (seeds : List Bytes) (program : Address) : Option (Address × UInt8) :=
  firstBump? (fun bump => derived? (seeds ++ [[bump]]) program) 255

/-- The address that a seed names for a program, in the name of whoever signs for `base`. -/
def withSeed (base : Address) (seed : Bytes) (program : Address) : Address :=
  ⟨Sha256.hash (base.bytes ++ seed ++ program.bytes), Sha256.length_hash _⟩

theorem eq_some_of_firstBump? {derive : UInt8 → Option Address} {address : Address} {bump : UInt8}
    {first : Nat} (h : firstBump? derive first = some (address, bump)) :
    derive bump = some address := by
  induction first with
  | zero => simp [firstBump?] at h
  | succ rest ih =>
      unfold firstBump? at h
      split at h
      · next found =>
        simp only [Option.some.injEq, Prod.mk.injEq] at h
        obtain ⟨rfl, rfl⟩ := h
        exact found
      · exact ih h

/-- The seeds and the bump found for them derive the address found for them. -/
theorem derived?_of_findDerived? {seeds : List Bytes} {program address : Address} {bump : UInt8}
    (h : findDerived? seeds program = some (address, bump)) :
    derived? (seeds ++ [[bump]]) program = some address :=
  @eq_some_of_firstBump? (fun bump => derived? (seeds ++ [[bump]]) program) address bump 255 h

end Address

end NetIdentity
