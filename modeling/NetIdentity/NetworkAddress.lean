import NetIdentity.Codec.Canonical
import NetIdentity.Fault

/-!
# Network addresses

An account on one of several networks is named by a text of the form `<network id>/<account>`. The text is
the address: it is stored and sent as it is, and its two parts are found again by splitting at the first
delimiter.

`parse` asks for both parts. An address that was joined or decoded is not checked, so its parts are defined
for every text: without a delimiter, all of it is the network id.
-/

namespace NetIdentity

structure NetworkAddress where
  text : String
deriving Repr, DecidableEq

namespace NetworkAddress

/-- An address is shown as it is stored. -/
instance : ToString NetworkAddress where
  toString address := address.text

/-- Stands between the network id and the account. -/
def delimiter : Char := '/'

/-- The characters before the first delimiter and those after it, if there is one. -/
def splitAtDelimiter : List Char → Option (List Char × List Char)
  | [] => none
  | c :: rest =>
      if c = delimiter then some ([], rest)
      else (splitAtDelimiter rest).map fun (before, after) => (c :: before, after)

def join (networkId account : String) : NetworkAddress :=
  ⟨networkId ++ delimiter.toString ++ account⟩

/-- Read an address: both of its parts have to be there. -/
def parse (text : String) : Except Fault NetworkAddress :=
  match splitAtDelimiter text.toList with
  | some (_ :: _, _ :: _) => .ok ⟨text⟩
  | _ => .error .invalidNetworkAddress

def parts (address : NetworkAddress) : String × String :=
  match splitAtDelimiter address.text.toList with
  | some (networkId, account) => (String.ofList networkId, String.ofList account)
  | none => (address.text, "")

def networkId (address : NetworkAddress) : String := address.parts.1

def account (address : NetworkAddress) : String := address.parts.2

instance : Codec NetworkAddress where
  encode address := encode address.text
  decode := do return ⟨← decode⟩

theorem canonical :
    Codec.Canonical NetworkAddress fun address => address.text.utf8ByteSize < UInt32.size := by
  intro data x rest
  show ((decode : Decoder String) >>= fun text => pure (NetworkAddress.mk text)) data = _ ↔ _
  rw [Decoder.bind_eq_ok]
  constructor
  · rintro ⟨text, between, hread, hpure⟩
    cases hpure
    exact (Codec.canonical_string data text rest).1 hread
  · rintro ⟨hsize, rfl⟩
    exact ⟨x.text, rest, Codec.canonical_string.decode_encode hsize rest, rfl⟩

/-- A list splits at its first delimiter and nowhere else. -/
theorem splitAtDelimiter_eq_some_iff {cs before after : List Char} :
    splitAtDelimiter cs = some (before, after) ↔
      delimiter ∉ before ∧ cs = before ++ delimiter :: after := by
  induction cs generalizing before with
  | nil => simp [splitAtDelimiter]
  | cons c rest ih =>
      by_cases hc : c = delimiter
      · subst hc
        cases before with
        | nil => simp [splitAtDelimiter, eq_comm]
        | cons d before =>
            simp only [splitAtDelimiter, if_true, Option.some.injEq, Prod.mk.injEq, List.cons_append,
              List.cons.injEq, List.mem_cons, not_or]
            constructor
            · rintro ⟨h, _⟩
              simp at h
            · rintro ⟨⟨hd, _⟩, rfl, _⟩
              exact absurd rfl hd
      · cases before with
        | nil => simp [splitAtDelimiter, hc]
        | cons d before =>
            simp only [splitAtDelimiter, hc, if_false, Option.map_eq_some_iff, Prod.exists,
              Prod.mk.injEq, List.cons.injEq, List.cons_append, List.mem_cons, not_or]
            constructor
            · rintro ⟨b, a, h, ⟨rfl, rfl⟩, rfl⟩
              obtain ⟨hb, rfl⟩ := ih.1 h
              exact ⟨⟨Ne.symm hc, hb⟩, rfl, rfl⟩
            · rintro ⟨⟨_, hb⟩, rfl, rfl⟩
              exact ⟨before, after, ih.2 ⟨hb, rfl⟩, ⟨rfl, rfl⟩, rfl⟩

theorem splitAtDelimiter_eq_none_iff {cs : List Char} :
    splitAtDelimiter cs = none ↔ delimiter ∉ cs := by
  induction cs with
  | nil => simp [splitAtDelimiter]
  | cons c rest ih =>
      by_cases hc : c = delimiter
      · simp [splitAtDelimiter, hc]
      · simp [splitAtDelimiter, hc, ih, Ne.symm hc]

end NetworkAddress

end NetIdentity
