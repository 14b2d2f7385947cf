import NetIdentity.Codec.Canonical
import NetIdentity.Event

/-!
# The written form of an event

An observer gets an event back exactly from the bytes it is announced by (`Event.read?_eq_some_iff`). The
kinds are told apart by the first eight bytes, so nothing reads as two kinds of event.
-/

namespace NetIdentity

namespace Codec

variable {α β γ δ ε : Type} [Codec α] [Codec β] [Codec γ] [Codec δ] {fitsA : α → Prop} {fitsB : β → Prop}
  {fitsC : γ → Prop} {fitsD : δ → Prop}

/-- Four fields in a row are read exactly from where they were written in a row. -/
theorem decode_four_eq_ok_iff (ha : Canonical α fitsA) (hb : Canonical β fitsB) (hc : Canonical γ fitsC)
    (hd : Canonical δ fitsD) {make : α → β → γ → δ → ε} {data rest : Bytes} {e : ε} :
    (do return make (← decode) (← decode) (← decode) (← decode) : Decoder ε) data = .ok (e, rest) ↔
      ∃ a b c d, make a b c d = e ∧ (fitsA a ∧ fitsB b ∧ fitsC c ∧ fitsD d) ∧
        data = encode a ++ (encode b ++ (encode c ++ encode d)) ++ rest := by
  constructor
  · intro h
    obtain ⟨a, d1, h1, h⟩ := Decoder.bind_eq_ok.1 h
    obtain ⟨b, d2, h2, h⟩ := Decoder.bind_eq_ok.1 h
    obtain ⟨c, d3, h3, h⟩ := Decoder.bind_eq_ok.1 h
    obtain ⟨d, d4, h4, h⟩ := Decoder.bind_eq_ok.1 h
    cases h
    obtain ⟨hfitsD, rfl⟩ := (hd _ _ _).1 h4
    obtain ⟨hfitsC, rfl⟩ := (hc _ _ _).1 h3
    obtain ⟨hfitsB, rfl⟩ := (hb _ _ _).1 h2
    obtain ⟨hfitsA, rfl⟩ := (ha _ _ _).1 h1
    exact ⟨a, b, c, d, rfl, ⟨hfitsA, hfitsB, hfitsC, hfitsD⟩, by simp only [List.append_assoc]⟩
  · rintro ⟨a, b, c, d, rfl, ⟨hfitsA, hfitsB, hfitsC, hfitsD⟩, rfl⟩
    simp only [List.append_assoc]
    exact Decoder.bind_eq_ok.2 ⟨_, _, ha.decode_encode hfitsA _,
      Decoder.bind_eq_ok.2 ⟨_, _, hb.decode_encode hfitsB _,
      Decoder.bind_eq_ok.2 ⟨_, _, hc.decode_encode hfitsC _,
      Decoder.bind_eq_ok.2 ⟨_, _, hd.decode_encode hfitsD _, rfl⟩⟩⟩⟩

end Codec

/-- The decoder reads all of the data. -/
theorem Decoder.toOption_all_eq_some_iff {α : Type} {decoder : Decoder α} {data : Bytes} {x : α} :
    (decoder.all data).toOption = some x ↔ decoder data = .ok (x, []) := by
  rw [← Decoder.all_eq_ok_iff]
  cases decoder.all data with
  | ok y => simp [Except.toOption]
  | error e => simp [Except.toOption]

namespace Event

open Codec

/-! ## Kinds -/

theorem Kind.length_discriminator (kind : Kind) : kind.discriminator.length = 8 := by
  cases kind <;> rfl

theorem Kind.discriminator_inj {kind other : Kind} :
    kind.discriminator = other.discriminator ↔ kind = other := by
  constructor
  · cases kind <;> cases other <;> decide
  · rintro rfl
    rfl

theorem Kind.mem_all (kind : Kind) : kind ∈ all := by
  cases kind <;> decide

/-- A payload is of the kind whose mark stands at its front. -/
theorem Kind.find?_eq_some_iff {payload : Bytes} {kind : Kind} :
    (all.find? fun kind => payload.take 8 = kind.discriminator) = some kind ↔
      payload.take 8 = kind.discriminator :=
  Bytes.find?_mark_eq_some_iff mem_all discriminator_inj

/-! ## Events -/

/-- The network id can be read back, if the event has one. -/
def Fits : Event → Prop
  | .initialized _ _ networkId _ => networkId.utf8ByteSize < UInt32.size
  | _ => True

theorem decoder_eq_ok_iff {kind : Kind} {data rest : Bytes} {e : Event} :
    decoder kind data = .ok (e, rest) ↔ e.kind = kind ∧ e.Fits ∧ data = e.content ++ rest := by
  cases kind with
  | initialized =>
      refine (decode_four_eq_ok_iff canonical_address canonical_address canonical_string
        canonical_int64).trans ?_
      cases e <;> simp [Event.kind, Fits, content, and_assoc]
  | adminUpdated =>
      refine (decode_four_eq_ok_iff canonical_address canonical_address canonical_address
        canonical_int64).trans ?_
      cases e <;> simp [Event.kind, Fits, content, and_assoc]
  | protocolFeeUpdated =>
      refine (decode_four_eq_ok_iff canonical_address canonical_uint64 canonical_uint64
        canonical_int64).trans ?_
      cases e <;> simp [Event.kind, Fits, content, and_assoc]
  | feeHandlerUpdated =>
      refine (decode_four_eq_ok_iff canonical_address canonical_address canonical_address
        canonical_int64).trans ?_
      cases e <;> simp [Event.kind, Fits, content, and_assoc]

theorem take_payload (e : Event) : e.payload.take 8 = e.kind.discriminator :=
  List.take_left' e.kind.length_discriminator

theorem drop_payload (e : Event) : e.payload.drop 8 = e.content :=
  List.drop_left' e.kind.length_discriminator

/-- What stands behind the mark of a kind reads as an event of it exactly when the whole is the payload
of the event. -/
theorem read_behind_mark_iff {kind : Kind} {payload : Bytes} {e : Event} :
    payload.take 8 = kind.discriminator ∧ ((decoder kind).all (payload.drop 8)).toOption = some e ↔
      e.kind = kind ∧ e.Fits ∧ payload = e.payload := by
  rw [Decoder.toOption_all_eq_some_iff, decoder_eq_ok_iff, List.append_nil]
  constructor
  · rintro ⟨hmark, rfl, hfits, hcontent⟩
    exact ⟨rfl, hfits, by rw [Event.payload, ← hmark, ← hcontent, List.take_append_drop]⟩
  · rintro ⟨rfl, hfits, rfl⟩
    exact ⟨e.take_payload, rfl, hfits, e.drop_payload⟩

/-- An event is read exactly from its payload. -/
theorem read?_eq_some_iff {payload : Bytes} {e : Event} :
    read? payload = some e ↔ e.Fits ∧ payload = e.payload := by
  have hread : read? payload = some e ↔ ∃ kind, payload.take 8 = kind.discriminator ∧
      ((decoder kind).all (payload.drop 8)).toOption = some e := by
    refine Option.bind_eq_some_iff.trans (exists_congr fun kind => ?_)
    rw [Kind.find?_eq_some_iff]
  rw [hread]
  constructor
  · rintro ⟨kind, hkind⟩
    exact (read_behind_mark_iff.1 hkind).2
  · rintro ⟨hfits, hpayload⟩
    exact ⟨e.kind, read_behind_mark_iff.2 ⟨rfl, hfits, hpayload⟩⟩

/-- Read an event of one kind. -/
def readAs? (kind : Kind) (payload : Bytes) : Option Event :=
  if payload.take 8 = kind.discriminator then ((decoder kind).all (payload.drop 8)).toOption else none

/-- A payload reads as an event of its own kind and of no other one. -/
theorem isSome_readAs?_payload_iff {e : Event} (h : e.Fits) {kind : Kind} :
    (readAs? kind e.payload).isSome = true ↔ kind = e.kind := by
  rw [readAs?, e.take_payload]
  constructor
  · intro hread
    split at hread
    · next hmark => exact (Kind.discriminator_inj.1 hmark).symm
    · cases hread
  · rintro rfl
    rw [if_pos rfl, (read_behind_mark_iff.2 ⟨rfl, h, rfl⟩).2]
    rfl

end Event

end NetIdentity
