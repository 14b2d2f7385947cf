import NetIdentity.Proofs.Conservation
import NetIdentity.Proofs.Refusals

/-!
# What making the account costs

An account that is made ends with the minimum, or with what it had if that was more. That is seen way by way
(`Made.lamports_eq`). The rest follows from what has been proved of all ways together: no lamports come or go,
so the payer has lost what the account has got (`Confined.together_eq`), and nothing else has changed.

Whether the program may sign for the account is not checked by creating it but by the runtime, and each of the
three ways has a call that needs the signature (`signs_of_makeAccount`).

All this is about two different accounts. When the account that is made is the payer's own, what is said here
is only that a failure is never one of adding lamports up (`create_effect`).
-/

namespace NetIdentity

open NetIdentity.Action

/-! ## Lamports of two accounts -/

namespace Ledger

/-- One account pays another one: together they have what they had. -/
theorem Confined.together_eq {payer target : Address} {before after : Ledger}
    (h : Confined (· = payer) target before after) (hne : payer ≠ target) :
    (after payer).lamports.toNat + (after target).lamports.toNat =
      (before payer).lamports.toNat + (before target).lamports.toNat := by
  have hafter : (before.set target (after target)).set payer (after payer) = after := by
    funext a
    by_cases hpayer : a = payer
    · rw [hpayer, set_self]
    rw [set_of_ne _ _ hpayer]
    by_cases htarget : a = target
    · rw [htarget, set_self]
    rw [set_of_ne _ _ htarget, h.others a htarget hpayer]
  have htarget := before.total_set target (after target)
  have hpayer := (before.set target (after target)).total_set payer (after payer)
  rw [hafter, h.total, set_of_ne _ _ hne] at hpayer
  omega

end Ledger

/-! ## Signatures of the program -/

namespace SystemCall

variable {inUse : Option Address} {signed : Option Address} {signer : SignerSeeds} {passed : List Mention}
  {party : Mention} {call : SystemCall}

theorem signed_of_authorizeParty (h : authorizeParty signed passed party = .ok ())
    (hneeded : party.signer = true) (hunsigned : (passedAs passed party.address).signer = false) :
    signed = some party.address := by
  unfold authorizeParty at h
  dsimp only at h
  split at h
  · cases h
  · split at h
    · cases h
    · next hsigned =>
      by_contra hother
      exact hsigned ⟨hneeded, by simp [hunsigned], hother⟩

theorem authorizeParty_of_mem {parties : List Mention}
    (h : authorizeParties signed passed parties = .ok ()) (hparty : party ∈ parties) :
    authorizeParty signed passed party = .ok () := by
  induction parties with
  | nil => cases hparty
  | cons first rest ih =>
      rw [authorizeParties] at h
      cases hfirst : authorizeParty signed passed first with
      | error error =>
          rw [hfirst] at h
          cases h
      | ok _ =>
          rw [hfirst] at h
          rcases List.mem_cons.1 hparty with rfl | hrest
          · exact hfirst
          · exact ih h hrest

theorem eq_some_of_signed {derived : Option Address} (h : SignerSeeds.signed derived = .ok signed) :
    derived = signed := by
  cases derived with
  | none => cases h
  | some address =>
      cases h
      rfl

/-- A party that has to sign and is passed without a signature is signed for by the program. -/
theorem derived_of_authorize {a : Address} (h : call.authorize inUse (some signer) passed = .ok ())
    (hparty : ⟨a, true, true⟩ ∈ call.parties) (hunsigned : (passedAs passed a).signer = false) :
    Address.derived? signer.seeds signer.program = some a := by
  unfold authorize at h
  split at h
  · cases h
  · cases hsigned : SignerSeeds.address? (some signer) with
    | error error =>
        rw [hsigned] at h
        cases h
    | ok signed =>
        rw [hsigned] at h
        rw [SignerSeeds.address?] at hsigned
        rw [eq_some_of_signed hsigned]
        exact signed_of_authorizeParty (authorizeParty_of_mem h hparty) rfl hunsigned

end SystemCall

namespace Store

variable {inUse : Option Address} {program : Address} {signer : SignerSeeds} {target payer : Mention}
  {minimum : UInt64} {p q : Progress}

theorem signs_of_makeAccount {lamports : UInt64} (hunsigned : target.signer = false)
    (hne : payer.address ≠ target.address)
    (h : makeAccount inUse program signer target payer minimum lamports p = .ok () q) :
    Address.derived? signer.seeds signer.program = some target.address := by
  unfold makeAccount at h
  split at h
  · obtain ⟨hauthorized, _⟩ := SystemCall.invoke_eq_ok_iff.1 h
    have hpassed : SystemCall.passedAs [payer, target] target.address = target := by
      rcases SystemCall.passedAs_second payer target with ⟨_, hsame⟩ | hsecond
      · exact absurd hsame hne
      · exact hsecond
    refine SystemCall.derived_of_authorize hauthorized ?_ (by rw [hpassed, hunsigned])
    simp [SystemCall.parties]
  · obtain ⟨_, toppedUp, _, h⟩ := bind_eq_ok.1 h
    obtain ⟨_, allocated, hallocate, _⟩ := bind_eq_ok.1 h
    obtain ⟨hauthorized, _⟩ := SystemCall.invoke_eq_ok_iff.1 hallocate
    refine SystemCall.derived_of_authorize hauthorized ?_ (by rw [SystemCall.passedAs_head, hunsigned])
    simp [SystemCall.parties]

theorem signs_of_create {env : Environment} {bump : UInt8} {r : Record} (hunsigned : target.signer = false)
    (hne : payer.address ≠ target.address)
    (h : create env inUse program target payer bump r p = .ok () q) :
    Address.derived? [seed, [bump]] program = some target.address := by
  rw [create_run_of_fresh (fresh_of_create h)] at h
  obtain ⟨minimum, s, hask, h⟩ := bind_eq_ok.1 h
  obtain ⟨_, rfl⟩ := ask_eq_ok.1 hask
  obtain ⟨_, made, hmake, _⟩ := bind_eq_ok.1 h
  have hsigns := signs_of_makeAccount hunsigned hne hmake
  exact hsigns

/-! ## The account that is made -/

/-- In each of the three ways the account ends with the minimum, unless it had more. -/
theorem Made.lamports_eq {target payer : Address} {before after : Ledger}
    (h : Made program target payer minimum before after) (hne : payer ≠ target) :
    (after target).lamports.toNat = max minimum.toNat (before target).lamports.toNat := by
  cases h with
  | unfunded _ hnothing hpay =>
      rw [hpay.lamports_pay hne, Ledger.allot, Ledger.set_self]
      show (before target).lamports.toNat + minimum.toNat = _
      rw [hnothing, UInt64.toNat_zero]
      omega
  | toppedUp _ _ hshort hpay =>
      rw [Ledger.allot, Ledger.set_self]
      show (before.pay payer target _ target).lamports.toNat = _
      have hle := UInt64.le_of_lt hshort
      rw [hpay.lamports_pay hne, UInt64.toNat_sub_of_le _ _ hle]
      have hle := UInt64.le_iff_toNat_le.1 hle
      omega
  | funded _ _ henough =>
      rw [Ledger.allot, Ledger.set_self]
      show (before target).lamports.toNat = _
      have hle := UInt64.le_iff_toNat_le.1 henough
      omega

/-- All that founding a record does to a ledger, when one account pays for another one. What the payer pays is
what the account lacks, which may be nothing. -/
structure Founded (program target payer : Address) (bump : UInt8) (r : Record) (minimum : UInt64)
    (before after : Ledger) : Prop where
  derived : Address.derived? [seed, [bump]] program = some target
  free : (before target).Free
  owner : (after target).owner = program
  data : (after target).data = r.stored ++ List.replicate (Record.space - r.stored.length) 0
  size : (after target).data.length = Record.space
  raised : (after target).lamports.toNat = max minimum.toNat (before target).lamports.toNat
  paid : (after payer).lamports.toNat + (minimum.toNat - (before target).lamports.toNat) =
    (before payer).lamports.toNat
  lamportsOnly : { after payer with lamports := (before payer).lamports } = before payer
  executable : (after target).executable = (before target).executable
  others : ∀ a, a ≠ target → a ≠ payer → after a = before a

variable {env : Environment} {bump : UInt8} {r : Record}

theorem founded_of_create (hunsigned : target.signer = false) (hne : payer.address ≠ target.address)
    (h : create env inUse program target payer bump r p = .ok () q) :
    ∃ rent minimum, env.rent = some rent ∧ rent.minimumBalance Record.space = .ok minimum ∧
      Founded program target.address payer.address bump r minimum p.ledger q.ledger := by
  obtain ⟨_, minimum, made, hminimum, hmade, hroom, hledger, _⟩ := create_eq_ok h
  obtain ⟨rent, hrent, hcounted⟩ := Environment.minimumBalance_eq_ok_iff.1 hminimum
  have hconfined := hmade.confined.trans (.inscribe made r)
  have hlamports : (made.inscribe target.address r target.address).lamports =
      (made target.address).lamports := by
    rw [Ledger.inscribe, Ledger.set_self]
  have hraised := hmade.lamports_eq hne
  rw [← hlamports] at hraised
  have htogether := hconfined.together_eq hne
  have hdata := hmade.data_inscribe hroom
  refine ⟨rent, minimum, hrent, hcounted, ?_⟩
  rw [hledger]
  exact {
    derived := signs_of_create hunsigned hne h
    free := hmade.free
    owner := hmade.owner_inscribe r
    data := hdata
    size := by
      rw [hdata, List.length_append, List.length_replicate]
      omega
    raised := hraised
    paid := by omega
    lamportsOnly := hconfined.lamportsOnly payer.address hne
    executable := hconfined.executable target.address
    others := hconfined.others }

/-- **What creating does**, whatever the account held before: when it succeeds, the account is founded by the
payer, and when it fails, it is never because lamports do not fit. -/
theorem create_effect (env : Environment) (inUse : Option Address) (program : Address)
    (target payer : Mention) (bump : UInt8) (r : Record) (p : Progress) :
    (∀ q, target.signer = false → payer.address ≠ target.address →
      create env inUse program target payer bump r p = .ok () q →
      ∃ rent minimum, env.rent = some rent ∧ rent.minimumBalance Record.space = .ok minimum ∧
        Founded program target.address payer.address bump r minimum p.ledger q.ledger) ∧
    ∀ failure q, create env inUse program target payer bump r p = .error failure q →
      failure ≠ .runtime .arithmeticOverflow := by
  refine ⟨fun q hunsigned hne h => founded_of_create hunsigned hne h, ?_⟩
  intro failure q h
  rcases create_eq_error h with
    rfl | ⟨error, hminimum, rfl⟩ | hstopped | hrefused | ⟨_, rfl⟩ | ⟨_, rfl⟩
  · simp
  · rcases Environment.minimumBalance_eq_error hminimum with rfl | ⟨rfl, _⟩ <;> simp
  · have hreason := hstopped.reason
    rintro rfl
    simp at hreason
  · rintro rfl
    simp [SystemCall.refusals] at hrefused
  · simp
  · simp

/-- The first of the people pays for a record of this program. -/
def foundSmall (ledger : Ledger) : EStateM.Result Failure Progress Unit :=
  create Environment.default none Program.id ⟨Program.recordAddress, false, true⟩
    ⟨Address.ofByte 1, true, true⟩ Program.recordBump
    (Record.initial (Address.ofByte 1) "solana" 5 Program.recordBump) (Progress.start ledger)

/-- The account needs 1983600 lamports. Whoever has exactly what it lacks has nothing afterwards, and an
account that is full costs nothing. With one lamport less it fails, and not because of the sum. -/
theorem create_effect_small :
    (∃ q, foundSmall (Program.prefunded 1 1983599) = .ok () q ∧
      (q.ledger Program.recordAddress).lamports.toNat = 1983600 ∧
      (q.ledger (Address.ofByte 1)).lamports.toNat = 0) ∧
    (∃ q, foundSmall (Program.prefunded 18446744073709551615 0) = .ok () q ∧
      (q.ledger Program.recordAddress).lamports.toNat = 18446744073709551615) ∧
    ∃ failure q, foundSmall (Program.prefunded 1 1983598) = .error failure q ∧
      failure ≠ .runtime .arithmeticOverflow := by
  have hminimum : Environment.default.minimumBalance Record.space = .ok 1983600 := by rfl
  have hne : Address.ofByte 1 ≠ Program.recordAddress := by decide
  have heffect : ∀ ledger q, foundSmall ledger = .ok () q →
      Founded Program.id Program.recordAddress (Address.ofByte 1) Program.recordBump
        (Record.initial (Address.ofByte 1) "solana" 5 Program.recordBump) 1983600 ledger q.ledger := by
    intro ledger q h
    obtain ⟨rent, minimum, hrent, hcounted, hfounded⟩ := (create_effect ..).1 q rfl hne h
    cases hminimum.symm.trans (Environment.minimumBalance_eq_ok_iff.2 ⟨rent, hrent, hcounted⟩)
    exact hfounded
  have hsucceeds : ∀ ledger : Ledger, (ledger Program.recordAddress).Free →
      (ledger (Address.ofByte 1)).CanFund (ledger Program.recordAddress).lamports 1983600 →
      ∃ q, foundSmall ledger = .ok () q := by
    intro ledger hfree hfund
    obtain ⟨made, hmade⟩ := (exists_made_iff_of_ne hne).2 ⟨hfree, hfund⟩
    have hpermitted : Permitted ⟨Program.id, [seed, [Program.recordBump]]⟩
        ⟨Program.recordAddress, false, true⟩ ⟨Address.ofByte 1, true, true⟩ :=
      Program.permitted rfl rfl rfl rfl
    obtain ⟨q, hcreate, _⟩ := create_of_made (p := Progress.start ledger)
      (r := Record.initial (Address.ofByte 1) "solana" 5 Program.recordBump) hpermitted hminimum hmade
      (by decide)
    exact ⟨q, hcreate⟩
  refine ⟨?_, ?_, ?_⟩
  · obtain ⟨q, hq⟩ := hsucceeds (Program.prefunded 1 1983599) ⟨by decide, by decide⟩
      ⟨by decide, fun _ _ => ⟨by decide, by decide⟩⟩
    have hraised := (heffect _ q hq).raised
    have hpaid := (heffect _ q hq).paid
    exact ⟨q, hq, hraised, Nat.add_right_cancel (hpaid.trans (Nat.zero_add _).symm)⟩
  · obtain ⟨q, hq⟩ := hsucceeds (Program.prefunded 18446744073709551615 0) ⟨by decide, by decide⟩
      ⟨by decide, fun _ hshort => absurd hshort (by decide)⟩
    exact ⟨q, hq, (heffect _ q hq).raised⟩
  · cases hends : foundSmall (Program.prefunded 1 1983598) with
    | ok done q =>
        have hpaid := (heffect _ q hends).paid
        have hlacks : (1983600 : UInt64).toNat -
            (Program.prefunded 1 1983598 Program.recordAddress).lamports.toNat = 1983599 := by decide
        have hhas : (Program.prefunded 1 1983598 (Address.ofByte 1)).lamports.toNat = 1983598 := by decide
        omega
    | error failure q => exact ⟨failure, q, rfl, (create_effect ..).2 failure q hends⟩

end Store

end NetIdentity
