import NetIdentity.Proofs.Deeds

/-!
# When the identity can be established

A request to establish the identity succeeds when the program, the accounts, the network id and the clock
are in order, the rent of a record is known and can be counted, the record's account is free, and the payer
can pay what the account lacks. Nothing else matters (`establish_succeeds_iff`).

What the payer has to pay depends on what the account holds already, and for an account that holds enough
nothing is asked of him at all (`Account.CanFund`). Lamports on the account only lower the price, so
nobody can keep the identity from being established by sending some there.
-/

namespace NetIdentity

open NetIdentity.Program

/-! ## What the payer has to have -/

/-- The payer can bring an account that has `present` lamports to the minimum. Who has to pay has to be
without data. -/
structure Account.CanFund (payer : Account) (present minimum : UInt64) : Prop where
  whole : present = 0 → payer.data = [] ∧ minimum ≤ payer.lamports
  missing : 0 < present → present < minimum → payer.data = [] ∧ minimum - present ≤ payer.lamports

/-- The account has got more, and the payer and the account together have no less: then the payer has
enough for what is still missing. -/
theorem Account.CanFund.raise {payer payer' : Account} {present present' minimum : UInt64}
    (h : payer.CanFund present minimum) (hdata : payer'.data = payer.data) (hraised : present ≤ present')
    (htogether : payer.lamports.toNat + present.toNat ≤ payer'.lamports.toNat + present'.toNat) :
    payer'.CanFund present' minimum where
  whole hnothing := by
    subst hnothing
    have hzero := UInt64.le_zero_iff.1 hraised
    obtain ⟨hempty, henough⟩ := h.whole hzero
    rw [hzero] at htogether
    refine ⟨hdata.trans hempty, ?_⟩
    rw [UInt64.le_iff_toNat_le] at henough ⊢
    omega
  missing hsomething hshort := by
    rw [hdata]
    have hle := UInt64.le_of_lt hshort
    rw [UInt64.le_iff_toNat_le, UInt64.toNat_sub_of_le _ _ hle]
    by_cases hzero : present = 0
    · obtain ⟨hempty, henough⟩ := h.whole hzero
      rw [UInt64.le_iff_toNat_le] at henough
      exact ⟨hempty, by omega⟩
    · have hpresent : 0 < present := UInt64.not_le.1 fun hnone => hzero (UInt64.le_zero_iff.1 hnone)
      have hbefore : present < minimum := by
        rw [UInt64.lt_iff_toNat_lt] at hshort ⊢
        rw [UInt64.le_iff_toNat_le] at hraised
        omega
      obtain ⟨hempty, henough⟩ := h.missing hpresent hbefore
      rw [UInt64.le_iff_toNat_le, UInt64.toNat_sub_of_le _ _ (UInt64.le_of_lt hbefore)] at henough
      exact ⟨hempty, by omega⟩

/-! ## Making the account -/

namespace Store

variable {program target payer : Address} {minimum : UInt64} {before : Ledger}

/-- Whoever brings the account to the minimum finds room for what he pays. -/
theorem exists_made_iff_of_ne (hne : payer ≠ target) :
    (∃ made, Made program target payer minimum before made) ↔
      (before target).Free ∧ (before payer).CanFund (before target).lamports minimum := by
  constructor
  · rintro ⟨made, h⟩
    refine ⟨h.free, ?_⟩
    cases h with
    | unfunded _ hnothing hpay =>
        have hpay := Ledger.canPay_allot_iff_of_ne hne |>.1 hpay
        rw [hnothing]
        exact ⟨fun _ => ⟨hpay.noData, hpay.enough⟩,
          fun hsomething => absurd hsomething (UInt64.lt_irrefl 0)⟩
    | toppedUp _ hsomething _ hpay =>
        exact ⟨fun hnothing => absurd hnothing hsomething, fun _ _ => ⟨hpay.noData, hpay.enough⟩⟩
    | funded _ hsomething henough =>
        exact ⟨fun hnothing => absurd hnothing hsomething,
          fun _ hshort => absurd hshort (UInt64.not_lt.2 henough)⟩
  · rintro ⟨hfree, hfund⟩
    by_cases hnothing : (before target).lamports = 0
    · obtain ⟨hdata, henough⟩ := hfund.whole hnothing
      refine ⟨_, .unfunded hfree hnothing ((Ledger.canPay_allot_iff_of_ne hne).2
        ((Ledger.canPay_iff_of_ne hne).2 ⟨hdata, henough, ?_⟩))⟩
      rw [hnothing, UInt64.toNat_zero, Nat.zero_add]
      exact minimum.toNat_lt
    · by_cases henough : minimum ≤ (before target).lamports
      · exact ⟨_, .funded hfree hnothing henough⟩
      · have hshort := UInt64.not_le.1 henough
        have hsomething : 0 < (before target).lamports :=
          UInt64.not_le.1 fun hnone => hnothing (UInt64.le_zero_iff.1 hnone)
        obtain ⟨hdata, hpayable⟩ := hfund.missing hsomething hshort
        refine ⟨_, .toppedUp hfree hnothing hshort
          ((Ledger.canPay_iff_of_ne hne).2 ⟨hdata, hpayable, ?_⟩)⟩
        have hle := UInt64.le_of_lt hshort
        rw [UInt64.toNat_sub_of_le _ _ hle, Nat.add_sub_cancel' (UInt64.le_iff_toNat_le.1 hle)]
        exact minimum.toNat_lt

end Store

/-! ## Establishing -/

namespace Program

/-- The program signs for its record by the seed and the bump. -/
theorem derived?_id : Address.derived? [Store.seed, [recordBump]] id = some recordAddress := by
  have hfound : Address.findDerived? [Store.seed] id = some (recordAddress, recordBump) := by
    rw [← location?_id, Store.location?]
  have hderived := Address.derived?_of_findDerived? hfound
  rw [List.singleton_append] at hderived
  exact hderived

theorem permitted {record payer : Mention} (haddress : record.address = recordAddress)
    (hrecord : record.writable = true) (hsigned : payer.signer = true) (hpayer : payer.writable = true) :
    Store.Permitted ⟨id, [Store.seed, [recordBump]]⟩ record payer where
  payerSigned := hsigned
  payerWritable := hpayer
  targetWritable := hrecord
  signs := by
    rw [haddress, derived?_id]

variable {env : Environment} {ledger : Ledger} {i : Instruction} {networkId : String}
  {record payer system : Mention} {rent : Rent} {minimum : UInt64}

/-- The instruction brings what it takes to establish the identity of `networkId`, and finds what it
takes on the ledger. -/
structure CanEstablish (env : Environment) (ledger : Ledger) (i : Instruction) (networkId : String)
    (record payer system : Mention) (rent : Rent) (minimum : UInt64) : Prop where
  program : i.program = id
  accounts : ∃ others, i.accounts = record :: payer :: system :: others
  recordAddress : record.address = Program.recordAddress
  recordWritable : record.writable = true
  payerSigned : payer.signer = true
  payerWritable : payer.writable = true
  systemProgram : system.address = Address.systemProgram
  systemExecutable : (ledger Address.systemProgram).executable = true
  nonempty : networkId ≠ ""
  short : networkId.utf8ByteSize ≤ 64
  plain : '/' ∉ networkId.toList
  clockAvailable : env.clock.isSome = true
  rentAvailable : env.rent = some rent
  minimumCounted : rent.minimumBalance Record.space = .ok minimum
  free : (ledger Program.recordAddress).Free
  funds : (ledger payer.address).CanFund (ledger Program.recordAddress).lamports minimum

theorem canEstablish_of_outcome {report : Report}
    (hother : ∀ payer, i.accounts[1]? = some payer → payer.address ≠ recordAddress)
    (hprogram : i.program = id) (h : Outcome env ledger i (.establish networkId) report) :
    ∃ record payer system rent minimum,
      CanEstablish env ledger i networkId record payer system rent minimum := by
  cases h with
  | @establish _ record payer now created haccounts haccepted htimed hcreate =>
      obtain ⟨system, others, hmentions, haddress, hrecord, hsigned, hpayer, hsystem, hexecutable⟩ :=
        establishAccounts_eq_ok_iff.1 haccounts
      obtain ⟨hsize, hshort, hplain⟩ := NetworkId.validate_eq_ok_iff.1 haccepted
      obtain ⟨_, minimum, made, hminimum, hmade, _⟩ := Store.create_eq_ok hcreate
      obtain ⟨rent, hrent, hcounted⟩ := Environment.minimumBalance_eq_ok_iff.1 hminimum
      rw [haddress] at hmade
      have hne : payer.address ≠ recordAddress := hother payer (by rw [hmentions]; rfl)
      obtain ⟨hfree, hfunds⟩ := (Store.exists_made_iff_of_ne hne).1 ⟨made, hmade⟩
      refine ⟨record, payer, system, rent, minimum, ?_⟩
      exact {
        program := hprogram
        accounts := ⟨others, hmentions⟩
        recordAddress := haddress
        recordWritable := hrecord
        payerSigned := hsigned
        payerWritable := hpayer
        systemProgram := hsystem
        systemExecutable := hexecutable
        nonempty := fun hempty => hsize (String.utf8ByteSize_eq_zero_iff.2 hempty)
        short := hshort
        plain := hplain
        clockAvailable := by rw [htimed]; rfl
        rentAvailable := hrent
        minimumCounted := hcounted
        free := hfree
        funds := hfunds }

namespace CanEstablish

theorem payer_ne (h : CanEstablish env ledger i networkId record payer system rent minimum)
    (hother : ∀ payer, i.accounts[1]? = some payer → payer.address ≠ Program.recordAddress) :
    payer.address ≠ Program.recordAddress := by
  obtain ⟨others, hmentions⟩ := h.accounts
  exact hother payer (by rw [hmentions]; rfl)

theorem outcome (h : CanEstablish env ledger i networkId record payer system rent minimum)
    (hne : payer.address ≠ Program.recordAddress) :
    ∃ report, Outcome env ledger i (.establish networkId) report := by
  obtain ⟨others, hmentions⟩ := h.accounts
  obtain ⟨now, htimed⟩ := Option.isSome_iff_exists.1 h.clockAvailable
  have haccounts : establishAccounts ledger i.accounts = .ok (record, payer) := by
    rw [hmentions, establishAccounts_eq_ok_iff]
    exact ⟨system, others, rfl, h.recordAddress, h.recordWritable, h.payerSigned, h.payerWritable,
      h.systemProgram, h.systemExecutable⟩
  have haccepted : NetworkId.validate networkId = .ok () :=
    NetworkId.validate_eq_ok_iff.2
      ⟨fun hsize => h.nonempty (String.utf8ByteSize_eq_zero_iff.1 hsize), h.short, h.plain⟩
  obtain ⟨made, hmade⟩ := (Store.exists_made_iff_of_ne hne).2 ⟨h.free, h.funds⟩
  rw [← h.recordAddress] at hmade
  have hminimum : env.minimumBalance Record.space = .ok minimum :=
    Environment.minimumBalance_eq_ok_iff.2 ⟨rent, h.rentAvailable, h.minimumCounted⟩
  obtain ⟨created, hcreate, _⟩ := Store.create_of_made
    (p := ⟨ledger, [], [.instruction Selector.establish.title]⟩)
    (r := Record.initial payer.address networkId now recordBump)
    (permitted h.recordAddress h.recordWritable h.payerSigned h.payerWritable) hminimum hmade
    (Record.length_stored_le haccepted)
  exact ⟨_, .establish haccounts haccepted htimed hcreate⟩

/-- Lamports that somebody sends to the record's account take nothing away from this, whoever it is. -/
theorem pay {source : Address} {lamports : UInt64}
    (h : CanEstablish env ledger i networkId record payer system rent minimum)
    (hne : payer.address ≠ Program.recordAddress)
    (hpay : ledger.CanPay source Program.recordAddress lamports) :
    CanEstablish env (ledger.pay source Program.recordAddress lamports) i networkId record payer system
      rent minimum := by
  have hmoves := Ledger.MovesLamports.pay ledger source Program.recordAddress lamports
  exact { h with
    systemExecutable := by rw [hmoves.executable_eq, h.systemExecutable]
    free := (hmoves.free_iff _).2 h.free
    funds := h.funds.raise (hmoves.data_eq _) hpay.le_pay (hpay.together_le_pay hne) }

end CanEstablish

/-- **When the identity can be established**, by anybody but the record's account itself. And nobody can
prevent it by sending lamports to the record's account before. -/
theorem establish_succeeds_iff (hcommand : i.command? = some (.establish networkId))
    (hother : ∀ payer, i.accounts[1]? = some payer → payer.address ≠ recordAddress) :
    ((∃ answer, (submit env ledger i).result = .ok answer) ↔
      ∃ record payer system rent minimum,
        CanEstablish env ledger i networkId record payer system rent minimum) ∧
    ∀ source lamports, ledger.CanPay source recordAddress lamports →
      (∃ answer, (submit env ledger i).result = .ok answer) →
        ∃ answer, (submit env (ledger.pay source recordAddress lamports) i).result = .ok answer := by
  have hiff : ∀ ledger, (∃ answer, (submit env ledger i).result = .ok answer) ↔
      ∃ record payer system rent minimum,
        CanEstablish env ledger i networkId record payer system rent minimum := by
    intro ledger
    rw [succeeds_iff_outcome hcommand]
    constructor
    · rintro ⟨hprogram, _, houtcome⟩
      exact canEstablish_of_outcome hother hprogram houtcome
    · rintro ⟨record, payer, system, rent, minimum, h⟩
      exact ⟨h.program, h.outcome (h.payer_ne hother)⟩
  refine ⟨hiff ledger, fun source lamports hpay hsucceeds => ?_⟩
  obtain ⟨record, payer, system, rent, minimum, h⟩ := (hiff ledger).1 hsucceeds
  exact (hiff _).2 ⟨record, payer, system, rent, minimum, h.pay (h.payer_ne hother) hpay⟩

/-- The record's account has `present` lamports, and the first of the people has `balance`. -/
def prefunded (present balance : UInt64) : Ledger :=
  (Ledger.fresh.set recordAddress { Account.untouched with lamports := present }).set (Address.ofByte 1)
    { Account.untouched with lamports := balance }

/-- The account needs 1983600 lamports. With one of them there, the payer needs all others: he can pay when
he has exactly as many, also after he has sent some himself, and one less is too few. -/
theorem establish_succeeds_iff_small :
    let request := (Command.establish "solana").instruction (Address.ofByte 1)
    request.command? = some (.establish "solana") ∧
      (∀ payer, request.accounts[1]? = some payer → payer.address ≠ recordAddress) ∧
      (∃ answer, (submit Environment.default (prefunded 1 1983599) request).result = .ok answer) ∧
      (prefunded 1 1983599).CanPay (Address.ofByte 1) recordAddress 1000000 ∧
      (∃ answer, (submit Environment.default
        ((prefunded 1 1983599).pay (Address.ofByte 1) recordAddress 1000000) request).result = .ok answer) ∧
      ¬ ∃ answer, (submit Environment.default (prefunded 1 1983598) request).result = .ok answer := by
  intro request
  have hcommand : request.command? = some (.establish "solana") := by decide +kernel
  have hother : ∀ payer, request.accounts[1]? = some payer → payer.address ≠ recordAddress := by
    rintro payer ⟨⟩
    decide
  have hpay : (prefunded 1 1983599).CanPay (Address.ofByte 1) recordAddress 1000000 :=
    ⟨by decide, by decide, by decide⟩
  have hminimum : (⟨3480, 2.0⟩ : Rent).minimumBalance Record.space = .ok 1983600 := by rfl
  have hlast := @establish_succeeds_iff Environment.default (prefunded 1 1983599) request "solana"
    hcommand hother
  have hsucceeds := hlast.1.2 ⟨⟨recordAddress, false, true⟩, ⟨Address.ofByte 1, true, true⟩,
    ⟨Address.systemProgram, false, false⟩, ⟨3480, 2.0⟩, 1983600, {
      program := rfl
      accounts := ⟨[], rfl⟩
      recordAddress := rfl
      recordWritable := rfl
      payerSigned := rfl
      payerWritable := rfl
      systemProgram := rfl
      systemExecutable := by decide
      nonempty := by decide
      short := by decide
      plain := by decide
      clockAvailable := rfl
      rentAvailable := rfl
      minimumCounted := hminimum
      free := ⟨by decide, by decide⟩
      funds := ⟨by decide, fun _ _ => ⟨by decide, by decide⟩⟩ }⟩
  refine ⟨hcommand, hother, hsucceeds, hpay, hlast.2 _ _ hpay hsucceeds, fun hless => ?_⟩
  obtain ⟨record, payer, system, rent, minimum, h⟩ := (establish_succeeds_iff hcommand hother).1.1 hless
  obtain ⟨others, hmentions⟩ := h.accounts
  cases hmentions
  cases h.rentAvailable
  cases hminimum.symm.trans h.minimumCounted
  have hmissing := (h.funds.missing (by decide) (by decide)).2
  revert hmissing
  decide

end Program

end NetIdentity
