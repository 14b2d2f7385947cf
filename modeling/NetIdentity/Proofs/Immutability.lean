import NetIdentity.Proofs.Deeds
import NetIdentity.Proofs.Layout

/-!
# What never changes

Once the record's account has been made, its identity is fixed, whatever it holds. The data of an account that
holds no record is never touched again. One with a record keeps its owner, its size and every byte outside the
three windows of the fields that can be amended; the network id, the time and the bump stand outside of them.
The lamports do not get fewer, and stay what they are as long as the framework does not bring any.

There is one reservation: what the framework claims it may write to (`vacant_account_changes`). So either it
does not claim the account, which can be seen from the first eight bytes, or it is not asked.

The windows are those of the record that was there at first. They stay where they are, because their place
depends on the network id only (`Field.covers_congr`), so the changes of a whole history add up to nothing
outside of them (`Account.Keeps.rewrite`).
-/

namespace NetIdentity

open NetIdentity.Program

/-- What the account keeps of the one it has been, which held the record `r`. -/
structure Account.Keeps (before : Account) (r : Record) (after : Account) : Prop where
  owner : after.owner = before.owner
  lamports : before.lamports ≤ after.lamports
  executable : after.executable = before.executable
  length : after.data.length = before.data.length
  identity : ∃ s, Record.read after.data = .ok s ∧
    s.networkId = r.networkId ∧ s.createdAt = r.createdAt ∧ s.bump = r.bump
  bytes : ∀ k, (∀ f : Field, ¬ f.Covers r k) → after.data[k]? = before.data[k]?

namespace Account.Keeps

theorem refl {account : Account} {r : Record} (h : Record.read account.data = .ok r) :
    account.Keeps r account where
  owner := rfl
  lamports := UInt64.le_refl _
  executable := rfl
  length := rfl
  identity := ⟨r, h, rfl, rfl, rfl⟩
  bytes _ _ := rfl

/-- An amendment keeps what was kept before. -/
theorem rewrite {before account : Account} {r s : Record} (h : before.Keeps r account) (a : Amendment)
    (hload : Store.load id account = .ok (some s)) : before.Keeps r (a.rewrite s account) := by
  obtain ⟨_, hsize, hfront⟩ := Store.load_eq_some_iff.1 hload
  obtain ⟨t, hread, hnetworkId, hcreatedAt, hbump⟩ := h.identity
  obtain rfl : s = t := Record.stored_unique hread hfront hsize
  obtain ⟨_, hrewritten⟩ := Store.load_eq_some_iff.1 (Store.load_rewrite (a := a) hload)
  exact {
    owner := h.owner
    lamports := h.lamports
    executable := h.executable
    length := (Amendment.length_data_rewrite hfront).trans h.length
    identity := ⟨a.apply s, Record.read_eq_ok_iff.2 hrewritten, by rw [a.networkId_apply, hnetworkId],
      by rw [a.createdAt_apply, hcreatedAt], by rw [a.bump_apply, hbump]⟩
    bytes := fun k hk => by
      have houtside : ¬ a.field.Covers s k := fun hcovers =>
        hk a.field ((a.field.covers_congr hnetworkId).1 hcovers)
      rw [Amendment.getElem?_rewrite hfront houtside, h.bytes k hk] }

/-- So do gifts of lamports. -/
theorem endures {before account after : Account} {r : Record} (h : before.Keeps r account)
    (hendures : account.Endures after) : before.Keeps r after where
  owner := hendures.content.owner.trans h.owner
  lamports := UInt64.le_trans h.lamports hendures.lamports
  executable := hendures.executable.trans h.executable
  length := by rw [hendures.content.data, h.length]
  identity := by
    rw [hendures.content.data]
    exact h.identity
  bytes k hk := by rw [hendures.content.data, h.bytes k hk]

end Account.Keeps

/-! ## Paths -/

namespace Path

variable {a b : Account} {deeds : List Deed} {I : Account → Prop}

/-- While the framework does not claim the account or is not asked, what amendments and gifts of lamports keep
is kept. -/
theorem preserves_of_guarded (h : Path a deeds b) (hcreated : Store.isCreated id a = true)
    (hguard : Framework.Claims id a → ∀ d ∈ deeds, ¬ d.instruction.ForFramework)
    (hamend : ∀ {account : Account} (amendment : Amendment) {r : Record},
      Store.load id account = .ok (some r) → I account → I (amendment.rewrite r account))
    (hendures : ∀ {account after : Account}, account.Endures after → I account → I after) (ha : I a) :
    I b := by
  -- An account that the framework does not claim is not claimed later either.
  have hall : Store.isCreated id b = true ∧ (Framework.Claims id b → Framework.Claims id a) ∧ I b := by
    refine h.preserves (I := fun account => Store.isCreated id account = true ∧
      (Framework.Claims id account → Framework.Claims id a) ∧ I account) ?_ ⟨hcreated, fun h => h, ha⟩
    rintro d hd before heffect ⟨hmade, hclaims, hkept⟩
    have hunclaimed : d.command? = none → ¬ Framework.Claims id before := fun hnone hclaimed =>
      h.command?_ne_none hd (hguard (hclaims hclaimed) d hd) hnone
    rcases heffect.amend_or_endures hmade hunclaimed with
      ⟨amendment, r, _, hload, _, hleft⟩ | ⟨_, hends, _⟩
    · have hrewritten := Store.load_rewrite (a := amendment) hload
      rw [hleft]
      exact ⟨Store.isCreated_of_load hrewritten,
        fun hclaimed => absurd hclaimed (Framework.not_claims_of_load hrewritten), hamend amendment hload hkept⟩
    · exact ⟨(Store.isCreated_congr hends.content).trans hmade,
        fun hclaimed => hclaims ((Framework.Claims.congr hends.content).1 hclaimed), hendures hends hkept⟩
  exact hall.2.2

/-- Without the framework, what amendments keep is kept. -/
theorem preserves_of_own (h : Path a deeds b) (hcreated : Store.isCreated id a = true)
    (hown : ∀ d ∈ deeds, ¬ d.instruction.ForFramework)
    (hamend : ∀ {account : Account} (amendment : Amendment) {r : Record},
      Store.load id account = .ok (some r) → I account → I (amendment.rewrite r account)) (ha : I a) :
    I b := by
  have hboth : Store.isCreated id b = true ∧ I b := by
    refine h.preserves (I := fun account => Store.isCreated id account = true ∧ I account) ?_ ⟨hcreated, ha⟩
    rintro d hd before heffect ⟨hmade, hkept⟩
    obtain ⟨c, hcommand⟩ := Option.ne_none_iff_exists'.1 (h.command?_ne_none hd (hown d hd))
    rw [hcommand] at heffect
    rcases heffect.amend_or_query hmade with ⟨amendment, r, _, hload, _, hleft⟩ | ⟨_, hleft⟩
    · rw [hleft]
      exact ⟨Store.isCreated_of_load (Store.load_rewrite (a := amendment) hload), hamend amendment hload hkept⟩
    · rw [hleft]
      exact ⟨hmade, hkept⟩
  exact hboth.2

theorem keeps {r : Record} (h : Path a deeds b) (hcreated : Store.isCreated id a = true)
    (hguard : Framework.Claims id a → ∀ d ∈ deeds, ¬ d.instruction.ForFramework)
    (hread : Record.read a.data = .ok r) : a.Keeps r b :=
  h.preserves_of_guarded (I := a.Keeps r) hcreated hguard (fun amendment _ hload hkept =>
    hkept.rewrite amendment hload) (fun hendures hkept => hkept.endures hendures) (.refl hread)

/-- Where there is no record, there is nothing to amend, and nothing is established. -/
theorem endures_of_unreadable (h : Path a deeds b) (hcreated : Store.isCreated id a = true)
    (hguard : Framework.Claims id a → ∀ d ∈ deeds, ¬ d.instruction.ForFramework)
    (hunreadable : ∀ r, Record.read a.data ≠ .ok r) : a.Endures b := by
  refine h.preserves_of_guarded (I := a.Endures) hcreated hguard ?_ (fun hends hkept => hkept.trans hends)
    (.refl a)
  intro account amendment r hload hkept
  have hread := Record.read_eq_ok_iff.2 (Store.load_eq_some_iff.1 hload).2
  rw [hkept.content.data] at hread
  exact absurd hread (hunreadable r)

theorem eq_of_unreadable (h : Path a deeds b) (hcreated : Store.isCreated id a = true)
    (hown : ∀ d ∈ deeds, ¬ d.instruction.ForFramework)
    (hunreadable : ∀ r, Record.read a.data ≠ .ok r) : b = a := by
  refine h.preserves_of_own (I := (· = a)) hcreated hown ?_ rfl
  rintro account amendment r hload rfl
  exact absurd (Record.read_eq_ok_iff.2 (Store.load_eq_some_iff.1 hload).2) (hunreadable r)

theorem lamports_eq (h : Path a deeds b) (hcreated : Store.isCreated id a = true)
    (hown : ∀ d ∈ deeds, ¬ d.instruction.ForFramework) : b.lamports = a.lamports :=
  h.preserves_of_own (I := fun account => account.lamports = a.lamports) hcreated hown
    (fun _ _ _ hkept => hkept) rfl

end Path

namespace Chain

/-- **The identity is immutable**, from any state in which the account has been made, unless the framework
claims the account and is asked. -/
theorem identity_immutable {chain : Chain} {steps : List Step}
    (hcreated : Store.isCreated id (chain.ledger recordAddress) = true)
    (hspares : ∀ s ∈ steps, s.SparesRecord)
    (hguard : Framework.Claims id (chain.ledger recordAddress) →
      ∀ d ∈ chain.deeds steps, ¬ d.instruction.ForFramework) :
    ((chain.run steps).2.ledger recordAddress).owner = (chain.ledger recordAddress).owner ∧
    ((chain.run steps).2.ledger recordAddress).executable = (chain.ledger recordAddress).executable ∧
    ((chain.run steps).2.ledger recordAddress).data.length =
      (chain.ledger recordAddress).data.length ∧
    (chain.ledger recordAddress).lamports ≤ ((chain.run steps).2.ledger recordAddress).lamports ∧
    ((∀ d ∈ chain.deeds steps, ¬ d.instruction.ForFramework) →
      ((chain.run steps).2.ledger recordAddress).lamports = (chain.ledger recordAddress).lamports) ∧
    (∀ r, Record.read (chain.ledger recordAddress).data = .ok r →
      (∃ s, Record.read ((chain.run steps).2.ledger recordAddress).data = .ok s ∧
        s.networkId = r.networkId ∧ s.createdAt = r.createdAt ∧ s.bump = r.bump) ∧
      ∀ k, (∀ f : Field, ¬ f.Covers r k) →
        ((chain.run steps).2.ledger recordAddress).data[k]? = (chain.ledger recordAddress).data[k]?) ∧
    ((∀ r, Record.read (chain.ledger recordAddress).data ≠ .ok r) →
      ((chain.run steps).2.ledger recordAddress).data = (chain.ledger recordAddress).data ∧
      ((∀ d ∈ chain.deeds steps, ¬ d.instruction.ForFramework) →
        (chain.run steps).2.ledger recordAddress = chain.ledger recordAddress)) := by
  have hpath := chain.path hspares
  cases hread : Record.read (chain.ledger recordAddress).data with
  | ok r =>
      have hkeeps := hpath.keeps hcreated hguard hread
      refine ⟨hkeeps.owner, hkeeps.executable, hkeeps.length, hkeeps.lamports, hpath.lamports_eq hcreated, ?_,
        fun hunreadable => absurd rfl (hunreadable r)⟩
      rintro s ⟨⟩
      exact ⟨hkeeps.identity, hkeeps.bytes⟩
  | error fault =>
      have hunreadable : ∀ r, Record.read (chain.ledger recordAddress).data ≠ .ok r := by
        rw [hread]
        nofun
      have hendures := hpath.endures_of_unreadable hcreated hguard hunreadable
      exact ⟨hendures.content.owner, hendures.executable, congrArg List.length hendures.content.data,
        hendures.lamports, hpath.lamports_eq hcreated, nofun,
        fun _ => ⟨hendures.content.data, fun hown => hpath.eq_of_unreadable hcreated hown hunreadable⟩⟩

/-- A chain on which the record's account has been made, and the framework claims it. -/
def vacant : Chain where
  ledger := Ledger.fresh.set recordAddress .vacant
  env := Environment.default

/-- There the data is no record, and changes all the same when the framework makes a buffer of it. -/
theorem vacant_account_changes :
    ¬ ∀ (chain : Chain) (steps : List Step), Store.isCreated id (chain.ledger recordAddress) = true →
      (∀ s ∈ steps, s.SparesRecord) → (∀ r, Record.read (chain.ledger recordAddress).data ≠ .ok r) →
      (chain.run steps).2.ledger recordAddress = chain.ledger recordAddress := by
  intro hall
  have hunreadable : ∀ r, Record.read (vacant.ledger recordAddress).data ≠ .ok r := by
    intro r hread
    have hgarbage : (Record.read (vacant.ledger recordAddress).data).isOk = false := by decide +kernel
    rw [hread] at hgarbage
    cases hgarbage
  have hsame := hall vacant [.transaction [.makeBuffer recordAddress]] (by decide +kernel)
    (List.forall_mem_singleton.2 trivial) hunreadable
  have hchanged : (vacant.run [.transaction [.makeBuffer recordAddress]]).2.ledger recordAddress ≠
      vacant.ledger recordAddress := by
    decide +kernel
  exact hchanged hsame

/-- A chain on which the record's account has been made, but holds no record. -/
def occupied : Chain where
  ledger := Ledger.fresh.set recordAddress ⟨5, Program.id, [1, 2, 3], false⟩
  env := Environment.default

/-- The small history changes the account of the founded chain, but neither its lamports nor the first
letter of the network id; the account that holds no record it does not change. -/
theorem identity_immutable_small :
    (Store.isCreated id (founded.ledger recordAddress) = true ∧
      (founded.run Step.small).2.ledger recordAddress ≠ founded.ledger recordAddress ∧
      ((founded.run Step.small).2.ledger recordAddress).lamports =
        (founded.ledger recordAddress).lamports ∧
      ((founded.run Step.small).2.ledger recordAddress).data[76]? =
        (founded.ledger recordAddress).data[76]? ∧
      ∃ s, Record.read ((founded.run Step.small).2.ledger recordAddress).data = .ok s ∧
        s.networkId = "solana" ∧ s.createdAt = 1700000000 ∧ s.bump = 255) ∧
    (Store.isCreated id (occupied.ledger recordAddress) = true ∧
      (occupied.run Step.small).2.ledger recordAddress = occupied.ledger recordAddress) ∧
    ∀ s ∈ Step.small, s.SparesRecord := by
  have hfounded := Store.isCreated_of_load load_founded
  have hread := Record.read_eq_ok_iff.2 (Store.load_eq_some_iff.1 load_founded).2
  have hchanged : (founded.run Step.small).2.ledger recordAddress ≠ founded.ledger recordAddress := by
    decide +kernel
  have hletter : ∀ f : Field,
      ¬ f.Covers (Record.initial (Address.ofByte 1) "solana" 1700000000 255) 76 := by
    intro f
    cases f <;> decide
  have hoccupied : Store.isCreated id (occupied.ledger recordAddress) = true := by decide
  have hunreadable : ∀ r, Record.read (occupied.ledger recordAddress).data ≠ .ok r := nofun
  have hunclaimed : ¬ Framework.Claims id (occupied.ledger recordAddress) := by decide
  have hown : ∀ chain ∈ [founded, occupied], ∀ d ∈ chain.deeds Step.small,
      ¬ d.instruction.ForFramework := by
    decide +kernel
  obtain ⟨_, _, _, _, hlamports, hkeeps, _⟩ := identity_immutable hfounded Step.small_sparesRecord
    fun hclaimed => absurd hclaimed (Framework.not_claims_of_load load_founded)
  obtain ⟨hidentity, hbytes⟩ := hkeeps _ hread
  obtain ⟨_, _, _, _, _, _, hunchanged⟩ := identity_immutable hoccupied Step.small_sparesRecord
    fun hclaimed => absurd hclaimed hunclaimed
  exact ⟨⟨hfounded, hchanged, hlamports (hown founded (by simp)), hbytes 76 hletter, hidentity⟩,
    ⟨hoccupied, (hunchanged hunreadable).2 (hown occupied (by simp))⟩, Step.small_sparesRecord⟩

end Chain

end NetIdentity
