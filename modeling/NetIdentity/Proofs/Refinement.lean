import NetIdentity.Proofs.Deeds

/-!
# The identity as a fold over deeds

Seen from outside, the program keeps one optional record. `Identity.advance` says what each command
makes of it, in terms of the record's fields alone; where the command has no business succeeding it says
nothing. `Identity.replay` folds it over deeds.

`load_eq_replay` is the refinement: from a ledger without a record, at every point of every history, what
is loaded from the record's account is what the deeds so far replay to. In particular the fold never gets
stuck, so nothing is ever established twice or amended before it is there. A deed that asks for no command is
one of the framework, and makes nothing of the identity.
-/

namespace NetIdentity

open NetIdentity.Program

abbrev Identity := Option Record

namespace Identity

/-- What a command makes of the identity when it succeeds, if it can. -/
def advance (signer : Option Address) (clock : Option Int64) : Command → Identity → Option Identity
  | .establish networkId, none => do
      let founder ← signer
      let now ← clock
      some (some
        { admin := founder
          feeHandler := founder
          networkId := networkId
          protocolFee := 0
          createdAt := now
          bump := recordBump })
  | .amend (.admin successor), some r => some (some { r with admin := successor })
  | .amend (.feeHandler successor), some r => some (some { r with feeHandler := successor })
  | .amend (.protocolFee fee), some r => some (some { r with protocolFee := fee })
  | .query _, state => some state
  | _, _ => none

/-- What a deed makes of the identity. Without a command it makes nothing of it. -/
def advanceBy (d : Deed) (state : Identity) : Option Identity :=
  match d.command? with
  | some c => advance d.signer? d.env.clock c state
  | none => some state

theorem advanceBy_of_command {d : Deed} {c : Command} (h : d.command? = some c) (state : Identity) :
    advanceBy d state = advance d.signer? d.env.clock c state := by
  rw [advanceBy, h]

theorem advanceBy_of_framework {d : Deed} (h : d.command? = none) (state : Identity) :
    advanceBy d state = some state := by
  rw [advanceBy, h]

/-- What deeds make of the identity, one after another. -/
def replay : Identity → List Deed → Option Identity
  | state, [] => some state
  | state, d :: rest => (advanceBy d state).bind fun next => replay next rest

theorem advance_amend (signer : Option Address) (clock : Option Int64) (a : Amendment) (r : Record) :
    advance signer clock (.amend a) (some r) = some (some (a.apply r)) := by
  cases a <;> rfl

/-- One step of the refinement: an effect on the account is an advance of the identity. -/
theorem advance_of_effect {signer : Option Address} {clock : Option Int64} {before after : Account}
    {c : Command} {state : Identity} (h : Effect signer clock before (some c) after)
    (hload : Store.load id before = .ok state) :
    ∃ next, advance signer clock c state = some next ∧ Store.load id after = .ok next := by
  cases c with
  | establish networkId =>
      obtain ⟨founder, now, hsigner, hclock, hafter⟩ := h.load_establish
      rw [Store.load_of_not_created h.fresh_of_establish] at hload
      cases hload
      subst hsigner hclock
      exact ⟨_, rfl, hafter⟩
  | amend a =>
      cases h with
      | @amend _ r loaded _ =>
          rw [loaded] at hload
          cases hload
          exact ⟨_, advance_amend signer clock a r, Store.load_rewrite loaded⟩
  | query q =>
      cases h
      exact ⟨state, rfl, hload⟩

/-- The same of a deed. One of the framework leaves what can be loaded as it is. -/
theorem advanceBy_of_path {d : Deed} {a b : Account} {rest : List Deed} {state : Identity}
    (h : Path a (d :: rest) b) (hload : Store.load id a = .ok state) :
    ∃ next, advanceBy d state = some next ∧ Store.load id d.left = .ok next := by
  have heffect := h.effect
  cases hcommand : d.command? with
  | some c =>
      rw [hcommand] at heffect
      rw [advanceBy_of_command hcommand]
      exact advance_of_effect heffect hload
  | none =>
      rw [hcommand] at heffect
      exact ⟨state, advanceBy_of_framework hcommand state, heffect.load_framework hload⟩

theorem replay_of_path : {a b : Account} → {deeds : List Deed} → {state : Identity} →
    Path a deeds b → Store.load id a = .ok state →
    ∃ next, replay state deeds = some next ∧ Store.load id b = .ok next
  | _, _, [], state, h, hload => by
      cases h
      exact ⟨state, rfl, hload⟩
  | _, _, d :: _, _, h, hload => by
      obtain ⟨between, hadvance, hleft⟩ := advanceBy_of_path h hload
      obtain ⟨next, hreplay, hb⟩ := replay_of_path h.2.2 hleft
      refine ⟨next, ?_, hb⟩
      rw [replay, hadvance, Option.bind_some]
      exact hreplay

/-- **The record refines the replay of the deeds**, after every step of a history and before every
deed. -/
theorem load_eq_replay {chain : Chain} {steps : List Step}
    (hfresh : Store.isCreated id (chain.ledger recordAddress) = false)
    (hspares : ∀ s ∈ steps, s.SparesRecord) :
    (∀ done rest, steps = done ++ rest →
      ∃ state, replay none (chain.deeds done) = some state ∧
        Store.load id ((chain.run done).2.ledger recordAddress) = .ok state) ∧
    ∀ done d rest, chain.deeds steps = done ++ d :: rest →
      ∃ state, replay none done = some state ∧ Store.load id d.found = .ok state := by
  have hnone := Store.load_of_not_created hfresh
  constructor
  · rintro done rest rfl
    exact replay_of_path (chain.path fun s hs => hspares s (List.mem_append_left rest hs)) hnone
  · intro done d rest hdeeds
    have hpath := chain.path hspares
    rw [hdeeds] at hpath
    obtain ⟨between, hdone, hd⟩ := hpath.split
    rw [hd.1]
    exact replay_of_path hdone hnone

theorem load_eq_replay_small :
    Store.isCreated id (Chain.small.ledger recordAddress) = false ∧
      (∀ s ∈ Step.small, s.SparesRecord) ∧
      Store.load id ((Chain.small.run Step.small).2.ledger recordAddress) =
        .ok (some
          { admin := Address.ofByte 2
            feeHandler := Address.ofByte 3
            networkId := "solana"
            protocolFee := 7
            createdAt := 1700000000
            bump := 255 }) := by
  refine ⟨Chain.small_fresh, Step.small_sparesRecord, ?_⟩
  obtain ⟨state, hreplay, hload⟩ :=
    (load_eq_replay Chain.small_fresh Step.small_sparesRecord).1 Step.small [] (List.append_nil _).symm
  have hstate : replay none (Chain.small.deeds Step.small) =
      some (some ⟨Address.ofByte 2, Address.ofByte 3, "solana", 7, 1700000000, 255⟩) := by
    decide +kernel
  rw [hreplay] at hstate
  cases hstate
  exact hload

end Identity

end NetIdentity
