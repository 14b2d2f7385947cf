import NetIdentity.Proofs.Addressing

/-!
# Joining and splitting addresses

An address comes about in three ways: it is joined from two parts, it is parsed, or it is decoded. Only parsing
checks the text, and yet the parts of an address can be relied on whatever its text is.

Joining and splitting undo each other as far as they can. Of two joined parts both are found again if there is no
delimiter in the first one, and neither of them if there is (`networkId_join_iff`, `account_join_iff`); and an
address with a delimiter is joined from its own parts (`join_parts_iff`).

What is parsed is spelled by a grammar (`Spells`). Whatever is spelled is accepted, and nothing else is
(`Spells.parse_eq`, `spells_of_parse`); and a text has at most one spelling, so the parts that are split off it again
and again are always the ones that it was accepted for (`Spells.unique`).
-/

namespace NetIdentity

namespace NetworkAddress

variable {networkId account text : String} {address : NetworkAddress}

/-! ## Joined addresses -/

theorem delimiter_mem_join (networkId account : String) :
    delimiter ∈ (join networkId account).text.toList := by
  rw [toList_join]
  exact List.mem_append_right _ (List.mem_cons_self ..)

/-- Parts that are joined to the same address are the same, if there is no delimiter in either network id. -/
theorem join_inj {otherId otherAccount : String} (h : delimiter ∉ networkId.toList)
    (hother : delimiter ∉ otherId.toList) :
    join networkId account = join otherId otherAccount ↔ networkId = otherId ∧ account = otherAccount := by
  constructor
  · intro hjoined
    have hparts := congrArg parts hjoined
    rw [parts_join h, parts_join hother, Prod.mk.injEq] at hparts
    exact hparts
  · rintro ⟨rfl, rfl⟩
    rfl

theorem networkId_join_iff : (join networkId account).networkId = networkId ↔ delimiter ∉ networkId.toList := by
  constructor
  · intro hfound
    have hplain := (join networkId account).delimiter_not_mem_networkId
    rw [hfound] at hplain
    exact hplain
  · exact networkId_join

theorem account_join_iff : (join networkId account).account = account ↔ delimiter ∉ networkId.toList := by
  constructor
  · intro hfound
    rcases parts_cases (join networkId account) with ⟨hplain, _⟩ | ⟨hplain, hjoined⟩
    · exact absurd (delimiter_mem_join networkId account) hplain
    · -- What stands before the account is then the same on both sides.
      rw [hfound] at hjoined
      have htext := congrArg (fun address => address.text.toList) hjoined
      simp only [toList_join] at htext
      rw [List.append_cancel_right htext]
      exact hplain
  · exact account_join

/-- An address is joined from its parts exactly if there is a delimiter to stand between them. -/
theorem join_parts_iff : join address.networkId address.account = address ↔ delimiter ∈ address.text.toList := by
  constructor
  · intro hjoined
    rw [← hjoined]
    exact delimiter_mem_join _ _
  · intro hdelimited
    rcases parts_cases address with ⟨hplain, _⟩ | ⟨_, hjoined⟩
    · exact absurd hdelimited hplain
    · exact hjoined.symm

/-- **Joining and splitting agree.** The parts of a joined address are the ones it was joined from exactly if there
is no delimiter in the network id, so no two such pairs are joined to the same address. And of any address, checked
or not, the network id has no delimiter in it, and the parts make up the address exactly if the text has one; a text
without a delimiter is all network id. -/
theorem splitting_inverts_joining :
    (∀ networkId account : String,
      ((join networkId account).networkId = networkId ↔ '/' ∉ networkId.toList) ∧
      ((join networkId account).account = account ↔ '/' ∉ networkId.toList)) ∧
    (∀ networkId account otherId otherAccount : String,
      '/' ∉ networkId.toList → '/' ∉ otherId.toList →
      join networkId account = join otherId otherAccount → networkId = otherId ∧ account = otherAccount) ∧
    ∀ address : NetworkAddress,
      '/' ∉ address.networkId.toList ∧
      (join address.networkId address.account = address ↔ '/' ∈ address.text.toList) ∧
      ('/' ∉ address.text.toList → address.networkId = address.text ∧ address.account = "") := by
  refine ⟨fun _ _ => ⟨networkId_join_iff, account_join_iff⟩, ?_, fun address => ⟨?_, ?_, ?_⟩⟩
  · intro networkId account otherId otherAccount h hother hjoined
    exact (join_inj h hother).1 hjoined
  · exact address.delimiter_not_mem_networkId
  · exact join_parts_iff
  · intro hplain
    rcases parts_cases address with ⟨_, hparts⟩ | ⟨_, hjoined⟩
    · exact hparts
    · rw [hjoined] at hplain
      exact absurd (delimiter_mem_join _ _) hplain

/-- An account may have delimiters, a network id may not: with one in it the joined address has other parts, and is
that of another pair. Bytes that no parser has seen are decoded to an address that is all network id. -/
theorem splitting_inverts_joining_small :
    ((join "日本" "a/b").networkId = "日本" ∧ (join "日本" "a/b").account = "a/b") ∧
    ((join "a/b" "c").networkId ≠ "a/b" ∧ (join "a/b" "c").account ≠ "c") ∧
    join "a" "b" ≠ join "ab" "" ∧
    (decode : Decoder NetworkAddress).all [2, 0, 0, 0, 0x61, 0x62] = .ok ⟨"ab"⟩ ∧
    (NetworkAddress.mk "ab").networkId = "ab" ∧ (NetworkAddress.mk "ab").account = "" ∧
    join (NetworkAddress.mk "ab").networkId (NetworkAddress.mk "ab").account ≠ ⟨"ab"⟩ := by
  obtain ⟨hjoined, hinjective, hparts⟩ := splitting_inverts_joining
  have hplain := hjoined "日本" "a/b"
  have hdelimited := hjoined "a/b" "c"
  obtain ⟨_, hwhole, hnone⟩ := hparts ⟨"ab"⟩
  refine ⟨⟨hplain.1.2 (by decide), hplain.2.2 (by decide)⟩, ⟨?_, ?_⟩, ?_, rfl, ?_⟩
  · exact fun hfound => absurd (hdelimited.1.1 hfound) (by decide)
  · exact fun hfound => absurd (hdelimited.2.1 hfound) (by decide)
  · exact fun hsame => absurd (hinjective "a" "b" "ab" "" (by decide) (by decide) hsame).1 (by decide)
  · obtain ⟨hnetworkId, haccount⟩ := hnone (by decide)
    exact ⟨hnetworkId, haccount, fun hsame => absurd (hwhole.1 hsame) (by decide)⟩

/-! ## Parsed addresses -/

/-- The text is spelled as an address: a network id without a delimiter in it, the delimiter, and an account, both
of them not empty. -/
structure Spells (networkId account text : String) : Prop where
  networkId_ne : networkId ≠ ""
  account_ne : account ≠ ""
  undelimited : '/' ∉ networkId.toList
  text_eq : text = networkId ++ "/" ++ account

theorem Spells.join_eq (h : Spells networkId account text) : join networkId account = ⟨text⟩ := by
  rw [h.text_eq]
  rfl

/-- A text is spelled in one way only. -/
theorem Spells.unique {otherId otherAccount : String} (h : Spells networkId account text)
    (hother : Spells otherId otherAccount text) : otherId = networkId ∧ otherAccount = account :=
  (join_inj hother.undelimited h.undelimited).1 (hother.join_eq.trans h.join_eq.symm)

/-- What is accepted is spelled by the parts that are split off it. -/
theorem spells_of_parse (h : parse text = .ok address) : Spells address.networkId address.account text := by
  obtain ⟨rfl, hnetworkId, haccount⟩ := parse_eq_ok_iff.1 h
  rcases parts_cases ⟨text⟩ with ⟨_, _, hnone⟩ | ⟨hplain, hjoined⟩
  · exact absurd hnone haccount
  · exact ⟨hnetworkId, haccount, hplain, congrArg NetworkAddress.text hjoined⟩

theorem Spells.parse_eq (h : Spells networkId account text) : parse text = .ok (join networkId account) := by
  refine parse_eq_ok_iff.2 ⟨h.join_eq, ?_, ?_⟩
  · rw [networkId_join h.undelimited]
    exact h.networkId_ne
  · rw [account_join h.undelimited]
    exact h.account_ne

/-- **Parsing accepts exactly the texts that are spelled as addresses**, each of which has one spelling; and the
address that it gives is shown as the text, and has the parts of the spelling. Any other text is refused with one
and the same fault. -/
theorem parse_exact (text : String) :
    ((∃ address, parse text = .ok address) ↔ ∃ networkId account, Spells networkId account text) ∧
    (∀ networkId account, Spells networkId account text →
      (∀ otherId otherAccount, Spells otherId otherAccount text →
        otherId = networkId ∧ otherAccount = account) ∧
      ∃ address, parse text = .ok address ∧ toString address = text ∧ address.networkId = networkId ∧
        address.account = account ∧ address = join networkId account) ∧
    ((∀ networkId account, ¬ Spells networkId account text) →
      parse text = .error .invalidNetworkAddress) := by
  refine ⟨⟨?_, ?_⟩, ?_, ?_⟩
  · rintro ⟨address, hparse⟩
    exact ⟨_, _, spells_of_parse hparse⟩
  · rintro ⟨networkId, account, h⟩
    exact ⟨_, h.parse_eq⟩
  · intro networkId account h
    refine ⟨fun _ _ hother => h.unique hother, _, h.parse_eq, ?_, networkId_join h.undelimited,
      account_join h.undelimited, rfl⟩
    rw [h.join_eq]
    rfl
  · intro hnone
    cases hparse : parse text with
    | ok address => exact absurd (spells_of_parse hparse) (hnone _ _)
    | error fault => rw [parse_eq_error hparse]

/-- The first delimiter separates, and what follows is the account with all its delimiters. A text that starts with
a delimiter is no address. -/
theorem parse_exact_small :
    Spells "日本" "cx//extra" "日本/cx//extra" ∧
    (∃ address, parse "日本/cx//extra" = .ok address ∧ toString address = "日本/cx//extra" ∧
      address.networkId = "日本" ∧ address.account = "cx//extra") ∧
    (∀ networkId account, ¬ Spells networkId account "/account") ∧
    parse "/account" = .error .invalidNetworkAddress := by
  have hspelled : Spells "日本" "cx//extra" "日本/cx//extra" := ⟨by decide, by decide, by decide, rfl⟩
  have hunspelled : ∀ networkId account, ¬ Spells networkId account "/account" := by
    intro networkId account h
    have hrefused : parse "/account" = .error .invalidNetworkAddress := rfl
    rw [h.parse_eq] at hrefused
    cases hrefused
  obtain ⟨address, hparse, hshown, hnetworkId, haccount, _⟩ :=
    ((parse_exact "日本/cx//extra").2.1 _ _ hspelled).2
  exact ⟨hspelled, ⟨address, hparse, hshown, hnetworkId, haccount⟩, hunspelled,
    (parse_exact "/account").2.2 hunspelled⟩

end NetworkAddress

end NetIdentity
