import NetIdentity.Record.Stored

/-!
# Network ids in addresses and in storage

An address is split at its first delimiter. So a network id that has none in it can be joined to any account, and
both are found again (`NetworkAddress.parts_join`); and no address at all, however it came about, is split so that
there is a delimiter in its network id (`NetworkAddress.delimiter_not_mem_networkId`).

The policy on network ids asks for no more than that and for the room that a record has. It could be neither
looser nor stricter: an id is accepted exactly if its record can be stored and its addresses can be read.
-/

namespace NetIdentity

namespace NetworkAddress

variable {networkId account text : String} {address : NetworkAddress}

/-! ## Joining and splitting -/

theorem ext_toList {x y : NetworkAddress} (h : x.text.toList = y.text.toList) : x = y :=
  congrArg mk (String.toList_inj.1 h)

theorem toList_join (networkId account : String) :
    (join networkId account).text.toList = networkId.toList ++ delimiter :: account.toList := by
  simp [join]

theorem parts_join (h : delimiter ∉ networkId.toList) :
    (join networkId account).parts = (networkId, account) := by
  rw [parts, splitAtDelimiter_eq_some_iff.2 ⟨h, toList_join networkId account⟩]
  dsimp only
  rw [String.ofList_toList, String.ofList_toList]

theorem networkId_join (h : delimiter ∉ networkId.toList) : (join networkId account).networkId = networkId := by
  rw [NetworkAddress.networkId, parts_join h]

theorem account_join (h : delimiter ∉ networkId.toList) : (join networkId account).account = account := by
  rw [NetworkAddress.account, parts_join h]

/-- An address without a delimiter is all network id, and one with a delimiter is joined from its parts. -/
theorem parts_cases (address : NetworkAddress) :
    (delimiter ∉ address.text.toList ∧ address.networkId = address.text ∧ address.account = "") ∨
      (delimiter ∉ address.networkId.toList ∧ address = join address.networkId address.account) := by
  cases hsplit : splitAtDelimiter address.text.toList with
  | none =>
      have hparts : address.parts = (address.text, "") := by
        rw [parts, hsplit]
      refine Or.inl ⟨splitAtDelimiter_eq_none_iff.1 hsplit, ?_, ?_⟩
      · rw [NetworkAddress.networkId, hparts]
      · rw [NetworkAddress.account, hparts]
  | some found =>
      obtain ⟨before, after⟩ := found
      obtain ⟨hbefore, htext⟩ := splitAtDelimiter_eq_some_iff.1 hsplit
      have hjoined : address = join (String.ofList before) (String.ofList after) := by
        apply ext_toList
        rw [htext, toList_join, String.toList_ofList, String.toList_ofList]
      have hplain : delimiter ∉ (String.ofList before).toList := by
        rw [String.toList_ofList]
        exact hbefore
      refine Or.inr ⟨?_, ?_⟩
      · rw [hjoined, networkId_join hplain]
        exact hplain
      · rw [hjoined, networkId_join hplain, account_join hplain]

theorem delimiter_not_mem_networkId (address : NetworkAddress) : delimiter ∉ address.networkId.toList := by
  rcases parts_cases address with ⟨hplain, hwhole, _⟩ | ⟨hplain, _⟩
  · rw [hwhole]
    exact hplain
  · exact hplain

/-- A text can be read as an address if neither of its parts is empty. -/
theorem parse_eq (text : String) :
    parse text = if (mk text).networkId ≠ "" ∧ (mk text).account ≠ "" then .ok ⟨text⟩
      else .error .invalidNetworkAddress := by
  unfold parse NetworkAddress.networkId NetworkAddress.account parts
  cases splitAtDelimiter text.toList with
  | none => simp
  | some found =>
      obtain ⟨before, after⟩ := found
      cases before with
      | nil => simp
      | cons c before =>
          cases after with
          | nil => simp
          | cons d after => simp

theorem parse_eq_ok_iff :
    parse text = .ok address ↔ address = ⟨text⟩ ∧ address.networkId ≠ "" ∧ address.account ≠ "" := by
  rw [parse_eq]
  split
  · next hparts =>
    constructor
    · rintro ⟨⟩
      exact ⟨rfl, hparts⟩
    · rintro ⟨rfl, _⟩
      rfl
  · next hparts =>
    constructor
    · rintro ⟨⟩
    · rintro ⟨rfl, hnonempty⟩
      exact absurd hnonempty hparts

theorem parse_eq_error {fault : Fault} (h : parse text = .error fault) : fault = .invalidNetworkAddress := by
  rw [parse_eq] at h
  split at h
  · cases h
  · cases h
    rfl

end NetworkAddress

/-- A record has room for its network id if the id is short enough, and only then. -/
theorem Record.length_stored_le_space_iff (r : Record) :
    r.stored.length ≤ space ↔ r.networkId.utf8ByteSize ≤ NetworkId.maxBytes := by
  rw [length_stored]
  simp only [space, contentSpace, discriminatorSize]
  omega

/-! ## The policy -/

namespace NetworkId

/-- **The policy asks for what storage and addressing need.** A network id is accepted exactly if a record with it
fits in its account and each of its addresses can be read and split again, whatever the other fields and the
account are. One that is refused is too long if it takes more bytes than allowed, also when there is a delimiter in
it, and else not valid. -/
theorem policy_exact (r : Record) :
    (validate r.networkId = .ok () ↔
      r.stored.length ≤ Record.space ∧
        ∀ account, account ≠ "" → ∃ address,
          NetworkAddress.parse (NetworkAddress.join r.networkId account).text = .ok address ∧
            address.networkId = r.networkId ∧ address.account = account) ∧
    ∀ fault, validate r.networkId = .error fault →
      fault = if maxBytes < r.networkId.utf8ByteSize then .networkIdTooLong else .invalidNetworkId := by
  refine ⟨⟨?_, ?_⟩, fun fault h => validate_eq_error h⟩
  · intro haccepted
    obtain ⟨hnonempty, _, hplain⟩ := validate_eq_ok_iff.1 haccepted
    refine ⟨Record.length_stored_le haccepted, fun account haccount => ?_⟩
    have hnetworkId := @NetworkAddress.networkId_join _ account hplain
    have hfound := @NetworkAddress.account_join _ account hplain
    refine ⟨_, NetworkAddress.parse_eq_ok_iff.2 ⟨rfl, ?_, ?_⟩, hnetworkId, hfound⟩
    · rw [hnetworkId]
      exact fun hempty => hnonempty (String.utf8ByteSize_eq_zero_iff.2 hempty)
    · rw [hfound]
      exact haccount
  · rintro ⟨hroom, haddresses⟩
    -- The id is a part of an address that has been read, so it is not empty and has no delimiter.
    obtain ⟨address, hparse, hnetworkId, _⟩ := haddresses "a" (by decide)
    have hnonempty := (NetworkAddress.parse_eq_ok_iff.1 hparse).2.1
    have hplain := address.delimiter_not_mem_networkId
    rw [hnetworkId] at hnonempty hplain
    refine validate_eq_ok_iff.2 ⟨?_, (Record.length_stored_le_space_iff r).1 hroom, hplain⟩
    exact fun hempty => hnonempty (String.utf8ByteSize_eq_zero_iff.1 hempty)

/-- Six bytes make two characters, and an account may have delimiters. Too many of them are too long for a network
id, and a single one is not valid. -/
theorem policy_exact_small :
    let accepted := Record.initial Address.systemProgram "日本" 5 1
    let long := Record.initial Address.systemProgram (String.ofList (List.replicate 65 '/')) 5 1
    let delimited := Record.initial Address.systemProgram "a/b" 5 1
    accepted.stored.length ≤ Record.space ∧
      (∃ address, NetworkAddress.parse (NetworkAddress.join "日本" "a/b").text = .ok address ∧
        address.networkId = "日本" ∧ address.account = "a/b") ∧
      validate long.networkId = .error .networkIdTooLong ∧
      validate delimited.networkId = .error .invalidNetworkId := by
  intro accepted long delimited
  have hvalid : validate accepted.networkId = .ok () := validate_eq_ok_iff.2 (by decide +kernel)
  obtain ⟨hroom, haddresses⟩ := (policy_exact accepted).1.1 hvalid
  refine ⟨hroom, haddresses "a/b" (by decide), ?_, ?_⟩
  · cases h : validate long.networkId with
    | ok _ => exact absurd (validate_eq_ok_iff.1 h).2.1 (by decide +kernel)
    | error fault => rw [(policy_exact long).2 fault h, if_pos (by decide +kernel)]
  · cases h : validate delimited.networkId with
    | ok _ => exact absurd (validate_eq_ok_iff.1 h).2.2 (by decide +kernel)
    | error fault => rw [(policy_exact delimited).2 fault h, if_neg (by decide +kernel)]

end NetworkId

end NetIdentity
