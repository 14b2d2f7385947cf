import NetIdentity.Codec.Canonical
import NetIdentity.Proofs.Outcomes

/-!
# What the data of an instruction says

A command is written as its mark followed by its argument, and data is read as a command exactly when it
starts with what the command is written as (`Instruction.readAs_iff`). So no command is read from the data of
another one, and bytes behind the argument do nothing.

Data that starts with the mark of the framework is answered by the framework. All other data is refused, for
one of three reasons, each of which can be seen from the data alone (`Selector.Unread`): neither the accounts
nor the ledger are looked at.
-/

namespace NetIdentity

open NetIdentity.Action

/-! ## Arguments -/

/-- A value that is read and then put into a larger one, from which it can be told. -/
theorem Codec.Canonical.wrap_eq_ok_iff {α β : Type} [Codec α] {fits : α → Prop}
    (h : Codec.Canonical α fits) {wrap : α → β} (hwrap : ∀ x y, wrap x = wrap y → x = y)
    {data rest : Bytes} {x : α} :
    ((decode : Decoder α) >>= fun value => pure (wrap value)) data = .ok (wrap x, rest) ↔
      fits x ∧ data = encode x ++ rest := by
  rw [Decoder.bind_eq_ok]
  constructor
  · rintro ⟨y, between, hread, hpure⟩
    have hsame : (Except.ok (wrap y, between) : Except DecodeError (β × Bytes)) = .ok (wrap x, rest) :=
      hpure
    obtain ⟨hvalue, rfl⟩ := Prod.mk.inj (Except.ok.inj hsame)
    rw [hwrap y x hvalue] at hread
    exact (h data x between).1 hread
  · intro hdata
    exact ⟨x, rest, (h data x rest).2 hdata, rfl⟩

namespace Command

/-- The length of the command's text can be written. It can for every text of less than four gigabytes, and
a longer one cannot be sent. -/
def Fits : Command → Prop
  | .establish networkId => networkId.utf8ByteSize < UInt32.size
  | .amend _ => True
  | .query _ => True

/-- An argument is read from exactly the bytes it is written as, and what stands behind it is left. -/
theorem decoder_eq_ok_iff (c : Command) {data rest : Bytes} :
    decoder c.selector data = .ok (c, rest) ↔ c.Fits ∧ data = c.argument ++ rest := by
  cases c with
  | establish networkId =>
      exact Codec.canonical_string.wrap_eq_ok_iff (fun x y h => Command.establish.inj h)
  | amend a =>
      cases a with
      | admin successor =>
          exact Codec.canonical_address.wrap_eq_ok_iff
            fun x y h => Amendment.admin.inj (Command.amend.inj h)
      | feeHandler successor =>
          exact Codec.canonical_address.wrap_eq_ok_iff
            fun x y h => Amendment.feeHandler.inj (Command.amend.inj h)
      | protocolFee fee =>
          exact Codec.canonical_uint64.wrap_eq_ok_iff
            fun x y h => Amendment.protocolFee.inj (Command.amend.inj h)
  | query q =>
      constructor
      · intro h
        cases h
        exact ⟨trivial, rfl⟩
      · rintro ⟨_, rfl⟩
        rfl

theorem read_eq_ok_iff (c : Command) {data : Bytes} :
    read c.selector data = .ok c ↔ c.Fits ∧ c.argument <+: data.drop 8 := by
  constructor
  · intro h
    unfold read at h
    split at h
    · next found rest hdecode =>
      cases h
      obtain ⟨hfits, hdata⟩ := c.decoder_eq_ok_iff.1 hdecode
      exact ⟨hfits, rest, hdata.symm⟩
    · cases h
  · rintro ⟨hfits, rest, hdata⟩
    have hdecode := c.decoder_eq_ok_iff.2 ⟨hfits, hdata.symm⟩
    rw [read, hdecode]

end Command

/-! ## Marks -/

namespace Selector

theorem discriminator_prefix_iff (s : Selector) {data : Bytes} :
    s.discriminator <+: data ↔ data.take 8 = s.discriminator := by
  rw [List.prefix_iff_eq_take, length_discriminator, eq_comm]

theorem read_eq_ok_iff (s : Selector) {data : Bytes} :
    read data = .ok s ↔ s.discriminator <+: data := by
  rw [discriminator_prefix_iff, ← ofData?_eq_some_iff]
  unfold read
  cases ofData? data with
  | none => simp
  | some found => simp

/-- No command is taken for an event. -/
theorem discriminator_ne_eventMark (s : Selector) : s.discriminator ≠ eventMark := by
  have hall : ∀ s ∈ all, s.discriminator ≠ eventMark := by decide
  exact hall s (mem_all s)

/-- Why data is not read as a command, and what the log says before the fault: the data selects a command but
does not hold its argument, it is an event, or it starts with neither. -/
inductive Unread (data : Bytes) : Fault → List LogEntry → Prop where
  | argument (s : Selector) (selected : s.discriminator <+: data) :
      Unread data .undecodableArgument [.instruction s.title]
  | event (marked : eventMark <+: data) : Unread data .eventInstruction []
  | unknown (unselected : ∀ s : Selector, ¬ s.discriminator <+: data) (unmarked : ¬ eventMark <+: data) :
      Unread data .unknownInstruction []

theorem eventMark_prefix_iff {data : Bytes} : eventMark <+: data ↔ data.take 8 = eventMark := by
  rw [List.prefix_iff_eq_take, eq_comm]
  rfl

theorem unselected_of_event {data : Bytes} (h : eventMark <+: data) (s : Selector) :
    ¬ s.discriminator <+: data := by
  intro hselected
  rw [eventMark_prefix_iff] at h
  rw [discriminator_prefix_iff, h] at hselected
  exact s.discriminator_ne_eventMark hselected.symm

/-- The three reasons exclude each other, so the number tells what the data starts with. -/
theorem Unread.code_iff {data : Bytes} {fault : Fault} {log : List LogEntry} (h : Unread data fault log) :
    (fault.code = 102 ↔ ∃ s : Selector, s.discriminator <+: data) ∧
    (fault.code = 1500 ↔ eventMark <+: data) ∧
    (fault.code = 101 ↔ (∀ s : Selector, ¬ s.discriminator <+: data) ∧ ¬ eventMark <+: data) := by
  cases h with
  | argument s selected =>
      have hevent : ¬ eventMark <+: data := fun hmarked => unselected_of_event hmarked s selected
      have hsome : ∃ s : Selector, s.discriminator <+: data := ⟨s, selected⟩
      simp [Fault.code, hevent, hsome, ← not_exists]
  | event marked =>
      have hnone := unselected_of_event marked
      simp [Fault.code, marked, hnone]
  | unknown unselected unmarked => simp [Fault.code, unselected, unmarked]

end Selector

/-! ## Instructions -/

/-- The data is let through as the command: it selects the command, and the argument can be read. -/
structure Instruction.ReadAs (i : Instruction) (c : Command) : Prop where
  selected : Selector.read i.data = .ok c.selector
  argument : Command.read c.selector i.data = .ok c

namespace Instruction

variable {i : Instruction} {c : Command}

theorem forFramework_iff : i.ForFramework ↔ Framework.mark <+: i.data := by
  rw [List.prefix_iff_eq_take, eq_comm]
  rfl

theorem ReadAs.command?_eq (h : i.ReadAs c) : i.command? = some c := by
  rw [command?_eq_some_iff, Selector.ofData?_eq_some_iff, ← Selector.discriminator_prefix_iff,
    ← Selector.read_eq_ok_iff]
  exact ⟨h.selected, h.argument⟩

/-- Data is read as a command exactly when it starts with what the command is written as. -/
theorem readAs_iff : i.ReadAs c ↔ c.Fits ∧ c.data <+: i.data := by
  have hlength := Selector.length_discriminator c.selector
  constructor
  · intro h
    obtain ⟨hfits, hargument⟩ := c.read_eq_ok_iff.1 h.argument
    obtain ⟨rest, hdata⟩ := c.selector.read_eq_ok_iff.1 h.selected
    rw [← hdata, ← hlength, List.drop_left] at hargument
    refine ⟨hfits, ?_⟩
    rw [← hdata, Command.data]
    exact (List.prefix_append_right_inj _).2 hargument
  · rintro ⟨hfits, rest, hdata⟩
    rw [Command.data, List.append_assoc] at hdata
    have hselected : c.selector.discriminator <+: i.data := ⟨c.argument ++ rest, hdata⟩
    have hargument : c.argument <+: i.data.drop 8 := by
      rw [← hdata, ← hlength, List.drop_left]
      exact List.prefix_append c.argument rest
    exact ⟨c.selector.read_eq_ok_iff.2 hselected, c.read_eq_ok_iff.2 ⟨hfits, hargument⟩⟩

end Instruction

namespace Program

variable {i : Instruction} {c : Command}

/-- Data of the program's own that is not read as a command is refused, whatever comes with it and whatever is
on the ledger. -/
theorem submit_of_unread (hprogram : i.program = id) (hown : ¬ i.ForFramework) (hunread : ∀ c, ¬ i.ReadAs c) :
    ∃ fault log, Selector.Unread i.data fault log ∧ ∀ env ledger accounts,
      submit env ledger { i with accounts := accounts } =
        ⟨.error (.fault fault), log ++ [.failure (.fault fault)], [], ledger⟩ := by
  have hrun : ∀ env accounts p, run env { i with accounts := accounts } p =
      (check (Selector.read i.data) >>= fun selector => log (.instruction selector.title) >>= fun _ =>
        check (Command.read selector i.data) >>= execute env accounts) p :=
    fun _ _ _ => run_of_not_forFramework hprogram hown
  cases hselector : Selector.read i.data with
  | error fault =>
      refine ⟨fault, [], ?_, ?_⟩
      · have hnone : ∀ s : Selector, ¬ s.discriminator <+: i.data := by
          intro s hs
          rw [s.read_eq_ok_iff.2 hs] at hselector
          cases hselector
        unfold Selector.read at hselector
        split at hselector
        · cases hselector
        · cases hselector
          split
          · next hevent => exact .event (Selector.eventMark_prefix_iff.2 hevent)
          · next hother =>
            exact .unknown hnone fun hmarked => hother (Selector.eventMark_prefix_iff.1 hmarked)
      · intro env ledger accounts
        refine submit_of_error (q := Progress.start ledger) ?_
        rw [hrun, hselector]
        rfl
  | ok selector =>
      refine ⟨.undecodableArgument, [.instruction selector.title],
        .argument selector (selector.read_eq_ok_iff.1 hselector), ?_⟩
      have hread : Command.read selector i.data = .error .undecodableArgument := by
        cases hread : Command.read selector i.data with
        | error fault => rw [Command.read_eq_error hread]
        | ok c =>
            obtain rfl := Command.selector_of_read hread
            exact absurd ⟨hselector, hread⟩ (hunread c)
      intro env ledger accounts
      refine submit_of_error (q := ⟨ledger, [], [.instruction selector.title]⟩) ?_
      rw [hrun, hselector]
      simp only [bind_run, check_ok, pure_run, log_run, hread, check_error, throw_run, Progress.start,
        List.nil_append]

/-- **Instruction data is read exactly.** An instruction for the program is handed on as a command exactly
when its data starts with what the command is written as, and then the bytes behind that do nothing. All
other data is refused without a look at accounts or ledger, and the number of the fault tells what it starts
with; only data that is meant for the framework goes there. -/
theorem data_read_exactly (i : Instruction) (hprogram : i.program = id) :
    (∀ c : Command, i.ReadAs c ↔ c.Fits ∧ c.data <+: i.data) ∧
    (∀ c : Command, c.Fits → c.data <+: i.data →
      (∀ env p, run env i p =
        execute env i.accounts c { p with log := p.log ++ [.instruction c.selector.title] }) ∧
      ∀ env ledger, submit env ledger i = submit env ledger { i with data := c.data }) ∧
    (¬ Framework.mark <+: i.data → (∀ c : Command, c.Fits → ¬ c.data <+: i.data) →
      ∃ fault log,
        (∀ env ledger accounts, submit env ledger { i with accounts := accounts } =
          ⟨.error (.fault fault), log, [], ledger⟩) ∧
        (fault.code = 102 ↔ ∃ s : Selector, s.discriminator <+: i.data) ∧
        (fault.code = 1500 ↔ Selector.eventMark <+: i.data) ∧
        (fault.code = 101 ↔
          (∀ s : Selector, ¬ s.discriminator <+: i.data) ∧ ¬ Selector.eventMark <+: i.data)) := by
  refine ⟨fun c => Instruction.readAs_iff, ?_, ?_⟩
  · intro c hfits hdata
    have hrun : ∀ data, c.data <+: data → ∀ env p, run env { i with data := data } p =
        execute env i.accounts c { p with log := p.log ++ [.instruction c.selector.title] } := by
      intro data hprefix env p
      have hread : ({ i with data := data } : Instruction).ReadAs c :=
        Instruction.readAs_iff.2 ⟨hfits, hprefix⟩
      exact run_of_command hprogram hread.command?_eq
    refine ⟨hrun i.data hdata, fun env ledger => ?_⟩
    have hsame : run env i (Progress.start ledger) =
        run env { i with data := c.data } (Progress.start ledger) :=
      (hrun i.data hdata env _).trans (hrun c.data (List.prefix_refl _) env _).symm
    unfold submit
    rw [hsame]
  · intro hmark hother
    have hunread : ∀ c, ¬ i.ReadAs c := by
      intro c hread
      obtain ⟨hfits, hdata⟩ := Instruction.readAs_iff.1 hread
      exact hother c hfits hdata
    obtain ⟨fault, log, hreason, hrefused⟩ :=
      submit_of_unread hprogram (mt Instruction.forFramework_iff.1 hmark) hunread
    exact ⟨fault, log ++ [.failure (.fault fault)], hrefused, hreason.code_iff⟩

/-- An instruction for the program that has no accounts. -/
def bare (data : Bytes) : Instruction := ⟨id, data, []⟩

/-- A fee with three bytes behind it is the fee. A successor that is one byte short cannot be read, nor can a
network id that is no text. -/
theorem data_read_exactly_small :
    let fee := Command.amend (.protocolFee 5000)
    let short := (Selector.amend .admin).discriminator ++ List.replicate 31 7
    let garbled := Selector.establish.discriminator ++ [2, 0, 0, 0, 0xc3, 0x28]
    (bare (fee.data ++ [1, 2, 3])).program = id ∧
    (fee.data <+: (bare (fee.data ++ [1, 2, 3])).data ∧
      ∀ env ledger,
        submit env ledger (bare (fee.data ++ [1, 2, 3])) = submit env ledger (bare fee.data)) ∧
    ∀ data ∈ [short, garbled], ¬ Framework.mark <+: data ∧
      (∀ c : Command, c.Fits → ¬ c.data <+: data) ∧
      ∃ fault log, (∀ env ledger, submit env ledger (bare data) = ⟨.error (.fault fault), log, [], ledger⟩) ∧
        fault.code = 102 := by
  intro fee short garbled
  have hfee : fee.data <+: (bare (fee.data ++ [1, 2, 3])).data := List.prefix_append fee.data [1, 2, 3]
  refine ⟨rfl, ⟨hfee, ?_⟩, ?_⟩
  · intro env ledger
    exact ((data_read_exactly (bare (fee.data ++ [1, 2, 3])) rfl).2.1 fee trivial hfee).2 env ledger
  · intro data hdata
    have hselector : ∃ s, Selector.read data = .ok s ∧ (Command.read s data).isOk = false ∧
        ¬ Framework.mark <+: data := by
      simp only [List.mem_cons, List.not_mem_nil, or_false] at hdata
      rcases hdata with rfl | rfl
      · exact ⟨.amend .admin, rfl, by decide +kernel, by decide +kernel⟩
      · exact ⟨.establish, rfl, by decide +kernel, by decide +kernel⟩
    obtain ⟨s, hs, hargument, hreserved⟩ := hselector
    obtain ⟨hread, _, hrefused⟩ := data_read_exactly (bare data) rfl
    have hother : ∀ c : Command, c.Fits → ¬ c.data <+: data := by
      intro c hfits hprefix
      obtain ⟨hselected, hreads⟩ := (hread c).2 ⟨hfits, hprefix⟩
      have hsame : s = c.selector := Except.ok.inj (hs.symm.trans hselected)
      rw [hsame, show Command.read c.selector data = .ok c from hreads] at hargument
      cases hargument
    obtain ⟨fault, log, hsubmit, hcode, _⟩ := hrefused hreserved hother
    exact ⟨hreserved, hother, fault, log, fun env ledger => hsubmit env ledger [],
      hcode.2 ⟨s, s.read_eq_ok_iff.1 hs⟩⟩

end Program

end NetIdentity
