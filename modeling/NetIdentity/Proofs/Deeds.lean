import NetIdentity.Chain
import NetIdentity.Proofs.Effects

/-!
# The deeds of a history

A history is long, and most of it leaves no trace: transactions that fail are rolled back, the clock
and the rent are set, other accounts change. What remains are its *deeds*, the instructions of the
transactions that committed, each with what it found when it ran. Instructions of the framework are among
them.

`Path a deeds b` says that the deeds take the record's account from `a` to `b`: each of them succeeds
and finds what the one before it has left. Every history is such a path, as long as nobody but the
program writes to the record's account (`Chain.path`). This is the only induction over histories; the
laws on them are inductions over paths.
-/

namespace NetIdentity

open NetIdentity.Program

/-- An instruction together with the chain on which it ran. -/
structure Deed where
  env : Environment
  ledger : Ledger
  instruction : Instruction

namespace Deed

def report (d : Deed) : Report := Program.submit d.env d.ledger d.instruction

def found (d : Deed) : Account := d.ledger recordAddress

def left (d : Deed) : Account := d.report.ledger recordAddress

def command? (d : Deed) : Option Command := d.instruction.command?

def signer? (d : Deed) : Option Address := d.instruction.signer?

end Deed

/-- The instructions of a transaction, each with the ledger that the ones before it leave. -/
def Transaction.deeds (env : Environment) (ledger : Ledger) : Transaction → List Deed
  | [] => []
  | i :: rest => ⟨env, ledger, i⟩ :: deeds env (Program.submit env ledger i).ledger rest

theorem Transaction.map_instruction_deeds (env : Environment) : (t : Transaction) →
    (ledger : Ledger) → (t.deeds env ledger).map Deed.instruction = t
  | [], _ => rfl
  | _ :: rest, _ => congrArg (List.cons _) (map_instruction_deeds env rest _)

/-- A transaction that does not commit has no deeds. -/
def Step.deeds (chain : Chain) : Step → List Deed
  | .transaction t =>
      if (t.submit chain.env chain.ledger).1.committed then t.deeds chain.env chain.ledger else []
  | _ => []

def Chain.deeds (chain : Chain) : List Step → List Deed
  | [] => []
  | s :: rest => s.deeds chain ++ (chain.step s).2.deeds rest

/-- Nobody but the program writes to the record's account. -/
def Step.SparesRecord : Step → Prop
  | .setAccount a _ => a ≠ recordAddress
  | _ => True

/-- The deeds take the record's account from the first state to the last. -/
def Path : Account → List Deed → Account → Prop
  | a, [], b => a = b
  | a, d :: rest, b =>
      d.found = a ∧ (∃ answer, d.report.result = .ok answer) ∧ Path d.left rest b

namespace Path

theorem append : {a b c : Account} → {first second : List Deed} →
    Path a first b → Path b second c → Path a (first ++ second) c
  | _, _, _, [], _, hfirst, hsecond => by
      cases hfirst
      exact hsecond
  | _, _, _, _ :: _, _, ⟨hfound, hok, hrest⟩, hsecond =>
      ⟨hfound, hok, append hrest hsecond⟩

/-- A path through two lists of deeds passes between them. -/
theorem split : {a c : Account} → {first second : List Deed} →
    Path a (first ++ second) c → ∃ b, Path a first b ∧ Path b second c
  | a, _, [], _, h => ⟨a, rfl, h⟩
  | _, _, _ :: _, _, ⟨hfound, hok, hrest⟩ => by
      obtain ⟨b, hfirst, hsecond⟩ := split hrest
      exact ⟨b, ⟨hfound, hok, hfirst⟩, hsecond⟩

theorem effect {d : Deed} {a b : Account} {rest : List Deed} (h : Path a (d :: rest) b) :
    Effect d.signer? d.env.clock a d.command? d.left := by
  obtain ⟨hfound, ⟨answer, hok⟩, _⟩ := h
  rw [← hfound]
  exact effect_of_ok hok

/-- What the effect of every deed keeps, a path keeps. -/
theorem preserves {I : Account → Prop} : {a b : Account} → {deeds : List Deed} →
    (∀ d ∈ deeds, ∀ {before}, Effect d.signer? d.env.clock before d.command? d.left →
      I before → I d.left) →
    Path a deeds b → I a → I b
  | _, _, [], _, h, ha => by
      cases h
      exact ha
  | _, _, d :: _, hkeeps, h, ha =>
      preserves (fun later hlater => hkeeps later (List.mem_cons_of_mem _ hlater)) h.2.2
        (hkeeps d (List.mem_cons_self ..) h.effect ha)

/-- What every effect keeps is there for every deed of a path to find. -/
theorem preserves_found {I : Account → Prop}
    (hkeeps : ∀ {signer clock before c after}, Effect signer clock before c after → I before → I after)
    {a b : Account} {deeds : List Deed} (h : Path a deeds b) (ha : I a) {d : Deed} (hd : d ∈ deeds) :
    I d.found := by
  obtain ⟨done, rest, rfl⟩ := List.append_of_mem hd
  obtain ⟨between, hdone, hfound, _⟩ := h.split
  rw [hfound]
  exact hdone.preserves (fun _ _ _ heffect => hkeeps heffect) ha

/-- A deed that is not meant for the framework asks for a command. -/
theorem command?_ne_none {a b : Account} {deeds : List Deed} (h : Path a deeds b) {d : Deed}
    (hd : d ∈ deeds) (hown : ¬ d.instruction.ForFramework) : d.command? ≠ none := by
  obtain ⟨done, rest, rfl⟩ := List.append_of_mem hd
  obtain ⟨_, _, _, ⟨answer, hok⟩, _⟩ := h.split
  exact fun hnone => hown (answered_of_ok hnone hok).meant

end Path

/-! ## Histories are paths -/

/-- A transaction that gets past its first instruction is that instruction and then the rest. -/
theorem Transaction.run_cons_eq_some {env : Environment} {i : Instruction} {rest : Transaction}
    {ledger after : Ledger} (h : (run env ledger (i :: rest)).2 = some after) :
    (∃ answer, (Program.submit env ledger i).result = .ok answer) ∧
      (run env (Program.submit env ledger i).ledger rest).2 = some after ∧
      (run env ledger (i :: rest)).1 =
        Program.submit env ledger i :: (run env (Program.submit env ledger i).ledger rest).1 := by
  rw [run] at h ⊢
  cases hresult : (Program.submit env ledger i).result with
  | error failure =>
      simp only [hresult] at h
      cases h
  | ok answer =>
      simp only [hresult] at h
      exact ⟨⟨answer, rfl⟩, h, rfl⟩

/-- A transaction that commits takes the record's account along its deeds. -/
theorem Transaction.path {env : Environment} :
    {t : Transaction} → {ledger after : Ledger} → (run env ledger t).2 = some after →
    Path (ledger recordAddress) (t.deeds env ledger) (after recordAddress)
  | [], _, _, h => by
      cases h
      rfl
  | _ :: _, _, _, h => by
      obtain ⟨hok, hrest, _⟩ := run_cons_eq_some h
      exact ⟨rfl, hok, path hrest⟩

/-- A transaction that commits has run to its end, and has left what it leaves there. -/
theorem Transaction.submit_of_committed {t : Transaction} {env : Environment} {ledger : Ledger}
    (h : (t.submit env ledger).1.committed = true) :
    (t.run env ledger).2 = some (t.submit env ledger).2 ∧
      (t.submit env ledger).1.reports = (t.run env ledger).1 := by
  unfold submit at h ⊢
  cases hrun : t.run env ledger with
  | mk reports final =>
      rw [hrun] at h
      cases final with
      | none => cases h
      | some after => exact ⟨rfl, rfl⟩

theorem Transaction.path_of_committed {t : Transaction} {env : Environment} {ledger : Ledger}
    (h : (t.submit env ledger).1.committed = true) :
    Path (ledger recordAddress) (t.deeds env ledger) ((t.submit env ledger).2 recordAddress) :=
  path (submit_of_committed h).1

theorem Transaction.ledger_of_not_committed {t : Transaction} {env : Environment} {ledger : Ledger}
    (h : (t.submit env ledger).1.committed = false) : (t.submit env ledger).2 = ledger := by
  unfold submit at h ⊢
  cases hrun : t.run env ledger with
  | mk reports final =>
      rw [hrun] at h
      cases final with
      | none => rfl
      | some after => cases h

/-- A single step takes the record's account along its deeds, if it has any. -/
theorem Step.path {chain : Chain} : {s : Step} → s.SparesRecord →
    Path (chain.ledger recordAddress) (s.deeds chain) ((chain.step s).2.ledger recordAddress)
  | .setClock _, _ => rfl
  | .setRent _, _ => rfl
  | .setAccount a account, h => (Ledger.set_of_ne chain.ledger account (Ne.symm h)).symm
  | .transaction t, _ => by
      cases hcommitted : (t.submit chain.env chain.ledger).1.committed with
      | true =>
          rw [deeds, if_pos hcommitted]
          exact Transaction.path_of_committed hcommitted
      | false =>
          rw [deeds, if_neg (Bool.eq_false_iff.1 hcommitted)]
          exact congrFun (Transaction.ledger_of_not_committed hcommitted).symm recordAddress

/-- **Every history is a path** of the record's account along its deeds. -/
theorem Chain.path : (chain : Chain) → {steps : List Step} → (∀ s ∈ steps, s.SparesRecord) →
    Path (chain.ledger recordAddress) (chain.deeds steps)
      ((chain.run steps).2.ledger recordAddress)
  | _, [], _ => rfl
  | chain, s :: _, h =>
      (Step.path (h s (List.mem_cons_self ..))).append
        ((chain.step s).2.path fun s' hs' => h s' (List.mem_cons_of_mem _ hs'))

/-! ## A small history -/

/-- A fresh chain on which the first of three people can pay for the record. -/
def Chain.small : Chain where
  ledger := Ledger.fresh.set (Address.ofByte 1) { Account.untouched with lamports := 1000000000 }
  env := Environment.default

/-- The identity is established once, though asked for twice; the admin role goes to the second person,
who names the third one as fee handler; a fee that the founder wants to set is rolled back. -/
def Step.small : List Step :=
  [ .transaction [(Command.establish "solana").instruction (Address.ofByte 1)],
    .transaction [(Command.establish "ethereum").instruction (Address.ofByte 2)],
    .setClock (some 1700000100),
    .transaction
      [ (Command.amend (.admin (Address.ofByte 2))).instruction (Address.ofByte 1),
        (Command.amend (.feeHandler (Address.ofByte 3))).instruction (Address.ofByte 2) ],
    .setRent none,
    .transaction [(Command.amend (.protocolFee 5)).instruction (Address.ofByte 1)],
    .setAccount (Address.ofByte 3) Account.untouched,
    .transaction
      [ (Command.query .admin).instruction (Address.ofByte 1),
        (Command.amend (.protocolFee 7)).instruction (Address.ofByte 3) ] ]

theorem Step.small_sparesRecord : ∀ s ∈ small, s.SparesRecord := by
  have hother : Address.ofByte 3 ≠ recordAddress := by decide
  simp [small, SparesRecord, hother]

theorem Chain.small_fresh : Store.isCreated id (small.ledger recordAddress) = false := by
  decide +kernel

def Chain.founded : Chain := (small.run (Step.small.take 1)).2

theorem Chain.load_founded :
    Store.load Program.id (founded.ledger recordAddress) =
      .ok (some (Record.initial (Address.ofByte 1) "solana" 1700000000 255)) := by
  rw [Store.load_eq_some_iff]
  decide +kernel

end NetIdentity
