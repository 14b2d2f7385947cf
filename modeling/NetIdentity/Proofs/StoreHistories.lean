import NetIdentity.Program
import NetIdentity.Proofs.Creation
import NetIdentity.Proofs.StoredForm
import NetIdentity.Store.Calls

/-!
# Laws on the histories of a store

The operations of the store are called in any order, and nothing is rolled back, so a call finds whatever
the ones before it have left, a half-made account included. What holds the store together is that a created
account is only ever touched by a save: every other call, and a save that is refused, leaves the whole
ledger as it is (`call_of_created`). Each law is that step, carried along a history by induction.

A save writes over the record also when it finds no room for all of it. Then the record is lost, and only
then (`Call.Overwrites`).
-/

namespace NetIdentity

open NetIdentity.Action

/-! ## Writing over data -/

namespace Record

theorem length_writeOver (data : Bytes) (r : Record) : (writeOver data r).1.length = data.length := by
  by_cases hsize : r.networkId.utf8ByteSize < UInt32.size
  · rw [writeOver_eq hsize]
    exact Bytes.length_overwrite ..
  · simp [writeOver, hsize, Bytes.fill_eq]

/-- A write has only one fault to find. -/
theorem writeOver_cases (data : Bytes) (r : Record) :
    (writeOver data r).2 = .ok () ∨ (writeOver data r).2 = .error .recordTooLarge := by
  unfold writeOver
  split
  · dsimp only
    split
    · exact Or.inl rfl
    · exact Or.inr rfl
  · exact Or.inr rfl

theorem stored_prefix_overwrite {data : Bytes} {r : Record} (h : r.stored.length ≤ data.length) :
    r.stored <+: data.overwrite r.stored := by
  rw [Bytes.overwrite, List.take_of_length_le h]
  exact List.prefix_append _ _

end Record

/-- The account belongs to the same owner and has as much data, whatever the data is. -/
structure Account.SameShape (before after : Account) : Prop where
  owner : after.owner = before.owner
  size : after.data.length = before.data.length

namespace Account.SameShape

variable {x y z : Account}

theorem refl (x : Account) : x.SameShape x := ⟨rfl, rfl⟩

theorem trans (h : x.SameShape y) (h' : y.SameShape z) : x.SameShape z :=
  ⟨h'.owner.trans h.owner, h'.size.trans h.size⟩

/-- Whether the account has been created is a matter of its shape. -/
theorem isCreated {program : Address} (h : x.SameShape y) (hx : Store.isCreated program x = true) :
    Store.isCreated program y = true := by
  obtain ⟨howner, hdata⟩ := Store.isCreated_eq_true_iff.1 hx
  refine Store.isCreated_eq_true_iff.2 ⟨h.owner.trans howner, ?_⟩
  intro hempty
  have hsize := h.size
  rw [hempty, List.length_nil] at hsize
  exact hdata (List.length_eq_zero_iff.1 hsize.symm)

end Account.SameShape

namespace Store

/-- The call is a save that has written over the record, whether or not all of the new one had room. -/
def Call.Overwrites (c : Call) (outcome : Outcome) : Prop :=
  (∃ r, c = .save r) ∧
    (outcome.result = .ok .done ∨ outcome.result = .error (.fault .recordTooLarge))

/-- The call has created the account. -/
def Call.creates (c : Call) (outcome : Outcome) : Bool :=
  match c, outcome.result with
  | .create _ _, .ok _ => true
  | _, _ => false

namespace Site

/-- The ledger that a history leaves. -/
def after (site : Site) (ledger : Ledger) : List (Bool × Call) → Ledger
  | [] => ledger
  | (read, c) :: rest => site.after (site.call ledger read c).ledger rest

variable {site : Site} {ledger : Ledger} {read : Bool} {c : Call} {r : Record}

/-! ## Single calls -/

theorem call_of_ok {answer : Answer} {q : Progress}
    (h : site.perform read c (Progress.start ledger) = .ok answer q) :
    site.call ledger read c = ⟨.ok answer, q.calls, q.ledger⟩ := by
  unfold call
  rw [h]

theorem call_of_error {failure : Failure} {q : Progress}
    (h : site.perform read c (Progress.start ledger) = .error failure q) :
    site.call ledger read c = ⟨.error failure, q.calls, q.ledger⟩ := by
  unfold call
  rw [h]

theorem perform_of_result {answer : Answer} (h : (site.call ledger read c).result = .ok answer) :
    ∃ q, site.perform read c (Progress.start ledger) = .ok answer q ∧
      (site.call ledger read c).ledger = q.ledger := by
  cases hrun : site.perform read c (Progress.start ledger) with
  | ok found q =>
      rw [call_of_ok hrun] at h ⊢
      cases h
      exact ⟨q, rfl, rfl⟩
  | error failure q =>
      rw [call_of_error hrun] at h
      cases h

/-- What a call has done stands, whatever its verdict is. -/
theorem call_of_check {verdict : Except Fault Answer} {q : Progress}
    (h : site.perform read c (Progress.start ledger) = check verdict q) :
    site.call ledger read c = ⟨verdict.mapError .fault, q.calls, q.ledger⟩ := by
  cases verdict with
  | ok answer => exact call_of_ok h
  | error fault => exact call_of_error h

theorem call_load (site : Site) (ledger : Ledger) (read : Bool) :
    site.call ledger read .load =
      ⟨((Store.load site.program (ledger site.target.address)).map .found).mapError .fault, [],
        ledger⟩ := by
  refine call_of_check (q := Progress.start ledger) ?_
  simp only [perform, bind_run, account_run, Progress.start]
  cases Store.load site.program (ledger site.target.address) <;> rfl

theorem call_loadInitialized (site : Site) (ledger : Ledger) (read : Bool) :
    site.call ledger read .loadInitialized =
      ⟨((Store.loadInitialized site.program (ledger site.target.address)).map .record).mapError .fault,
        [], ledger⟩ := by
  refine call_of_check (q := Progress.start ledger) ?_
  simp only [perform, bind_run, account_run, Progress.start]
  cases Store.loadInitialized site.program (ledger site.target.address) <;> rfl

section Created

variable (hcreated : Store.isCreated site.program (ledger site.target.address) = true)
include hcreated

/-- What has been created is not created again. -/
theorem call_create_of_created (read : Bool) (bump : UInt8) (r : Record) :
    site.call ledger read (.create bump r) = ⟨.error (.fault .alreadyInitialized), [], ledger⟩ := by
  refine call_of_error (q := Progress.start ledger) ?_
  rw [perform, bind_run, create_run_of_created (p := Progress.start ledger) hcreated]

/-- While somebody reads the data, it is not written over. -/
theorem call_save_of_read (r : Record) :
    site.call ledger true (.save r) = ⟨.error (.runtime .dataInUse), [], ledger⟩ := by
  have hbusy : site.inUse true = some site.target.address := rfl
  refine call_of_error (q := Progress.start ledger) ?_
  rw [perform, bind_run, save_run hcreated, write, if_pos hbusy, throw_run]

/-- Otherwise as much of the record as there is room for is written over the data. -/
theorem call_save_of_created (r : Record) :
    site.call ledger false (.save r) =
      ⟨((Record.writeOver (ledger site.target.address).data r).2.map fun _ => .done).mapError .fault, [],
        ledger.set site.target.address { ledger site.target.address with
          data := (Record.writeOver (ledger site.target.address).data r).1 }⟩ := by
  have hfree : site.inUse false ≠ some site.target.address := nofun
  refine call_of_check (q := ⟨_, [], []⟩) ?_
  rw [perform, bind_run, save_run hcreated, write_run hfree]
  simp only [Progress.start]
  cases (Record.writeOver (ledger site.target.address).data r).2 <;> rfl

/-- The step of all laws: a created account is left alone, with the whole ledger, or a save writes over its
data and keeps its shape. -/
theorem call_of_created (read : Bool) (c : Call) :
    (site.call ledger read c).ledger = ledger ∨
      c.Overwrites (site.call ledger read c) ∧
        (ledger site.target.address).SameShape ((site.call ledger read c).ledger site.target.address) := by
  cases c with
  | isCreated => exact Or.inl rfl
  | load =>
      rw [call_load]
      exact Or.inl rfl
  | loadInitialized =>
      rw [call_loadInitialized]
      exact Or.inl rfl
  | create bump r =>
      rw [call_create_of_created hcreated]
      exact Or.inl rfl
  | save r =>
      cases read with
      | true =>
          rw [call_save_of_read hcreated]
          exact Or.inl rfl
      | false =>
          rw [call_save_of_created hcreated]
          refine Or.inr ⟨⟨⟨r, rfl⟩, ?_⟩, ?_⟩
          · rcases Record.writeOver_cases (ledger site.target.address).data r with hverdict | hverdict
            · rw [hverdict]
              exact Or.inl rfl
            · rw [hverdict]
              exact Or.inr rfl
          · dsimp only
            rw [Ledger.set_self]
            exact ⟨rfl, Record.length_writeOver _ r⟩

theorem sameShape_call (read : Bool) (c : Call) :
    (ledger site.target.address).SameShape ((site.call ledger read c).ledger site.target.address) := by
  rcases call_of_created hcreated read c with hledger | ⟨_, hshape⟩
  · rw [hledger]
    exact .refl _
  · exact hshape

end Created

/-! ## What has been written -/

/-- A save that returns has written the record where it is looked for. -/
theorem load_of_save (h : (site.call ledger read (.save r)).result = .ok .done) :
    Store.load site.program ((site.call ledger read (.save r)).ledger site.target.address) =
      .ok (some r) := by
  obtain ⟨q, hrun, hledger⟩ := perform_of_result h
  obtain ⟨_, q', hsave, hdone⟩ := bind_eq_ok.1 hrun
  cases hdone
  obtain ⟨account, s, haccount, hwrite⟩ := bind_eq_ok.1 hsave
  cases haccount
  split at hwrite
  · next hcreated =>
    obtain ⟨_, hsize, hroom, rfl⟩ := write_eq_ok_iff.1 hwrite
    have hinscribed : (site.call ledger read (.save r)).ledger =
        ledger.inscribe site.target.address r := hledger
    rw [hinscribed, Ledger.inscribe, Ledger.set_self]
    exact load_eq_some_iff.2
      ⟨(isCreated_eq_true_iff.1 hcreated).1, hsize, Record.stored_prefix_overwrite hroom⟩
  · cases hwrite

/-- So has a creation that returns. -/
theorem load_of_create {bump : UInt8} {answer : Answer}
    (h : (site.call ledger read (.create bump r)).result = .ok answer) :
    Store.load site.program ((site.call ledger read (.create bump r)).ledger site.target.address) =
      .ok (some r) := by
  obtain ⟨q, hrun, hledger⟩ := perform_of_result h
  obtain ⟨_, q', hcreate, hdone⟩ := bind_eq_ok.1 hrun
  cases hdone
  obtain ⟨_, _, made, _, hmade, hroom, hinscribed, _⟩ := create_eq_ok hcreate
  rw [hledger, hinscribed]
  refine load_eq_some_iff.2 ⟨hmade.owner_inscribe r, Record.networkId_lt_of_length_le hroom, ?_⟩
  rw [hmade.data_inscribe hroom]
  exact List.prefix_append _ _

/-- Where there is room for the record and nobody reads the data, a save returns. -/
theorem save_of_room (hcreated : Store.isCreated site.program (ledger site.target.address) = true)
    (hsize : r.networkId.utf8ByteSize < UInt32.size)
    (hroom : r.stored.length ≤ (ledger site.target.address).data.length) :
    (site.call ledger false (.save r)).result = .ok .done := by
  rw [call_save_of_created hcreated, Record.writeOver_eq hsize, if_pos hroom]
  rfl

/-! ## Histories -/

/-- The second part of a history runs from the ledger that the first part leaves. -/
theorem run_append (site : Site) (past later : List (Bool × Call)) (ledger : Ledger) :
    site.run ledger (past ++ later) = site.run ledger past ++ site.run (site.after ledger past) later := by
  induction past generalizing ledger with
  | nil => rfl
  | cons entry rest ih => exact congrArg (List.cons _) (ih _)

theorem after_append (site : Site) (past later : List (Bool × Call)) (ledger : Ledger) :
    site.after ledger (past ++ later) = site.after (site.after ledger past) later := by
  induction past generalizing ledger with
  | nil => rfl
  | cons entry rest ih => exact ih _

/-- Once created, the account keeps its shape. -/
theorem sameShape_after (history : List (Bool × Call))
    (hcreated : Store.isCreated site.program (ledger site.target.address) = true) :
    (ledger site.target.address).SameShape (site.after ledger history site.target.address) := by
  induction history generalizing ledger with
  | nil => exact .refl _
  | cons entry rest ih =>
      have hstep := sameShape_call hcreated entry.1 entry.2
      exact hstep.trans (ih (hstep.isCreated hcreated))

/-- Until a save writes over the record, nothing at all changes. -/
theorem after_of_quiet {history : List (Bool × Call)}
    (hcreated : Store.isCreated site.program (ledger site.target.address) = true)
    (hquiet : ∀ entry ∈ history.zip (site.run ledger history), ¬ entry.1.2.Overwrites entry.2) :
    site.after ledger history = ledger := by
  induction history generalizing ledger with
  | nil => rfl
  | cons entry rest ih =>
      obtain ⟨read, c⟩ := entry
      rw [run, List.zip_cons_cons, List.forall_mem_cons] at hquiet
      obtain ⟨hfirst, hrest⟩ := hquiet
      rcases call_of_created hcreated read c with hledger | ⟨hoverwrites, _⟩
      · rw [hledger] at hrest
        rw [after, hledger]
        exact ih hcreated hrest
      · exact absurd hoverwrites hfirst

theorem isCreated_of_creates (h : c.creates (site.call ledger read c) = true) :
    Store.isCreated site.program ((site.call ledger read c).ledger site.target.address) = true := by
  unfold Call.creates at h
  split at h
  · next bump r answer hresult => exact isCreated_of_load (load_of_create hresult)
  · cases h

theorem not_creates_of_created (read : Bool) (c : Call)
    (hcreated : Store.isCreated site.program (ledger site.target.address) = true) :
    ¬ c.creates (site.call ledger read c) = true := by
  cases c with
  | create bump r =>
      rw [call_create_of_created hcreated]
      nofun
  | isCreated => nofun
  | load => nofun
  | loadInitialized => nofun
  | save r => nofun

/-- How many calls of a history have created the account. -/
def creations (site : Site) (ledger : Ledger) (history : List (Bool × Call)) : Nat :=
  (history.zip (site.run ledger history)).countP fun entry => entry.1.2.creates entry.2

theorem creations_cons (site : Site) (ledger : Ledger) (read : Bool) (c : Call)
    (rest : List (Bool × Call)) :
    site.creations ledger ((read, c) :: rest) =
      site.creations (site.call ledger read c).ledger rest +
        if c.creates (site.call ledger read c) then 1 else 0 := by
  rw [creations, run, List.zip_cons_cons, List.countP_cons]
  rfl

/-- Nothing creates what has been created. -/
theorem creations_of_created (history : List (Bool × Call))
    (hcreated : Store.isCreated site.program (ledger site.target.address) = true) :
    site.creations ledger history = 0 := by
  induction history generalizing ledger with
  | nil => rfl
  | cons entry rest ih =>
      have hshape := sameShape_call hcreated entry.1 entry.2
      rw [creations_cons, if_neg (not_creates_of_created entry.1 entry.2 hcreated)]
      exact ih (hshape.isCreated hcreated)

theorem creations_le_one (site : Site) (history : List (Bool × Call)) (ledger : Ledger) :
    site.creations ledger history ≤ 1 := by
  induction history generalizing ledger with
  | nil => exact Nat.zero_le 1
  | cons entry rest ih =>
      rw [creations_cons]
      by_cases hcreates : entry.2.creates (site.call ledger entry.1 entry.2) = true
      · have hnone := creations_of_created rest (isCreated_of_creates hcreates)
        simp only [if_pos hcreates, hnone, Nat.zero_add, Nat.le_refl]
      · rw [if_neg hcreates]
        exact ih _

/-! ## The laws -/

/-- **The laws of a store**, without rollback. Every call of a history runs where the calls before it have
left off. At most one call creates the account; once it is created, it stays so and keeps its owner and its
size, and creating it again fails and changes nothing. A record that a call has written is read from then on,
until a save writes over it. -/
theorem store_laws (site : Site) (ledger : Ledger) :
    (∀ past later : List (Bool × Call),
      site.run ledger (past ++ later) =
        site.run ledger past ++ site.run (site.after ledger past) later) ∧
    (∀ history : List (Bool × Call), site.creations ledger history ≤ 1) ∧
    (∀ past later : List (Bool × Call),
      Store.isCreated site.program (site.after ledger past site.target.address) = true →
      (site.after ledger (past ++ later) site.target.address).owner =
          (site.after ledger past site.target.address).owner ∧
        (site.after ledger (past ++ later) site.target.address).data.length =
          (site.after ledger past site.target.address).data.length ∧
        ∀ read,
          site.call (site.after ledger (past ++ later)) read .isCreated =
              ⟨.ok (.created true), [], site.after ledger (past ++ later)⟩ ∧
            ∀ bump r, site.call (site.after ledger (past ++ later)) read (.create bump r) =
              ⟨.error (.fault .alreadyInitialized), [], site.after ledger (past ++ later)⟩) ∧
    ∀ (past between : List (Bool × Call)) (read : Bool) (c : Call) (r : Record),
      (c = .save r ∨ ∃ bump, c = .create bump r) →
      (site.call (site.after ledger past) read c).result = .ok .done →
      (∀ entry ∈ between.zip (site.run (site.after ledger (past ++ [(read, c)])) between),
        ¬ entry.1.2.Overwrites entry.2) →
      ∀ reading,
        (site.call (site.after ledger (past ++ (read, c) :: between)) reading .load).result =
            .ok (.found (some r)) ∧
          (site.call (site.after ledger (past ++ (read, c) :: between)) reading .loadInitialized).result =
            .ok (.record r) := by
  refine ⟨fun past later => run_append site past later ledger,
    fun history => creations_le_one site history ledger, ?_, ?_⟩
  · intro past later hcreated
    have hshape := sameShape_after later hcreated
    rw [← after_append] at hshape
    have hstill := hshape.isCreated hcreated
    refine ⟨hshape.owner, hshape.size, fun read => ⟨?_, call_create_of_created hstill read⟩⟩
    rw [← hstill]
    rfl
  · intro past between read c r hwrites hresult hquiet reading
    have hload : Store.load site.program
        (site.after ledger (past ++ [(read, c)]) site.target.address) = .ok (some r) := by
      rw [after_append]
      rcases hwrites with rfl | ⟨bump, rfl⟩
      · exact load_of_save hresult
      · exact load_of_create hresult
    have hafter : site.after ledger (past ++ (read, c) :: between) =
        site.after ledger (past ++ [(read, c)]) := by
      rw [List.append_cons, after_append]
      exact after_of_quiet (isCreated_of_load hload) hquiet
    rw [hafter, call_load, call_loadInitialized, hload, loadInitialized_eq_ok_iff.2 hload]
    exact ⟨rfl, rfl⟩

/-- The account as a creation leaves it that fails when it is about to write: zeros. -/
def halfMade : Ledger :=
  Ledger.fresh.set Program.recordAddress ⟨1, Program.id, List.replicate Record.space 0, false⟩

def sample : Site where
  program := Program.id
  target := ⟨Program.recordAddress, false, true⟩
  payer := ⟨Address.nativeLoader, true, true⟩
  env := Environment.default

/-- In a half-made account the sample is saved. A save while the data is read and a creation do not touch
it. -/
theorem store_laws_small :
    let other := Record.initial Address.systemProgram "solana" 5 1
    let history : List (Bool × Call) :=
      [(false, .save Record.sample), (true, .save other), (false, .create 255 other)]
    Store.isCreated Program.id (halfMade Program.recordAddress) = true ∧
      (sample.call halfMade false (.save Record.sample)).result = .ok .done ∧
      (sample.call (sample.after halfMade history) true .load).result =
        .ok (.found (some Record.sample)) ∧
      sample.call (sample.after halfMade history) true (.create 254 other) =
        ⟨.error (.fault .alreadyInitialized), [], sample.after halfMade history⟩ := by
  intro other history
  obtain ⟨_, _, hstays, hreads⟩ := store_laws sample halfMade
  have hcreated : Store.isCreated Program.id (halfMade Program.recordAddress) = true := by rfl
  have hroom : Record.sample.stored.length ≤ (halfMade Program.recordAddress).data.length := by
    rw [halfMade, Ledger.set_self, List.length_replicate, Record.length_stored]
    decide
  have hsaved : (sample.call halfMade false (.save Record.sample)).result = .ok .done :=
    save_of_room hcreated (by decide) hroom
  have hthen := (@sameShape_after sample halfMade [(false, .save Record.sample)] hcreated).isCreated hcreated
  have hquiet : ∀ entry ∈
      List.zip [(true, Call.save other), (false, .create 255 other)]
        (sample.run (sample.after halfMade ([] ++ [(false, .save Record.sample)]))
          [(true, .save other), (false, .create 255 other)]),
      ¬ entry.1.2.Overwrites entry.2 := by
    rw [List.nil_append, run, call_save_of_read hthen, run, call_create_of_created hthen]
    simp [Call.Overwrites]
  exact ⟨hcreated, hsaved, (hreads [] _ false _ _ (Or.inl rfl) hsaved hquiet true).1,
    ((hstays [] history hcreated).2.2 true).2 254 other⟩

end Site

end Store

end NetIdentity
