import RgbWallet.Stockpile

/-! How `Stockpile::state` pairs each live cell with a seal: it reads the seals the pile keeps for
the cell's operation and takes the one at the cell's position, so the kept seals must line up
with the cells. `issue` keeps only the explicit seals of the owned assignments while the genesis
creates a cell for every assignment; one assignment to a bare auth token leaves the last cell
past the end of the kept seals, and `state` fails on it. -/

namespace RgbWallet

theorem mapM_eq_error {α β ε : Type} (f : α → Except ε β) (items : List α) (error : ε)
    (only : ∀ item ∈ items, ∀ other, f item = .error other → other = error)
    (fails : ∃ item ∈ items, f item = .error error) : items.mapM f = .error error := by
  induction items with
  | nil => simp at fails
  | cons item items ih =>
      rw [List.mapM_cons]
      cases result : f item with
      | error other =>
          rw [only item (List.mem_cons_self _ _) other result]
          rfl
      | ok value =>
          have later : ∃ item ∈ items, f item = .error error := by
            obtain ⟨failing, mem, failed⟩ := fails
            rcases List.mem_cons.mp mem with rfl | later
            · rw [result] at failed
              cases failed
            · exact ⟨failing, later, failed⟩
          rw [ih (fun other mem => only other (List.mem_cons_of_mem _ mem)) later]
          rfl

theorem mapM_eq_ok {α β ε : Type} (f : α → Except ε β) (items : List α) (paired : α → β → Prop)
    (succeeds : ∀ item ∈ items, ∃ value, f item = .ok value ∧ paired item value) :
    ∃ values, items.mapM f = .ok values ∧ List.Forall₂ paired items values := by
  induction items with
  | nil => exact ⟨[], rfl, .nil⟩
  | cons item items ih =>
      obtain ⟨value, found, holds⟩ := succeeds item (List.mem_cons_self _ _)
      obtain ⟨values, rest, all⟩ := ih fun other mem => succeeds other (List.mem_cons_of_mem _ mem)
      refine ⟨value :: values, ?_, .cons holds all⟩
      rw [List.mapM_cons, found, rest]
      rfl

namespace Stockpile

variable {Seal Cli Pub : Type} (cm : Commitments Seal)

theorem state_out_of_bounds (sp : Stockpile Seal Cli Pub) (opid : Opid) (seals : SmallVec Seal)
    (kept : sp.pile.keepRead opid = some seals)
    (oneOperation : ∀ addr ∈ sp.stock.owned, addr.opid = opid) (addr : CellAddr)
    (live : addr ∈ sp.stock.owned) (beyond : seals.items.length ≤ addr.pos.toNat) :
    sp.state = .error "index out of bounds" := by
  have entryOpid : ∀ entry ∈ sp.stock.owned.entries, entry.1.opid = opid := fun entry mem =>
    oneOperation _ (AList.mem_keys.mp (List.mem_keys_of_mem mem))
  unfold state
  rw [mapM_eq_error _ _ "index out of bounds"]
  · rfl
  · intro entry mem other failed
    simp only [cellAssignment, entryOpid entry mem, kept] at failed
    split at failed <;> cases failed
    rfl
  · obtain ⟨cell, mem⟩ := List.exists_of_mem_keys (AList.mem_keys.mpr live)
    refine ⟨_, mem, ?_⟩
    simp only [cellAssignment, oneOperation addr live, kept, List.getElem?_eq_none beyond]
    rfl

/-- A stockpile issued into an empty pile with an owned assignment to a bare auth token serves
no state: reading it indexes the kept seals out of bounds. -/
theorem issue_token_state (schema : Schema) (params : CreateParams Seal) (pile : Pile Seal Cli Pub)
    (sp : Stockpile Seal Cli Pub) (fresh : pile.keep = ∅)
    (issued : issue cm schema params pile = .ok sp)
    (token : ∃ assignment ∈ params.owned, assignment.state.«seal».toExplicit = none) :
    sp.state = .error "index out of bounds" := by
  obtain ⟨-, seals, articles, fit, made, rfl⟩ := issue_eq_ok cm issued
  obtain ⟨-, -, spendsNothing, cells⟩ := Schema.issue_eq_ok made
  have sealsEq := SmallVec.items_of_tryFromIter fit
  have shorter : params.explicitSeals.length < params.owned.length := by
    obtain ⟨assignment, mem, noSeal⟩ := token
    refine lt_of_le_of_ne (List.length_filterMap_le _ _) fun same => ?_
    have explicit := List.filterMap_length_eq_length.mp same assignment mem
    simp [noSeal] at explicit
  have cellCount : articles.contract.genesis.destructible.items.length = params.owned.length := by
    simp [cells, CreateParams.issueParams]
  have bounded := articles.contract.genesis.destructible.length_le
  have live : ∀ addr, addr ∈ (Stock.init cm articles).owned ↔
      ∃ pos < params.owned.length, ⟨cm.opid articles.contract.genesis, UInt16.ofNat pos⟩ = addr := by
    intro addr
    simp [Stock.mem_init_owned cm articles addr spendsNothing, Operation.map_fst_cells, cellCount]
  refine state_out_of_bounds _ (cm.opid articles.contract.genesis) seals
    (by simp only [Pile.keepRead, Pile.keepAppend, fresh, AList.not_mem_empty, ↓reduceIte,
      AList.lookup_insert])
    (fun addr mem => by obtain ⟨pos, -, rfl⟩ := (live addr).mp mem; rfl)
    ⟨cm.opid articles.contract.genesis, UInt16.ofNat (params.owned.length - 1)⟩
    ((live _).mpr ⟨_, by omega, rfl⟩) ?_
  rw [sealsEq, UInt16.toNat_ofNat_of_lt (by unfold UInt16.size; omega)]
  omega

theorem issue_token_state_alt :
    let cm := Commitments.zero Unit
    let zero : Bytes 32 := Bytes.ofList 32 []
    let schema : Schema := ⟨⟨⟨[], by decide⟩⟩, ⟨[], by decide⟩, ⟨[⟨"asset", by decide⟩], by decide⟩⟩
    let params : CreateParams Unit :=
      ⟨⟨zero⟩, .bitcoin, true, [], [⟨"asset", ⟨.token ⟨zero⟩, zero⟩⟩, ⟨"asset", ⟨.alt (), zero⟩⟩]⟩
    ∃ sp : Stockpile Unit Unit Unit, (Pile.empty : Pile Unit Unit Unit).keep = ∅ ∧
      issue cm schema params Pile.empty = .ok sp ∧
      (∃ assignment ∈ params.owned, assignment.state.«seal».toExplicit = none) ∧
      sp.state = .error "index out of bounds" := by
  intro cm zero schema params
  exact ⟨_, rfl, rfl, ⟨_, List.mem_cons_self _ _, rfl⟩,
    issue_token_state cm schema params Pile.empty _ rfl rfl ⟨_, List.mem_cons_self _ _, rfl⟩⟩

def Aligned (sp : Stockpile Seal Cli Pub) : Prop :=
  ∀ addr cell, sp.stock.owned.lookup addr = some cell →
    ∃ seals «seal», sp.pile.keepRead addr.opid = some seals ∧
      seals.items[addr.pos.toNat]? = some «seal» ∧ cm.authToken «seal» = cell.auth

def Guards (seals : SmallVec Seal) (op : Operation) : Prop :=
  ∀ (pos : Nat) (cell : StateCell), op.destructible.items[pos]? = some cell →
    ∃ «seal», seals.items[pos]? = some «seal» ∧ cm.authToken «seal» = cell.auth

structure Serves (sp : Stockpile Seal Cli Pub) (entry : Sigma fun _ : CellAddr => StateCell)
    (owned : CellAddr × Assignment Seal) : Prop where
  addr : owned.1 = entry.1
  data : owned.2.data = entry.2.data
  auth : cm.authToken owned.2.«seal» = entry.2.auth
  kept : ∃ seals, sp.pile.keepRead owned.1.opid = some seals ∧
    seals.items[owned.1.pos.toNat]? = some owned.2.«seal»

theorem state_of_aligned {sp : Stockpile Seal Cli Pub} (aligned : Aligned cm sp) :
    ∃ st, sp.state = .ok st ∧ List.Forall₂ (Serves cm sp) sp.stock.owned.entries st.owned := by
  obtain ⟨owned, mapped, paired⟩ := mapM_eq_ok sp.cellAssignment sp.stock.owned.entries
    (Serves cm sp) fun entry mem => by
      obtain ⟨seals, «seal», kept, sealAt, auth⟩ :=
        aligned entry.1 entry.2 (AList.mem_lookup_iff.mpr mem)
      refine ⟨(entry.1, ⟨«seal», entry.2.data⟩), ?_, rfl, rfl, auth, seals, kept, sealAt⟩
      simp only [cellAssignment, kept, sealAt]
      rfl
  exact ⟨⟨owned⟩, by rw [state, mapped]; rfl, paired⟩

theorem applyOperation_aligned {sp : Stockpile Seal Cli Pub} {op : OperationSeals Seal}
    (aligned : Aligned cm sp)
    (guarded : ∀ seals, (sp.pile.keepAppend (cm.opid op.operation) op.definedSeals).keepRead
      (cm.opid op.operation) = some seals → Guards cm seals op.operation) :
    Aligned cm (sp.applyOperation cm op) := by
  intro addr cell found
  rcases Stock.lookup_apply cm _ _ found with created | earlier
  · obtain ⟨pos, cellAt, rfl⟩ := Operation.mem_cells created
    obtain ⟨seals, kept⟩ := Pile.keepRead_keepAppend_self sp.pile (cm.opid op.operation) op.definedSeals
    obtain ⟨«seal», sealAt, auth⟩ := guarded seals kept pos cell cellAt
    have bound : pos < op.operation.destructible.items.length :=
      (List.getElem?_eq_some.mp cellAt).1
    have fits := op.operation.destructible.length_le
    refine ⟨seals, «seal», kept, ?_, auth⟩
    rwa [UInt16.toNat_ofNat_of_lt (by unfold UInt16.size; omega)]
  · obtain ⟨seals, «seal», kept, sealAt, auth⟩ := aligned addr cell earlier
    exact ⟨seals, «seal», Pile.keepRead_keepAppend _ _ _ _ _ kept, sealAt, auth⟩

theorem map_authToken_explicitSeals (owned : List (NamedState (Assignment (EitherSeal Seal))))
    (explicit : ∀ assignment ∈ owned, assignment.state.«seal».toExplicit ≠ none) :
    (owned.filterMap (·.state.«seal».toExplicit)).map cm.authToken =
      owned.map (·.state.«seal».authToken cm) := by
  induction owned with
  | nil => rfl
  | cons assignment owned ih =>
      have later := ih fun other mem => explicit other (List.mem_cons_of_mem _ mem)
      cases sealed : assignment.state.«seal» with
      | alt value =>
          simpa [List.filterMap_cons, sealed, EitherSeal.toExplicit, EitherSeal.authToken] using later
      | token auth =>
          exact absurd (by rw [sealed]; rfl) (explicit assignment (List.mem_cons_self _ _))

theorem explicitSeals_guard {schema : Schema} {params : CreateParams Seal} {articles : Articles}
    (made : schema.issue cm (params.issueParams cm) = .ok articles)
    (explicit : ∀ assignment ∈ params.owned, assignment.state.«seal».toExplicit ≠ none)
    {seals : SmallVec Seal} (sealsEq : seals.items = params.explicitSeals) :
    Guards cm seals articles.contract.genesis := by
  intro pos cell cellAt
  have tokens := congrArg (·[pos]?) (map_authToken_explicitSeals cm params.owned explicit)
  simp only [(Schema.issue_eq_ok made).2.2.2, CreateParams.issueParams, List.map_map,
    List.getElem?_map] at cellAt tokens
  obtain ⟨assignment, assigned, rfl⟩ := Option.map_eq_some'.mp cellAt
  rw [assigned] at tokens
  obtain ⟨«seal», sealAt, auth⟩ := Option.map_eq_some'.mp tokens
  exact ⟨«seal», by rw [sealsEq]; exact sealAt, auth⟩

inductive Guarded : Stockpile Seal Cli Pub → Prop
  | issue {schema : Schema} {params : CreateParams Seal} {pile : Pile Seal Cli Pub}
      {sp : Stockpile Seal Cli Pub} (fresh : pile.keep = ∅)
      (explicit : ∀ assignment ∈ params.owned, assignment.state.«seal».toExplicit ≠ none)
      (issued : issue cm schema params pile = .ok sp) : Guarded sp
  | applyOperation {sp : Stockpile Seal Cli Pub} (op : OperationSeals Seal) (before : Guarded sp)
      (guards : ∀ seals, (sp.pile.keepAppend (cm.opid op.operation) op.definedSeals).keepRead
        (cm.opid op.operation) = some seals → Guards cm seals op.operation) :
      Guarded (sp.applyOperation cm op)
  | applyWitness {sp : Stockpile Seal Cli Pub} (opid : Opid) (witness : SealWitness Cli Pub)
      (before : Guarded sp) : Guarded (sp.applyWitness opid witness)
  | attest {sp : Stockpile Seal Cli Pub} (opid : Opid) (anchor : Cli) (published : Pub)
      (before : Guarded sp) : Guarded (sp.attest opid anchor published)

theorem issue_aligned {schema : Schema} {params : CreateParams Seal} {pile : Pile Seal Cli Pub}
    {sp : Stockpile Seal Cli Pub} (fresh : pile.keep = ∅)
    (explicit : ∀ assignment ∈ params.owned, assignment.state.«seal».toExplicit ≠ none)
    (issued : issue cm schema params pile = .ok sp) : Aligned cm sp := by
  obtain ⟨-, seals, articles, fit, made, rfl⟩ := issue_eq_ok cm issued
  have sealsEq := SmallVec.items_of_tryFromIter fit
  have empty : Aligned cm (⟨⟨articles, [], ∅, ∅⟩, pile⟩ : Stockpile Seal Cli Pub) :=
    fun addr cell found => by cases found
  refine @applyOperation_aligned _ _ _ cm _ ⟨articles.contract.genesis, seals⟩ empty fun kept read => ?_
  simp only [Pile.keepRead, Pile.keepAppend, fresh, AList.not_mem_empty, ↓reduceIte,
    AList.lookup_insert, Option.some.injEq] at read
  exact read ▸ explicitSeals_guard cm made explicit sealsEq

theorem guarded_aligned {sp : Stockpile Seal Cli Pub} (guarded : Guarded cm sp) : Aligned cm sp := by
  induction guarded with
  | issue fresh explicit issued => exact issue_aligned cm fresh explicit issued
  | applyOperation op _ guards aligned => exact applyOperation_aligned cm aligned guards
  | applyWitness opid witness _ aligned => exact aligned
  | attest opid anchor published _ aligned => exact aligned

/-- A stockpile issued with explicit seals only, then driven by operations whose kept seals guard
their cells, by witnesses and by attestations, serves its state: every live cell in order, with
its data and the seal kept at its position, whose auth token guards the cell. -/
theorem guarded_state {sp : Stockpile Seal Cli Pub} (guarded : Guarded cm sp) :
    ∃ st, sp.state = .ok st ∧ List.Forall₂ (Serves cm sp) sp.stock.owned.entries st.owned :=
  state_of_aligned cm (guarded_aligned cm guarded)

/-- A contract issued on seal 5, whose genesis cell a transfer then spends into a cell on seal 7,
and attested: its state serves the transferred cell with seal 7. -/
theorem guarded_state_transferred :
    let cm := Commitments.small
    let zero : Bytes 32 := Bytes.ofList 32 []
    let schema : Schema := ⟨⟨⟨[], by decide⟩⟩, ⟨[], by decide⟩, ⟨[⟨"asset", by decide⟩], by decide⟩⟩
    let params : CreateParams UInt8 := ⟨⟨zero⟩, .bitcoin, true, [], [⟨"asset", ⟨.alt 5, zero⟩⟩]⟩
    let transfer : OperationSeals UInt8 :=
      ⟨⟨⟨zero⟩, ⟨[⟨⟨Bytes.ofList 32 [0]⟩, 0⟩], by decide⟩, ⟨[⟨zero, cm.authToken 7⟩], by decide⟩⟩,
        ⟨[7], by decide⟩⟩
    ∃ sp : Stockpile UInt8 Unit Unit, issue cm schema params Pile.empty = .ok sp ∧
      Guarded cm ((sp.applyOperation cm transfer).attest (cm.opid transfer.operation) () ()) ∧
      ∃ st, ((sp.applyOperation cm transfer).attest (cm.opid transfer.operation) () ()).state = .ok st ∧
        List.Forall₂ (Serves cm ((sp.applyOperation cm transfer).attest (cm.opid transfer.operation) () ()))
          ((sp.applyOperation cm transfer).attest (cm.opid transfer.operation) () ()).stock.owned.entries
          st.owned ∧
        st.owned = [(⟨cm.opid transfer.operation, 0⟩, ⟨7, zero⟩)] := by
  intro cm zero schema params transfer
  have guards : ∀ (sp : Stockpile UInt8 Unit Unit) seals, cm.opid transfer.operation ∉ sp.pile.keep →
      (sp.pile.keepAppend (cm.opid transfer.operation) transfer.definedSeals).keepRead
        (cm.opid transfer.operation) = some seals → Guards cm seals transfer.operation := by
    intro sp seals fresh read
    rw [Pile.keepRead_keepAppend_fresh _ _ _ fresh, Option.some.injEq] at read
    subst read
    intro pos cell cellAt
    cases pos with
    | zero => exact ⟨7, rfl, by cases cellAt; rfl⟩
    | succ pos => cases cellAt
  refine ⟨_, rfl, ?_⟩
  have guarded := Guarded.attest (cm.opid transfer.operation) () ()
    (Guarded.applyOperation transfer (@Guarded.issue _ _ _ cm schema params Pile.empty _ rfl (by decide) rfl)
      fun seals => guards _ seals (by decide))
  obtain ⟨st, served, paired⟩ := guarded_state cm guarded
  have computed : st = ⟨[(⟨cm.opid transfer.operation, 0⟩, ⟨7, zero⟩)]⟩ :=
    Except.ok.inj (served.symm.trans (by rfl))
  exact ⟨guarded, st, served, paired, by rw [computed]⟩

end Stockpile

end RgbWallet
