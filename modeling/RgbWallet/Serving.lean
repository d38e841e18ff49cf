import RgbWallet.Alignment
import RgbWallet.History

/-! Stockpiles that keep serving their state through `consume`. A guarded stockpile keeps seals for
exactly the operations of its log, and the seals kept for each of them guard its cells. A
verifier that accepts an operation only when its defined seals guard its cells, and under an opid
the stock has logged only the logged operation, therefore keeps it guarded: the operation applied
either brings the seals the pile keeps for it, or is the logged one, whose kept seals guard it.
On a mound that starts with no contracts, every contract then serves its state after any run of
issues with explicit seals into empty piles, attestations, and consumes through such a verifier. -/

namespace RgbWallet

variable {Seal Cli Pub : Type} (cm : Commitments Seal)

structure Verifier.Checks (verifier : Verifier Seal Cli Pub) : Prop where
  known : ∀ stock header witnesses, verifier stock header witnesses = .ok () →
    cm.opid header.operation ∈ stock.log.map cm.opid → header.operation ∈ stock.log
  guards : ∀ stock header witnesses, verifier stock header witnesses = .ok () →
    Stockpile.Guards cm header.definedSeals header.operation

namespace Stockpile

structure Sealed (sp : Stockpile Seal Cli Pub) : Prop where
  kept : ∀ opid, opid ∈ sp.pile.keep ↔ opid ∈ sp.stock.log.map cm.opid
  guards : ∀ op ∈ sp.stock.log, ∀ seals, sp.pile.keepRead (cm.opid op) = some seals →
    Guards cm seals op

theorem issue_sealed {schema : Schema} {params : CreateParams Seal} {pile : Pile Seal Cli Pub}
    {sp : Stockpile Seal Cli Pub} (fresh : pile.keep = ∅)
    (explicit : ∀ assignment ∈ params.owned, assignment.state.«seal».toExplicit ≠ none)
    (issued : issue cm schema params pile = .ok sp) : Sealed cm sp := by
  obtain ⟨-, seals, articles, fit, made, rfl⟩ := issue_eq_ok cm issued
  have absent : cm.opid articles.contract.genesis ∉ pile.keep := by simp [fresh]
  refine ⟨fun opid => by simp [Pile.mem_keepAppend, fresh], fun op logged kept read => ?_⟩
  simp only [Stock.init_log, List.mem_singleton] at logged
  subst logged
  rw [Pile.keepRead_keepAppend_fresh _ _ _ absent, Option.some.injEq] at read
  exact read ▸ explicitSeals_guard cm made explicit (SmallVec.items_of_tryFromIter fit)

theorem applyOperation_sealed {sp : Stockpile Seal Cli Pub} {op : OperationSeals Seal}
    (sealed : Sealed cm sp)
    (guards : ∀ seals, (sp.pile.keepAppend (cm.opid op.operation) op.definedSeals).keepRead
      (cm.opid op.operation) = some seals → Guards cm seals op.operation) :
    Sealed cm (sp.applyOperation cm op) := by
  refine ⟨fun opid => ?_, fun logged mem seals read => ?_⟩
  · rw [applyOperation, Pile.mem_keepAppend, Stock.opid_mem_apply_log, sealed.kept]
  · rcases Stock.mem_apply_log cm mem with earlier | rfl
    · have present := (sealed.kept _).mpr (List.mem_map_of_mem _ earlier)
      rw [applyOperation, Pile.keepRead_keepAppend_of_mem _ _ _ _ present] at read
      exact sealed.guards logged earlier seals read
    · exact guards seals read

theorem guarded_sealed {sp : Stockpile Seal Cli Pub} (guarded : Guarded cm sp) : Sealed cm sp := by
  induction guarded with
  | issue fresh explicit issued => exact issue_sealed cm fresh explicit issued
  | applyOperation op _ guards sealed => exact applyOperation_sealed cm sealed guards
  | applyWitness opid witness _ sealed => exact ⟨sealed.kept, sealed.guards⟩
  | attest opid anchor published _ sealed => exact ⟨sealed.kept, sealed.guards⟩

theorem applyOperation_guarded {verifier : Verifier Seal Cli Pub} (checks : Verifier.Checks cm verifier)
    {sp : Stockpile Seal Cli Pub} (guarded : Guarded cm sp) {header : OperationSeals Seal}
    {witnesses : List (SealWitness Cli Pub)} (accepted : verifier sp.stock header witnesses = .ok ()) :
    Guarded cm (sp.applyOperation cm header) := by
  have sealed := guarded_sealed cm guarded
  refine .applyOperation header guarded fun seals read => ?_
  by_cases known : cm.opid header.operation ∈ sp.pile.keep
  · rw [Pile.keepRead_keepAppend_of_mem _ _ _ _ known] at read
    exact sealed.guards _ (checks.known _ _ _ accepted ((sealed.kept _).mp known)) seals read
  · rw [Pile.keepRead_keepAppend_fresh _ _ _ known, Option.some.injEq] at read
    exact read ▸ checks.guards _ _ _ accepted

section Consume

variable (codecs : ConsignmentCodecs Seal Cli Pub) {verifier : Verifier Seal Cli Pub}
  (resolver : List StateCell → List Seal)

theorem evaluate_guarded (checks : Verifier.Checks cm verifier) (fuel : Nat)
    {sp : Stockpile Seal Cli Pub} (stream : List UInt8) (guarded : Guarded cm sp) :
    Guarded cm (evaluate codecs cm verifier resolver fuel sp stream).1 := by
  induction fuel generalizing sp stream with
  | zero => exact guarded
  | succ fuel ih =>
      unfold evaluate
      split
      · exact guarded
      · exact guarded
      · rename_i header _ _
        split
        · exact guarded
        · rename_i witnesses rest _
          split
          · exact guarded
          · rename_i accepted
            have stillAccepted : verifier (witnesses.foldl (fun sp witness =>
                sp.applyWitness (cm.opid header.operation) witness) sp).stock header witnesses = .ok () := by
              rwa [foldl_applyWitness_stock]
            exact ih _ (applyOperation_guarded cm checks
              (foldl_applyWitness_invariant (Guarded cm) (fun _ _ _ => .applyWitness _ _) _ witnesses guarded)
              stillAccepted)

theorem consume_guarded (checks : Verifier.Checks cm verifier) {sp : Stockpile Seal Cli Pub}
    (stream : List UInt8) (guarded : Guarded cm sp) :
    Guarded cm (sp.consume codecs cm verifier resolver stream).1 := by
  rcases sp.consume_fst codecs cm verifier resolver stream with same | ⟨rest, evaluated⟩
  · rw [same]
    exact guarded
  · rw [evaluated]
    exact evaluate_guarded cm codecs resolver checks _ rest guarded

end Consume

end Stockpile

namespace Mound

def Serving (m : Mound Seal Cli Pub) : Prop :=
  ∀ id sp, m.contracts.lookup id = some sp → Stockpile.Guarded cm sp

theorem Serving.insert {m : Mound Seal Cli Pub} (serving : Serving cm m) (id : ContractId)
    {sp : Stockpile Seal Cli Pub} (guarded : Stockpile.Guarded cm sp) :
    Serving cm { m with contracts := m.contracts.insert id sp } := by
  intro other filed found
  by_cases same : other = id
  · subst same
    rw [AList.lookup_insert, Option.some.injEq] at found
    exact found ▸ guarded
  · rw [AList.lookup_insert_ne same] at found
    exact serving other filed found

theorem serving_issue {m : Mound Seal Cli Pub} (serving : Serving cm m) (params : CreateParams Seal)
    {pile : Pile Seal Cli Pub} (fresh : pile.keep = ∅)
    (explicit : ∀ assignment ∈ params.owned, assignment.state.«seal».toExplicit ≠ none) :
    Serving cm (m.issue cm params pile).1 := by
  rcases issue_cases cm m params pile with ⟨same, -⟩ | ⟨-, -, _, sp, -, issued, made⟩
  · rwa [same]
  · rw [made]
    exact serving.insert cm _ (.issue fresh explicit issued)

theorem serving_attest {m : Mound Seal Cli Pub} (serving : Serving cm m) (published : Pub)
    (anchors : List (ContractId × Opid × Cli)) : Serving cm (m.attest published anchors).1 := by
  induction anchors generalizing m with
  | nil => exact serving
  | cons anchor rest ih =>
      obtain ⟨contractId, opid, client⟩ := anchor
      unfold attest
      split
      · exact serving
      · rename_i sp found
        exact ih (serving.insert cm _ (.attest opid client published (serving _ _ found)))

theorem serving_consume {m : Mound Seal Cli Pub} (serving : Serving cm m)
    (codecs : ConsignmentCodecs Seal Cli Pub) {verifier : Verifier Seal Cli Pub}
    (checks : Verifier.Checks cm verifier) (stream : List UInt8) (resolver : List StateCell → List Seal) :
    Serving cm (m.consume cm codecs verifier stream resolver).1 := by
  rcases consume_cases cm codecs verifier m stream resolver with same | ⟨_, rest, sp, -, found, made⟩
  · rwa [same]
  · rw [made]
    exact serving.insert cm _
      (Stockpile.consume_guarded cm codecs resolver checks rest (serving _ _ found))

inductive SafeStep : Mound Seal Cli Pub → Mound Seal Cli Pub → Prop
  | issue (m : Mound Seal Cli Pub) (params : CreateParams Seal) (pile : Pile Seal Cli Pub)
      (fresh : pile.keep = ∅)
      (explicit : ∀ assignment ∈ params.owned, assignment.state.«seal».toExplicit ≠ none) :
      SafeStep m (m.issue cm params pile).1
  | consume (m : Mound Seal Cli Pub) (codecs : ConsignmentCodecs Seal Cli Pub)
      (verifier : Verifier Seal Cli Pub) (checks : Verifier.Checks cm verifier) (stream : List UInt8)
      (resolver : List StateCell → List Seal) :
      SafeStep m (m.consume cm codecs verifier stream resolver).1
  | attest (m : Mound Seal Cli Pub) (published : Pub) (anchors : List (ContractId × Opid × Cli)) :
      SafeStep m (m.attest published anchors).1

theorem serving_step {m m' : Mound Seal Cli Pub} (serving : Serving cm m) (step : SafeStep cm m m') :
    Serving cm m' := by
  cases step with
  | issue params pile fresh explicit => exact serving_issue cm serving params fresh explicit
  | consume codecs verifier checks stream resolver =>
      exact serving_consume cm serving codecs checks stream resolver
  | attest published anchors => exact serving_attest cm serving published anchors

theorem serving_of_run {m m' : Mound Seal Cli Pub} (empty : m.contracts = ∅)
    (run : Relation.ReflTransGen (SafeStep cm) m m') : Serving cm m' := by
  induction run with
  | refl => exact fun id sp found => by simp [empty] at found
  | tail _ step serving => exact serving_step cm serving step

theorem safe_run_state {m m' : Mound Seal Cli Pub} (empty : m.contracts = ∅)
    (run : Relation.ReflTransGen (SafeStep cm) m m') :
    ∀ id sp, m'.contracts.lookup id = some sp →
      ∃ st, sp.state = .ok st ∧ List.Forall₂ (Stockpile.Serves cm sp) sp.stock.owned.entries st.owned :=
  fun id sp found =>
    Stockpile.state_of_aligned cm (Stockpile.guarded_aligned cm (serving_of_run cm empty run id sp found))

/-- A contract issued on one explicit seal, attested, then sent its consignment for the token of
the genesis cell through a verifier that accepts the logged operations whose cells its seals
guard. -/
theorem safe_run_state_consumed :
    let cm := Commitments.zero Unit
    let zero : Bytes 32 := Bytes.ofList 32 []
    let schema : Schema := ⟨⟨⟨[], by decide⟩⟩, ⟨[], by decide⟩, ⟨[⟨"asset", by decide⟩], by decide⟩⟩
    let params : CreateParams Unit := ⟨⟨zero⟩, .bitcoin, true, [], [⟨"asset", ⟨.alt (), zero⟩⟩]⟩
    let empty : Mound Unit Unit Unit :=
      { consensus := .bitcoin, testnet := true
        schemata := (∅ : AList _).insert ⟨zero⟩ schema, contracts := ∅ }
    let verifier : Verifier Unit Unit Unit := fun stock header _ =>
      if header.operation ∈ stock.log ∧
          header.operation.destructible.items.length ≤ header.definedSeals.items.length ∧
          ∀ cell ∈ header.operation.destructible.items, cell.auth = ⟨zero⟩ then .ok ()
      else .error ⟨"rejected"⟩
    let codecs := ConsignmentCodecs.strict Codec.unit Codec.unit Codec.unit
    let issued := (empty.issue cm params Pile.empty).1
    let attested := (issued.attest () [(⟨zero⟩, ⟨zero⟩, ())]).1
    let stream := (attested.consign cm codecs ⟨zero⟩ [cm.authToken ()]).toOption.getD []
    let consumed := (attested.consume cm codecs verifier stream fun _ => []).1
    empty.contracts = ∅ ∧ Relation.ReflTransGen (SafeStep cm) empty consumed ∧
      ∀ id sp, consumed.contracts.lookup id = some sp →
        ∃ st, sp.state = .ok st ∧
          List.Forall₂ (Stockpile.Serves cm sp) sp.stock.owned.entries st.owned := by
  intro cm zero schema params empty verifier codecs issued attested stream consumed
  have checks : Verifier.Checks cm verifier := by
    constructor
    · intro stock header witnesses accepted _
      simp only [verifier] at accepted
      split at accepted
      · rename_i checked
        exact checked.1
      · cases accepted
    · intro stock header witnesses accepted pos cell cellAt
      simp only [verifier] at accepted
      split at accepted
      · rename_i checked
        have bound := lt_of_lt_of_le (List.getElem?_eq_some.mp cellAt).1 checked.2.1
        exact ⟨_, (List.getElem?_eq_some_getElem_iff _ _ bound).mpr trivial,
          (checked.2.2 cell (List.getElem?_mem cellAt)).symm⟩
      · cases accepted
  have run : Relation.ReflTransGen (SafeStep cm) empty consumed :=
    .tail (.tail (.single (.issue empty params Pile.empty rfl (by decide))) (.attest issued () _))
      (.consume attested codecs verifier checks stream _)
  exact ⟨rfl, run, safe_run_state cm rfl run⟩

end Mound

end RgbWallet
