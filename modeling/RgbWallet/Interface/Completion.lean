import RgbWallet.Interface.Contract
import RgbWallet.Interface.Transition

/-! What the builders hand over when they complete. `issue_contract_raw` builds the genesis and
`complete_transition` the transition from `OperationBuilder::complete`, which returns the global
state and the assignments the calls accumulated, each type id with its values in call order, but
not the metadata: both write `metadata: empty!()`. Before they complete, the builders panic only
where the interface implementation names a type the schema does not declare, which no
constructor checks. -/

namespace RgbWallet

namespace Interface

structure Carries {Seal : Type} (assigns : Assignments Seal) (globals : GlobalState)
    (added : List (Added Seal)) : Prop where
  assignments : ∀ t, itemsUnder assigns t = Added.assignmentsOf t added
  assignmentKeys : ∀ t, t ∈ assigns ↔ Added.assignmentsOf t added ≠ []
  global : ∀ t, itemsUnder globals t = Added.globalsOf t added
  globalKeys : ∀ t, t ∈ globals ↔ Added.globalsOf t added ≠ []

theorem empty_eq_iff {κ ν : Type} [DecidableEq κ] (map : AList fun _ : κ => ν) :
    ∅ = map ↔ ∀ key, key ∉ map := by
  constructor
  · rintro rfl key
    exact AList.not_mem_empty key
  · intro absent
    refine AList.ext (List.eq_nil_iff_forall_not_mem.mpr fun entry mem => ?_).symm
    exact absent entry.1 (AList.mem_keys.mp (List.mem_keys_of_mem mem))

namespace OperationBuilder

variable {Seal Val : Type} {iface : Iface} {schema : Schema} {iimpl : IfaceImpl}
  {types : TypeSystem Val} {b : OperationBuilder Seal Val} {added : List (Added Seal)}

theorem Accumulates.carries (accumulated : Accumulates (.with iface schema iimpl types) b added) :
    Carries b.assignments b.global added where
  assignments t := by simpa [OperationBuilder.with] using accumulated.assignments t
  assignmentKeys t := by
    simpa [OperationBuilder.with, AList.not_mem_empty] using accumulated.assignmentKeys t
  global t := by simpa [OperationBuilder.with] using accumulated.global t
  globalKeys t := by simpa [OperationBuilder.with, AList.not_mem_empty] using accumulated.globalKeys t

theorem Accumulates.keeps_meta (accumulated : Accumulates (.with iface schema iimpl types) b added) :
    (∀ t, itemsUnder b.meta t = Added.metaOf t added) ∧
      (∅ = b.meta ↔ ∀ t, Added.metaOf t added = []) := by
  refine ⟨fun t => by simpa [OperationBuilder.with] using accumulated.meta t, ?_⟩
  rw [empty_eq_iff]
  refine forall_congr' fun t => ?_
  simpa [OperationBuilder.with, AList.not_mem_empty] using (accumulated.metaKeys t).not

end OperationBuilder

variable {Seal Val : Type} {iface : Iface} {schema : Schema} {iimpl : IfaceImpl}
  {types : TypeSystem Val}

theorem ContractBuilder.run_fresh {cb₀ cb : ContractBuilder Seal Val}
    {calls : List (ContractCall Seal Val)} (fresh : cb₀.builder = .with iface schema iimpl types)
    (ran : cb₀.run calls = .ok cb) :
    ∃ added, (calls.filterMap ContractCall.opCall).mapM
        (OperationBuilder.with iface schema iimpl types).resolve = .ok added ∧
      OperationBuilder.Accumulates (.with iface schema iimpl types) cb.builder added := by
  have ranBuilder := run_builder ran
  rw [fresh] at ranBuilder
  exact OperationBuilder.run_accumulates _ _ _ ranBuilder

theorem TransitionBuilder.run_fresh {tb₀ tb : TransitionBuilder Seal Val}
    {calls : List (TransitionCall Seal Val)} (fresh : tb₀.builder = .with iface schema iimpl types)
    (ran : tb₀.run calls = .ok tb) :
    ∃ made, List.Forall₂ TransitionCall.Makes calls made ∧ ∃ added,
      made.flatten.mapM (OperationBuilder.with iface schema iimpl types).resolve = .ok added ∧
      OperationBuilder.Accumulates (.with iface schema iimpl types) tb.builder added := by
  obtain ⟨made, makes, ranBuilder⟩ := run_builder ran
  rw [fresh] at ranBuilder
  exact ⟨made, makes, OperationBuilder.run_accumulates _ _ _ ranBuilder⟩

/-- A fresh operation builder, run directly or through a contract or a transition builder,
completes with exactly the assignments and global state its calls add, under each type id and in
call order; they are those of the genesis `issue_contract_raw` builds and of the transition
`complete_transition` builds. -/
theorem complete_accumulated (iface : Iface) (schema : Schema) (iimpl : IfaceImpl)
    (types : TypeSystem Val) :
    (∀ (calls : List (OpCall Seal Val)) b,
      (OperationBuilder.with iface schema iimpl types).run calls = .ok b →
      ∃ added, calls.mapM (OperationBuilder.with iface schema iimpl types).resolve = .ok added ∧
        Carries b.complete.2.2.2.2.1 b.complete.2.2.2.1 added) ∧
    (∀ (cb₀ : ContractBuilder Seal Val) calls cb validate timestamp contract,
      cb₀.builder = .with iface schema iimpl types → cb₀.run calls = .ok cb →
      cb.issueContractRaw validate timestamp = .ok contract →
      ∃ added, (calls.filterMap ContractCall.opCall).mapM
          (OperationBuilder.with iface schema iimpl types).resolve = .ok added ∧
        Carries contract.genesis.assignments contract.genesis.globals added) ∧
    (∀ (tb₀ : TransitionBuilder Seal Val) calls tb transition,
      tb₀.builder = .with iface schema iimpl types → tb₀.run calls = .ok tb →
      tb.completeTransition = .ok transition →
      ∃ made, List.Forall₂ TransitionCall.Makes calls made ∧ ∃ added,
        made.flatten.mapM (OperationBuilder.with iface schema iimpl types).resolve = .ok added ∧
        Carries transition.assignments transition.globals added) := by
  refine ⟨fun calls b ran => ?_, fun cb₀ calls cb validate timestamp contract fresh ran issued => ?_,
    fun tb₀ calls tb transition fresh ran completed => ?_⟩
  · obtain ⟨added, resolved, accumulated⟩ := OperationBuilder.run_accumulates _ _ _ ran
    exact ⟨added, resolved, accumulated.carries⟩
  · obtain ⟨added, resolved, accumulated⟩ := ContractBuilder.run_fresh fresh ran
    obtain ⟨genesis, -⟩ := ContractBuilder.issueContractRaw_genesis issued
    exact ⟨added, resolved, genesis ▸ accumulated.carries⟩
  · obtain ⟨made, makes, added, resolved, accumulated⟩ := TransitionBuilder.run_fresh fresh ran
    rw [TransitionBuilder.completeTransition_eq] at completed
    cases completed
    exact ⟨made, makes, added, resolved, accumulated.carries⟩

/-- Two supplies and two rights under one type each, added directly, through a contract builder
and through a blank transition builder: the second of each is appended to the first. -/
theorem complete_accumulated_supply :
    let types : TypeSystem Unit := ⟨fun value semId => .ok ⟨value, semId⟩, fun _ => []⟩
    let schema : Schema := ⟨∅, (∅ : AList _).insert ⟨0⟩ ⟨⟨Bytes.ofList 32 []⟩⟩, ∅⟩
    let iimpl : IfaceImpl := ⟨∅, (∅ : AList _).insert "supply" ⟨0⟩, (∅ : AList _).insert "right" ⟨0⟩,
      ∅, ⟨fun _ _ state => .ok ⟨state, none⟩, fun _ _ => .ok none⟩⟩
    let calls : List (OpCall Unit Unit) :=
      [.serializeGlobalState "supply" [1], .addRights "right" (.revealed (.bitcoin ())) none,
        .serializeGlobalState "supply" [2], .addRights "right" (.revealed (.bitcoin ())) none]
    let cb₀ : ContractBuilder Unit Unit := .with "issuer" ⟨none⟩ schema iimpl types
    let tb₀ : TransitionBuilder Unit Unit :=
      .blankTransition ⟨Bytes.ofList 32 []⟩ ⟨none⟩ schema iimpl types
    let transitionCalls : List (TransitionCall Unit Unit) :=
      [.serializeGlobalState "supply" [1], .addRights "right" (.revealed (.bitcoin ())) none,
        .serializeGlobalState "supply" [2], .addRights "right" (.revealed (.bitcoin ())) none]
    (∃ b, (OperationBuilder.with ⟨none⟩ schema iimpl types).run calls = .ok b ∧
      ∃ added, calls.mapM (OperationBuilder.with ⟨none⟩ schema iimpl types).resolve = .ok added ∧
        Carries b.complete.2.2.2.2.1 b.complete.2.2.2.1 added) ∧
    (∃ cb contract, cb₀.builder = .with ⟨none⟩ schema iimpl types ∧
      cb₀.run (calls.map .operation) = .ok cb ∧ cb.issueContractRaw (fun _ => .ok ()) 0 = .ok contract ∧
      ∃ added, ((calls.map .operation).filterMap ContractCall.opCall).mapM
          (OperationBuilder.with ⟨none⟩ schema iimpl types).resolve = .ok added ∧
        Carries contract.genesis.assignments contract.genesis.globals added) ∧
    (∃ tb transition, tb₀.builder = .with ⟨none⟩ schema iimpl types ∧
      tb₀.run transitionCalls = .ok tb ∧ tb.completeTransition = .ok transition ∧
      ∃ made, List.Forall₂ TransitionCall.Makes transitionCalls made ∧
        ∃ added, made.flatten.mapM (OperationBuilder.with ⟨none⟩ schema iimpl types).resolve = .ok added ∧
        Carries transition.assignments transition.globals added) := by
  intro types schema iimpl calls cb₀ tb₀ transitionCalls
  obtain ⟨b, ranOperation⟩ : ∃ b, (OperationBuilder.with ⟨none⟩ schema iimpl types).run calls = .ok b :=
    ⟨_, rfl⟩
  obtain ⟨cb, ranContract⟩ : ∃ cb, cb₀.run (calls.map .operation) = .ok cb := ⟨_, rfl⟩
  obtain ⟨tb, ranTransition⟩ : ∃ tb, tb₀.run transitionCalls = .ok tb := ⟨_, rfl⟩
  exact ⟨⟨b, ranOperation, (complete_accumulated ⟨none⟩ schema iimpl types).1 calls b ranOperation⟩,
    ⟨cb, _, rfl, ranContract, rfl,
      (complete_accumulated ⟨none⟩ schema iimpl types).2.1 cb₀ _ cb (fun _ => .ok ()) 0 _ rfl
        ranContract rfl⟩,
    ⟨tb, _, rfl, ranTransition, rfl,
      (complete_accumulated ⟨none⟩ schema iimpl types).2.2 tb₀ _ tb _ rfl ranTransition rfl⟩⟩

/-- A fresh operation builder's metadata, run through a contract or a transition builder, is left
out of the genesis `issue_contract_raw` builds and of the transition `complete_transition` builds:
their metadata is empty, and is the builder's only when its calls added none. -/
theorem complete_drops_metadata (iface : Iface) (schema : Schema) (iimpl : IfaceImpl)
    (types : TypeSystem Val) :
    (∀ (cb₀ : ContractBuilder Seal Val) calls cb validate timestamp contract,
      cb₀.builder = .with iface schema iimpl types → cb₀.run calls = .ok cb →
      cb.issueContractRaw validate timestamp = .ok contract →
      ∃ added, (calls.filterMap ContractCall.opCall).mapM
          (OperationBuilder.with iface schema iimpl types).resolve = .ok added ∧
        (∀ t, itemsUnder cb.builder.meta t = Added.metaOf t added) ∧
        contract.genesis.metadata = ∅ ∧
        (contract.genesis.metadata = cb.builder.meta ↔ ∀ t, Added.metaOf t added = [])) ∧
    (∀ (tb₀ : TransitionBuilder Seal Val) calls tb transition,
      tb₀.builder = .with iface schema iimpl types → tb₀.run calls = .ok tb →
      tb.completeTransition = .ok transition →
      ∃ made, List.Forall₂ TransitionCall.Makes calls made ∧ ∃ added,
        made.flatten.mapM (OperationBuilder.with iface schema iimpl types).resolve = .ok added ∧
        (∀ t, itemsUnder tb.builder.meta t = Added.metaOf t added) ∧
        transition.metadata = ∅ ∧
        (transition.metadata = tb.builder.meta ↔ ∀ t, Added.metaOf t added = [])) := by
  refine ⟨fun cb₀ calls cb validate timestamp contract fresh ran issued => ?_,
    fun tb₀ calls tb transition fresh ran completed => ?_⟩
  · obtain ⟨added, resolved, accumulated⟩ := ContractBuilder.run_fresh fresh ran
    obtain ⟨genesis, -⟩ := ContractBuilder.issueContractRaw_genesis issued
    obtain ⟨kept, dropped⟩ := accumulated.keeps_meta
    exact ⟨added, resolved, kept, by rw [genesis], by rw [genesis]; exact dropped⟩
  · obtain ⟨made, makes, added, resolved, accumulated⟩ := TransitionBuilder.run_fresh fresh ran
    rw [TransitionBuilder.completeTransition_eq] at completed
    cases completed
    exact ⟨made, makes, added, resolved, accumulated.keeps_meta.1, rfl, accumulated.keeps_meta.2⟩

/-- A ticker serialized into the metadata of a contract and of a blank transition: the builders
keep it, the genesis and the transition do not. -/
theorem complete_drops_metadata_ticker :
    let types : TypeSystem Unit := ⟨fun value semId => .ok ⟨value, semId⟩, fun _ => []⟩
    let schema : Schema := ⟨(∅ : AList _).insert ⟨0⟩ ⟨Bytes.ofList 32 []⟩, ∅, ∅⟩
    let iimpl : IfaceImpl := ⟨(∅ : AList _).insert "ticker" ⟨0⟩, ∅, ∅, ∅,
      ⟨fun _ _ state => .ok ⟨state, none⟩, fun _ _ => .ok none⟩⟩
    let cb₀ : ContractBuilder Unit Unit := .with "issuer" ⟨none⟩ schema iimpl types
    let tb₀ : TransitionBuilder Unit Unit :=
      .blankTransition ⟨Bytes.ofList 32 []⟩ ⟨none⟩ schema iimpl types
    let contractCalls : List (ContractCall Unit Unit) := [.operation (.serializeMetadata "ticker" [1])]
    let transitionCalls : List (TransitionCall Unit Unit) := [.serializeMetadata "ticker" [1]]
    (∃ cb contract, cb₀.builder = .with ⟨none⟩ schema iimpl types ∧
      cb₀.run contractCalls = .ok cb ∧
      cb.issueContractRaw (fun _ => .ok ()) 0 = .ok contract ∧
      itemsUnder cb.builder.meta ⟨0⟩ = [[1]] ∧
      ∃ added, (contractCalls.filterMap ContractCall.opCall).mapM
          (OperationBuilder.with ⟨none⟩ schema iimpl types).resolve = .ok added ∧
        (∀ t, itemsUnder cb.builder.meta t = Added.metaOf t added) ∧
        contract.genesis.metadata = ∅ ∧
        (contract.genesis.metadata = cb.builder.meta ↔ ∀ t, Added.metaOf t added = [])) ∧
    (∃ tb transition, tb₀.builder = .with ⟨none⟩ schema iimpl types ∧
      tb₀.run transitionCalls = .ok tb ∧ tb.completeTransition = .ok transition ∧
      itemsUnder tb.builder.meta ⟨0⟩ = [[1]] ∧
      ∃ made, List.Forall₂ TransitionCall.Makes transitionCalls made ∧ ∃ added,
        made.flatten.mapM (OperationBuilder.with ⟨none⟩ schema iimpl types).resolve = .ok added ∧
        (∀ t, itemsUnder tb.builder.meta t = Added.metaOf t added) ∧
        transition.metadata = ∅ ∧
        (transition.metadata = tb.builder.meta ↔ ∀ t, Added.metaOf t added = [])) := by
  intro types schema iimpl cb₀ tb₀ contractCalls transitionCalls
  obtain ⟨cb, ranContract, keptContract⟩ : ∃ cb,
      cb₀.run contractCalls = .ok cb ∧ itemsUnder cb.builder.meta ⟨0⟩ = [[1]] := ⟨_, rfl, rfl⟩
  obtain ⟨tb, ranTransition, keptTransition⟩ : ∃ tb,
      tb₀.run transitionCalls = .ok tb ∧ itemsUnder tb.builder.meta ⟨0⟩ = [[1]] := ⟨_, rfl, rfl⟩
  exact ⟨⟨cb, _, rfl, ranContract, rfl, keptContract,
      (complete_drops_metadata ⟨none⟩ schema iimpl types).1 cb₀ _ cb (fun _ => .ok ()) 0 _ rfl
        ranContract rfl⟩,
    ⟨tb, _, rfl, ranTransition, rfl, keptTransition,
      (complete_drops_metadata ⟨none⟩ schema iimpl types).2 tb₀ _ tb _ rfl ranTransition rfl⟩⟩

/-- The builders panic only on an inconsistent pair. A contract builder made by `with` never
panics, whatever calls it runs, exactly when the interface implementation names only types the
schema declares: `with` checks nothing, and on any other pair the call that names an undeclared
type panics. A transition builder made by `default_transition` or `named_transition` on a
consistent pair never panics, whatever calls it runs. -/
theorem builders_noPanic_iff {Seal Val : Type} [Inhabited Val] (issuer : String)
    (contractId : ContractId) (iface : Iface) (schema : Schema) (iimpl : IfaceImpl)
    (types : TypeSystem Val) :
    ((∀ calls : List (ContractCall Seal Val),
        NoPanic ((ContractBuilder.with issuer iface schema iimpl types).run calls)) ↔
      Consistent schema iimpl) ∧
    (Consistent schema iimpl → ∀ (tb₀ : TransitionBuilder Seal Val) (calls : List (TransitionCall Seal Val)),
      (TransitionBuilder.defaultTransition contractId iface schema iimpl types = .ok tb₀ ∨
        ∃ name, TransitionBuilder.namedTransition contractId iface schema iimpl name types = .ok tb₀) →
      NoPanic (tb₀.run calls)) := by
  refine ⟨⟨ContractBuilder.consistent_of_noPanic, fun consistent =>
    @ContractBuilder.run_noPanic Seal Val (.with issuer iface schema iimpl types) consistent⟩,
    fun consistent tb₀ calls made => ?_⟩
  have ledger : tb₀.«calc».isSome := by rw [(TransitionBuilder.made_ledger made).2]; rfl
  rcases made with made | ⟨name, made⟩ <;>
  · simp only [TransitionBuilder.defaultTransition, TransitionBuilder.namedTransition] at made
    split at made <;> cases made
    exact TransitionBuilder.run_noPanic consistent ledger calls

end Interface

end RgbWallet
