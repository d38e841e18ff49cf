import RgbWallet.Interface.Operation
import Mathlib.Data.Finset.Card

/-! `TransitionBuilder` (src/interface/builder.rs): the builder of a state transition over an
`OperationBuilder`. Besides the operation it keeps the transition's inputs, a map from each
input to the state it spends, and a `StateCalc` ledger that `fulfill_owned_state` and
`add_owned_state_change` consult to split outputs and compute change. `add_input` registers the
spent state with the ledger on every call, while the map keeps a single entry per input: an input
added twice is counted twice by the ledger and once by the transition. -/

namespace RgbWallet

namespace Interface

structure Opout where
  op : Opid
  ty : AssignmentType
  no : UInt16
deriving DecidableEq, Repr

structure Input where
  prevOut : Opout
deriving DecidableEq, Repr

def Input.«with» (opout : Opout) : Input := ⟨opout⟩

/-- Modelled from the spec: `StateCalc`, the ledger of the states an operation consumes
(`reg_input`) and creates (`calc_output`), each under its assignment type, with the verdicts of
the interface's `state_abi` on them. -/
structure StateCalc where
  abi : StateAbi
  inputs : List (AssignmentType × State)
  outputs : List (AssignmentType × State)

namespace StateCalc

def new (abi : StateAbi) : StateCalc := ⟨abi, [], []⟩

def ofType (ledger : List (AssignmentType × State)) (typeId : AssignmentType) : List State :=
  ledger.filterMap fun (other, state) => if other = typeId then some state else none

def regInput («calc» : StateCalc) (typeId : AssignmentType) (state : State) :
    Except StateCalcError StateCalc :=
  .ok { «calc» with inputs := «calc».inputs ++ [(typeId, state)] }

def calcOutput («calc» : StateCalc) (typeId : AssignmentType) (state : State) :
    Except StateCalcError (StateCalc × AllocatedState) := do
  let allocated ←
    «calc».abi.calcOutput (ofType «calc».inputs typeId) (ofType «calc».outputs typeId) state
  pure ({ «calc» with outputs := «calc».outputs ++ [(typeId, allocated.sufficient)] }, allocated)

def calcChange («calc» : StateCalc) (typeId : AssignmentType) :
    Except StateCalcError (Option State) :=
  «calc».abi.calcChange (ofType «calc».inputs typeId) (ofType «calc».outputs typeId)

end StateCalc

theorem StateCalc.calcOutput_inputs {«calc» calc' : StateCalc} {typeId : AssignmentType}
    {state : State} {allocated : AllocatedState}
    (split : «calc».calcOutput typeId state = .ok (calc', allocated)) : calc'.inputs = «calc».inputs := by
  obtain ⟨_, -, ⟨⟩⟩ := bind_eq_ok.mp split
  rfl

section Insertion

variable {κ ν : Type} [DecidableEq κ]

theorem length_keys_foldl_insert (entries : List (κ × ν)) :
    (entries.foldl (fun map entry => map.insert entry.1 entry.2)
      (∅ : AList fun _ : κ => ν)).keys.length =
      (entries.map Prod.fst).toFinset.card := by
  rw [← List.toFinset_card_of_nodup (AList.keys_nodup _)]
  congr 1
  ext key
  rw [List.mem_toFinset, List.mem_toFinset, ← AList.mem_keys, mem_foldl_insert]
  simp

end Insertion

structure Transition (Seal : Type) where
  contractId : ContractId
  nonce : UInt64
  transitionType : TransitionType
  metadata : Metadata
  globals : GlobalState
  inputs : List Input
  assignments : Assignments Seal

def TransitionType.blank : TransitionType := ⟨0xFFFF⟩

structure TransitionBuilder (Seal Val : Type) where
  contractId : ContractId
  builder : OperationBuilder Seal Val
  nonce : UInt64
  transitionType : TransitionType
  inputs : AList fun _ : Input => State
  «calc» : Option StateCalc

namespace TransitionBuilder

variable {Seal Val : Type}

def «with» (contractId : ContractId) (iface : Iface) (schema : Schema) (iimpl : IfaceImpl)
    (transitionType : TransitionType) (types : TypeSystem Val) («calc» : Option StateCalc) :
    TransitionBuilder Seal Val :=
  { contractId, builder := OperationBuilder.with iface schema iimpl types,
    nonce := 0xFFFFFFFFFFFFFFFF, transitionType, inputs := ∅, «calc» }

def blankTransition (contractId : ContractId) (iface : Iface) (schema : Schema)
    (iimpl : IfaceImpl) (types : TypeSystem Val) : TransitionBuilder Seal Val :=
  .with contractId iface schema iimpl .blank types none

def defaultTransition (contractId : ContractId) (iface : Iface) (schema : Schema)
    (iimpl : IfaceImpl) (types : TypeSystem Val) : Except BuilderError (TransitionBuilder Seal Val) :=
  match iface.defaultOperation.bind iimpl.transitions.lookup with
  | none => .error .noOperationSubtype
  | some transitionType =>
    .ok (.with contractId iface schema iimpl transitionType types (some (.new iimpl.stateAbi)))

def namedTransition (contractId : ContractId) (iface : Iface) (schema : Schema)
    (iimpl : IfaceImpl) (transitionName : String) (types : TypeSystem Val) :
    Except BuilderError (TransitionBuilder Seal Val) :=
  match iimpl.transitions.lookup transitionName with
  | none => .error (.transitionNotFound transitionName)
  | some transitionType =>
    .ok (.with contractId iface schema iimpl transitionType types (some (.new iimpl.stateAbi)))

def setNonce (tb : TransitionBuilder Seal Val) (nonce : UInt64) : TransitionBuilder Seal Val :=
  { tb with nonce }

def addInput (tb : TransitionBuilder Seal Val) (opout : Opout) (state : State) :
    Except BuilderError (TransitionBuilder Seal Val) := do
  let «calc» ← tb.«calc».mapM fun «calc» => («calc».regInput opout.ty state).mapError .«calc»
  let inputs ← (tinyInsert tb.inputs (Input.with opout) state).mapError .confinement
  pure { tb with «calc», inputs }

def addMetadata (tb : TransitionBuilder Seal Val) (name : String) (value : Val) :
    Except (Fault BuilderError) (TransitionBuilder Seal Val) := do
  let builder ← tb.builder.addMetadata name value
  pure { tb with builder }

def serializeMetadata (tb : TransitionBuilder Seal Val) (name : String) (value : List UInt8) :
    Except (Fault BuilderError) (TransitionBuilder Seal Val) := do
  let builder ← tb.builder.serializeMetadata name value
  pure { tb with builder }

def addGlobalState (tb : TransitionBuilder Seal Val) (name : String) (value : Val) :
    Except (Fault BuilderError) (TransitionBuilder Seal Val) := do
  let builder ← tb.builder.addGlobalState name value
  pure { tb with builder }

def serializeGlobalState (tb : TransitionBuilder Seal Val) (name : String) (value : List UInt8) :
    Except (Fault BuilderError) (TransitionBuilder Seal Val) := do
  let builder ← tb.builder.serializeGlobalState name value
  pure { tb with builder }

def addOwnedStateBlank (tb : TransitionBuilder Seal Val) (typeId : AssignmentType)
    («seal» : BuilderSeal Seal) (state : State) :
    Except BuilderError (TransitionBuilder Seal Val) := do
  let builder ← tb.builder.addOwnedStateRaw typeId «seal» state
  pure { tb with builder }

def addRights (tb : TransitionBuilder Seal Val) (name : String) («seal» : BuilderSeal Seal)
    (attach : Option AttachId) : Except BuilderError (TransitionBuilder Seal Val) := do
  let builder ← tb.builder.addRights name «seal» attach
  pure { tb with builder }

def fulfillOwnedState (tb : TransitionBuilder Seal Val) (typeId : AssignmentType)
    («seal» : BuilderSeal Seal) (state : State) :
    Except (Fault BuilderError) (TransitionBuilder Seal Val × Option State) := do
  let «calc» ←
    expect "you must not call fulfill_owned_state for the blank transition builder" tb.«calc»
  let («calc», state) ← liftError ((«calc».calcOutput typeId state).mapError .«calc»)
  let builder ← liftError (tb.builder.addOwnedStateRaw typeId «seal» state.sufficient)
  pure ({ tb with «calc» := some «calc», builder }, state.insufficient)

def addOwnedStateChange (tb : TransitionBuilder Seal Val) (typeId : AssignmentType)
    («seal» : BuilderSeal Seal) : Except (Fault BuilderError) (TransitionBuilder Seal Val) := do
  let «calc» ←
    expect "you must not call add_owned_state_change for the blank transition builder" tb.«calc»
  match ← liftError ((«calc».calcChange typeId).mapError .«calc») with
  | some state =>
    let builder ← liftError (tb.builder.addOwnedStateRaw typeId «seal» state)
    pure { tb with builder }
  | none => pure tb

def hasInputs (tb : TransitionBuilder Seal Val) : Bool := !tb.inputs.entries.isEmpty

def completeTransition (tb : TransitionBuilder Seal Val) : Except BuilderError (Transition Seal) :=
  let (_, _, _, global, assignments, _) := tb.builder.complete
  .ok { contractId := tb.contractId, nonce := tb.nonce, transitionType := tb.transitionType,
        metadata := ∅, globals := global, inputs := tb.inputs.keys, assignments }

theorem completeTransition_eq (tb : TransitionBuilder Seal Val) :
    tb.completeTransition = .ok
      { contractId := tb.contractId, nonce := tb.nonce, transitionType := tb.transitionType,
        metadata := ∅, globals := tb.builder.global, inputs := tb.inputs.keys,
        assignments := tb.builder.assignments } :=
  rfl

end TransitionBuilder

inductive TransitionCall (Seal Val : Type)
  | setNonce (nonce : UInt64)
  | addInput (opout : Opout) (state : State)
  | addMetadata (name : String) (value : Val)
  | serializeMetadata (name : String) (value : List UInt8)
  | addGlobalState (name : String) (value : Val)
  | serializeGlobalState (name : String) (value : List UInt8)
  | addOwnedStateBlank (typeId : AssignmentType) («seal» : BuilderSeal Seal) (state : State)
  | addRights (name : String) («seal» : BuilderSeal Seal) (attach : Option AttachId)
  | fulfillOwnedState (typeId : AssignmentType) («seal» : BuilderSeal Seal) (state : State)
  | addOwnedStateChange (typeId : AssignmentType) («seal» : BuilderSeal Seal)

def TransitionCall.input {Seal Val : Type} : TransitionCall Seal Val → Option (Opout × State)
  | .addInput opout state => some (opout, state)
  | _ => none

def TransitionCall.Makes {Seal Val : Type} : TransitionCall Seal Val → List (OpCall Seal Val) → Prop
  | .setNonce _, ops => ops = []
  | .addInput _ _, ops => ops = []
  | .addMetadata name value, ops => ops = [.addMetadata name value]
  | .serializeMetadata name value, ops => ops = [.serializeMetadata name value]
  | .addGlobalState name value, ops => ops = [.addGlobalState name value]
  | .serializeGlobalState name value, ops => ops = [.serializeGlobalState name value]
  | .addOwnedStateBlank typeId «seal» state, ops => ops = [.addOwnedStateRaw typeId «seal» state]
  | .addRights name «seal» attach, ops => ops = [.addRights name «seal» attach]
  | .fulfillOwnedState typeId «seal» _, ops => ∃ state, ops = [.addOwnedStateRaw typeId «seal» state]
  | .addOwnedStateChange typeId «seal», ops =>
    ops = [] ∨ ∃ state, ops = [.addOwnedStateRaw typeId «seal» state]

namespace TransitionBuilder

variable {Seal Val : Type}

def call (tb : TransitionBuilder Seal Val) :
    TransitionCall Seal Val → Except (Fault BuilderError) (TransitionBuilder Seal Val)
  | .setNonce nonce => .ok (tb.setNonce nonce)
  | .addInput opout state => liftError (tb.addInput opout state)
  | .addMetadata name value => tb.addMetadata name value
  | .serializeMetadata name value => tb.serializeMetadata name value
  | .addGlobalState name value => tb.addGlobalState name value
  | .serializeGlobalState name value => tb.serializeGlobalState name value
  | .addOwnedStateBlank typeId «seal» state => liftError (tb.addOwnedStateBlank typeId «seal» state)
  | .addRights name «seal» attach => liftError (tb.addRights name «seal» attach)
  | .fulfillOwnedState typeId «seal» state => Prod.fst <$> tb.fulfillOwnedState typeId «seal» state
  | .addOwnedStateChange typeId «seal» => tb.addOwnedStateChange typeId «seal»

def run (tb : TransitionBuilder Seal Val) :
    List (TransitionCall Seal Val) → Except (Fault BuilderError) (TransitionBuilder Seal Val)
  | [] => .ok tb
  | c :: calls => tb.call c >>= fun tb => tb.run calls

theorem call_eq_ok {tb tb' : TransitionBuilder Seal Val} {c : TransitionCall Seal Val}
    (called : tb.call c = .ok tb') :
    (∃ ops, c.Makes ops ∧ tb.builder.run ops = .ok tb'.builder) ∧
    tb'.inputs = (c.input.toList.map fun entry => (Input.with entry.1, entry.2)).foldl
        (fun map entry => map.insert entry.1 entry.2) tb.inputs ∧
      tb'.«calc».map StateCalc.inputs = (tb.«calc».map StateCalc.inputs).map
        (· ++ c.input.toList.map fun entry => (entry.1.ty, entry.2)) := by
  cases c with
  | setNonce nonce =>
      cases called
      exact ⟨⟨[], rfl, rfl⟩, by simp [TransitionCall.input, setNonce, Function.comp_def]⟩
  | addInput opout state =>
      obtain ⟨registered, ledger, filed⟩ := bind_eq_ok.mp (mapError_eq_ok.mp called)
      obtain ⟨inputs, inserted, ⟨⟩⟩ := bind_eq_ok.mp filed
      refine ⟨⟨[], rfl, rfl⟩, ?_⟩
      rw [tinyInsert_eq_ok (mapError_eq_ok.mp inserted)]
      cases present : tb.«calc» <;> simp only [present, Option.mapM, StateCalc.regInput] at ledger <;>
        cases ledger <;> simp [TransitionCall.input, present]
  | addMetadata | serializeMetadata | addGlobalState | serializeGlobalState =>
      obtain ⟨builder, filed, ⟨⟩⟩ := bind_eq_ok.mp called
      exact ⟨⟨_, rfl, by simp [OperationBuilder.run, OperationBuilder.call, filed]⟩,
        by simp [TransitionCall.input, Function.comp_def]⟩
  | addOwnedStateBlank | addRights =>
      obtain ⟨builder, filed, ⟨⟩⟩ := bind_eq_ok.mp (mapError_eq_ok.mp called)
      exact ⟨⟨_, rfl, by
        simp [OperationBuilder.run, OperationBuilder.call, filed, liftError, Except.mapError]⟩,
        by simp [TransitionCall.input, Function.comp_def]⟩
  | fulfillOwnedState typeId «seal» state =>
      obtain ⟨⟨tb'', _⟩, fulfilled, ⟨⟩⟩ := map_eq_ok.mp called
      obtain ⟨«calc», present, split⟩ := bind_eq_ok.mp fulfilled
      obtain ⟨⟨calc', allocated⟩, computed, added⟩ := bind_eq_ok.mp split
      obtain ⟨builder, filed, ⟨⟩⟩ := bind_eq_ok.mp added
      simp only [liftError, mapError_eq_ok] at computed
      exact ⟨⟨_, ⟨allocated.sufficient, rfl⟩, by
        simp [OperationBuilder.run, OperationBuilder.call, filed]⟩,
        by simp [TransitionCall.input, expect_eq_ok.mp present, StateCalc.calcOutput_inputs computed]⟩
  | addOwnedStateChange typeId «seal» =>
      obtain ⟨«calc», -, changed⟩ := bind_eq_ok.mp called
      obtain ⟨change, -, added⟩ := bind_eq_ok.mp changed
      cases change with
      | none =>
          cases added
          exact ⟨⟨[], .inl rfl, rfl⟩, by simp [TransitionCall.input, Function.comp_def]⟩
      | some state =>
          obtain ⟨builder, filed, ⟨⟩⟩ := bind_eq_ok.mp added
          exact ⟨⟨_, .inr ⟨state, rfl⟩, by simp [OperationBuilder.run, OperationBuilder.call, filed]⟩,
            by simp [TransitionCall.input, Function.comp_def]⟩

theorem run_inputs {tb tb' : TransitionBuilder Seal Val} {calls : List (TransitionCall Seal Val)}
    (ran : tb.run calls = .ok tb') :
    tb'.inputs = ((calls.filterMap TransitionCall.input).map fun entry =>
        (Input.with entry.1, entry.2)).foldl (fun map entry => map.insert entry.1 entry.2) tb.inputs ∧
      tb'.«calc».map StateCalc.inputs = (tb.«calc».map StateCalc.inputs).map
        (· ++ (calls.filterMap TransitionCall.input).map fun entry => (entry.1.ty, entry.2)) := by
  induction calls generalizing tb with
  | nil =>
      cases ran
      simp [Function.comp_def]
  | cons c calls ih =>
      obtain ⟨next, called, rest⟩ := bind_eq_ok.mp ran
      obtain ⟨-, inputsFirst, calcFirst⟩ := call_eq_ok called
      obtain ⟨inputsLater, calcLater⟩ := ih rest
      rw [filterMap_cons_toList]
      refine ⟨by rw [inputsLater, inputsFirst, List.map_append, List.foldl_append], ?_⟩
      rw [calcLater, calcFirst, Option.map_map, List.map_append]
      simp [Function.comp_def]

theorem run_builder {tb tb' : TransitionBuilder Seal Val} {calls : List (TransitionCall Seal Val)}
    (ran : tb.run calls = .ok tb') :
    ∃ made, List.Forall₂ TransitionCall.Makes calls made ∧
      tb.builder.run made.flatten = .ok tb'.builder := by
  induction calls generalizing tb with
  | nil =>
      cases ran
      exact ⟨[], .nil, rfl⟩
  | cons c calls ih =>
      obtain ⟨next, called, rest⟩ := bind_eq_ok.mp ran
      obtain ⟨⟨ops, makes, first⟩, -⟩ := call_eq_ok called
      obtain ⟨made, makesLater, later⟩ := ih rest
      refine ⟨ops :: made, .cons makes makesLater, ?_⟩
      rw [List.flatten_cons, OperationBuilder.run_append, first]
      exact later

theorem run_calc_isSome {tb tb' : TransitionBuilder Seal Val} {calls : List (TransitionCall Seal Val)}
    (ran : tb.run calls = .ok tb') : tb'.«calc».isSome = tb.«calc».isSome := by
  simpa using congrArg Option.isSome (run_inputs ran).2

theorem ledger_absent {tb : TransitionBuilder Seal Val} (absent : tb.«calc» = none)
    (typeId : AssignmentType) («seal» : BuilderSeal Seal) (state : State) :
    tb.call (.fulfillOwnedState typeId «seal» state) =
        .error (.panic "you must not call fulfill_owned_state for the blank transition builder") ∧
      tb.call (.addOwnedStateChange typeId «seal») =
        .error (.panic "you must not call add_owned_state_change for the blank transition builder") := by
  simp only [call, fulfillOwnedState, addOwnedStateChange, absent, expect]
  exact ⟨rfl, rfl⟩

theorem ledger_present {tb : TransitionBuilder Seal Val} {«calc» : StateCalc}
    (present : tb.«calc» = some «calc») (typeId : AssignmentType) («seal» : BuilderSeal Seal)
    (state : State) :
    NoPanic (tb.call (.fulfillOwnedState typeId «seal» state)) ∧
      NoPanic (tb.call (.addOwnedStateChange typeId «seal»)) := by
  simp only [call, fulfillOwnedState, addOwnedStateChange, present, expect]
  refine ⟨.map _ (.bind (noPanic_pure _) fun _ _ => .bind (noPanic_liftError _) fun _ _ =>
    .bind (noPanic_liftError _) fun _ _ => noPanic_pure _), .bind (noPanic_pure _) fun _ _ =>
      .bind (noPanic_liftError _) fun change _ => ?_⟩
  cases change with
  | some state => exact .bind (noPanic_liftError _) fun _ _ => noPanic_pure _
  | none => exact noPanic_pure _

theorem call_noPanic {tb : TransitionBuilder Seal Val}
    (consistent : Consistent tb.builder.schema tb.builder.iimpl) (present : tb.«calc».isSome)
    (c : TransitionCall Seal Val) : NoPanic (tb.call c) := by
  have handed := OperationBuilder.call_noPanic consistent
  obtain ⟨«calc», ledger⟩ := Option.isSome_iff_exists.mp present
  cases c with
  | setNonce => exact noPanic_pure _
  | addInput | addOwnedStateBlank | addRights => exact noPanic_liftError _
  | addMetadata name value => exact .bind (handed (.addMetadata name value)) fun _ _ => noPanic_pure _
  | serializeMetadata name value =>
      exact .bind (handed (.serializeMetadata name value)) fun _ _ => noPanic_pure _
  | addGlobalState name value =>
      exact .bind (handed (.addGlobalState name value)) fun _ _ => noPanic_pure _
  | serializeGlobalState name value =>
      exact .bind (handed (.serializeGlobalState name value)) fun _ _ => noPanic_pure _
  | fulfillOwnedState typeId «seal» state => exact (ledger_present ledger typeId «seal» state).1
  | addOwnedStateChange typeId «seal» => exact (ledger_present ledger typeId «seal» State.empty).2

theorem run_noPanic {tb : TransitionBuilder Seal Val}
    (consistent : Consistent tb.builder.schema tb.builder.iimpl) (present : tb.«calc».isSome)
    (calls : List (TransitionCall Seal Val)) : NoPanic (tb.run calls) := by
  induction calls generalizing tb with
  | nil => exact noPanic_pure tb
  | cons c calls ih =>
      refine .bind (call_noPanic consistent present c) fun next called => ih ?_ ?_
      · obtain ⟨⟨_, -, built⟩, -⟩ := call_eq_ok called
        obtain ⟨_, _, accumulated⟩ := OperationBuilder.run_accumulates _ _ _ built
        rwa [accumulated.schema, accumulated.iimpl]
      · simpa [← present] using congrArg Option.isSome (call_eq_ok called).2.2

theorem made_ledger {contractId : ContractId} {iface : Iface} {schema : Schema} {iimpl : IfaceImpl}
    {types : TypeSystem Val} {tb : TransitionBuilder Seal Val}
    (made : defaultTransition contractId iface schema iimpl types = .ok tb ∨
      ∃ name, namedTransition contractId iface schema iimpl name types = .ok tb) :
    tb.inputs = ∅ ∧ tb.«calc» = some (.new iimpl.stateAbi) := by
  rcases made with made | ⟨name, made⟩ <;>
  · simp only [defaultTransition, namedTransition] at made
    split at made <;> cases made
    exact ⟨rfl, rfl⟩

/-- A transition builder made with a ledger, whatever calls it then runs, registers with its
ledger the state of every `add_input` call, in call order. Its inputs map keeps one entry per
input, so the ledger holds the multiset of (assignment type, state) pairs of the map's entries
exactly when no input was added twice. -/
theorem addInput_ledger (contractId : ContractId) (iface : Iface) (schema : Schema)
    (iimpl : IfaceImpl) (types : TypeSystem Val) (tb₀ tb : TransitionBuilder Seal Val)
    (calls : List (TransitionCall Seal Val))
    (made : defaultTransition contractId iface schema iimpl types = .ok tb₀ ∨
      ∃ name, namedTransition contractId iface schema iimpl name types = .ok tb₀)
    (ran : tb₀.run calls = .ok tb) :
    ∃ «calc», tb.«calc» = some «calc» ∧
      «calc».inputs = (calls.filterMap TransitionCall.input).map (fun entry => (entry.1.ty, entry.2)) ∧
      (((«calc».inputs : List (AssignmentType × State)) : Multiset (AssignmentType × State)) =
          ((tb.inputs.entries.map fun entry => (entry.1.prevOut.ty, entry.2) :
            List (AssignmentType × State)) : Multiset (AssignmentType × State)) ↔
        ((calls.filterMap TransitionCall.input).map fun entry => Input.with entry.1).Nodup) := by
  obtain ⟨fresh, started⟩ := made_ledger made
  obtain ⟨filed, registered⟩ := run_inputs ran
  rw [started] at registered
  rw [fresh] at filed
  set added := calls.filterMap TransitionCall.input
  obtain ⟨«calc», present, inputsEq⟩ : ∃ «calc», tb.«calc» = some «calc» ∧
      «calc».inputs = added.map fun entry => (entry.1.ty, entry.2) := by
    cases present : tb.«calc» with
    | none => simp [present] at registered
    | some «calc» => exact ⟨«calc», rfl, by simpa [present, StateCalc.new] using registered⟩
  refine ⟨«calc», present, inputsEq, ?_⟩
  rw [inputsEq]
  have keysEq : ((added.map fun entry => (Input.with entry.1, entry.2)).map Prod.fst) =
      added.map fun entry => Input.with entry.1 := by
    simp [Function.comp_def]
  constructor
  · intro same
    have counted := congrArg Multiset.card same
    simp only [Multiset.coe_card, List.length_map] at counted
    have keyCount := length_keys_foldl_insert (added.map fun entry => (Input.with entry.1, entry.2))
    rw [← filed, keysEq] at keyCount
    rw [← Multiset.coe_nodup, ← Multiset.toFinset_card_eq_card_iff_nodup, List.toFinset_coe,
      Multiset.coe_card, List.length_map, ← keyCount, counted]
    exact List.length_map _ _
  · intro distinct
    rw [filed, entries_foldl_insert _ _ (keysEq ▸ distinct) (by simp)]
    simp [Function.comp_def, Input.with]

/-- One input added twice to a named transition: the ledger registers its state twice, the map
keeps it once. -/
theorem addInput_ledger_twice :
    let types : TypeSystem Unit := ⟨fun value semId => .ok ⟨value, semId⟩, fun _ => []⟩
    let iimpl : IfaceImpl := ⟨∅, ∅, ∅, (∅ : AList _).insert "transfer" ⟨0⟩,
      ⟨fun _ _ state => .ok ⟨state, none⟩, fun _ _ => .ok none⟩⟩
    let contractId : ContractId := ⟨Bytes.ofList 32 []⟩
    let opout : Opout := ⟨⟨Bytes.ofList 32 []⟩, ⟨0⟩, 0⟩
    let calls : List (TransitionCall Unit Unit) :=
      [.addInput opout ⟨[1], none⟩, .addInput opout ⟨[1], none⟩]
    ∃ tb₀ tb : TransitionBuilder Unit Unit,
      (defaultTransition contractId ⟨none⟩ ⟨∅, ∅, ∅⟩ iimpl types = .ok tb₀ ∨
        ∃ name, namedTransition contractId ⟨none⟩ ⟨∅, ∅, ∅⟩ iimpl name types = .ok tb₀) ∧
      tb₀.run calls = .ok tb ∧
      ¬((calls.filterMap TransitionCall.input).map fun entry => Input.with entry.1).Nodup ∧
      ∃ «calc», tb.«calc» = some «calc» ∧
        «calc».inputs = (calls.filterMap TransitionCall.input).map (fun entry => (entry.1.ty, entry.2)) ∧
        (((«calc».inputs : List (AssignmentType × State)) : Multiset (AssignmentType × State)) =
            ((tb.inputs.entries.map fun entry => (entry.1.prevOut.ty, entry.2) :
              List (AssignmentType × State)) : Multiset (AssignmentType × State)) ↔
          ((calls.filterMap TransitionCall.input).map fun entry => Input.with entry.1).Nodup) := by
  intro types iimpl contractId opout calls
  exact ⟨_, _, .inr ⟨"transfer", rfl⟩, rfl, by decide,
    addInput_ledger contractId ⟨none⟩ ⟨∅, ∅, ∅⟩ iimpl types _ _ calls (.inr ⟨"transfer", rfl⟩) rfl⟩

/-- Whether a transition builder has a ledger is fixed when it is made. A blank transition
builder, whatever calls it has run, panics on every `fulfill_owned_state` and
`add_owned_state_change` with the call's message; one made by `default_transition` or
`named_transition`, whatever calls it has run, never panics on them. -/
theorem ledger_fixed (contractId : ContractId) (iface : Iface) (schema : Schema) (iimpl : IfaceImpl)
    (types : TypeSystem Val) (calls : List (TransitionCall Seal Val)) (typeId : AssignmentType)
    («seal» : BuilderSeal Seal) (state : State) :
    (∀ tb, (blankTransition contractId iface schema iimpl types).run calls = .ok tb →
      tb.call (.fulfillOwnedState typeId «seal» state) =
          .error (.panic "you must not call fulfill_owned_state for the blank transition builder") ∧
        tb.call (.addOwnedStateChange typeId «seal») =
          .error (.panic "you must not call add_owned_state_change for the blank transition builder")) ∧
    ∀ tb₀ tb, (defaultTransition contractId iface schema iimpl types = .ok tb₀ ∨
        ∃ name, namedTransition contractId iface schema iimpl name types = .ok tb₀) →
      tb₀.run calls = .ok tb →
      NoPanic (tb.call (.fulfillOwnedState typeId «seal» state)) ∧
        NoPanic (tb.call (.addOwnedStateChange typeId «seal»)) := by
  refine ⟨fun tb ran => ledger_absent ?_ typeId «seal» state, fun tb₀ tb made ran => ?_⟩
  · simpa [blankTransition, TransitionBuilder.with] using run_calc_isSome ran
  · obtain ⟨«calc», present⟩ := Option.isSome_iff_exists.mp
      ((run_calc_isSome ran).trans (by rw [(made_ledger made).2]; rfl))
    exact ledger_present present typeId «seal» state

end TransitionBuilder

end Interface

end RgbWallet
