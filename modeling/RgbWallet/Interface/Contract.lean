import RgbWallet.Interface.Operation

/-! `ContractBuilder` (src/interface/builder.rs): the builder of a contract's genesis over an
`OperationBuilder`. It keeps the network and the alternative base layers the contract admits,
and checks the layer of a seal before owned state is added with it; `add_rights` hands its seal
to the operation builder without that check. `issue_contract_raw` assembles the genesis from the
builder and validates the contract through the validation library. -/

namespace RgbWallet

namespace Interface

structure Genesis (Seal : Type) where
  timestamp : Int
  testnet : Bool
  altLayers1 : List AltLayer1
  metadata : Metadata
  globals : GlobalState
  assignments : Assignments Seal
  issuer : String

structure Contract (Seal : Type) where
  transfer : Bool
  genesis : Genesis Seal
  schema : Schema

structure ContractBuilder (Seal Val : Type) where
  builder : OperationBuilder Seal Val
  testnet : Bool
  altLayers1 : List AltLayer1
  issuer : String

namespace ContractBuilder

variable {Seal Val : Type}

def «with» (issuer : String) (iface : Iface) (schema : Schema) (iimpl : IfaceImpl)
    (types : TypeSystem Val) : ContractBuilder Seal Val :=
  { builder := OperationBuilder.with iface schema iimpl types, testnet := true, altLayers1 := [],
    issuer }

def setMainnet (cb : ContractBuilder Seal Val) : ContractBuilder Seal Val :=
  { cb with testnet := false }

def hasLayer1 (cb : ContractBuilder Seal Val) : Layer1 → Bool
  | .bitcoin => true
  | .liquid => cb.altLayers1.contains .liquid

def checkLayer1 (cb : ContractBuilder Seal Val) (layer1 : Layer1) : Except BuilderError Unit :=
  if !cb.hasLayer1 layer1 then .error (.invalidLayer1 layer1) else .ok ()

def addLayer1 (cb : ContractBuilder Seal Val) (layer1 : AltLayer1) :
    Except BuilderError (ContractBuilder Seal Val) :=
  if layer1 ∈ cb.altLayers1 then .ok cb
  else if cb.altLayers1.length < 0xFF then .ok { cb with altLayers1 := cb.altLayers1 ++ [layer1] }
  else .error .tooManyLayers1

theorem addLayer1_eq_ok {cb cb' : ContractBuilder Seal Val} {layer1 : AltLayer1}
    (added : cb.addLayer1 layer1 = .ok cb') :
    cb' = cb ∨ cb' = { cb with altLayers1 := cb.altLayers1 ++ [layer1] } := by
  unfold addLayer1 at added
  split at added
  · exact .inl (Except.ok.inj added).symm
  · split at added <;> cases added
    exact .inr rfl

def addMetadata (cb : ContractBuilder Seal Val) (name : String) (value : Val) :
    Except (Fault BuilderError) (ContractBuilder Seal Val) := do
  let builder ← cb.builder.addMetadata name value
  pure { cb with builder }

def serializeMetadata (cb : ContractBuilder Seal Val) (name : String) (value : List UInt8) :
    Except (Fault BuilderError) (ContractBuilder Seal Val) := do
  let builder ← cb.builder.serializeMetadata name value
  pure { cb with builder }

def addGlobalState (cb : ContractBuilder Seal Val) (name : String) (value : Val) :
    Except (Fault BuilderError) (ContractBuilder Seal Val) := do
  let builder ← cb.builder.addGlobalState name value
  pure { cb with builder }

def serializeGlobalState (cb : ContractBuilder Seal Val) (name : String) (value : List UInt8) :
    Except (Fault BuilderError) (ContractBuilder Seal Val) := do
  let builder ← cb.builder.serializeGlobalState name value
  pure { cb with builder }

def addOwnedStateRaw (cb : ContractBuilder Seal Val) (typeId : AssignmentType)
    («seal» : BuilderSeal Seal) (state : State) : Except BuilderError (ContractBuilder Seal Val) := do
  cb.checkLayer1 «seal».layer1
  let builder ← cb.builder.addOwnedStateRaw typeId «seal» state
  pure { cb with builder }

def addRights (cb : ContractBuilder Seal Val) (name : String) («seal» : BuilderSeal Seal)
    (attach : Option AttachId) : Except BuilderError (ContractBuilder Seal Val) := do
  let builder ← cb.builder.addRights name «seal» attach
  pure { cb with builder }

def addOwnedState (cb : ContractBuilder Seal Val) (name : String) («seal» : BuilderSeal Seal)
    (value : Val) (attach : Option AttachId) :
    Except (Fault BuilderError) (ContractBuilder Seal Val) := do
  liftError (cb.checkLayer1 «seal».layer1)
  let builder ← cb.builder.addOwnedState name «seal» value attach
  pure { cb with builder }

def serializeOwnedState (cb : ContractBuilder Seal Val) (name : String) («seal» : BuilderSeal Seal)
    (value : List UInt8) (attach : Option AttachId) :
    Except BuilderError (ContractBuilder Seal Val) := do
  cb.checkLayer1 «seal».layer1
  let builder ← cb.builder.serializeOwnedState name «seal» value attach
  pure { cb with builder }

def issueContractRaw (cb : ContractBuilder Seal Val)
    (validate : Contract Seal → Except ValidationStatus Unit) (timestamp : Int) :
    Except BuilderError (Contract Seal) :=
  let (schema, _, _, global, assignments, _) := cb.builder.complete
  let genesis : Genesis Seal :=
    { timestamp, testnet := cb.testnet, altLayers1 := cb.altLayers1, metadata := ∅,
      globals := global, assignments, issuer := cb.issuer }
  let contract : Contract Seal := { transfer := false, genesis, schema }
  match validate contract with
  | .error status => .error (.contractInconsistency status)
  | .ok () => .ok contract

theorem issueContractRaw_genesis {cb : ContractBuilder Seal Val}
    {validate : Contract Seal → Except ValidationStatus Unit} {timestamp : Int} {contract : Contract Seal}
    (issued : cb.issueContractRaw validate timestamp = .ok contract) :
    contract.genesis =
      { timestamp, testnet := cb.testnet, altLayers1 := cb.altLayers1, metadata := ∅,
        globals := cb.builder.global, assignments := cb.builder.assignments, issuer := cb.issuer } ∧
      contract.schema = cb.builder.schema := by
  simp only [issueContractRaw, OperationBuilder.complete] at issued
  split at issued <;> cases issued
  exact ⟨rfl, rfl⟩

def issueContract (cb : ContractBuilder Seal Val)
    (validate : Contract Seal → Except ValidationStatus Unit) (now : Int) :
    Except BuilderError (Contract Seal) :=
  cb.issueContractRaw validate now

def issueContractDet (cb : ContractBuilder Seal Val)
    (validate : Contract Seal → Except ValidationStatus Unit) (timestamp : Int) :
    Except BuilderError (Contract Seal) :=
  cb.issueContractRaw validate timestamp

end ContractBuilder

inductive ContractCall (Seal Val : Type)
  | setMainnet
  | addLayer1 (layer1 : AltLayer1)
  | operation (call : OpCall Seal Val)

def ContractCall.isAddRights {Seal Val : Type} : ContractCall Seal Val → Bool
  | .operation (.addRights ..) => true
  | _ => false

def ContractCall.opCall {Seal Val : Type} : ContractCall Seal Val → Option (OpCall Seal Val)
  | .operation call => some call
  | _ => none

namespace ContractBuilder

variable {Seal Val : Type}

def call (cb : ContractBuilder Seal Val) :
    ContractCall Seal Val → Except (Fault BuilderError) (ContractBuilder Seal Val)
  | .setMainnet => .ok cb.setMainnet
  | .addLayer1 layer1 => liftError (cb.addLayer1 layer1)
  | .operation (.addMetadata name value) => cb.addMetadata name value
  | .operation (.serializeMetadata name value) => cb.serializeMetadata name value
  | .operation (.addGlobalState name value) => cb.addGlobalState name value
  | .operation (.serializeGlobalState name value) => cb.serializeGlobalState name value
  | .operation (.addOwnedStateRaw typeId «seal» state) =>
    liftError (cb.addOwnedStateRaw typeId «seal» state)
  | .operation (.addRights name «seal» attach) => liftError (cb.addRights name «seal» attach)
  | .operation (.addOwnedState name «seal» value attach) =>
    cb.addOwnedState name «seal» value attach
  | .operation (.serializeOwnedState name «seal» value attach) =>
    liftError (cb.serializeOwnedState name «seal» value attach)

def run (cb : ContractBuilder Seal Val) :
    List (ContractCall Seal Val) → Except (Fault BuilderError) (ContractBuilder Seal Val)
  | [] => .ok cb
  | c :: calls => cb.call c >>= fun cb => cb.run calls

theorem call_operation {cb cb' : ContractBuilder Seal Val} {op : OpCall Seal Val}
    (called : cb.call (.operation op) = .ok cb') :
    cb.builder.call op = .ok cb'.builder ∧ cb'.testnet = cb.testnet ∧
      cb'.altLayers1 = cb.altLayers1 := by
  cases op with
  | addMetadata | serializeMetadata | addGlobalState | serializeGlobalState =>
      obtain ⟨builder, filed, ⟨⟩⟩ := bind_eq_ok.mp called
      exact ⟨filed, rfl, rfl⟩
  | addOwnedStateRaw | serializeOwnedState =>
      obtain ⟨_, -, added⟩ := bind_eq_ok.mp (mapError_eq_ok.mp called)
      obtain ⟨builder, filed, ⟨⟩⟩ := bind_eq_ok.mp added
      exact ⟨by rw [OperationBuilder.call, filed]; rfl, rfl, rfl⟩
  | addRights =>
      obtain ⟨builder, filed, ⟨⟩⟩ := bind_eq_ok.mp (mapError_eq_ok.mp called)
      exact ⟨by rw [OperationBuilder.call, filed]; rfl, rfl, rfl⟩
  | addOwnedState =>
      obtain ⟨_, -, added⟩ := bind_eq_ok.mp called
      obtain ⟨builder, filed, ⟨⟩⟩ := bind_eq_ok.mp added
      exact ⟨filed, rfl, rfl⟩

theorem call_builder {cb cb' : ContractBuilder Seal Val} {c : ContractCall Seal Val}
    (called : cb.call c = .ok cb') : cb.builder.run c.opCall.toList = .ok cb'.builder := by
  cases c with
  | setMainnet =>
      cases called
      rfl
  | addLayer1 layer1 =>
      rcases addLayer1_eq_ok (mapError_eq_ok.mp called) with rfl | rfl <;> rfl
  | operation op =>
      simp only [ContractCall.opCall, Option.toList, OperationBuilder.run,
        (call_operation called).1]
      rfl

theorem run_builder {cb cb' : ContractBuilder Seal Val} {calls : List (ContractCall Seal Val)}
    (ran : cb.run calls = .ok cb') :
    cb.builder.run (calls.filterMap ContractCall.opCall) = .ok cb'.builder := by
  induction calls generalizing cb with
  | nil =>
      cases ran
      rfl
  | cons c calls ih =>
      obtain ⟨next, called, rest⟩ := bind_eq_ok.mp ran
      rw [filterMap_cons_toList, OperationBuilder.run_append, call_builder called]
      exact ih rest

theorem call_noPanic {cb : ContractBuilder Seal Val}
    (consistent : Consistent cb.builder.schema cb.builder.iimpl) (c : ContractCall Seal Val) :
    NoPanic (cb.call c) := by
  have handed := OperationBuilder.call_noPanic consistent
  cases c with
  | setMainnet => exact noPanic_pure _
  | addLayer1 => exact noPanic_liftError _
  | operation op =>
      cases op with
      | addMetadata name value =>
          exact .bind (handed (.addMetadata name value)) fun _ _ => noPanic_pure _
      | serializeMetadata name value =>
          exact .bind (handed (.serializeMetadata name value)) fun _ _ => noPanic_pure _
      | addGlobalState name value =>
          exact .bind (handed (.addGlobalState name value)) fun _ _ => noPanic_pure _
      | serializeGlobalState name value =>
          exact .bind (handed (.serializeGlobalState name value)) fun _ _ => noPanic_pure _
      | addOwnedStateRaw | addRights | serializeOwnedState => exact noPanic_liftError _
      | addOwnedState name «seal» value attach =>
          exact .bind (noPanic_liftError _) fun _ _ =>
            .bind (handed (.addOwnedState name «seal» value attach)) fun _ _ => noPanic_pure _

theorem run_noPanic {cb : ContractBuilder Seal Val}
    (consistent : Consistent cb.builder.schema cb.builder.iimpl) (calls : List (ContractCall Seal Val)) :
    NoPanic (cb.run calls) := by
  induction calls generalizing cb with
  | nil => exact noPanic_pure cb
  | cons c calls ih =>
      refine .bind (call_noPanic consistent c) fun next called => ih ?_
      obtain ⟨_, _, accumulated⟩ := OperationBuilder.run_accumulates _ _ _ (call_builder called)
      rwa [accumulated.schema, accumulated.iimpl]

theorem consistent_of_noPanic [Inhabited Val] {issuer : String} {iface : Iface} {schema : Schema}
    {iimpl : IfaceImpl} {types : TypeSystem Val}
    (runs : ∀ calls : List (ContractCall Seal Val),
      NoPanic ((ContractBuilder.with issuer iface schema iimpl types).run calls)) :
    Consistent schema iimpl := by
  have panics : ∀ c : ContractCall Seal Val, (ContractBuilder.with issuer iface schema iimpl types).call c =
      .error (.panic "schema-interface inconsistency") → False := fun c panicked =>
    runs [c] _ (by rw [run, panicked]; rfl)
  constructor
  · intro name typeId found
    by_contra absent
    exact panics (.operation (.addMetadata name default)) (by
      simp [call, addMetadata, OperationBuilder.addMetadata, OperationBuilder.metaType, resolveName,
        «with», OperationBuilder.with, found, AList.lookup_eq_none.mpr absent, expect, liftError, Except.mapError, ok_bind, error_bind])
  · intro name typeId found
    by_contra absent
    exact panics (.operation (.addGlobalState name default)) (by
      simp [call, addGlobalState, OperationBuilder.addGlobalState, OperationBuilder.globalType,
        resolveName, «with», OperationBuilder.with, found, AList.lookup_eq_none.mpr absent, expect,
        liftError, Except.mapError, ok_bind, error_bind])
  · intro name typeId found
    by_contra absent
    exact panics (.operation (.addOwnedState name (.concealed (.bitcoin ⟨Bytes.ofList 32 []⟩))
      default none)) (by
      simp [call, addOwnedState, OperationBuilder.addOwnedState, OperationBuilder.assignmentsType,
        resolveName, checkLayer1, hasLayer1, BuilderSeal.layer1, XChain.layer1, «with»,
        OperationBuilder.with, found, AList.lookup_eq_none.mpr absent, expect, liftError, Except.mapError, ok_bind, error_bind])

def LayersDeclared (cb : ContractBuilder Seal Val) : Prop :=
  ∀ t, ∀ assign ∈ itemsUnder cb.builder.assignments t, cb.hasLayer1 assign.layer1 = true

theorem call_hasLayer1 {cb cb' : ContractBuilder Seal Val} {c : ContractCall Seal Val}
    (called : cb.call c = .ok cb') {layer1 : Layer1} (declared : cb.hasLayer1 layer1 = true) :
    cb'.hasLayer1 layer1 = true := by
  cases c with
  | setMainnet =>
      cases called
      exact declared
  | addLayer1 alt =>
      rcases addLayer1_eq_ok (mapError_eq_ok.mp called) with rfl | rfl
      · exact declared
      · cases layer1 with
        | bitcoin => rfl
        | liquid => simp [hasLayer1]
  | operation op =>
      cases layer1 with
      | bitcoin => rfl
      | liquid => simpa [hasLayer1, (call_operation called).2.2] using declared

theorem call_checked {cb cb' : ContractBuilder Seal Val} {op : OpCall Seal Val}
    (called : cb.call (.operation op) = .ok cb')
    (checked : (ContractCall.operation op).isAddRights = false) {«seal» : BuilderSeal Seal}
    (sealed : op.builderSeal = some «seal») : cb.hasLayer1 «seal».layer1 = true := by
  have passed : cb.checkLayer1 «seal».layer1 = .ok () := by
    cases op with
    | addOwnedStateRaw | serializeOwnedState =>
        cases sealed
        obtain ⟨_, passed, -⟩ := bind_eq_ok.mp (mapError_eq_ok.mp called)
        exact passed
    | addOwnedState =>
        cases sealed
        obtain ⟨_, passed, -⟩ := bind_eq_ok.mp called
        exact mapError_eq_ok.mp passed
    | addRights => cases checked
    | addMetadata | serializeMetadata | addGlobalState | serializeGlobalState => cases sealed
  unfold checkLayer1 at passed
  split at passed
  · cases passed
  · rename_i declared
    simpa using declared

theorem call_layersDeclared {cb cb' : ContractBuilder Seal Val} {c : ContractCall Seal Val}
    (called : cb.call c = .ok cb') (checked : c.isAddRights = false) (declared : LayersDeclared cb) :
    LayersDeclared cb' := by
  cases c with
  | setMainnet | addLayer1 =>
      have same : cb'.builder = cb.builder :=
        (Except.ok.inj (call_builder called)).symm
      intro t assign mem
      rw [same] at mem
      exact call_hasLayer1 called (declared t assign mem)
  | operation op =>
      obtain ⟨added, resolved, accumulated⟩ :=
        OperationBuilder.call_accumulates (call_operation called).1
      intro t assign mem
      rw [accumulated.assignments, List.mem_append] at mem
      rcases mem with earlier | new
      · exact call_hasLayer1 called (declared t assign earlier)
      · cases added with
        | assignment typeId assigned =>
            simp only [Added.assignmentsOf_single] at new
            split at new
            · rw [List.mem_singleton.mp new]
              obtain ⟨«seal», sealed, layer⟩ := OperationBuilder.resolve_layer1 resolved
              rw [layer]
              exact call_hasLayer1 called (call_checked called checked sealed)
            · cases new
        | meta | global => simp [Added.assignmentsOf] at new

theorem run_layersDeclared {cb cb' : ContractBuilder Seal Val} {calls : List (ContractCall Seal Val)}
    (ran : cb.run calls = .ok cb') (checked : ∀ c ∈ calls, c.isAddRights = false)
    (declared : LayersDeclared cb) : LayersDeclared cb' := by
  induction calls generalizing cb with
  | nil =>
      cases ran
      exact declared
  | cons c calls ih =>
      obtain ⟨next, called, rest⟩ := bind_eq_ok.mp ran
      exact ih rest (fun other mem => checked other (List.mem_cons_of_mem _ mem))
        (call_layersDeclared called (checked c (List.mem_cons_self _ _)) declared)

/-- Without `add_rights`, a contract builder that starts with no assignments files owned state
only on seals of the layers the contract declares: every assignment of the genesis
`issue_contract_raw` builds is on Bitcoin or on one of the genesis' alternative layers. -/
theorem issue_layersDeclared (cb₀ cb : ContractBuilder Seal Val)
    (calls : List (ContractCall Seal Val)) (validate : Contract Seal → Except ValidationStatus Unit)
    (timestamp : Int) (contract : Contract Seal) (fresh : cb₀.builder.assignments = ∅)
    (ran : cb₀.run calls = .ok cb) (checked : ∀ c ∈ calls, c.isAddRights = false)
    (issued : cb.issueContractRaw validate timestamp = .ok contract) :
    ∀ t, ∀ assign ∈ itemsUnder contract.genesis.assignments t,
      assign.layer1 = .bitcoin ∨ ∃ alt ∈ contract.genesis.altLayers1, alt.layer1 = assign.layer1 := by
  have declared := run_layersDeclared ran checked fun t assign mem => by simp [fresh] at mem
  obtain ⟨genesis, -⟩ := issueContractRaw_genesis issued
  intro t assign mem
  rw [genesis] at mem ⊢
  have onLayer := declared t assign mem
  cases layered : assign.layer1 with
  | bitcoin => exact .inl rfl
  | liquid =>
      rw [layered] at onLayer
      exact .inr ⟨.liquid, by simpa [hasLayer1] using onLayer, rfl⟩

/-- A right on a Liquid seal, filed after `add_layer1(Liquid)`. -/
theorem issue_layersDeclared_liquid :
    let types : TypeSystem Unit := ⟨fun value semId => .ok ⟨value, semId⟩, fun _ => []⟩
    let iimpl : IfaceImpl := ⟨∅, ∅, ∅, ∅, ⟨fun _ _ state => .ok ⟨state, none⟩, fun _ _ => .ok none⟩⟩
    let cb₀ : ContractBuilder Unit Unit := .with "issuer" ⟨none⟩ ⟨∅, ∅, ∅⟩ iimpl types
    let calls : List (ContractCall Unit Unit) :=
      [.addLayer1 .liquid, .operation (.addOwnedStateRaw ⟨0⟩ (.revealed (.liquid ())) State.empty)]
    ∃ cb contract, cb₀.builder.assignments = ∅ ∧ cb₀.run calls = .ok cb ∧
      (∀ c ∈ calls, c.isAddRights = false) ∧ cb.issueContractRaw (fun _ => .ok ()) 0 = .ok contract ∧
      ∀ t, ∀ assign ∈ itemsUnder contract.genesis.assignments t,
        assign.layer1 = .bitcoin ∨ ∃ alt ∈ contract.genesis.altLayers1, alt.layer1 = assign.layer1 := by
  intro types iimpl cb₀ calls
  obtain ⟨cb, ran⟩ : ∃ cb, cb₀.run calls = .ok cb := ⟨_, rfl⟩
  exact ⟨cb, _, rfl, ran, by decide, rfl,
    issue_layersDeclared cb₀ cb calls (fun _ => .ok ()) 0 _ rfl ran (by decide) rfl⟩

/-- A seal of a layer the contract has not declared is refused, with nothing added, by the calls
adding owned state, but never by `add_rights`, which files an assignment with it whenever the
right's name resolves and the assignments have room. -/
theorem addRights_unchecked (cb : ContractBuilder Seal Val) (name : String)
    («seal» : BuilderSeal Seal) (attach : Option AttachId)
    (undeclared : cb.hasLayer1 «seal».layer1 = false) :
    (∀ typeId state,
      cb.addOwnedStateRaw typeId «seal» state = .error (.invalidLayer1 «seal».layer1)) ∧
    (∀ value,
      cb.addOwnedState name «seal» value attach = .error (.error (.invalidLayer1 «seal».layer1))) ∧
    (∀ value,
      cb.serializeOwnedState name «seal» value attach = .error (.invalidLayer1 «seal».layer1)) ∧
    (∀ layer1, cb.addRights name «seal» attach ≠ .error (.invalidLayer1 layer1)) ∧
    ∀ cb', cb.addRights name «seal» attach = .ok cb' →
      cb'.hasLayer1 «seal».layer1 = false ∧ ∃ typeId, cb.builder.assignmentsType name = .ok typeId ∧
        itemsUnder cb'.builder.assignments typeId =
          itemsUnder cb.builder.assignments typeId ++ [«seal».assignment { State.empty with attach }] := by
  have refused : cb.checkLayer1 «seal».layer1 = .error (.invalidLayer1 «seal».layer1) := by
    simp [checkLayer1, undeclared]
  refine ⟨fun typeId state => by simp [addOwnedStateRaw, refused],
    fun value => by simp [addOwnedState, refused, liftError, Except.mapError],
    fun value => by simp [serializeOwnedState, refused], fun layer1 failed => ?_,
    fun cb' added => ?_⟩
  · cases filed : cb.builder.addRights name «seal» attach with
    | error error =>
        simp only [addRights, filed, error_bind, Except.error.injEq] at failed
        rcases OperationBuilder.addRights_error filed with named | ⟨bound, bounded⟩ <;>
          simp_all
    | ok builder => simp [addRights, filed] at failed
  · obtain ⟨builder, filed, ⟨⟩⟩ := bind_eq_ok.mp added
    have called : cb.builder.call (.addRights name «seal» attach) = .ok builder := by
      simp [OperationBuilder.call, filed, liftError, Except.mapError]
    obtain ⟨resolved, resolves, accumulated⟩ := OperationBuilder.call_accumulates called
    obtain ⟨typeId, named, ⟨⟩⟩ := bind_eq_ok.mp resolves
    simp only [liftError, mapError_eq_ok] at named
    refine ⟨undeclared, typeId, named, ?_⟩
    simp [accumulated.assignments]

/-- Without `add_layer1(Liquid)`, `add_rights` files a right on a Liquid seal. -/
theorem addRights_unchecked_liquid :
    let types : TypeSystem Unit := ⟨fun value semId => .ok ⟨value, semId⟩, fun _ => []⟩
    let iimpl : IfaceImpl :=
      ⟨∅, ∅, (∅ : AList _).insert "right" ⟨0⟩, ∅, ⟨fun _ _ state => .ok ⟨state, none⟩, fun _ _ => .ok none⟩⟩
    let cb : ContractBuilder Unit Unit := .with "issuer" ⟨none⟩ ⟨∅, ∅, ∅⟩ iimpl types
    let «seal» : BuilderSeal Unit := .revealed (.liquid ())
    (∃ cb', cb.addRights "right" «seal» none = .ok cb') ∧ cb.hasLayer1 «seal».layer1 = false ∧
    (∀ typeId state,
      cb.addOwnedStateRaw typeId «seal» state = .error (.invalidLayer1 «seal».layer1)) ∧
    (∀ value,
      cb.addOwnedState "right" «seal» value none = .error (.error (.invalidLayer1 «seal».layer1))) ∧
    (∀ value,
      cb.serializeOwnedState "right" «seal» value none = .error (.invalidLayer1 «seal».layer1)) ∧
    (∀ layer1, cb.addRights "right" «seal» none ≠ .error (.invalidLayer1 layer1)) ∧
    ∀ cb', cb.addRights "right" «seal» none = .ok cb' →
      cb'.hasLayer1 «seal».layer1 = false ∧ ∃ typeId, cb.builder.assignmentsType "right" = .ok typeId ∧
        itemsUnder cb'.builder.assignments typeId =
          itemsUnder cb.builder.assignments typeId ++ [«seal».assignment { State.empty with attach := none }] :=
  ⟨⟨_, rfl⟩, rfl, addRights_unchecked _ _ _ _ rfl⟩

end ContractBuilder

end Interface

end RgbWallet
