import RgbWallet.Stock

/-! `OperationBuilder` (src/interface/builder.rs): the metadata, global state and owned
assignments of one operation. Each call resolves a field name through the interface
implementation, encodes the value through the type system and appends the result under its type
id. The rgb-core containers it fills are `TinyOrdMap`s of `SmallVec`s whose bounds are checked
where an entry is added: once a map holds `u8::MAX` entries, `Confined::entry` refuses a new key
and `Confined::insert` refuses every insert. The schema, the interface implementation and the
type system are modelled with the data the builder reads from them. A call fails with a
`BuilderError`, or panics where the code calls `expect`; `NoPanic` says a call only ever does the
first. -/

namespace RgbWallet

namespace Interface

structure AssignmentType where
  value : UInt16
deriving DecidableEq, Repr

structure GlobalStateType where
  value : UInt16
deriving DecidableEq, Repr

structure MetaType where
  value : UInt16
deriving DecidableEq, Repr

structure TransitionType where
  value : UInt16
deriving DecidableEq, Repr

structure SemId where
  bytes : Bytes 32
deriving DecidableEq, Repr

structure AttachId where
  bytes : Bytes 32
deriving DecidableEq, Repr

structure SecretSeal where
  bytes : Bytes 32
deriving DecidableEq, Repr

inductive Layer1
  | bitcoin
  | liquid
deriving DecidableEq, Repr

inductive AltLayer1
  | liquid
deriving DecidableEq, Repr

def AltLayer1.layer1 : AltLayer1 → Layer1
  | .liquid => .liquid

inductive XChain (α : Type)
  | bitcoin (value : α)
  | liquid (value : α)
deriving DecidableEq, Repr

def XChain.layer1 {α : Type} : XChain α → Layer1
  | .bitcoin _ => .bitcoin
  | .liquid _ => .liquid

structure State where
  data : List UInt8
  attach : Option AttachId
deriving DecidableEq, Repr

def State.empty : State := ⟨[], none⟩

inductive BuilderSeal (Seal : Type)
  | revealed («seal» : XChain Seal)
  | concealed («seal» : XChain SecretSeal)
deriving DecidableEq, Repr

inductive Assign (Seal : Type)
  | revealed («seal» : XChain Seal) (state : State)
  | confidentialSeal («seal» : XChain SecretSeal) (state : State)
deriving DecidableEq, Repr

section Seals

variable {Seal : Type}

def BuilderSeal.layer1 : BuilderSeal Seal → Layer1
  | .revealed «seal» => «seal».layer1
  | .concealed «seal» => «seal».layer1

def BuilderSeal.assignment : BuilderSeal Seal → State → Assign Seal
  | .revealed «seal», state => .revealed «seal» state
  | .concealed «seal», state => .confidentialSeal «seal» state

def Assign.layer1 : Assign Seal → Layer1
  | .revealed «seal» _ => «seal».layer1
  | .confidentialSeal «seal» _ => «seal».layer1

@[simp] theorem layer1_assignment («seal» : BuilderSeal Seal) (state : State) :
    («seal».assignment state).layer1 = «seal».layer1 := by
  cases «seal» <;> rfl

end Seals

section Confined

variable {κ ν : Type} [DecidableEq κ]

inductive Entry (ν : Type)
  | vacant
  | occupied (value : ν)

def tinyEntry (map : AList fun _ : κ => ν) (key : κ) : Except ConfinementError (Entry ν) :=
  match map.lookup key with
  | some value => .ok (.occupied value)
  | none =>
    if map.keys.length < 0xFF then .ok .vacant
    else .error (.oversize (map.keys.length + 1) 0xFF)

def tinyInsert (map : AList fun _ : κ => ν) (key : κ) (value : ν) :
    Except ConfinementError (AList fun _ : κ => ν) :=
  if 0xFF ≤ map.keys.length then .error (.oversize (map.keys.length + 1) 0xFF)
  else .ok (map.insert key value)

def appendUnder (map : AList fun _ : κ => SmallVec ν) (key : κ) (item : ν) :
    Except ConfinementError (AList fun _ : κ => SmallVec ν) :=
  match tinyEntry map key with
  | .error error => .error error
  | .ok .vacant => .ok (map.insert key (SmallVec.single item))
  | .ok (.occupied items) => (map.insert key ·) <$> items.push item

end Confined

def itemsUnder {κ ν : Type} [DecidableEq κ] (map : AList fun _ : κ => SmallVec ν) (key : κ) :
    List ν :=
  ((map.lookup key).map (·.items)).getD []

section Containers

variable {κ ν : Type} [DecidableEq κ]

@[simp] theorem itemsUnder_empty (key : κ) : itemsUnder (∅ : AList fun _ : κ => SmallVec ν) key = [] :=
  rfl

@[simp] theorem itemsUnder_insert (map : AList fun _ : κ => SmallVec ν) (key other : κ)
    (items : SmallVec ν) :
    itemsUnder (map.insert key items) other = if other = key then items.items else itemsUnder map other := by
  by_cases same : other = key
  · subst same
    simp [itemsUnder, AList.lookup_insert]
  · simp [itemsUnder, AList.lookup_insert_ne same, same]

theorem tinyInsert_eq_ok {map map' : AList fun _ : κ => ν} {key : κ} {value : ν}
    (inserted : tinyInsert map key value = .ok map') : map' = map.insert key value := by
  unfold tinyInsert at inserted
  split at inserted <;> cases inserted
  rfl

theorem appendUnder_eq_ok {map map' : AList fun _ : κ => SmallVec ν} {key : κ} {item : ν}
    (appended : appendUnder map key item = .ok map') :
    ∃ items : SmallVec ν, items.items = itemsUnder map key ++ [item] ∧ map' = map.insert key items := by
  unfold appendUnder tinyEntry at appended
  cases found : map.lookup key with
  | none =>
      by_cases room : map.keys.length < 0xFF
      · simp only [found, room, ↓reduceIte] at appended
        cases appended
        exact ⟨_, by simp [itemsUnder, found, SmallVec.single], rfl⟩
      · simp [found, room] at appended
  | some items =>
      simp only [found] at appended
      obtain ⟨pushed, pushOk, rfl⟩ := map_eq_ok.mp appended
      unfold SmallVec.push at pushOk
      split at pushOk <;> cases pushOk
      exact ⟨_, by simp [itemsUnder, found], rfl⟩

theorem itemsUnder_appendUnder {map map' : AList fun _ : κ => SmallVec ν} {key : κ} {item : ν}
    (appended : appendUnder map key item = .ok map') (other : κ) :
    itemsUnder map' other = itemsUnder map other ++ if key = other then [item] else [] := by
  obtain ⟨items, itemsEq, rfl⟩ := appendUnder_eq_ok appended
  by_cases same : key = other
  · subst same
    simp [itemsEq]
  · simp [same, Ne.symm same]

theorem mem_appendUnder {map map' : AList fun _ : κ => SmallVec ν} {key : κ} {item : ν}
    (appended : appendUnder map key item = .ok map') (other : κ) :
    other ∈ map' ↔ other ∈ map ∨ key = other := by
  obtain ⟨items, -, rfl⟩ := appendUnder_eq_ok appended
  rw [AList.mem_insert]
  exact or_comm.trans (or_congr_right eq_comm)

end Containers

abbrev Assignments (Seal : Type) := AList fun _ : AssignmentType => SmallVec (Assign Seal)

abbrev GlobalState := AList fun _ : GlobalStateType => SmallVec (List UInt8)

/-- Modelled from the spec: `Metadata`, the metadata values of an operation under their types,
a value of a type already present appended after the earlier ones. -/
abbrev Metadata := AList fun _ : MetaType => SmallVec (List UInt8)

def GlobalState.addState (global : GlobalState) (typeId : GlobalStateType) (data : List UInt8) :
    Except ConfinementError GlobalState :=
  appendUnder global typeId data

inductive MetadataError
  | tooManyValues
deriving DecidableEq, Repr

/-- Modelled from the spec: `Metadata::add_value` appends the value under its type. -/
def Metadata.addValue (meta : Metadata) (typeId : MetaType) (data : List UInt8) :
    Except MetadataError Metadata :=
  (appendUnder meta typeId data).mapError fun _ => .tooManyValues

structure GlobalStateSchema where
  semId : SemId
deriving DecidableEq, Repr

structure OwnedStateSchema where
  semId : SemId
deriving DecidableEq, Repr

structure Schema where
  metaTypes : AList fun _ : MetaType => SemId
  globalTypes : AList fun _ : GlobalStateType => GlobalStateSchema
  ownedTypes : AList fun _ : AssignmentType => OwnedStateSchema

structure Iface where
  defaultOperation : Option String

structure TypifyError where
  message : String
deriving DecidableEq, Repr

inductive SerializeError
  | oversize (len maxLen : Nat)
deriving DecidableEq, Repr

def toStrictSerialized (maxLen : Nat) (serialized : List UInt8) :
    Except SerializeError (List UInt8) :=
  if serialized.length ≤ maxLen then .ok serialized else .error (.oversize serialized.length maxLen)

def stateDataMaxLen : Nat := 0xFFFF

structure TypedVal (Val : Type) where
  val : Val
  semId : SemId

structure TypeSystem (Val : Type) where
  typify : Val → SemId → Except TypifyError (TypedVal Val)
  serialize : TypedVal Val → List UInt8

def TypeSystem.strictSerializeValue {Val : Type} (types : TypeSystem Val) (maxLen : Nat)
    (value : TypedVal Val) : Except SerializeError (List UInt8) :=
  toStrictSerialized maxLen (types.serialize value)

inductive StateCalcError
  | denied (message : String)
deriving DecidableEq, Repr

structure ValidationStatus where
  failures : List String
deriving DecidableEq, Repr

inductive BuilderError
  | tooManyLayers1
  | metadataNotFound (name : String)
  | metadataInvalid (error : MetadataError)
  | globalNotFound (name : String)
  | assignmentNotFound (name : String)
  | transitionNotFound (name : String)
  | noOperationSubtype
  | invalidLayer1 (layer1 : Layer1)
  | calc (error : StateCalcError)
  | strictEncode (error : SerializeError)
  | typify (error : TypifyError)
  | confinement (error : ConfinementError)
  | contractInconsistency (status : ValidationStatus)
deriving DecidableEq, Repr

def expect {α : Type} (message : String) : Option α → Except (Fault BuilderError) α
  | some value => .ok value
  | none => .error (.panic message)

@[simp] theorem expect_eq_ok {α : Type} {message : String} {found : Option α} {value : α} :
    expect message found = .ok value ↔ found = some value := by
  cases found <;> simp [expect]

def liftError {α : Type} (result : Except BuilderError α) : Except (Fault BuilderError) α :=
  result.mapError .error

@[simp] theorem liftError_bind {α β : Type} (first : Except BuilderError α)
    (next : α → Except BuilderError β) :
    liftError (first >>= next) = liftError first >>= fun value => liftError (next value) := by
  cases first <;> rfl

@[simp] theorem liftError_map {α β : Type} (f : α → β) (first : Except BuilderError α) :
    liftError (f <$> first) = f <$> liftError first := by
  cases first <;> rfl

@[simp] theorem liftError_pure {α : Type} (value : α) :
    liftError (pure value : Except BuilderError α) = pure value := rfl

def NoPanic {α : Type} (result : Except (Fault BuilderError) α) : Prop :=
  ∀ message, result ≠ .error (.panic message)

theorem noPanic_liftError {α : Type} (result : Except BuilderError α) : NoPanic (liftError result) := by
  intro message
  cases result <;> simp [liftError, Except.mapError]

theorem noPanic_pure {α : Type} (value : α) : NoPanic (pure value : Except (Fault BuilderError) α) :=
  fun _ => nofun

theorem NoPanic.bind {α β : Type} {first : Except (Fault BuilderError) α}
    {next : α → Except (Fault BuilderError) β} (firstOk : NoPanic first)
    (nextOk : ∀ value, first = .ok value → NoPanic (next value)) : NoPanic (first >>= next) := by
  intro message
  cases first with
  | error fault => exact fun same => firstOk message (by cases same; rfl)
  | ok value => exact nextOk value rfl message

theorem NoPanic.map {α β : Type} {first : Except (Fault BuilderError) α} (f : α → β)
    (firstOk : NoPanic first) : NoPanic (f <$> first) := by
  intro message
  cases first with
  | error fault => exact fun same => firstOk message (by cases same; rfl)
  | ok value => nofun

theorem noPanic_expect {α : Type} {message : String} {found : Option α} (present : found.isSome) :
    NoPanic (expect message found) := by
  obtain ⟨value, rfl⟩ := Option.isSome_iff_exists.mp present
  exact noPanic_pure value

def resolveName {τ : Type} (names : AList fun _ : String => τ) (notFound : String → BuilderError)
    (name : String) : Except BuilderError τ :=
  match names.lookup name with
  | some typeId => .ok typeId
  | none => .error (notFound name)

theorem resolveName_eq_ok {τ : Type} {names : AList fun _ : String => τ}
    {notFound : String → BuilderError} {name : String} {typeId : τ} :
    resolveName names notFound name = .ok typeId ↔ names.lookup name = some typeId := by
  unfold resolveName
  split <;> simp_all

theorem lookup_isSome_of_resolved {κ ν : Type} [DecidableEq κ] {names : AList fun _ : String => κ}
    {types : AList fun _ : κ => ν} {notFound : String → BuilderError} {name : String} {typeId : κ}
    (declared : ∀ name typeId, names.lookup name = some typeId → typeId ∈ types)
    (resolved : liftError (resolveName names notFound name) = .ok typeId) :
    (types.lookup typeId).isSome :=
  AList.lookup_isSome.mpr (declared _ _ (resolveName_eq_ok.mp (mapError_eq_ok.mp resolved)))

structure AllocatedState where
  sufficient : State
  insufficient : Option State
deriving DecidableEq, Repr

/-- Modelled from the spec: the `state_abi` of an interface implementation, the verdicts of its
VM scripts on the states an operation consumes and creates of one assignment type: how a
requested output splits, and what change is left. -/
structure StateAbi where
  calcOutput : List State → List State → State → Except StateCalcError AllocatedState
  calcChange : List State → List State → Except StateCalcError (Option State)

structure IfaceImpl where
  metadata : AList fun _ : String => MetaType
  globalState : AList fun _ : String => GlobalStateType
  assignments : AList fun _ : String => AssignmentType
  transitions : AList fun _ : String => TransitionType
  stateAbi : StateAbi

structure Consistent (schema : Schema) (iimpl : IfaceImpl) : Prop where
  metadata : ∀ name typeId, iimpl.metadata.lookup name = some typeId → typeId ∈ schema.metaTypes
  globalState : ∀ name typeId, iimpl.globalState.lookup name = some typeId →
    typeId ∈ schema.globalTypes
  assignments : ∀ name typeId, iimpl.assignments.lookup name = some typeId →
    typeId ∈ schema.ownedTypes

structure OperationBuilder (Seal Val : Type) where
  schema : Schema
  iface : Iface
  iimpl : IfaceImpl
  global : GlobalState
  meta : Metadata
  assignments : Assignments Seal
  types : TypeSystem Val

namespace OperationBuilder

variable {Seal Val : Type}

def «with» (iface : Iface) (schema : Schema) (iimpl : IfaceImpl) (types : TypeSystem Val) :
    OperationBuilder Seal Val :=
  { schema, iface, iimpl, global := ∅, assignments := ∅, meta := ∅, types }

def assignmentsType (b : OperationBuilder Seal Val) (name : String) :
    Except BuilderError AssignmentType :=
  resolveName b.iimpl.assignments .assignmentNotFound name

def metaType (b : OperationBuilder Seal Val) (name : String) : Except BuilderError MetaType :=
  resolveName b.iimpl.metadata .metadataNotFound name

def globalType (b : OperationBuilder Seal Val) (name : String) :
    Except BuilderError GlobalStateType :=
  resolveName b.iimpl.globalState .globalNotFound name

def metaSchema (b : OperationBuilder Seal Val) (typeId : MetaType) :
    Except (Fault BuilderError) SemId :=
  expect "schema should match interface: must be checked by the constructor"
    (b.schema.metaTypes.lookup typeId)

def globalSchema (b : OperationBuilder Seal Val) (typeId : GlobalStateType) :
    Except (Fault BuilderError) GlobalStateSchema :=
  expect "schema should match interface: must be checked by the constructor"
    (b.schema.globalTypes.lookup typeId)

def addMetadata (b : OperationBuilder Seal Val) (name : String) (value : Val) :
    Except (Fault BuilderError) (OperationBuilder Seal Val) := do
  let typeId ← liftError (b.metaType name)
  let semId ← expect "schema-interface inconsistency" (b.schema.metaTypes.lookup typeId)
  let value ← liftError ((b.types.typify value semId).mapError .typify)
  let data ← liftError ((b.types.strictSerializeValue stateDataMaxLen value).mapError .strictEncode)
  let meta ← liftError ((b.meta.addValue typeId data).mapError .metadataInvalid)
  pure { b with meta }

def serializeMetadata (b : OperationBuilder Seal Val) (name : String) (value : List UInt8) :
    Except (Fault BuilderError) (OperationBuilder Seal Val) := do
  let typeId ← liftError (b.metaType name)
  let serialized ← liftError ((toStrictSerialized 0xFFFF value).mapError .strictEncode)
  let _ ← b.metaSchema typeId
  let meta ← liftError ((b.meta.addValue typeId serialized).mapError .metadataInvalid)
  pure { b with meta }

def addGlobalState (b : OperationBuilder Seal Val) (name : String) (value : Val) :
    Except (Fault BuilderError) (OperationBuilder Seal Val) := do
  let typeId ← liftError (b.globalType name)
  let schema ← expect "schema-interface inconsistency" (b.schema.globalTypes.lookup typeId)
  let value ← liftError ((b.types.typify value schema.semId).mapError .typify)
  let data ← liftError ((b.types.strictSerializeValue stateDataMaxLen value).mapError .strictEncode)
  let global ← liftError ((b.global.addState typeId data).mapError .confinement)
  pure { b with global }

def serializeGlobalState (b : OperationBuilder Seal Val) (name : String) (value : List UInt8) :
    Except (Fault BuilderError) (OperationBuilder Seal Val) := do
  let typeId ← liftError (b.globalType name)
  let serialized ← liftError ((toStrictSerialized 0xFFFF value).mapError .strictEncode)
  let _ ← b.globalSchema typeId
  let global ← liftError ((b.global.addState typeId serialized).mapError .confinement)
  pure { b with global }

def addOwnedStateRaw (b : OperationBuilder Seal Val) (typeId : AssignmentType)
    («seal» : BuilderSeal Seal) (state : State) : Except BuilderError (OperationBuilder Seal Val) := do
  let assignment := «seal».assignment state
  let assignments ← (appendUnder b.assignments typeId assignment).mapError .confinement
  pure { b with assignments }

def addRights (b : OperationBuilder Seal Val) (name : String) («seal» : BuilderSeal Seal)
    (attach : Option AttachId) : Except BuilderError (OperationBuilder Seal Val) := do
  let typeId ← b.assignmentsType name
  b.addOwnedStateRaw typeId «seal» { State.empty with attach }

def addOwnedState (b : OperationBuilder Seal Val) (name : String) («seal» : BuilderSeal Seal)
    (value : Val) (attach : Option AttachId) :
    Except (Fault BuilderError) (OperationBuilder Seal Val) := do
  let typeId ← liftError (b.assignmentsType name)
  let schema ← expect "schema-interface inconsistency" (b.schema.ownedTypes.lookup typeId)
  let value ← liftError ((b.types.typify value schema.semId).mapError .typify)
  let data ← liftError ((b.types.strictSerializeValue stateDataMaxLen value).mapError .strictEncode)
  liftError (b.addOwnedStateRaw typeId «seal» ⟨data, attach⟩)

def serializeOwnedState (b : OperationBuilder Seal Val) (name : String) («seal» : BuilderSeal Seal)
    (value : List UInt8) (attach : Option AttachId) :
    Except BuilderError (OperationBuilder Seal Val) := do
  let typeId ← b.assignmentsType name
  let data ← (toStrictSerialized stateDataMaxLen value).mapError .strictEncode
  b.addOwnedStateRaw typeId «seal» ⟨data, attach⟩

def complete (b : OperationBuilder Seal Val) :
    Schema × Iface × IfaceImpl × GlobalState × Assignments Seal × TypeSystem Val :=
  (b.schema, b.iface, b.iimpl, b.global, b.assignments, b.types)

end OperationBuilder

inductive OpCall (Seal Val : Type)
  | addMetadata (name : String) (value : Val)
  | serializeMetadata (name : String) (value : List UInt8)
  | addGlobalState (name : String) (value : Val)
  | serializeGlobalState (name : String) (value : List UInt8)
  | addOwnedStateRaw (typeId : AssignmentType) («seal» : BuilderSeal Seal) (state : State)
  | addRights (name : String) («seal» : BuilderSeal Seal) (attach : Option AttachId)
  | addOwnedState (name : String) («seal» : BuilderSeal Seal) (value : Val)
      (attach : Option AttachId)
  | serializeOwnedState (name : String) («seal» : BuilderSeal Seal) (value : List UInt8)
      (attach : Option AttachId)

def OpCall.builderSeal {Seal Val : Type} : OpCall Seal Val → Option (BuilderSeal Seal)
  | .addOwnedStateRaw _ «seal» _ | .addRights _ «seal» _ | .addOwnedState _ «seal» _ _
  | .serializeOwnedState _ «seal» _ _ => some «seal»
  | _ => none

theorem filterMap_cons_toList {α β : Type} (f : α → Option β) (a : α) (l : List α) :
    (a :: l).filterMap f = (f a).toList ++ l.filterMap f := by
  cases found : f a <;> simp [List.filterMap_cons, found]

inductive Added (Seal : Type)
  | meta (typeId : MetaType) (data : List UInt8)
  | global (typeId : GlobalStateType) (data : List UInt8)
  | assignment (typeId : AssignmentType) (assign : Assign Seal)

namespace Added

variable {Seal : Type}

def metaOf (typeId : MetaType) (added : List (Added Seal)) : List (List UInt8) :=
  added.filterMap fun | .meta other data => if other = typeId then some data else none | _ => none

def globalsOf (typeId : GlobalStateType) (added : List (Added Seal)) : List (List UInt8) :=
  added.filterMap fun | .global other data => if other = typeId then some data else none | _ => none

def assignmentsOf (typeId : AssignmentType) (added : List (Added Seal)) : List (Assign Seal) :=
  added.filterMap fun
    | .assignment other assign => if other = typeId then some assign else none
    | _ => none

@[simp] theorem metaOf_single (typeId other : MetaType) (data : List UInt8) :
    metaOf typeId [(.meta other data : Added Seal)] = if other = typeId then [data] else [] := by
  by_cases same : other = typeId <;> simp [metaOf, same]

@[simp] theorem globalsOf_single (typeId other : GlobalStateType) (data : List UInt8) :
    globalsOf typeId [(.global other data : Added Seal)] = if other = typeId then [data] else [] := by
  by_cases same : other = typeId <;> simp [globalsOf, same]

@[simp] theorem assignmentsOf_single (typeId other : AssignmentType) (assign : Assign Seal) :
    assignmentsOf typeId [.assignment other assign] = if other = typeId then [assign] else [] := by
  by_cases same : other = typeId <;> simp [assignmentsOf, same]

end Added

namespace OperationBuilder

variable {Seal Val : Type}

def call (b : OperationBuilder Seal Val) :
    OpCall Seal Val → Except (Fault BuilderError) (OperationBuilder Seal Val)
  | .addMetadata name value => b.addMetadata name value
  | .serializeMetadata name value => b.serializeMetadata name value
  | .addGlobalState name value => b.addGlobalState name value
  | .serializeGlobalState name value => b.serializeGlobalState name value
  | .addOwnedStateRaw typeId «seal» state => liftError (b.addOwnedStateRaw typeId «seal» state)
  | .addRights name «seal» attach => liftError (b.addRights name «seal» attach)
  | .addOwnedState name «seal» value attach => b.addOwnedState name «seal» value attach
  | .serializeOwnedState name «seal» value attach =>
    liftError (b.serializeOwnedState name «seal» value attach)

def run (b : OperationBuilder Seal Val) :
    List (OpCall Seal Val) → Except (Fault BuilderError) (OperationBuilder Seal Val)
  | [] => .ok b
  | c :: calls => b.call c >>= fun b => b.run calls

theorem run_append (b : OperationBuilder Seal Val) (first later : List (OpCall Seal Val)) :
    b.run (first ++ later) = b.run first >>= fun b => b.run later := by
  induction first generalizing b with
  | nil => rfl
  | cons c first ih => simp [run, ih, bind_assoc]

def resolve (b : OperationBuilder Seal Val) :
    OpCall Seal Val → Except (Fault BuilderError) (Added Seal)
  | .addMetadata name value => do
    let typeId ← liftError (b.metaType name)
    let semId ← expect "schema-interface inconsistency" (b.schema.metaTypes.lookup typeId)
    let value ← liftError ((b.types.typify value semId).mapError .typify)
    let data ← liftError ((b.types.strictSerializeValue stateDataMaxLen value).mapError .strictEncode)
    pure (.meta typeId data)
  | .serializeMetadata name value => do
    let typeId ← liftError (b.metaType name)
    let serialized ← liftError ((toStrictSerialized 0xFFFF value).mapError .strictEncode)
    let _ ← b.metaSchema typeId
    pure (.meta typeId serialized)
  | .addGlobalState name value => do
    let typeId ← liftError (b.globalType name)
    let schema ← expect "schema-interface inconsistency" (b.schema.globalTypes.lookup typeId)
    let value ← liftError ((b.types.typify value schema.semId).mapError .typify)
    let data ← liftError ((b.types.strictSerializeValue stateDataMaxLen value).mapError .strictEncode)
    pure (.global typeId data)
  | .serializeGlobalState name value => do
    let typeId ← liftError (b.globalType name)
    let serialized ← liftError ((toStrictSerialized 0xFFFF value).mapError .strictEncode)
    let _ ← b.globalSchema typeId
    pure (.global typeId serialized)
  | .addOwnedStateRaw typeId «seal» state => pure (.assignment typeId («seal».assignment state))
  | .addRights name «seal» attach => do
    let typeId ← liftError (b.assignmentsType name)
    pure (.assignment typeId («seal».assignment { State.empty with attach }))
  | .addOwnedState name «seal» value attach => do
    let typeId ← liftError (b.assignmentsType name)
    let schema ← expect "schema-interface inconsistency" (b.schema.ownedTypes.lookup typeId)
    let value ← liftError ((b.types.typify value schema.semId).mapError .typify)
    let data ← liftError ((b.types.strictSerializeValue stateDataMaxLen value).mapError .strictEncode)
    pure (.assignment typeId («seal».assignment ⟨data, attach⟩))
  | .serializeOwnedState name «seal» value attach => do
    let typeId ← liftError (b.assignmentsType name)
    let data ← liftError ((toStrictSerialized stateDataMaxLen value).mapError .strictEncode)
    pure (.assignment typeId («seal».assignment ⟨data, attach⟩))

theorem resolve_layer1 {b : OperationBuilder Seal Val} {c : OpCall Seal Val} {typeId : AssignmentType}
    {assign : Assign Seal} (resolved : b.resolve c = .ok (.assignment typeId assign)) :
    ∃ «seal», c.builderSeal = some «seal» ∧ assign.layer1 = «seal».layer1 := by
  cases c <;> (repeat obtain ⟨_, -, resolved⟩ := bind_eq_ok.mp resolved) <;> cases resolved <;>
    exact ⟨_, rfl, layer1_assignment _ _⟩

def record (b : OperationBuilder Seal Val) :
    Added Seal → Except (Fault BuilderError) (OperationBuilder Seal Val)
  | .meta typeId data => do
    let meta ← liftError ((b.meta.addValue typeId data).mapError .metadataInvalid)
    pure { b with meta }
  | .global typeId data => do
    let global ← liftError ((b.global.addState typeId data).mapError .confinement)
    pure { b with global }
  | .assignment typeId assign => do
    let assignments ← liftError ((appendUnder b.assignments typeId assign).mapError .confinement)
    pure { b with assignments }

theorem call_eq_resolve_record (b : OperationBuilder Seal Val) (c : OpCall Seal Val) :
    b.call c = b.resolve c >>= b.record := by
  cases c <;> simp [call, resolve, record, addMetadata, serializeMetadata, addGlobalState,
    serializeGlobalState, addOwnedStateRaw, addRights, addOwnedState, serializeOwnedState]

structure Accumulates (b b' : OperationBuilder Seal Val) (added : List (Added Seal)) : Prop where
  meta : ∀ t, itemsUnder b'.meta t = itemsUnder b.meta t ++ Added.metaOf t added
  metaKeys : ∀ t, t ∈ b'.meta ↔ t ∈ b.meta ∨ Added.metaOf t added ≠ []
  global : ∀ t, itemsUnder b'.global t = itemsUnder b.global t ++ Added.globalsOf t added
  globalKeys : ∀ t, t ∈ b'.global ↔ t ∈ b.global ∨ Added.globalsOf t added ≠ []
  assignments : ∀ t,
    itemsUnder b'.assignments t = itemsUnder b.assignments t ++ Added.assignmentsOf t added
  assignmentKeys : ∀ t, t ∈ b'.assignments ↔ t ∈ b.assignments ∨ Added.assignmentsOf t added ≠ []
  schema : b'.schema = b.schema
  iface : b'.iface = b.iface
  iimpl : b'.iimpl = b.iimpl
  types : b'.types = b.types

theorem Accumulates.refl (b : OperationBuilder Seal Val) : Accumulates b b [] :=
  ⟨by simp [Added.metaOf], by simp [Added.metaOf], by simp [Added.globalsOf],
    by simp [Added.globalsOf], by simp [Added.assignmentsOf], by simp [Added.assignmentsOf],
    rfl, rfl, rfl, rfl⟩

theorem Accumulates.trans {b b₁ b₂ : OperationBuilder Seal Val} {first later : List (Added Seal)}
    (before : Accumulates b b₁ first) (after : Accumulates b₁ b₂ later) :
    Accumulates b b₂ (first ++ later) where
  meta t := by simp [after.meta, before.meta, Added.metaOf]
  metaKeys t := by simp only [after.metaKeys, before.metaKeys, Added.metaOf, List.filterMap_append,
    ne_eq, List.append_eq_nil, not_and_or, or_assoc]
  global t := by simp [after.global, before.global, Added.globalsOf]
  globalKeys t := by simp only [after.globalKeys, before.globalKeys, Added.globalsOf,
    List.filterMap_append, ne_eq, List.append_eq_nil, not_and_or, or_assoc]
  assignments t := by simp [after.assignments, before.assignments, Added.assignmentsOf]
  assignmentKeys t := by simp only [after.assignmentKeys, before.assignmentKeys, Added.assignmentsOf,
    List.filterMap_append, ne_eq, List.append_eq_nil, not_and_or, or_assoc]
  schema := after.schema.trans before.schema
  iface := after.iface.trans before.iface
  iimpl := after.iimpl.trans before.iimpl
  types := after.types.trans before.types

theorem record_accumulates {b b' : OperationBuilder Seal Val} {added : Added Seal}
    (recorded : b.record added = .ok b') : Accumulates b b' [added] := by
  cases added <;>
  · obtain ⟨_, appended, ⟨⟩⟩ := bind_eq_ok.mp recorded
    simp only [liftError, mapError_eq_ok, Metadata.addValue, GlobalState.addState] at appended
    constructor <;> intros <;> simp [itemsUnder_appendUnder appended, mem_appendUnder appended] <;>
      simp [Added.metaOf, Added.globalsOf, Added.assignmentsOf]

theorem resolve_congr {b b' : OperationBuilder Seal Val} (schema : b'.schema = b.schema)
    (iimpl : b'.iimpl = b.iimpl) (types : b'.types = b.types) : b'.resolve = b.resolve := by
  funext c
  cases c <;> simp [resolve, metaType, globalType, assignmentsType, metaSchema, globalSchema,
    schema, iimpl, types]

theorem call_accumulates {b b' : OperationBuilder Seal Val} {c : OpCall Seal Val}
    (called : b.call c = .ok b') : ∃ added, b.resolve c = .ok added ∧ Accumulates b b' [added] := by
  rw [call_eq_resolve_record] at called
  obtain ⟨added, resolved, recorded⟩ := bind_eq_ok.mp called
  exact ⟨added, resolved, record_accumulates recorded⟩

theorem addRights_error {b : OperationBuilder Seal Val} {name : String} {«seal» : BuilderSeal Seal}
    {attach : Option AttachId} {error : BuilderError}
    (failed : b.addRights name «seal» attach = .error error) :
    error = .assignmentNotFound name ∨ ∃ bound, error = .confinement bound := by
  cases named : b.assignmentsType name with
  | error unknown =>
      simp only [addRights, named, error_bind, Except.error.injEq] at failed
      unfold assignmentsType resolveName at named
      split at named <;> cases named
      exact .inl failed.symm
  | ok typeId =>
      simp only [addRights, named, ok_bind, addOwnedStateRaw] at failed
      cases appended : appendUnder b.assignments typeId («seal».assignment ⟨State.empty.data, attach⟩) with
      | error bound =>
          simp only [appended, Except.mapError, error_bind, Except.error.injEq] at failed
          exact .inr ⟨bound, failed.symm⟩
      | ok assignments => simp [appended, Except.mapError] at failed

theorem run_accumulates (b : OperationBuilder Seal Val) (calls : List (OpCall Seal Val))
    (b' : OperationBuilder Seal Val) (built : b.run calls = .ok b') :
    ∃ added, calls.mapM b.resolve = .ok added ∧ Accumulates b b' added := by
  induction calls generalizing b with
  | nil =>
      cases built
      exact ⟨[], rfl, .refl _⟩
  | cons c calls ih =>
      obtain ⟨next, called, rest⟩ := bind_eq_ok.mp built
      rw [call_eq_resolve_record] at called
      obtain ⟨first, resolved, recorded⟩ := bind_eq_ok.mp called
      have step := record_accumulates recorded
      obtain ⟨later, resolvedLater, accumulated⟩ := ih next rest
      rw [resolve_congr step.schema step.iimpl step.types] at resolvedLater
      refine ⟨first :: later, ?_, step.trans accumulated⟩
      rw [List.mapM_cons, resolved, resolvedLater]
      rfl

section Consistent

variable {b : OperationBuilder Seal Val} (consistent : Consistent b.schema b.iimpl)
include consistent

theorem resolve_noPanic (c : OpCall Seal Val) : NoPanic (b.resolve c) := by
  cases c with
  | addMetadata | addGlobalState | addOwnedState =>
      exact .bind (noPanic_liftError _) fun _ resolved =>
        .bind (noPanic_expect (lookup_isSome_of_resolved (by first
          | exact consistent.metadata | exact consistent.globalState
          | exact consistent.assignments) resolved)) fun _ _ =>
        .bind (noPanic_liftError _) fun _ _ => .bind (noPanic_liftError _) fun _ _ => noPanic_pure _
  | serializeMetadata | serializeGlobalState =>
      exact .bind (noPanic_liftError _) fun _ resolved => .bind (noPanic_liftError _) fun _ _ =>
        .bind (noPanic_expect (lookup_isSome_of_resolved (by first
          | exact consistent.metadata | exact consistent.globalState) resolved)) fun _ _ =>
          noPanic_pure _
  | addOwnedStateRaw => exact noPanic_pure _
  | addRights => exact .bind (noPanic_liftError _) fun _ _ => noPanic_pure _
  | serializeOwnedState =>
      exact .bind (noPanic_liftError _) fun _ _ => .bind (noPanic_liftError _) fun _ _ => noPanic_pure _

theorem call_noPanic (c : OpCall Seal Val) : NoPanic (b.call c) := by
  rw [call_eq_resolve_record]
  refine .bind (resolve_noPanic consistent c) fun added _ => ?_
  cases added <;> exact .bind (noPanic_liftError _) fun _ _ => noPanic_pure _

end Consistent

theorem run_noPanic {b : OperationBuilder Seal Val} (consistent : Consistent b.schema b.iimpl)
    (calls : List (OpCall Seal Val)) : NoPanic (b.run calls) := by
  induction calls generalizing b with
  | nil => exact noPanic_pure b
  | cons c calls ih =>
      refine .bind (call_noPanic consistent c) fun next called => ih ?_
      obtain ⟨_, _, accumulated⟩ := call_accumulates called
      rwa [accumulated.schema, accumulated.iimpl]

end OperationBuilder

end Interface

end RgbWallet
