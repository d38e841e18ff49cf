import RgbWallet.Strict

/-! The contract data a stockpile keeps: identifiers, operations and their cells, the schema with
the state names its API declares, and the articles of a contract. Identifiers are content hashes
computed by libraries outside this repository, so the model takes them as the fields of
`Commitments`; no result depends on which hash is used. `Commitments.zero` and
`Commitments.small` are instances for running the model on small inputs: the first sends every
value to the zero id, the second tells operations apart by the number of cells they spend,
contracts by the number of cells their genesis creates, and one-byte seals by their byte. Fields
of the library types that no modelled function reads are left out. -/

namespace RgbWallet

structure ContractId where
  bytes : Bytes 32
deriving DecidableEq, Repr

structure CodexId where
  bytes : Bytes 32
deriving DecidableEq, Repr

structure Opid where
  bytes : Bytes 32
deriving DecidableEq, Repr

structure AuthToken where
  bytes : Bytes 32
deriving DecidableEq, Repr

structure CellAddr where
  opid : Opid
  pos : UInt16
deriving DecidableEq, Repr

structure StateCell where
  data : Bytes 32
  auth : AuthToken
deriving DecidableEq, Repr

structure Operation where
  contractId : ContractId
  destroying : SmallVec CellAddr
  destructible : SmallVec StateCell
deriving DecidableEq, Repr

inductive Consensus
  | none
  | bitcoin
  | liquid
  | prime
deriving DecidableEq, Repr

structure ContractMeta where
  testnet : Bool
  consensus : Consensus
deriving DecidableEq, Repr

structure Codex where
  code : SmallVec UInt8
deriving DecidableEq, Repr

structure StateName where
  name : String
  length_le : name.length ≤ 0xFFFF
deriving DecidableEq, Repr

structure Schema where
  codex : Codex
  global : SmallVec StateName
  owned : SmallVec StateName
deriving DecidableEq, Repr

def Schema.globalNames (schema : Schema) : List String := schema.global.items.map (·.name)

def Schema.ownedNames (schema : Schema) : List String := schema.owned.items.map (·.name)

def Schema.Declares (schema : Schema) (global owned : List String) : Prop :=
  (∀ name ∈ global, name ∈ schema.globalNames) ∧ ∀ name ∈ owned, name ∈ schema.ownedNames

instance (schema : Schema) (global owned : List String) : Decidable (schema.Declares global owned) :=
  inferInstanceAs (Decidable (_ ∧ _))

structure ContentSigs where
  signatures : SmallVec (Bytes 32)
deriving DecidableEq, Repr

structure Contract where
  meta : ContractMeta
  codex : Codex
  genesis : Operation
deriving DecidableEq, Repr

structure Articles where
  contract : Contract
  contractSigs : ContentSigs
  schema : Schema
deriving DecidableEq, Repr

structure SealWitness (Cli Pub : Type) where
  published : Pub
  client : Cli
deriving DecidableEq, Repr

structure Commitments (Seal : Type) where
  opid : Operation → Opid
  contractId : Contract → ContractId
  codexId : Codex → CodexId
  authToken : Seal → AuthToken

def Commitments.zero (Seal : Type) : Commitments Seal :=
  ⟨fun _ => ⟨Bytes.ofList 32 []⟩, fun _ => ⟨Bytes.ofList 32 []⟩, fun _ => ⟨Bytes.ofList 32 []⟩,
    fun _ => ⟨Bytes.ofList 32 []⟩⟩

def Commitments.small : Commitments UInt8 :=
  ⟨fun op => ⟨Bytes.ofList 32 [UInt8.ofNat op.destroying.items.length]⟩,
    fun contract => ⟨Bytes.ofList 32 [UInt8.ofNat contract.genesis.destructible.items.length]⟩,
    fun _ => ⟨Bytes.ofList 32 []⟩, fun «seal» => ⟨Bytes.ofList 32 [«seal»]⟩⟩

def Operation.cells (opid : Opid) (op : Operation) : List (CellAddr × StateCell) :=
  op.destructible.items.enum.map fun (pos, cell) => (⟨opid, UInt16.ofNat pos⟩, cell)

theorem Operation.mem_cells {opid : Opid} {op : Operation} {addr : CellAddr} {cell : StateCell}
    (mem : (addr, cell) ∈ op.cells opid) :
    ∃ pos, op.destructible.items[pos]? = some cell ∧ addr = ⟨opid, UInt16.ofNat pos⟩ := by
  obtain ⟨⟨pos, cell'⟩, enumerated, same⟩ := List.mem_map.mp mem
  cases same
  exact ⟨pos, List.mem_enum_iff_getElem?.mp enumerated, rfl⟩

theorem Operation.map_fst_cells (opid : Opid) (op : Operation) :
    (op.cells opid).map Prod.fst =
      (List.range op.destructible.items.length).map fun pos => ⟨opid, UInt16.ofNat pos⟩ := by
  rw [← List.enum_map_fst, Operation.cells, List.map_map, List.map_map]
  rfl

theorem Operation.nodup_cells (opid : Opid) (op : Operation) :
    ((op.cells opid).map Prod.fst).Nodup := by
  rw [Operation.map_fst_cells, List.Nodup, List.pairwise_map]
  have bounded := op.destructible.length_le
  refine (List.nodup_range _).imp_of_mem fun firstMem secondMem differ same => differ ?_
  have positions := congrArg (·.pos.toNat) same
  simp only [List.mem_range] at firstMem secondMem positions
  rwa [UInt16.toNat_ofNat_of_lt (by unfold UInt16.size; omega),
    UInt16.toNat_ofNat_of_lt (by unfold UInt16.size; omega)] at positions

end RgbWallet
