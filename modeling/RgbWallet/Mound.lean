import RgbWallet.Consignment

/-! `Mound` (src/mound.rs): the stockpiles of many contracts of one consensus and network, the
schemata they are issued from, and the consignment envelope the mound writes and reads before
handing the stream to a stockpile. `issue` and `consume` hand the mound back with every outcome;
`attest` and `consign` return `.error` with the message where `contract_mut` panics. The
directory excavator is modelled over the listing it reads and what `Schema::load` and
`Stockpile::load` make of each path. -/

namespace RgbWallet

def magicBytesConsignment : Bytes 16 :=
  ⟨[82, 71, 66, 32, 67, 79, 78, 83, 73, 71, 78, 77, 69, 78, 84, 0], rfl⟩

inductive IssueError
  | consensusMismatch
  | testnetMismatch
  | mainnetMismatch
  | unknownCodex (codexId : CodexId)
deriving DecidableEq, Repr

inductive MoundConsumeError
  | unrecognizedMagic (magic : Bytes 16)
  | unknownContract (contractId : ContractId)
  | inner (error : ConsumeError)
deriving DecidableEq, Repr

structure Mound (Seal Cli Pub : Type) where
  consensus : Consensus
  testnet : Bool
  schemata : AList (fun _ : CodexId => Schema)
  contracts : AList (fun _ : ContractId => Stockpile Seal Cli Pub)

def collectMap {κ ν : Type} [DecidableEq κ] (entries : List (κ × ν)) : AList (fun _ : κ => ν) :=
  entries.foldl (fun map entry => map.insert entry.1 entry.2) ∅

inductive FileType
  | file
  | dir
  | symlink
deriving DecidableEq, Repr

structure Path where
  name : String
  extension : Option String
deriving DecidableEq, Repr

structure DirExcavator (Seal Cli Pub : Type) where
  consensus : Consensus
  testnet : Bool
  contents : Bool → List (FileType × Path)
  loadSchema : Path → Option Schema
  loadStockpile : Path → Stockpile Seal Cli Pub

namespace DirExcavator

variable {Seal Cli Pub : Type} (cm : Commitments Seal)

def schemata (excavator : DirExcavator Seal Cli Pub) : List (CodexId × Schema) :=
  (excavator.contents true).filterMap fun (ty, path) =>
    if ty = .file ∧ path.extension = some "issuer" then
      (excavator.loadSchema path).map fun schema => (cm.codexId schema.codex, schema)
    else none

def contracts (excavator : DirExcavator Seal Cli Pub) :
    List (ContractId × Stockpile Seal Cli Pub) :=
  (excavator.contents false).filterMap fun (ty, path) =>
    if ty = .dir ∧ path.extension = some "contract" then
      let contract := excavator.loadStockpile path
      let meta := contract.stock.articles.contract.meta
      if meta.consensus = excavator.consensus ∧ meta.testnet = excavator.testnet then
        some (contract.contractId cm, contract)
      else none
    else none

end DirExcavator

namespace Mound

variable {Seal Cli Pub : Type} (cm : Commitments Seal)

def withTestnet (consensus : Consensus) : Mound Seal Cli Pub :=
  { testnet := true, consensus, schemata := ∅, contracts := ∅ }

def bitcoinTestnet : Mound Seal Cli Pub :=
  { testnet := true, consensus := .bitcoin, schemata := ∅, contracts := ∅ }

def openTestnet (consensus : Consensus) (schemata : List (CodexId × Schema))
    (contracts : List (ContractId × Stockpile Seal Cli Pub)) : Mound Seal Cli Pub :=
  { testnet := true, consensus, schemata := collectMap schemata, contracts := collectMap contracts }

def loadTestnet (consensus : Consensus) (contents : Bool → List (FileType × Path))
    (loadSchema : Path → Option Schema) (loadStockpile : Path → Stockpile Seal Cli Pub) :
    Mound Seal Cli Pub :=
  let excavator : DirExcavator Seal Cli Pub := ⟨consensus, true, contents, loadSchema, loadStockpile⟩
  openTestnet consensus (excavator.schemata cm) (excavator.contracts cm)

def issue (m : Mound Seal Cli Pub) (params : CreateParams Seal) (pile : Pile Seal Cli Pub) :
    Mound Seal Cli Pub × Except (Fault IssueError) ContractId :=
  if params.consensus ≠ m.consensus then (m, .error (.error .consensusMismatch))
  else if params.testnet ≠ m.testnet then
    (m, .error (.error (if params.testnet then .testnetMismatch else .mainnetMismatch)))
  else
    match m.schemata.lookup params.codexId with
    | none => (m, .error (.error (.unknownCodex params.codexId)))
    | some schema =>
      match Stockpile.issue cm schema params pile with
      | .error message => (m, .error (.panic message))
      | .ok stockpile =>
        let id := stockpile.contractId cm
        ({ m with contracts := m.contracts.insert id stockpile }, .ok id)

def attest (m : Mound Seal Cli Pub) (published : Pub) :
    List (ContractId × Opid × Cli) → Mound Seal Cli Pub × Except String Unit
  | [] => (m, .ok ())
  | (contractId, opid, anchor) :: anchors =>
    match m.contracts.lookup contractId with
    | none => (m, .error "unknown contract")
    | some sp =>
      attest { m with contracts := m.contracts.insert contractId (sp.attest opid anchor published) }
        published anchors

def select (m : Mound Seal Cli Pub) (value : Seal) : List (ContractId × CellAddr) :=
  m.contracts.entries.filterMap fun entry => (entry.2.seal cm value).map (entry.1, ·)

theorem mem_select (m : Mound Seal Cli Pub) (value : Seal) (id : ContractId) (addr : CellAddr) :
    (id, addr) ∈ m.select cm value ↔
      ∃ sp, m.contracts.lookup id = some sp ∧ sp.seal cm value = some addr := by
  simp only [select, List.mem_filterMap, Option.map_eq_some', Prod.mk.injEq]
  constructor
  · rintro ⟨entry, mem, _, sealed, rfl, rfl⟩
    exact ⟨entry.2, AList.mem_lookup_iff.mpr mem, sealed⟩
  · rintro ⟨sp, filed, sealed⟩
    exact ⟨⟨id, sp⟩, AList.mem_lookup_iff.mp filed, addr, sealed, rfl, rfl⟩

section Stream

variable (codecs : ConsignmentCodecs Seal Cli Pub)

def envelope (contractId : ContractId) : List UInt8 :=
  (Codec.bytes 16).encode magicBytesConsignment ++ Codec.u16.encode 0 ++
    codecs.contractId.encode contractId

def consign (m : Mound Seal Cli Pub) (contractId : ContractId) (terminals : List AuthToken) :
    Except String (List UInt8) :=
  match m.contracts.lookup contractId with
  | none => .error "unknown contract"
  | some sp => (envelope codecs contractId ++ ·) <$> sp.consign codecs cm terminals

def readEnvelope (stream : List UInt8) : Except MoundConsumeError (ContractId × List UInt8) := do
  let (magic, stream) ← ((Codec.bytes 16).decode stream).mapError (.inner ∘ .decode)
  if magic ≠ magicBytesConsignment then .error (.unrecognizedMagic magic) else do
  let ((), stream) ← ((Codec.reserved 2).decode stream).mapError (.inner ∘ .decode)
  ((codecs.contractId.decode stream).mapError (.inner ∘ .decode))

def consume (verifier : Verifier Seal Cli Pub) (m : Mound Seal Cli Pub) (stream : List UInt8)
    (resolver : List StateCell → List Seal) :
    Mound Seal Cli Pub × Except (Fault MoundConsumeError) Unit :=
  match readEnvelope codecs stream with
  | .error error => (m, .error (.error error))
  | .ok (contractId, rest) =>
    match m.contracts.lookup contractId with
    | none => (m, .error (.error (.unknownContract contractId)))
    | some sp =>
      let consumed := sp.consume codecs cm verifier resolver rest
      ({ m with contracts := m.contracts.insert contractId consumed.1 },
        consumed.2.mapError fun
          | .error error => .error (.inner error)
          | .panic message => .panic message)

end Stream

end Mound

end RgbWallet
