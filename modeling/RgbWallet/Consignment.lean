import RgbWallet.Stockpile

/-! The consignment stream of a stockpile (src/stockpile.rs): `consign` writes the article
fields and then, for each exported operation, the operation, the seals the pile keeps for it,
the witness count and the witnesses; `consume` reads the article fields, drives `OpReader` and
`WitnessReader` through the operations, and merges the articles. The readers hand back the rest
of the stream, and `.error` carries the message of a panic; `consume` hands back the stockpile
with every outcome. `evaluate` and `export_aux` belong to libraries outside this repository and
are modelled from the spec, with `fuel` bounding the operations `evaluate` reads. Whatever
applying a witness and applying an operation keep, `evaluate` and `consume` keep. -/

namespace RgbWallet

structure ConsignmentCodecs (Seal Cli Pub : Type) where
  contractId : Codec ContractId
  schema : Codec Schema
  contractSigs : Codec ContentSigs
  contractMeta : Codec ContractMeta
  codex : Codec Codex
  operation : Codec Operation
  «seal» : Codec Seal
  witness : Codec (SealWitness Cli Pub)

structure VerificationError where
  message : String
deriving DecidableEq, Repr

inductive ConsumeError
  | io (kind : IoErrorKind)
  | decode (error : DecodeError)
  | merge (error : MergeError)
  | verify (error : VerificationError)
deriving DecidableEq, Repr

abbrev Verifier (Seal Cli Pub : Type) :=
  Stock → OperationSeals Seal → List (SealWitness Cli Pub) → Except VerificationError Unit

structure WitnessReader where
  left : UInt64
  stream : List UInt8
deriving DecidableEq, Repr

inductive Step (α β : Type)
  | next (value : α)
  | complete (parent : β)
deriving DecidableEq, Repr

structure ArticlesHeader where
  schema : Schema
  contractSigs : ContentSigs
  meta : ContractMeta
  codex : Codex
deriving DecidableEq, Repr

def ArticlesHeader.of (articles : Articles) : ArticlesHeader :=
  ⟨articles.schema, articles.contractSigs, articles.contract.meta, articles.contract.codex⟩

structure ConsignedOp (Seal Cli Pub : Type) where
  operation : Operation
  seals : SmallVec Seal
  witnesses : List (SealWitness Cli Pub)

section Reading

variable {Seal Cli Pub : Type} (codecs : ConsignmentCodecs Seal Cli Pub)

def readOperation (resolver : List StateCell → List Seal) (stream : List UInt8) :
    Except String (Option (OperationSeals Seal × WitnessReader)) :=
  match codecs.operation.decode stream with
  | .ok (operation, rest) =>
    match (Codec.smallVec codecs.«seal»).decode rest with
    | .error _ => .error "Failed to read consignment stream"
    | .ok (defined, rest) =>
      match defined.extend (resolver operation.destructible.items) with
      | none => .error "Too many seals defined in the operation"
      | some definedSeals =>
        match Codec.u64.decode rest with
        | .error _ => .error "Failed to read consignment stream"
        | .ok (count, rest) => .ok (some (⟨operation, definedSeals⟩, ⟨count, rest⟩))
  | .error (.io .unexpectedEof) => .ok none
  | .error _ => .error "Failed to read consignment stream"

def readWitness (reader : WitnessReader) :
    Except String (Step (SealWitness Cli Pub × WitnessReader) (List UInt8)) :=
  if reader.left = 0 then .ok (.complete reader.stream)
  else
    match codecs.witness.decode reader.stream with
    | .ok (witness, rest) => .ok (.next (witness, ⟨reader.left - 1, rest⟩))
    | .error _ => .error "Failed to read consignment stream"

def readWitnesses : Nat → WitnessReader →
    Except String (List (SealWitness Cli Pub) × List UInt8)
  | 0, reader => .ok ([], reader.stream)
  | fuel + 1, reader =>
    match readWitness codecs reader with
    | .error message => .error message
    | .ok (.complete stream) => .ok ([], stream)
    | .ok (.next (witness, reader)) =>
      (readWitnesses fuel reader).map fun read => (witness :: read.1, read.2)

def readAll (resolver : List StateCell → List Seal) : Nat → List UInt8 →
    Except String (List (OperationSeals Seal × List (SealWitness Cli Pub)))
  | 0, _ => .ok []
  | fuel + 1, stream =>
    match readOperation codecs resolver stream with
    | .error message => .error message
    | .ok none => .ok []
    | .ok (some (header, reader)) =>
      match readWitnesses codecs (reader.left.toNat + 1) reader with
      | .error message => .error message
      | .ok (witnesses, rest) => (readAll resolver fuel rest).map ((header, witnesses) :: ·)

def readArticles (stream : List UInt8) : Except DecodeError (ArticlesHeader × List UInt8) := do
  let (schema, stream) ← codecs.schema.decode stream
  let (contractSigs, stream) ← codecs.contractSigs.decode stream
  let ((), stream) ← (Codec.reserved 2).decode stream
  let (meta, stream) ← codecs.contractMeta.decode stream
  let (codex, stream) ← codecs.codex.decode stream
  pure (⟨schema, contractSigs, meta, codex⟩, stream)

end Reading

section Evaluation

variable {Seal Cli Pub : Type} (codecs : ConsignmentCodecs Seal Cli Pub) (cm : Commitments Seal)
  (verifier : Verifier Seal Cli Pub) (resolver : List StateCell → List Seal)

/-- Modelled from the spec: `ContractVerify::evaluate` reads the operations in stream order;
each operation and its witnesses go to the verifier, and on success the witnesses and then the
operation are applied. `fuel` bounds the operations read. -/
def evaluate : Nat → Stockpile Seal Cli Pub → List UInt8 →
    Stockpile Seal Cli Pub × Except (Fault VerificationError) Unit
  | 0, sp, _ => (sp, .ok ())
  | fuel + 1, sp, stream =>
    match readOperation codecs resolver stream with
    | .error message => (sp, .error (.panic message))
    | .ok none => (sp, .ok ())
    | .ok (some (header, reader)) =>
      match readWitnesses codecs (reader.left.toNat + 1) reader with
      | .error message => (sp, .error (.panic message))
      | .ok (witnesses, rest) =>
        match verifier sp.stock header witnesses with
        | .error error => (sp, .error (.error error))
        | .ok () =>
          let opid := cm.opid header.operation
          let sp := witnesses.foldl (fun sp witness => sp.applyWitness opid witness) sp
          evaluate fuel (sp.applyOperation cm header) rest

def Stockpile.consume (sp : Stockpile Seal Cli Pub) (stream : List UInt8) :
    Stockpile Seal Cli Pub × Except (Fault ConsumeError) Unit :=
  match readArticles codecs stream with
  | .error error => (sp, .error (.error (.decode error)))
  | .ok (header, rest) =>
    match evaluate codecs cm verifier resolver (rest.length + 1) sp rest with
    | (sp, .error (.panic message)) => (sp, .error (.panic message))
    | (sp, .error (.error error)) => (sp, .error (.error (.verify error)))
    | (sp, .ok ()) =>
      let articles : Articles :=
        { contract := ⟨header.meta, header.codex, sp.stock.articles.contract.genesis⟩
          contractSigs := header.contractSigs
          schema := header.schema }
      match sp.stock.mergeArticles cm articles with
      | .error error => (sp, .error (.error (.merge error)))
      | .ok () => (sp, .ok ())

theorem evaluate_invariant (P : Stockpile Seal Cli Pub → Prop)
    (applyWitness : ∀ sp opid witness, P sp → P (sp.applyWitness opid witness))
    (applyOperation : ∀ sp op, P sp → P (sp.applyOperation cm op)) (fuel : Nat)
    {sp : Stockpile Seal Cli Pub} (stream : List UInt8) (holds : P sp) :
    P (evaluate codecs cm verifier resolver fuel sp stream).1 := by
  induction fuel generalizing sp stream with
  | zero => exact holds
  | succ fuel ih =>
      unfold evaluate
      split
      · exact holds
      · exact holds
      · split
        · exact holds
        · split
          · exact holds
          · exact ih _ (applyOperation _ _
              (Stockpile.foldl_applyWitness_invariant P applyWitness _ _ holds))

theorem evaluate_extends (fuel : Nat) (sp : Stockpile Seal Cli Pub) (stream : List UInt8) :
    sp.Extends (evaluate codecs cm verifier resolver fuel sp stream).1 :=
  evaluate_invariant codecs cm verifier resolver sp.Extends
    (fun _ _ _ continued => continued.trans (Stockpile.applyWitness_extends _ _ _))
    (fun _ _ continued => continued.trans (Stockpile.applyOperation_extends cm _ _)) fuel stream (.refl sp)

theorem Stockpile.consume_fst (sp : Stockpile Seal Cli Pub) (stream : List UInt8) :
    (sp.consume codecs cm verifier resolver stream).1 = sp ∨
      ∃ rest, (sp.consume codecs cm verifier resolver stream).1 =
        (evaluate codecs cm verifier resolver (rest.length + 1) sp rest).1 := by
  unfold Stockpile.consume
  split
  · exact .inl rfl
  · rename_i header rest _
    refine .inr ⟨rest, ?_⟩
    split <;> rename_i evaluated <;> rw [evaluated]
    dsimp only
    split <;> rfl

theorem Stockpile.consume_invariant (P : Stockpile Seal Cli Pub → Prop)
    (applyWitness : ∀ sp opid witness, P sp → P (sp.applyWitness opid witness))
    (applyOperation : ∀ sp op, P sp → P (sp.applyOperation cm op)) {sp : Stockpile Seal Cli Pub}
    (stream : List UInt8) (holds : P sp) : P (sp.consume codecs cm verifier resolver stream).1 := by
  rcases sp.consume_fst codecs cm verifier resolver stream with same | ⟨rest, evaluated⟩
  · rwa [same]
  · rw [evaluated]
    exact evaluate_invariant codecs cm verifier resolver P applyWitness applyOperation _ rest holds

theorem Stockpile.consume_extends (sp : Stockpile Seal Cli Pub) (stream : List UInt8) :
    sp.Extends (sp.consume codecs cm verifier resolver stream).1 :=
  Stockpile.consume_invariant codecs cm verifier resolver sp.Extends
    (fun _ _ _ continued => continued.trans (Stockpile.applyWitness_extends _ _ _))
    (fun _ _ continued => continued.trans (Stockpile.applyOperation_extends cm _ _)) stream (.refl sp)

theorem Stockpile.consume_articles (sp : Stockpile Seal Cli Pub) (stream : List UInt8) :
    (sp.consume codecs cm verifier resolver stream).1.stock.articles = sp.stock.articles :=
  (sp.consume_extends codecs cm verifier resolver stream).articles

end Evaluation

section Writing

variable {Seal Cli Pub : Type} (codecs : ConsignmentCodecs Seal Cli Pub) (cm : Commitments Seal)

/-- Modelled from the spec: the article fields `export_aux` writes first, in the order
`consume` reads them. -/
def writeArticles (articles : Articles) : List UInt8 :=
  codecs.schema.encode articles.schema ++ codecs.contractSigs.encode articles.contractSigs ++
    (Codec.reserved 2).encode () ++ codecs.contractMeta.encode articles.contract.meta ++
    codecs.codex.encode articles.contract.codex

def recordBytes (record : ConsignedOp Seal Cli Pub) : List UInt8 :=
  codecs.operation.encode record.operation ++ (Codec.smallVec codecs.«seal»).encode record.seals ++
    Codec.u64.encode (UInt64.ofNat record.witnesses.length) ++
    record.witnesses.flatMap codecs.witness.encode

def Pile.consigned (pile : Pile Seal Cli Pub) (operation : Operation) (opid : Opid) :
    Option (ConsignedOp Seal Cli Pub) :=
  (pile.keepRead opid).map fun seals => ⟨operation, seals, pile.retrieve opid⟩

/-- Modelled from the spec: the operations `export_aux` streams for a set of terminals, those
the terminals' cells descend from, found walking the log backwards, in log order. -/
def Stock.exportOps (stock : Stock) (terminals : List AuthToken) : List Operation :=
  let start := terminals.filterMap fun token => (stock.auth.lookup token).map (·.opid)
  (stock.log.foldr (fun op (needed, picked) =>
    if cm.opid op ∈ needed then (needed ++ op.destroying.items.map (·.opid), op :: picked)
    else (needed, picked)) (start, [])).2

def Stockpile.consign (sp : Stockpile Seal Cli Pub) (terminals : List AuthToken) :
    Except String (List UInt8) := do
  let records ← (sp.stock.exportOps cm terminals).mapM fun op =>
    match sp.pile.consigned op (cm.opid op) with
    | some record => .ok record
    | none => .error "no seals kept for the operation"
  pure (writeArticles codecs sp.stock.articles ++ records.flatMap (recordBytes codecs))

end Writing

end RgbWallet
