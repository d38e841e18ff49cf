import RgbWallet.Mound
import RgbWallet.Encoding

/-! The framing of a consignment. What `Mound::consign` writes reads back through the envelope,
the article fields and the operation reader record by record: each operation with the seals
written after it followed by the resolver's, and exactly its witnesses, until the stream ends.
Reading ends the same way when the stream is cut inside an operation, since `read_operation`
answers `None` to an unexpected end of stream: `consume` then evaluates the operations before the
cut and merges the articles as for a stream that ends there. -/

namespace RgbWallet

theorem Codec.decode_nil {α : Type} (codec : Codec α) {first second : α} (distinct : first ≠ second) :
    codec.decode [] = .error .eof := by
  by_cases emptyFirst : codec.encode first = []
  · by_cases emptySecond : codec.encode second = []
    · have readFirst := codec.decode_encode first []
      have readSecond := codec.decode_encode second []
      rw [emptyFirst, List.nil_append] at readFirst
      rw [emptySecond, List.nil_append, readFirst] at readSecond
      exact absurd (congrArg Prod.fst (Except.ok.inj readSecond)) distinct
    · simpa using codec.decode_truncated second 0 (List.length_pos.mpr emptySecond)
  · simpa using codec.decode_truncated first 0 (List.length_pos.mpr emptyFirst)

theorem uint64_ofNat_succ_ne_zero {count : Nat} (bound : count + 1 < UInt64.size) :
    UInt64.ofNat (count + 1) ≠ 0 := fun zero => by
  simpa [UInt64.toNat_ofNat_of_lt bound] using congrArg UInt64.toNat zero

theorem uint64_ofNat_succ_sub_one {count : Nat} (bound : count + 1 < UInt64.size) :
    UInt64.ofNat (count + 1) - 1 = UInt64.ofNat count := by
  have value : (UInt64.ofNat (count + 1)).toNat = count + 1 := UInt64.toNat_ofNat_of_lt bound
  have one : (1 : UInt64) ≤ UInt64.ofNat (count + 1) := by
    rw [UInt64.le_def, BitVec.le_def]
    show 1 ≤ (UInt64.ofNat (count + 1)).toNat
    omega
  apply UInt64.toNat.inj
  rw [UInt64.toNat_sub_of_le _ _ one, value, UInt64.toNat_ofNat_of_lt (Nat.lt_of_succ_lt bound)]
  rfl

section Reading

variable {Seal Cli Pub : Type} (codecs : ConsignmentCodecs Seal Cli Pub)
  (resolver : List StateCell → List Seal)

theorem Mound.readEnvelope_envelope (contractId : ContractId) (rest : List UInt8) :
    Mound.readEnvelope codecs (Mound.envelope codecs contractId ++ rest) = .ok (contractId, rest) := by
  have version : Codec.u16.encode 0 = (Codec.reserved 2).encode () := rfl
  simp only [Mound.readEnvelope, Mound.envelope, version, List.append_assoc, Codec.decode_encode,
    Except.mapError, ok_bind, ne_eq, not_true_eq_false, ↓reduceIte]

theorem readArticles_writeArticles (articles : Articles) (rest : List UInt8) :
    readArticles codecs (writeArticles codecs articles ++ rest) =
      .ok (ArticlesHeader.of articles, rest) := by
  simp only [readArticles, writeArticles, List.append_assoc, Codec.decode_encode, ok_bind]
  rfl

theorem readOperation_recordBytes (record : ConsignedOp Seal Cli Pub) (rest : List UInt8)
    (fits : (record.seals.items ++ resolver record.operation.destructible.items).length ≤ 0xFFFF) :
    readOperation codecs resolver (recordBytes codecs record ++ rest) =
      .ok (some (⟨record.operation, ⟨_, fits⟩⟩, ⟨UInt64.ofNat record.witnesses.length,
        record.witnesses.flatMap codecs.witness.encode ++ rest⟩)) := by
  simp only [readOperation, recordBytes, List.append_assoc, Codec.decode_encode, SmallVec.extend,
    fits, ↓reduceDIte]

theorem readOperation_truncated (record : ConsignedOp Seal Cli Pub) (cut : Nat)
    (inside : cut < (codecs.operation.encode record.operation).length) :
    readOperation codecs resolver ((recordBytes codecs record).take cut) = .ok none := by
  rw [recordBytes, List.append_assoc, List.append_assoc, List.take_append_of_le_length inside.le]
  simp only [readOperation, codecs.operation.decode_truncated _ cut inside]
  rfl

theorem readOperation_nil : readOperation codecs resolver [] = .ok none := by
  have distinct : (⟨⟨Bytes.ofList 32 []⟩, ⟨[], by decide⟩, ⟨[], by decide⟩⟩ : Operation) ≠
      ⟨⟨Bytes.ofList 32 [1]⟩, ⟨[], by decide⟩, ⟨[], by decide⟩⟩ := by decide
  simp only [readOperation, codecs.operation.decode_nil distinct]
  rfl

theorem readWitnesses_flatMap (witnesses : List (SealWitness Cli Pub)) (rest : List UInt8)
    (counts : witnesses.length < UInt64.size) (fuel : Nat) (enough : witnesses.length < fuel) :
    readWitnesses codecs fuel
        ⟨UInt64.ofNat witnesses.length, witnesses.flatMap codecs.witness.encode ++ rest⟩ =
      .ok (witnesses, rest) := by
  induction witnesses generalizing fuel with
  | nil =>
      cases fuel with
      | zero => omega
      | succ fuel => rfl
  | cons witness witnesses ih =>
      cases fuel with
      | zero => omega
      | succ fuel =>
          simp only [List.length_cons] at counts enough
          simp only [readWitnesses, readWitness, List.length_cons, List.flatMap_cons,
            List.append_assoc, uint64_ofNat_succ_ne_zero counts, ↓reduceIte, Codec.decode_encode,
            uint64_ofNat_succ_sub_one counts, ih (by omega) fuel (by omega)]
          rfl

theorem readAll_records (records : List (ConsignedOp Seal Cli Pub)) (tail : List UInt8)
    (fits : ∀ record ∈ records,
      (record.seals.items ++ resolver record.operation.destructible.items).length ≤ 0xFFFF)
    (counts : ∀ record ∈ records, record.witnesses.length < UInt64.size)
    (ends : readOperation codecs resolver tail = .ok none) (fuel : Nat)
    (enough : records.length < fuel) :
    readAll codecs resolver fuel (records.flatMap (recordBytes codecs) ++ tail) =
      .ok (records.pmap (fun record fit => (⟨record.operation, ⟨_, fit⟩⟩, record.witnesses)) fits) := by
  induction records generalizing fuel with
  | nil =>
      cases fuel with
      | zero => omega
      | succ fuel => simp only [readAll, List.flatMap_nil, List.nil_append, ends]; rfl
  | cons record records ih =>
      cases fuel with
      | zero => omega
      | succ fuel =>
          have count := counts record (List.mem_cons_self _ _)
          simp only [List.length_cons] at enough
          simp only [readAll, List.flatMap_cons, List.append_assoc,
            readOperation_recordBytes codecs resolver record _ (fits record (List.mem_cons_self _ _)),
            UInt64.toNat_ofNat_of_lt count, readWitnesses_flatMap codecs _ _ count _ (Nat.lt_succ_self _),
            ih (fun record mem => fits record (List.mem_cons_of_mem _ mem))
              (fun record mem => counts record (List.mem_cons_of_mem _ mem)) fuel (by omega)]
          rfl

theorem length_le_length_recordBytes (records : List (ConsignedOp Seal Cli Pub)) :
    records.length ≤ (records.flatMap (recordBytes codecs)).length := by
  induction records with
  | nil => exact Nat.le_refl 0
  | cons record records ih =>
      have count : (Codec.u64.encode (UInt64.ofNat record.witnesses.length)).length = 8 :=
        length_leBytes 8 _
      simp only [List.length_cons, List.flatMap_cons, List.length_append, recordBytes, count]
      omega

end Reading

section Evaluation

variable {Seal Cli Pub : Type} (codecs : ConsignmentCodecs Seal Cli Pub) (cm : Commitments Seal)
  (verifier : Verifier Seal Cli Pub) (resolver : List StateCell → List Seal)

def evaluateReads (sp : Stockpile Seal Cli Pub) :
    List (OperationSeals Seal × List (SealWitness Cli Pub)) →
      Stockpile Seal Cli Pub × Except (Fault VerificationError) Unit
  | [] => (sp, .ok ())
  | (header, witnesses) :: reads =>
    match verifier sp.stock header witnesses with
    | .error error => (sp, .error (.error error))
    | .ok () =>
      let opid := cm.opid header.operation
      let sp := witnesses.foldl (fun sp witness => sp.applyWitness opid witness) sp
      evaluateReads (sp.applyOperation cm header) reads

theorem evaluate_of_readAll (fuel : Nat) (sp : Stockpile Seal Cli Pub) (stream : List UInt8)
    (reads : List (OperationSeals Seal × List (SealWitness Cli Pub)))
    (read : readAll codecs resolver fuel stream = .ok reads) :
    evaluate codecs cm verifier resolver fuel sp stream = evaluateReads cm verifier sp reads := by
  induction fuel generalizing sp stream reads with
  | zero =>
      cases read
      rfl
  | succ fuel ih =>
      unfold readAll at read
      unfold evaluate
      split at read
      · cases read
      · cases read
        rfl
      · rename_i header _ _
        split at read
        · cases read
        · rename_i witnesses rest _
          cases more : readAll codecs resolver fuel rest with
          | error message => simp [more, Except.map] at read
          | ok later =>
              simp only [more, Except.map, Except.ok.injEq] at read
              subst read
              simp only [evaluateReads]
              cases verifier sp.stock header witnesses with
              | error error => rfl
              | ok => exact ih _ _ _ more

end Evaluation

section Consignment

variable {Seal Cli Pub : Type} (codecs : ConsignmentCodecs Seal Cli Pub) (cm : Commitments Seal)
  (verifier : Verifier Seal Cli Pub) (resolver : List StateCell → List Seal)

/-- A stream cut inside the encoding of an operation is consumed as the stream that ends before
that operation. -/
theorem consume_cut_operation (sp : Stockpile Seal Cli Pub) (articles : Articles)
    (records : List (ConsignedOp Seal Cli Pub)) (record : ConsignedOp Seal Cli Pub) (cut : Nat)
    (fits : ∀ record ∈ records,
      (record.seals.items ++ resolver record.operation.destructible.items).length ≤ 0xFFFF)
    (counts : ∀ record ∈ records, record.witnesses.length < UInt64.size)
    (inside : cut < (codecs.operation.encode record.operation).length) :
    readOperation codecs resolver ((recordBytes codecs record).take cut) = .ok none ∧
      sp.consume codecs cm verifier resolver (writeArticles codecs articles ++
          records.flatMap (recordBytes codecs) ++ (recordBytes codecs record).take cut) =
        sp.consume codecs cm verifier resolver
          (writeArticles codecs articles ++ records.flatMap (recordBytes codecs)) := by
  have cutEnds := readOperation_truncated codecs resolver record cut inside
  have prefixLength := length_le_length_recordBytes codecs records
  have evaluatedCut := evaluate_of_readAll codecs cm verifier resolver _ sp _ _
    (readAll_records codecs resolver records _ fits counts cutEnds
      ((records.flatMap (recordBytes codecs) ++ (recordBytes codecs record).take cut).length + 1)
      (by simp only [List.length_append]; omega))
  have evaluatedWhole := evaluate_of_readAll codecs cm verifier resolver _ sp _ _
    (readAll_records codecs resolver records [] fits counts (readOperation_nil codecs resolver)
      ((records.flatMap (recordBytes codecs)).length + 1) (by omega))
  rw [List.append_nil] at evaluatedWhole
  refine ⟨cutEnds, ?_⟩
  simp only [Stockpile.consume, List.append_assoc, readArticles_writeArticles]
  rw [evaluatedCut, evaluatedWhole]

set_option maxRecDepth 4000 in
/-- A consignment that starts with the genesis record, then one transfer, and then only the first
byte of a second transfer, consumed through a verifier that accepts an operation the stock has
logged or one whose spent cells are all live: `Ok`, with the first transfer applied and the second
dropped. -/
theorem consume_cut_operation_transfer :
    let codecs := ConsignmentCodecs.strict Codec.u8 Codec.unit Codec.unit
    let cm := Commitments.small
    let verifier : Verifier UInt8 Unit Unit := fun stock header _ =>
      if header.operation ∈ stock.log ∨ (header.operation.destroying.items ≠ [] ∧
          ∀ addr ∈ header.operation.destroying.items, addr ∈ stock.owned) then .ok ()
      else .error ⟨"rejected"⟩
    let resolver : List StateCell → List UInt8 := fun _ => []
    let zero : Bytes 32 := Bytes.ofList 32 []
    let genesis : Operation := ⟨⟨zero⟩, ⟨[], by decide⟩, ⟨[⟨zero, cm.authToken 5⟩], by decide⟩⟩
    let transfer : Operation :=
      ⟨⟨zero⟩, ⟨[⟨cm.opid genesis, 0⟩], by decide⟩, ⟨[⟨zero, cm.authToken 7⟩], by decide⟩⟩
    let second : Operation :=
      ⟨⟨zero⟩, ⟨[⟨cm.opid transfer, 0⟩], by decide⟩, ⟨[⟨zero, cm.authToken 9⟩], by decide⟩⟩
    let articles : Articles :=
      ⟨⟨⟨true, .bitcoin⟩, ⟨⟨[], by decide⟩⟩, genesis⟩, ⟨⟨[], by decide⟩⟩,
        ⟨⟨⟨[], by decide⟩⟩, ⟨[], by decide⟩, ⟨[], by decide⟩⟩⟩
    let sp : Stockpile UInt8 Unit Unit :=
      ⟨Stock.init cm articles, Pile.empty.keepAppend (cm.opid genesis) ⟨[5], by decide⟩⟩
    let records : List (ConsignedOp UInt8 Unit Unit) :=
      [⟨genesis, ⟨[5], by decide⟩, []⟩, ⟨transfer, ⟨[7], by decide⟩, [⟨(), ()⟩]⟩]
    let record : ConsignedOp UInt8 Unit Unit := ⟨second, ⟨[9], by decide⟩, []⟩
    let cutStream := writeArticles codecs articles ++ records.flatMap (recordBytes codecs) ++
      (recordBytes codecs record).take 1
    (∀ record ∈ records,
      (record.seals.items ++ resolver record.operation.destructible.items).length ≤ 0xFFFF) ∧
    (∀ record ∈ records, record.witnesses.length < UInt64.size) ∧
    1 < (codecs.operation.encode record.operation).length ∧
    (readOperation codecs resolver ((recordBytes codecs record).take 1) = .ok none ∧
      sp.consume codecs cm verifier resolver cutStream =
        sp.consume codecs cm verifier resolver
          (writeArticles codecs articles ++ records.flatMap (recordBytes codecs))) ∧
    (sp.consume codecs cm verifier resolver cutStream).2 = .ok () ∧
    (sp.consume codecs cm verifier resolver cutStream).1.stock.log = [genesis, transfer] :=
  ⟨by decide, by decide, by decide, consume_cut_operation _ _ _ _ _ _ _ _ 1 (by decide) (by decide)
    (by decide), rfl, rfl⟩

end Consignment

end RgbWallet
