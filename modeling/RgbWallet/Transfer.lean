import RgbWallet.Framing

/-! A transfer end to end. What one mound consigns for a contract, a mound that holds the contract
consumes by evaluating on its stockpile, in order, each operation the sender exports, with the
seals the sender keeps for it followed by the resolver's and the witnesses the sender holds for
it; the receiver's `consume` succeeds when the verifier accepts them all and the sender's article
fields merge with the receiver's genesis. A consume the verifier stops is not rolled back: the
operations before the rejected one stay applied. -/

namespace RgbWallet

section Transfer

variable {Seal Cli Pub : Type} (codecs : ConsignmentCodecs Seal Cli Pub) (cm : Commitments Seal)

theorem Pile.consigned_mapM (pile : Pile Seal Cli Pub) {ops : List Operation}
    {f : Operation → Except String (ConsignedOp Seal Cli Pub)}
    (consigned : ∀ op record, f op = .ok record → pile.consigned op (cm.opid op) = some record)
    {records : List (ConsignedOp Seal Cli Pub)} (made : ops.mapM f = .ok records) :
    records.map (fun record => (record.operation, record.seals.items, record.witnesses)) =
        ops.map (fun op => (op, ((pile.keepRead (cm.opid op)).map SmallVec.items).getD [],
          pile.retrieve (cm.opid op))) ∧
      ∀ record ∈ records, record.operation ∈ ops ∧
        pile.keepRead (cm.opid record.operation) = some record.seals ∧
        record.witnesses = pile.retrieve (cm.opid record.operation) := by
  induction ops generalizing records with
  | nil =>
      cases made
      exact ⟨rfl, fun _ mem => by cases mem⟩
  | cons op ops ih =>
      rw [List.mapM_cons] at made
      obtain ⟨record, first, later⟩ := bind_eq_ok.mp made
      obtain ⟨rest, others, ⟨⟩⟩ := bind_eq_ok.mp later
      obtain ⟨seals, kept, ⟨⟩⟩ := Option.map_eq_some'.mp (consigned op record first)
      obtain ⟨mapped, each⟩ := ih others
      refine ⟨by simp [kept, mapped], fun other mem => ?_⟩
      rcases List.mem_cons.mp mem with rfl | later
      · exact ⟨List.mem_cons_self _ _, kept, rfl⟩
      · obtain ⟨exported, sealed, witnessed⟩ := each other later
        exact ⟨List.mem_cons_of_mem _ exported, sealed, witnessed⟩

theorem Stockpile.consign_eq_ok {sp : Stockpile Seal Cli Pub} {terminals : List AuthToken}
    {bytes : List UInt8} (consigned : sp.consign codecs cm terminals = .ok bytes) :
    ∃ records : List (ConsignedOp Seal Cli Pub),
      bytes = writeArticles codecs sp.stock.articles ++ records.flatMap (recordBytes codecs) ∧
      records.map (fun record => (record.operation, record.seals.items, record.witnesses)) =
        (sp.stock.exportOps cm terminals).map (fun op =>
          (op, ((sp.pile.keepRead (cm.opid op)).map SmallVec.items).getD [], sp.pile.retrieve (cm.opid op))) ∧
      ∀ record ∈ records, record.operation ∈ sp.stock.exportOps cm terminals ∧
        sp.pile.keepRead (cm.opid record.operation) = some record.seals ∧
        record.witnesses = sp.pile.retrieve (cm.opid record.operation) := by
  obtain ⟨records, made, ⟨⟩⟩ := bind_eq_ok.mp consigned
  refine ⟨records, rfl, Pile.consigned_mapM cm sp.pile (fun op record found => ?_) made⟩
  split at found <;> cases found
  assumption

theorem Mound.consign_eq_ok {m : Mound Seal Cli Pub} {contractId : ContractId}
    {terminals : List AuthToken} {bytes : List UInt8}
    (consigned : m.consign cm codecs contractId terminals = .ok bytes) :
    ∃ sp rest, m.contracts.lookup contractId = some sp ∧ sp.consign codecs cm terminals = .ok rest ∧
      bytes = Mound.envelope codecs contractId ++ rest := by
  unfold Mound.consign at consigned
  split at consigned
  · cases consigned
  · rename_i sp found
    obtain ⟨rest, exported, ⟨⟩⟩ := map_eq_ok.mp consigned
    exact ⟨sp, rest, found, exported, rfl⟩

variable (verifier : Verifier Seal Cli Pub)

theorem evaluateReads_outcome (sp : Stockpile Seal Cli Pub)
    (reads : List (OperationSeals Seal × List (SealWitness Cli Pub))) :
    (evaluateReads cm verifier sp reads).2 = .ok () ∨
      ∃ error, (evaluateReads cm verifier sp reads).2 = .error (.error error) := by
  induction reads generalizing sp with
  | nil => exact .inl rfl
  | cons read reads ih =>
      obtain ⟨header, witnesses⟩ := read
      simp only [evaluateReads]
      split
      · exact .inr ⟨_, rfl⟩
      · exact ih _

variable (resolver : List StateCell → List Seal)

theorem Stockpile.consume_written (sp : Stockpile Seal Cli Pub) (articles : Articles)
    (records : List (ConsignedOp Seal Cli Pub))
    (fits : ∀ record ∈ records,
      (record.seals.items ++ resolver record.operation.destructible.items).length ≤ 0xFFFF)
    (counts : ∀ record ∈ records, record.witnesses.length < UInt64.size) :
    let reads := records.pmap
      (fun record fit => ((⟨record.operation, ⟨_, fit⟩⟩ : OperationSeals Seal), record.witnesses)) fits
    let consumed := sp.consume codecs cm verifier resolver
      (writeArticles codecs articles ++ records.flatMap (recordBytes codecs))
    consumed.1 = (evaluateReads cm verifier sp reads).1 ∧
      (consumed.2 = .ok () ↔ (evaluateReads cm verifier sp reads).2 = .ok () ∧
        cm.contractId ⟨articles.contract.meta, articles.contract.codex, sp.stock.articles.contract.genesis⟩ =
          sp.contractId cm) ∧
      ∀ error, (evaluateReads cm verifier sp reads).2 = .error (.error error) →
        consumed.2 = .error (.error (.verify error)) := by
  intro reads consumed
  have prefixLength := length_le_length_recordBytes codecs records
  have evaluated := evaluate_of_readAll codecs cm verifier resolver _ sp _ _
    (readAll_records codecs resolver records [] fits counts (readOperation_nil codecs resolver)
      ((records.flatMap (recordBytes codecs)).length + 1) (by omega))
  rw [List.append_nil] at evaluated
  have articlesKept := (evaluate_extends codecs cm verifier resolver
    ((records.flatMap (recordBytes codecs)).length + 1) sp (records.flatMap (recordBytes codecs))).articles
  rw [evaluated] at articlesKept
  have outcomes := evaluateReads_outcome cm verifier sp reads
  simp only [consumed, Stockpile.consume, readArticles_writeArticles, evaluated]
  generalize evaluateReads cm verifier sp reads = result at articlesKept outcomes ⊢
  obtain ⟨sp', outcome⟩ := result
  rcases outcomes with accepted | ⟨error, rejected⟩
  · cases accepted
    dsimp only at articlesKept
    by_cases merged : cm.contractId ⟨articles.contract.meta, articles.contract.codex,
        sp.stock.articles.contract.genesis⟩ = sp.contractId cm <;>
      simp only [Stockpile.contractId, Stock.contractId] at merged <;>
      simp [Stock.mergeArticles, Stock.contractId, Stockpile.contractId, ArticlesHeader.of, articlesKept,
        merged]
  · cases rejected
    simp

theorem Stockpile.consign_records {sp : Stockpile Seal Cli Pub} {terminals : List AuthToken}
    {bytes : List UInt8} (consigned : sp.consign codecs cm terminals = .ok bytes)
    (fits : ∀ op ∈ sp.stock.exportOps cm terminals, ∀ seals,
      sp.pile.keepRead (cm.opid op) = some seals →
        (seals.items ++ resolver op.destructible.items).length ≤ 0xFFFF)
    (counts : ∀ op ∈ sp.stock.exportOps cm terminals,
      (sp.pile.retrieve (cm.opid op)).length < UInt64.size) :
    ∃ (records : List (ConsignedOp Seal Cli Pub)) (fit : ∀ record ∈ records,
        (record.seals.items ++ resolver record.operation.destructible.items).length ≤ 0xFFFF),
      bytes = writeArticles codecs sp.stock.articles ++ records.flatMap (recordBytes codecs) ∧
      (∀ record ∈ records, record.witnesses.length < UInt64.size) ∧
      (records.pmap (fun record fit =>
          ((⟨record.operation, ⟨_, fit⟩⟩ : OperationSeals Seal), record.witnesses)) fit).map
          (fun read => (read.1.operation, read.1.definedSeals.items, read.2)) =
        (sp.stock.exportOps cm terminals).map (fun op =>
          (op, ((sp.pile.keepRead (cm.opid op)).map SmallVec.items).getD [] ++
            resolver op.destructible.items, sp.pile.retrieve (cm.opid op))) := by
  obtain ⟨records, written, mapped, each⟩ := Stockpile.consign_eq_ok codecs cm consigned
  have fit : ∀ record ∈ records,
      (record.seals.items ++ resolver record.operation.destructible.items).length ≤ 0xFFFF :=
    fun record mem => fits _ (each record mem).1 _ (each record mem).2.1
  refine ⟨records, fit, written, fun record mem => ?_, ?_⟩
  · rw [(each record mem).2.2]
    exact counts _ (each record mem).1
  · have viewed := congrArg (List.map fun view : Operation × List Seal × List (SealWitness Cli Pub) =>
      (view.1, view.2.1 ++ resolver view.1.destructible.items, view.2.2)) mapped
    simp only [List.map_map] at viewed
    simp only [List.map_pmap, List.pmap_eq_map]
    simpa [Function.comp_def] using viewed

/-- A transfer end to end: when a mound consigns a contract for some terminals, a mound that holds
the contract consumes the consignment by evaluating on its stockpile, in order, each operation the
sender exports, with the seals the sender keeps for it followed by the resolver's and the
witnesses the sender holds for it, and files the result under the contract; it returns `Ok`
exactly when the verifier accepts every operation and the sender's article fields with the
receiver's genesis make the receiver's contract. -/
theorem consume_consign (sender receiver : Mound Seal Cli Pub) (contractId : ContractId)
    (terminals : List AuthToken) (bytes : List UInt8) {sent sp : Stockpile Seal Cli Pub}
    (consigned : sender.consign cm codecs contractId terminals = .ok bytes)
    (sentFiled : sender.contracts.lookup contractId = some sent)
    (filed : receiver.contracts.lookup contractId = some sp)
    (fits : ∀ op ∈ sent.stock.exportOps cm terminals, ∀ seals,
      sent.pile.keepRead (cm.opid op) = some seals →
        (seals.items ++ resolver op.destructible.items).length ≤ 0xFFFF)
    (counts : ∀ op ∈ sent.stock.exportOps cm terminals,
      (sent.pile.retrieve (cm.opid op)).length < UInt64.size) :
    ∃ reads, reads.map (fun read => (read.1.operation, read.1.definedSeals.items, read.2)) =
        (sent.stock.exportOps cm terminals).map (fun op =>
          (op, ((sent.pile.keepRead (cm.opid op)).map SmallVec.items).getD [] ++
            resolver op.destructible.items, sent.pile.retrieve (cm.opid op))) ∧
      (receiver.consume cm codecs verifier bytes resolver).1.contracts.lookup contractId =
        some (evaluateReads cm verifier sp reads).1 ∧
      ((receiver.consume cm codecs verifier bytes resolver).2 = .ok () ↔
        (evaluateReads cm verifier sp reads).2 = .ok () ∧
          cm.contractId ⟨sent.stock.articles.contract.meta, sent.stock.articles.contract.codex,
            sp.stock.articles.contract.genesis⟩ = sp.contractId cm) := by
  obtain ⟨sent', rest, sentFound, written, rfl⟩ := Mound.consign_eq_ok codecs cm consigned
  rw [sentFiled, Option.some.injEq] at sentFound
  subst sentFound
  obtain ⟨records, recordFits, rfl, recordCounts, viewed⟩ :=
    Stockpile.consign_records codecs cm resolver written fits counts
  obtain ⟨same, outcome, -⟩ := sp.consume_written codecs cm verifier resolver sent.stock.articles
    records recordFits recordCounts
  refine ⟨records.pmap (fun record fit =>
    ((⟨record.operation, ⟨_, fit⟩⟩ : OperationSeals Seal), record.witnesses)) recordFits, viewed, ?_, ?_⟩
  · simp only [Mound.consume, List.append_assoc, Mound.readEnvelope_envelope, filed]
    rw [AList.lookup_insert, same]
  · simp only [Mound.consume, List.append_assoc, Mound.readEnvelope_envelope, filed]
    rw [← outcome]
    cases (sp.consume codecs cm verifier resolver
      (writeArticles codecs sent.stock.articles ++ records.flatMap (recordBytes codecs))).2 with
    | ok => simp [Except.mapError]
    | error fault => cases fault <;> simp [Except.mapError]

/-- A contract issued on one explicit seal, consigned for the token of its cell, and consumed by
the mound that holds it. -/
theorem consume_consign_issued :
    let cm := Commitments.zero Unit
    let zero : Bytes 32 := Bytes.ofList 32 []
    let schema : Schema := ⟨⟨⟨[], by decide⟩⟩, ⟨[], by decide⟩, ⟨[⟨"asset", by decide⟩], by decide⟩⟩
    let params : CreateParams Unit := ⟨⟨zero⟩, .bitcoin, true, [], [⟨"asset", ⟨.alt (), zero⟩⟩]⟩
    let empty : Mound Unit Unit Unit :=
      { consensus := .bitcoin, testnet := true
        schemata := (∅ : AList _).insert ⟨zero⟩ schema, contracts := ∅ }
    let codecs := ConsignmentCodecs.strict Codec.unit Codec.unit Codec.unit
    let verifier : Verifier Unit Unit Unit := fun _ _ _ => .ok ()
    let resolver : List StateCell → List Unit := fun _ => []
    let m := (empty.issue cm params Pile.empty).1
    ∃ bytes sent, m.consign cm codecs ⟨zero⟩ [⟨zero⟩] = .ok bytes ∧
      m.contracts.lookup ⟨zero⟩ = some sent ∧
      (∀ op ∈ sent.stock.exportOps cm [⟨zero⟩], ∀ seals,
        sent.pile.keepRead (cm.opid op) = some seals →
          (seals.items ++ resolver op.destructible.items).length ≤ 0xFFFF) ∧
      (∀ op ∈ sent.stock.exportOps cm [⟨zero⟩],
        (sent.pile.retrieve (cm.opid op)).length < UInt64.size) ∧
      ∃ reads, reads.map (fun read => (read.1.operation, read.1.definedSeals.items, read.2)) =
          (sent.stock.exportOps cm [⟨zero⟩]).map (fun op =>
            (op, ((sent.pile.keepRead (cm.opid op)).map SmallVec.items).getD [] ++
              resolver op.destructible.items, sent.pile.retrieve (cm.opid op))) ∧
        (m.consume cm codecs verifier bytes resolver).1.contracts.lookup ⟨zero⟩ =
          some (evaluateReads cm verifier sent reads).1 ∧
        ((m.consume cm codecs verifier bytes resolver).2 = .ok () ↔
          (evaluateReads cm verifier sent reads).2 = .ok () ∧
            cm.contractId ⟨sent.stock.articles.contract.meta, sent.stock.articles.contract.codex,
              sent.stock.articles.contract.genesis⟩ = sent.contractId cm) := by
  intro cm zero schema params empty codecs verifier resolver m
  obtain ⟨bytes, consigned⟩ : ∃ bytes, m.consign cm codecs ⟨zero⟩ [⟨zero⟩] = .ok bytes := ⟨_, rfl⟩
  refine ⟨bytes, _, consigned, rfl, fun _ _ seals _ => by simpa using seals.length_le, by decide, ?_⟩
  exact consume_consign codecs cm verifier resolver m m ⟨zero⟩ [⟨zero⟩] bytes consigned rfl rfl
    (fun _ _ seals _ => by simpa using seals.length_le) (by decide)

end Transfer

end RgbWallet
