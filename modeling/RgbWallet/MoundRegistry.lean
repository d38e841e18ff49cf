import RgbWallet.Mound
import RgbWallet.Encoding

/-! What every mound keeps true. Each schema is filed under its own codex id and each stockpile
under its own contract id, with the mound's consensus and network: the constructors build such
mounds and `issue`, `consume` and `attest` keep them so. From the invariant, `issue` never fails
its codex assertion and `consign` writes the id of the stockpile it exports. Along every run of
`issue`, `consume` and `attest` from a mound with no contracts, every stock stays `Live`, so
`select` reports only live cells of the seal's token, each created by a logged operation and
spent by none logged after it. -/

namespace RgbWallet

theorem lookup_collectMap {κ ν : Type} [DecidableEq κ] {entries : List (κ × ν)} {key : κ}
    {value : ν} (found : (collectMap entries).lookup key = some value) : (key, value) ∈ entries :=
  (lookup_foldl_insert entries ∅ found).resolve_right (by simp)

theorem Stockpile.issue_assertion {Seal Cli Pub : Type} (cm : Commitments Seal) {schema : Schema}
    {params : CreateParams Seal} {pile : Pile Seal Cli Pub}
    (failed : Stockpile.issue cm schema params pile = .error "assertion `left == right` failed") :
    params.codexId ≠ cm.codexId schema.codex := by
  intro codexMatches
  unfold Stockpile.issue at failed
  rw [if_neg (not_not.mpr codexMatches)] at failed
  cases found : SmallVec.tryFromIter params.explicitSeals with
  | none =>
      simp only [found] at failed
      exact absurd (Except.error.inj failed) (by decide)
  | some seals =>
      cases made : schema.issue cm (params.issueParams cm) with
      | error message =>
          simp only [found, made] at failed
          rcases Schema.issue_error made with rfl | rfl | rfl <;>
            exact absurd (Except.error.inj failed) (by decide)
      | ok articles => simp [found, made] at failed

namespace Mound

variable {Seal Cli Pub : Type} (cm : Commitments Seal)

structure Registry (m : Mound Seal Cli Pub) : Prop where
  schemata : ∀ codexId schema, m.schemata.lookup codexId = some schema →
    cm.codexId schema.codex = codexId
  contracts : ∀ contractId sp, m.contracts.lookup contractId = some sp →
    sp.contractId cm = contractId ∧ sp.stock.articles.contract.meta.consensus = m.consensus ∧
      sp.stock.articles.contract.meta.testnet = m.testnet

theorem Registry.insert {m : Mound Seal Cli Pub} (registry : Registry cm m) (id : ContractId)
    (sp : Stockpile Seal Cli Pub) (own : sp.contractId cm = id)
    (consensus : sp.stock.articles.contract.meta.consensus = m.consensus)
    (testnet : sp.stock.articles.contract.meta.testnet = m.testnet) :
    Registry cm { m with contracts := m.contracts.insert id sp } := by
  refine ⟨registry.schemata, fun contractId filed found => ?_⟩
  by_cases same : contractId = id
  · subst same
    rw [AList.lookup_insert, Option.some.injEq] at found
    subst found
    exact ⟨own, consensus, testnet⟩
  · rw [AList.lookup_insert_ne same] at found
    exact registry.contracts contractId filed found

theorem Registry.update {m : Mound Seal Cli Pub} (registry : Registry cm m) {id : ContractId}
    {sp : Stockpile Seal Cli Pub} (found : m.contracts.lookup id = some sp)
    (sp' : Stockpile Seal Cli Pub) (same : sp'.stock.articles = sp.stock.articles) :
    Registry cm { m with contracts := m.contracts.insert id sp' } := by
  obtain ⟨own, consensus, testnet⟩ := registry.contracts id sp found
  exact registry.insert cm id sp' (by simpa [Stockpile.contractId, Stock.contractId, same] using own)
    (same ▸ consensus) (same ▸ testnet)

theorem issue_cases (m : Mound Seal Cli Pub) (params : CreateParams Seal)
    (pile : Pile Seal Cli Pub) :
    ((m.issue cm params pile).1 = m ∧ ∀ id, (m.issue cm params pile).2 ≠ .ok id) ∨
      (params.consensus = m.consensus ∧ params.testnet = m.testnet ∧
        ∃ schema sp, m.schemata.lookup params.codexId = some schema ∧
          Stockpile.issue cm schema params pile = .ok sp ∧
          m.issue cm params pile =
            ({ m with contracts := m.contracts.insert (sp.contractId cm) sp }, .ok (sp.contractId cm))) := by
  unfold issue
  split
  · exact .inl ⟨rfl, by simp⟩
  · rename_i consensus
    split
    · exact .inl ⟨rfl, by simp⟩
    · rename_i testnet
      split
      · exact .inl ⟨rfl, by simp⟩
      · rename_i schema found
        split
        · exact .inl ⟨rfl, by simp⟩
        · rename_i sp issued
          exact .inr ⟨not_not.mp consensus, not_not.mp testnet, schema, sp, found, issued, rfl⟩

theorem issue_panic {m : Mound Seal Cli Pub} {params : CreateParams Seal} {pile : Pile Seal Cli Pub}
    {message : String} (panicked : (m.issue cm params pile).2 = .error (.panic message)) :
    ∃ schema, m.schemata.lookup params.codexId = some schema ∧
      Stockpile.issue cm schema params pile = .error message := by
  unfold issue at panicked
  split at panicked
  · cases panicked
  · split at panicked
    · cases panicked
    · split at panicked
      · cases panicked
      · split at panicked
        · cases panicked
          exact ⟨_, ‹_›, ‹_›⟩
        · cases panicked

theorem registry_issue {m : Mound Seal Cli Pub} (registry : Registry cm m) (params : CreateParams Seal)
    (pile : Pile Seal Cli Pub) : Registry cm (m.issue cm params pile).1 := by
  rcases issue_cases cm m params pile with ⟨same, -⟩ | ⟨consensus, testnet, schema, sp, -, issued, made⟩
  · rwa [same]
  · have meta := Stockpile.issue_meta cm issued
    rw [made]
    exact registry.insert cm _ sp rfl (by rw [meta, consensus]) (by rw [meta, testnet])

theorem registry_attest {m : Mound Seal Cli Pub} (registry : Registry cm m) (published : Pub)
    (anchors : List (ContractId × Opid × Cli)) : Registry cm (m.attest published anchors).1 := by
  induction anchors generalizing m with
  | nil => exact registry
  | cons anchor rest ih =>
      obtain ⟨contractId, opid, client⟩ := anchor
      unfold attest
      split
      · exact registry
      · rename_i sp found
        exact ih (registry.update cm found _ rfl)

section Stream

variable (codecs : ConsignmentCodecs Seal Cli Pub) (verifier : Verifier Seal Cli Pub)

theorem consume_cases (m : Mound Seal Cli Pub) (stream : List UInt8)
    (resolver : List StateCell → List Seal) :
    (m.consume cm codecs verifier stream resolver).1 = m ∨
      ∃ contractId rest sp, readEnvelope codecs stream = .ok (contractId, rest) ∧
        m.contracts.lookup contractId = some sp ∧
        (m.consume cm codecs verifier stream resolver).1 =
          { m with
            contracts := m.contracts.insert contractId (sp.consume codecs cm verifier resolver rest).1 } := by
  unfold consume
  split
  · exact .inl rfl
  · rename_i contractId rest envelope
    split
    · exact .inl rfl
    · rename_i sp found
      exact .inr ⟨contractId, rest, sp, envelope, found, rfl⟩

theorem registry_consume {m : Mound Seal Cli Pub} (registry : Registry cm m) (stream : List UInt8)
    (resolver : List StateCell → List Seal) :
    Registry cm (m.consume cm codecs verifier stream resolver).1 := by
  rcases consume_cases cm codecs verifier m stream resolver with same | ⟨_, rest, sp, -, found, made⟩
  · rwa [same]
  · rw [made]
    exact registry.update cm found _ (Stockpile.consume_articles codecs cm verifier resolver sp rest)

end Stream

inductive Step : Mound Seal Cli Pub → Mound Seal Cli Pub → Prop
  | issue (m : Mound Seal Cli Pub) (params : CreateParams Seal) (pile : Pile Seal Cli Pub) :
      Step m (m.issue cm params pile).1
  | consume (m : Mound Seal Cli Pub) (codecs : ConsignmentCodecs Seal Cli Pub)
      (verifier : Verifier Seal Cli Pub) (stream : List UInt8)
      (resolver : List StateCell → List Seal) :
      Step m (m.consume cm codecs verifier stream resolver).1
  | attest (m : Mound Seal Cli Pub) (published : Pub) (anchors : List (ContractId × Opid × Cli)) :
      Step m (m.attest published anchors).1

inductive Reachable : Mound Seal Cli Pub → Prop
  | withTestnet (consensus : Consensus) : Reachable (withTestnet consensus)
  | bitcoinTestnet : Reachable bitcoinTestnet
  | loadTestnet (consensus : Consensus) (contents : Bool → List (FileType × Path))
      (loadSchema : Path → Option Schema) (loadStockpile : Path → Stockpile Seal Cli Pub) :
      Reachable (loadTestnet cm consensus contents loadSchema loadStockpile)
  | step {m m' : Mound Seal Cli Pub} : Reachable m → Step cm m m' → Reachable m'

theorem registry_loadTestnet (consensus : Consensus) (contents : Bool → List (FileType × Path))
    (loadSchema : Path → Option Schema) (loadStockpile : Path → Stockpile Seal Cli Pub) :
    Registry cm (loadTestnet cm consensus contents loadSchema loadStockpile) := by
  constructor
  · intro codexId schema found
    obtain ⟨⟨ty, path⟩, -, made⟩ := List.mem_filterMap.mp (lookup_collectMap found)
    dsimp only at made
    split at made
    · obtain ⟨loaded, -, same⟩ := Option.map_eq_some'.mp made
      cases same
      rfl
    · cases made
  · intro contractId sp found
    obtain ⟨⟨ty, path⟩, -, made⟩ := List.mem_filterMap.mp (lookup_collectMap found)
    dsimp only at made
    split at made
    · split at made
      · rename_i environment
        cases made
        exact ⟨rfl, environment⟩
      · cases made
    · cases made

theorem registry_step {m m' : Mound Seal Cli Pub} (registry : Registry cm m) (step : Step cm m m') :
    Registry cm m' := by
  cases step with
  | issue params pile => exact registry_issue cm registry params pile
  | consume codecs verifier stream resolver =>
      exact registry_consume cm codecs verifier registry stream resolver
  | attest published anchors => exact registry_attest cm registry published anchors

theorem registry_of_reachable {m : Mound Seal Cli Pub} (reachable : Reachable cm m) :
    Registry cm m := by
  induction reachable with
  | withTestnet consensus => exact ⟨by simp [withTestnet], by simp [withTestnet]⟩
  | bitcoinTestnet => exact ⟨by simp [bitcoinTestnet], by simp [bitcoinTestnet]⟩
  | loadTestnet consensus contents loadSchema loadStockpile =>
      exact registry_loadTestnet cm consensus contents loadSchema loadStockpile
  | step _ step ih => exact registry_step cm ih step

/-- Every reachable mound files each schema under its own codex id and each stockpile under its
own id with the mound's consensus and network; so `issue` never fails the codex assertion of
`Stockpile::issue`, and `consign` writes the id of the stockpile it exports. -/
theorem reachable_registry {m : Mound Seal Cli Pub} (reachable : Reachable cm m) :
    Registry cm m ∧
      (∀ params pile, (m.issue cm params pile).2 ≠ .error (.panic "assertion `left == right` failed")) ∧
      ∀ (codecs : ConsignmentCodecs Seal Cli Pub) contractId terminals bytes,
        m.consign cm codecs contractId terminals = .ok bytes →
        ∃ sp rest, m.contracts.lookup contractId = some sp ∧ sp.consign codecs cm terminals = .ok rest ∧
          bytes = envelope codecs (sp.contractId cm) ++ rest := by
  have registry := registry_of_reachable cm reachable
  refine ⟨registry, fun params pile panicked => ?_, fun codecs contractId terminals bytes consigned => ?_⟩
  · obtain ⟨schema, found, failed⟩ := issue_panic cm panicked
    exact Stockpile.issue_assertion cm failed (registry.schemata _ _ found).symm
  · unfold consign at consigned
    split at consigned
    · cases consigned
    · rename_i sp found
      cases exported : sp.consign codecs cm terminals with
      | error message => simp [exported, Functor.map, Except.map] at consigned
      | ok rest =>
          simp only [exported, Functor.map, Except.map, Except.ok.injEq] at consigned
          exact ⟨sp, rest, found, exported, by rw [← consigned, (registry.contracts _ _ found).1]⟩

/-- A mound loaded from a directory holding one schema file, into which a contract is issued on
seal 5, attested, and sent its own consignment: the contract is filed under its id, and consigning
it succeeds. -/
theorem loadTestnet_registry :
    let cm := Commitments.small
    let zero : Bytes 32 := Bytes.ofList 32 []
    let schema : Schema := ⟨⟨⟨[], by decide⟩⟩, ⟨[], by decide⟩, ⟨[⟨"asset", by decide⟩], by decide⟩⟩
    let stored : Stockpile UInt8 Unit Unit :=
      ⟨⟨⟨⟨⟨true, .bitcoin⟩, schema.codex, ⟨⟨zero⟩, ⟨[], by decide⟩, ⟨[], by decide⟩⟩⟩,
        ⟨⟨[], by decide⟩⟩, schema⟩, [], ∅, ∅⟩, Pile.empty⟩
    let loaded : Mound UInt8 Unit Unit := loadTestnet cm .bitcoin
      (fun top => if top then [(.file, ⟨"asset", some "issuer"⟩)] else []) (fun _ => some schema)
      fun _ => stored
    let params : CreateParams UInt8 := ⟨⟨zero⟩, .bitcoin, true, [], [⟨"asset", ⟨.alt 5, zero⟩⟩]⟩
    let codecs := ConsignmentCodecs.strict Codec.u8 Codec.unit Codec.unit
    let verifier : Verifier UInt8 Unit Unit := fun _ _ _ => .ok ()
    let issued := (loaded.issue cm params Pile.empty).1
    let id : ContractId := ⟨Bytes.ofList 32 [1]⟩
    let attested := (issued.attest () [(id, ⟨Bytes.ofList 32 [0]⟩, ())]).1
    let stream := (attested.consign cm codecs id [cm.authToken 5]).toOption.getD []
    let consumed := (attested.consume cm codecs verifier stream fun _ => []).1
    Reachable cm consumed ∧
      (Registry cm consumed ∧
        (∀ params pile,
          (consumed.issue cm params pile).2 ≠ .error (.panic "assertion `left == right` failed")) ∧
        ∀ (codecs : ConsignmentCodecs UInt8 Unit Unit) contractId terminals bytes,
          consumed.consign cm codecs contractId terminals = .ok bytes →
          ∃ sp rest, consumed.contracts.lookup contractId = some sp ∧
            sp.consign codecs cm terminals = .ok rest ∧ bytes = envelope codecs (sp.contractId cm) ++ rest) ∧
      id ∈ consumed.contracts ∧ ∃ bytes, consumed.consign cm codecs id [cm.authToken 5] = .ok bytes := by
  refine (fun reachable => ⟨reachable, reachable_registry _ reachable, ?_, ?_⟩)
    (.step (.step (.step (.loadTestnet _ _ _ _) (.issue _ _ _)) (.attest _ _ _)) (.consume _ _ _ _ _))
  · set_option maxRecDepth 8000 in decide
  · have okOf : ∀ {result : Except String (List UInt8)}, result.isOk = true → ∃ bytes, result = .ok bytes := by
      intro result
      cases result <;> simp [Except.isOk, Except.toBool]
    exact okOf (by set_option maxRecDepth 8000 in decide)

section Live

variable (codecs : ConsignmentCodecs Seal Cli Pub)

def Live (m : Mound Seal Cli Pub) : Prop :=
  ∀ id sp, m.contracts.lookup id = some sp → Stock.Live cm sp.stock

theorem Live.insert {m : Mound Seal Cli Pub} (live : Live cm m) (id : ContractId)
    {sp : Stockpile Seal Cli Pub} (stockLive : Stock.Live cm sp.stock) :
    Live cm { m with contracts := m.contracts.insert id sp } := by
  intro other filed found
  by_cases same : other = id
  · subst same
    rw [AList.lookup_insert, Option.some.injEq] at found
    exact found ▸ stockLive
  · rw [AList.lookup_insert_ne same] at found
    exact live other filed found

theorem live_step {m m' : Mound Seal Cli Pub} (live : Live cm m) (step : Step cm m m') : Live cm m' := by
  cases step with
  | issue params pile =>
      rcases issue_cases cm m params pile with ⟨same, -⟩ | ⟨-, -, _, sp, -, issued, made⟩
      · rwa [same]
      · obtain ⟨-, _, articles, -, -, rfl⟩ := Stockpile.issue_eq_ok cm issued
        rw [made]
        exact live.insert cm _ (Stock.init_live cm articles)
  | consume codecs verifier stream resolver =>
      rcases consume_cases cm codecs verifier m stream resolver with same | ⟨_, rest, sp, -, found, made⟩
      · rwa [same]
      · rw [made]
        exact live.insert cm _ (Stockpile.consume_invariant codecs cm verifier resolver
          (fun sp => Stock.Live cm sp.stock) (fun _ _ _ stockLive => stockLive)
          (fun _ op stockLive => Stock.apply_live cm stockLive op.operation) rest (live _ _ found))
  | attest published anchors =>
      induction anchors generalizing m with
      | nil => exact live
      | cons anchor rest ih =>
          obtain ⟨contractId, opid, client⟩ := anchor
          unfold attest
          split
          · exact live
          · rename_i sp found
            exact ih (live.insert cm _ (show Stock.Live cm sp.stock from live _ _ found))

theorem live_of_run {m m' : Mound Seal Cli Pub} (empty : m.contracts = ∅)
    (run : Relation.ReflTransGen (Step cm) m m') : Live cm m' := by
  induction run with
  | refl => exact fun id sp found => by simp [empty] at found
  | tail _ step live => exact live_step cm live step

/-- On a mound that starts with no contracts, after any run of issues, consumes and attestations,
each contract and address that `select` reports for a seal name a contract the mound holds and,
in its stock, a live cell guarded by the seal's auth token, created at that address by a logged
operation that no operation logged after it spends. -/
theorem run_select_unspent {m m' : Mound Seal Cli Pub} (empty : m.contracts = ∅)
    (run : Relation.ReflTransGen (Step cm) m m') (value : Seal) (id : ContractId) (addr : CellAddr)
    (selected : (id, addr) ∈ m'.select cm value) :
    ∃ sp cell, m'.contracts.lookup id = some sp ∧ sp.stock.owned.lookup addr = some cell ∧
      cell.auth = cm.authToken value ∧
      ∃ (i : Nat) (op : Operation), sp.stock.log[i]? = some op ∧ (addr, cell) ∈ op.cells (cm.opid op) ∧
        ∀ (j : Nat) (later : Operation), i < j → sp.stock.log[j]? = some later →
          addr ∉ later.destroying.items := by
  have live := live_of_run cm empty run
  obtain ⟨sp, filed, sealed⟩ := (mem_select cm m' value id addr).mp selected
  obtain ⟨cell, found, auth⟩ := (live id sp filed).indexed _ _ sealed
  exact ⟨sp, cell, filed, found, auth, (live id sp filed).unspent _ _ found⟩

/-- A contract issued on seals 5 and 7, sent a transfer that spends the cell on seal 5 into a cell
on seal 9, and then sent its own consignment again, genesis first: the genesis is not applied a
second time, so `select` finds nothing for seal 5 and finds the cell on seal 7, which the genesis
created and the transfer left unspent. -/
theorem run_select_unspent_replayed :
    let cm := Commitments.small
    let zero : Bytes 32 := Bytes.ofList 32 []
    let schema : Schema := ⟨⟨⟨[], by decide⟩⟩, ⟨[], by decide⟩, ⟨[⟨"asset", by decide⟩], by decide⟩⟩
    let params : CreateParams UInt8 :=
      ⟨⟨zero⟩, .bitcoin, true, [], [⟨"asset", ⟨.alt 5, zero⟩⟩, ⟨"asset", ⟨.alt 7, zero⟩⟩]⟩
    let empty : Mound UInt8 Unit Unit :=
      { consensus := .bitcoin, testnet := true
        schemata := (∅ : AList _).insert ⟨zero⟩ schema, contracts := ∅ }
    let codecs := ConsignmentCodecs.strict Codec.u8 Codec.unit Codec.unit
    let verifier : Verifier UInt8 Unit Unit := fun _ _ _ => .ok ()
    let id : ContractId := ⟨Bytes.ofList 32 [2]⟩
    let genesis : Opid := ⟨Bytes.ofList 32 [0]⟩
    let transfer : ConsignedOp UInt8 Unit Unit :=
      ⟨⟨⟨zero⟩, ⟨[⟨genesis, 0⟩], by decide⟩, ⟨[⟨zero, cm.authToken 9⟩], by decide⟩⟩, ⟨[9], by decide⟩, []⟩
    let issued := (empty.issue cm params Pile.empty).1
    let consignment := (issued.consign cm codecs id [cm.authToken 5]).toOption.getD []
    let transferred :=
      (issued.consume cm codecs verifier (consignment ++ recordBytes codecs transfer) fun _ => []).1
    let replayed := (transferred.consume cm codecs verifier consignment fun _ => []).1
    empty.contracts = ∅ ∧ Relation.ReflTransGen (Step cm) empty replayed ∧
      replayed.select cm 5 = [] ∧ (id, ⟨genesis, 1⟩) ∈ replayed.select cm 7 ∧
      ∃ sp cell, replayed.contracts.lookup id = some sp ∧ sp.stock.owned.lookup ⟨genesis, 1⟩ = some cell ∧
        cell.auth = cm.authToken 7 ∧
        ∃ (i : Nat) (op : Operation), sp.stock.log[i]? = some op ∧
          (⟨genesis, 1⟩, cell) ∈ op.cells (cm.opid op) ∧
          ∀ (j : Nat) (later : Operation), i < j → sp.stock.log[j]? = some later →
            ⟨genesis, 1⟩ ∉ later.destroying.items := by
  refine (fun run selected => ⟨rfl, run, by set_option maxRecDepth 8000 in decide, selected,
    run_select_unspent _ rfl run 7 _ _ selected⟩)
    (.tail (.tail (.single (.issue _ _ _)) (.consume _ _ _ _ _)) (.consume _ _ _ _ _)) ?_
  set_option maxRecDepth 8000 in decide

end Live

end Mound

end RgbWallet
