import RgbWallet.MoundRegistry

/-! What `Mound::issue` and `Mound::consume` may change. `issue` fails exactly at its three
gates and then leaves the mound as it was; past them it files one stockpile and leaves every
other id as it was, though it files the new stockpile even over one already registered under
the same id. `consume` rejects a foreign magic or an unknown contract without touching the
mound, and otherwise changes only the stockpile its envelope names. -/

namespace RgbWallet

namespace Mound

variable {Seal Cli Pub : Type} (cm : Commitments Seal)

theorem issue_error_gate {m : Mound Seal Cli Pub} {params : CreateParams Seal}
    {pile : Pile Seal Cli Pub} {error : IssueError}
    (failed : (m.issue cm params pile).2 = .error (.error error)) :
    params.consensus ≠ m.consensus ∨ params.testnet ≠ m.testnet ∨ params.codexId ∉ m.schemata := by
  unfold issue at failed
  split at failed
  · exact .inl ‹_›
  · split at failed
    · exact .inr (.inl ‹_›)
    · split at failed
      · exact .inr (.inr (AList.lookup_eq_none.mp ‹_›))
      · split at failed <;> cases failed

theorem issue_gate_error (m : Mound Seal Cli Pub) (params : CreateParams Seal)
    (pile : Pile Seal Cli Pub)
    (gate : params.consensus ≠ m.consensus ∨ params.testnet ≠ m.testnet ∨
      params.codexId ∉ m.schemata) :
    ∃ error, (m.issue cm params pile).2 = .error (.error error) := by
  by_cases consensus : params.consensus = m.consensus
  · by_cases testnet : params.testnet = m.testnet
    · have unknown : params.codexId ∉ m.schemata := by simpa [consensus, testnet] using gate
      exact ⟨.unknownCodex params.codexId,
        by simp [issue, consensus, testnet, AList.lookup_eq_none.mpr unknown]⟩
    · exact ⟨if params.testnet then .testnetMismatch else .mainnetMismatch,
        by simp [issue, consensus, testnet]⟩
  · exact ⟨.consensusMismatch, by simp [issue, consensus]⟩

/-- `issue` returns an error exactly when a gate fails, and then leaves the mound as it was. On a
mound whose schemata are filed under their codex ids, once the gates pass, it returns an id exactly
when the schema filed under the params' codex id declares every state they name and their owned
assignments fit a `SmallVec`; whenever it returns no id the mound is unchanged. With an id, the
schemata are kept, the id holds the stockpile `Stockpile::issue` made from the filed schema, whose
id it is, and every other id keeps its stockpile. -/
theorem issue_gated (m : Mound Seal Cli Pub) (params : CreateParams Seal) (pile : Pile Seal Cli Pub)
    (filed : ∀ codexId schema, m.schemata.lookup codexId = some schema →
      cm.codexId schema.codex = codexId) :
    ((∃ error, (m.issue cm params pile).2 = .error (.error error)) ↔
        params.consensus ≠ m.consensus ∨ params.testnet ≠ m.testnet ∨
          params.codexId ∉ m.schemata) ∧
      (∀ schema, m.schemata.lookup params.codexId = some schema →
        params.consensus = m.consensus → params.testnet = m.testnet →
        ((∃ id, (m.issue cm params pile).2 = .ok id) ↔
          schema.Declares params.global (params.owned.map (·.name)) ∧ params.owned.length ≤ 0xFFFF)) ∧
      ((∀ id, (m.issue cm params pile).2 ≠ .ok id) → (m.issue cm params pile).1 = m) ∧
      ∀ id, (m.issue cm params pile).2 = .ok id →
        (m.issue cm params pile).1.schemata = m.schemata ∧
        (∃ schema sp, m.schemata.lookup params.codexId = some schema ∧
          Stockpile.issue cm schema params pile = .ok sp ∧ sp.contractId cm = id ∧
          (m.issue cm params pile).1.contracts.lookup id = some sp) ∧
        ∀ other, other ≠ id →
          (m.issue cm params pile).1.contracts.lookup other = m.contracts.lookup other := by
  refine ⟨⟨fun ⟨_, failed⟩ => issue_error_gate cm failed, issue_gate_error cm m params pile⟩,
    fun schema found consensus testnet => ?_, fun noId => ?_, fun id issued => ?_⟩
  · rw [← Stockpile.issue_ok_iff cm schema params pile (filed _ _ found).symm]
    constructor
    · rintro ⟨id, issued⟩
      rcases issue_cases cm m params pile with ⟨-, none⟩ | ⟨-, -, filedSchema, sp, filedAt, made, -⟩
      · exact absurd issued (none id)
      · rw [found, Option.some.injEq] at filedAt
        exact ⟨sp, filedAt ▸ made⟩
    · rintro ⟨sp, made⟩
      exact ⟨sp.contractId cm, by simp [issue, consensus, testnet, found, made]⟩
  · rcases issue_cases cm m params pile with ⟨same, -⟩ | ⟨-, -, -, sp, -, -, made⟩
    · exact same
    · exact absurd (by rw [made]) (noId (sp.contractId cm))
  · rcases issue_cases cm m params pile with ⟨-, none⟩ | ⟨-, -, schema, sp, found, made, result⟩
    · exact absurd issued (none id)
    · rw [result] at issued ⊢
      cases issued
      exact ⟨rfl, ⟨schema, sp, found, made, rfl, AList.lookup_insert _⟩,
        fun other different => AList.lookup_insert_ne different⟩

/-- A testnet mound with one schema filed under its codex id, and params on that codex naming
only the schema's owned state: issue files the contract under its id. -/
theorem issue_gated_filed :
    let cm := Commitments.small
    let zero : Bytes 32 := Bytes.ofList 32 []
    let schema : Schema := ⟨⟨⟨[], by decide⟩⟩, ⟨[], by decide⟩, ⟨[⟨"asset", by decide⟩], by decide⟩⟩
    let m : Mound UInt8 Unit Unit :=
      { withTestnet .bitcoin with schemata := (∅ : AList _).insert (cm.codexId schema.codex) schema }
    let params : CreateParams UInt8 :=
      ⟨cm.codexId schema.codex, .bitcoin, true, [], [⟨"asset", ⟨.alt 5, zero⟩⟩]⟩
    (∀ codexId schema, m.schemata.lookup codexId = some schema →
      cm.codexId schema.codex = codexId) ∧
    (m.issue cm params Pile.empty).2 = .ok ⟨Bytes.ofList 32 [1]⟩ ∧
    ((∃ error, (m.issue cm params Pile.empty).2 = .error (.error error)) ↔
        params.consensus ≠ m.consensus ∨ params.testnet ≠ m.testnet ∨
          params.codexId ∉ m.schemata) ∧
      (∀ schema, m.schemata.lookup params.codexId = some schema →
        params.consensus = m.consensus → params.testnet = m.testnet →
        ((∃ id, (m.issue cm params Pile.empty).2 = .ok id) ↔
          schema.Declares params.global (params.owned.map (·.name)) ∧ params.owned.length ≤ 0xFFFF)) ∧
      ((∀ id, (m.issue cm params Pile.empty).2 ≠ .ok id) → (m.issue cm params Pile.empty).1 = m) ∧
      ∀ id, (m.issue cm params Pile.empty).2 = .ok id →
        (m.issue cm params Pile.empty).1.schemata = m.schemata ∧
        (∃ schema sp, m.schemata.lookup params.codexId = some schema ∧
          Stockpile.issue cm schema params Pile.empty = .ok sp ∧ sp.contractId cm = id ∧
          (m.issue cm params Pile.empty).1.contracts.lookup id = some sp) ∧
        ∀ other, other ≠ id →
          (m.issue cm params Pile.empty).1.contracts.lookup other = m.contracts.lookup other := by
  intro cm zero schema m params
  have filed : ∀ codexId filedSchema, m.schemata.lookup codexId = some filedSchema →
      cm.codexId filedSchema.codex = codexId := by
    intro codexId filedSchema found
    by_cases same : codexId = cm.codexId schema.codex
    · rw [same, AList.lookup_insert, Option.some.injEq] at found
      rw [same, ← found]
    · rw [AList.lookup_insert_ne same] at found
      cases found
  exact ⟨filed, rfl, issue_gated _ _ _ _ filed⟩

/-- Issuing the same parameters twice files a fresh stockpile over the one registered before,
which by then holds a witness. -/
theorem issue_replaces_registered :
    let cm := Commitments.zero Unit
    let zero : Bytes 32 := Bytes.ofList 32 []
    let schema : Schema := ⟨⟨⟨[], by decide⟩⟩, ⟨[], by decide⟩, ⟨[], by decide⟩⟩
    let params : CreateParams Unit := ⟨⟨zero⟩, .bitcoin, true, [], []⟩
    let m : Mound Unit Unit Unit :=
      { consensus := .bitcoin, testnet := true
        schemata := (∅ : AList _).insert ⟨zero⟩ schema, contracts := ∅ }
    let attested := ((m.issue cm params Pile.empty).1.attest () [(⟨zero⟩, ⟨zero⟩, ())]).1
    let reissued := attested.issue cm params Pile.empty
    reissued.2 = .ok ⟨zero⟩ ∧ (⟨zero⟩ : ContractId) ∈ attested.contracts ∧
      (reissued.1.contracts.lookup ⟨zero⟩).map (·.pile.retrieve ⟨zero⟩) ≠
        (attested.contracts.lookup ⟨zero⟩).map (·.pile.retrieve ⟨zero⟩) :=
  ⟨rfl, by decide, by decide⟩

section Stream

variable (codecs : ConsignmentCodecs Seal Cli Pub) (verifier : Verifier Seal Cli Pub)

theorem readEnvelope_magic (magic : Bytes 16) (rest : List UInt8)
    (foreign : magic ≠ magicBytesConsignment) :
    readEnvelope codecs ((Codec.bytes 16).encode magic ++ rest) = .error (.unrecognizedMagic magic) := by
  simp [readEnvelope, Codec.decode_encode, Except.mapError, foreign]

/-- `consume` keeps the schemata, the environment and the set of contract ids; a stockpile it
changes is the one its envelope names; a foreign magic or an unknown contract leaves the whole
mound as it was. -/
theorem consume_frame (m : Mound Seal Cli Pub) (stream : List UInt8)
    (resolver : List StateCell → List Seal) :
    let consumed := m.consume cm codecs verifier stream resolver
    consumed.1.schemata = m.schemata ∧ consumed.1.consensus = m.consensus ∧
      consumed.1.testnet = m.testnet ∧ (∀ id, id ∈ consumed.1.contracts ↔ id ∈ m.contracts) ∧
      (∀ id, consumed.1.contracts.lookup id ≠ m.contracts.lookup id →
        ∃ rest, readEnvelope codecs stream = .ok (id, rest)) ∧
      (∀ magic rest, magic ≠ magicBytesConsignment →
        stream = (Codec.bytes 16).encode magic ++ rest →
        consumed = (m, .error (.error (.unrecognizedMagic magic)))) ∧
      ∀ id rest, readEnvelope codecs stream = .ok (id, rest) → id ∉ m.contracts →
        consumed = (m, .error (.error (.unknownContract id))) := by
  intro consumed
  have cases := consume_cases cm codecs verifier m stream resolver
  refine ⟨?_, ?_, ?_, fun id => ?_, fun id changed => ?_, fun magic rest foreign framed => ?_,
    fun id rest envelope unknown => ?_⟩
  iterate 3 (rcases cases with same | ⟨_, _, _, _, _, same⟩ <;> rw [same])
  · rcases cases with same | ⟨named, _, _, _, found, made⟩
    · rw [same]
    · rw [made, AList.mem_insert]
      exact ⟨fun | .inl rfl => AList.lookup_isSome.mp (by simp [found]) | .inr kept => kept, .inr⟩
  · rcases cases with same | ⟨named, rest, _, envelope, _, made⟩
    · exact absurd (by rw [same]) changed
    · by_cases same : id = named
      · exact ⟨rest, same ▸ envelope⟩
      · rw [made, AList.lookup_insert_ne same] at changed
        exact absurd rfl changed
  · simp [consumed, consume, framed, readEnvelope_magic codecs magic rest foreign]
  · simp [consumed, consume, envelope, AList.lookup_eq_none.mpr unknown]

end Stream

end Mound

end RgbWallet
