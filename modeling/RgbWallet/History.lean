import RgbWallet.MoundRegistry
import RgbWallet.Encoding

/-! What the steps of a mound never lose. `attest` and `consume` keep every stockpile filed, with
its history continued (`Stockpile.Extends`): the same articles, the operation log and each
operation's witnesses extended, the seals kept for each operation unchanged. `issue` does the same
for every contract but the one it files, so a run of steps none of which issues a contract over
one already filed loses nothing. `attest` is accounted for exactly: each stockpile receives the
anchors addressed to it, in order, up to the first anchor of a contract the mound does not hold. -/

namespace RgbWallet

namespace Mound

variable {Seal Cli Pub : Type} (cm : Commitments Seal)

structure Keeps (m m' : Mound Seal Cli Pub) : Prop where
  schemata : m'.schemata = m.schemata
  consensus : m'.consensus = m.consensus
  testnet : m'.testnet = m.testnet
  contracts : ∀ id sp, m.contracts.lookup id = some sp →
    ∃ sp', m'.contracts.lookup id = some sp' ∧ sp.Extends sp'

theorem Keeps.refl (m : Mound Seal Cli Pub) : Keeps m m :=
  ⟨rfl, rfl, rfl, fun _ sp filed => ⟨sp, filed, .refl sp⟩⟩

theorem Keeps.trans {m m₁ m₂ : Mound Seal Cli Pub} (first : Keeps m m₁) (later : Keeps m₁ m₂) :
    Keeps m m₂ := by
  refine ⟨later.schemata.trans first.schemata, later.consensus.trans first.consensus,
    later.testnet.trans first.testnet, fun id sp filed => ?_⟩
  obtain ⟨sp₁, filed₁, continued₁⟩ := first.contracts id sp filed
  obtain ⟨sp₂, filed₂, continued₂⟩ := later.contracts id sp₁ filed₁
  exact ⟨sp₂, filed₂, continued₁.trans continued₂⟩

theorem Keeps.update {m : Mound Seal Cli Pub} {id : ContractId} {sp sp' : Stockpile Seal Cli Pub}
    (found : m.contracts.lookup id = some sp) (continued : sp.Extends sp') :
    Keeps m { m with contracts := m.contracts.insert id sp' } := by
  refine ⟨rfl, rfl, rfl, fun other before filed => ?_⟩
  by_cases same : other = id
  · subst same
    rw [found, Option.some.injEq] at filed
    subst filed
    exact ⟨sp', AList.lookup_insert _, continued⟩
  · exact ⟨before, by rw [AList.lookup_insert_ne same]; exact filed, .refl before⟩

theorem Keeps.insert {m : Mound Seal Cli Pub} {id : ContractId} (absent : id ∉ m.contracts)
    (sp : Stockpile Seal Cli Pub) : Keeps m { m with contracts := m.contracts.insert id sp } := by
  refine ⟨rfl, rfl, rfl, fun other before filed => ⟨before, ?_, .refl before⟩⟩
  have different : other ≠ id := by
    rintro rfl
    exact absent (AList.lookup_isSome.mp (by simp [filed]))
  rw [AList.lookup_insert_ne different]
  exact filed

theorem attest_keeps (m : Mound Seal Cli Pub) (published : Pub)
    (anchors : List (ContractId × Opid × Cli)) : Keeps m (m.attest published anchors).1 := by
  induction anchors generalizing m with
  | nil => exact .refl m
  | cons anchor rest ih =>
      obtain ⟨contractId, opid, client⟩ := anchor
      unfold attest
      split
      · exact .refl m
      · rename_i sp found
        exact (Keeps.update found (sp.attest_extends opid client published)).trans (ih _)

theorem consume_keeps (codecs : ConsignmentCodecs Seal Cli Pub) (verifier : Verifier Seal Cli Pub)
    (m : Mound Seal Cli Pub) (stream : List UInt8) (resolver : List StateCell → List Seal) :
    Keeps m (m.consume cm codecs verifier stream resolver).1 := by
  rcases consume_cases cm codecs verifier m stream resolver with same | ⟨_, rest, sp, -, found, made⟩
  · rw [same]
    exact .refl m
  · rw [made]
    exact Keeps.update found (sp.consume_extends codecs cm verifier resolver rest)

theorem issue_keeps (m : Mound Seal Cli Pub) (params : CreateParams Seal) (pile : Pile Seal Cli Pub) :
    Keeps m (m.issue cm params pile).1 ∨
      ∃ id, (m.issue cm params pile).2 = .ok id ∧ id ∈ m.contracts := by
  rcases issue_cases cm m params pile with ⟨same, -⟩ | ⟨-, -, -, sp, -, -, made⟩
  · rw [same]
    exact .inl (.refl m)
  · rw [made]
    by_cases filed : sp.contractId cm ∈ m.contracts
    · exact .inr ⟨_, rfl, filed⟩
    · exact .inl (Keeps.insert filed sp)

inductive Appends : Mound Seal Cli Pub → Mound Seal Cli Pub → Prop
  | issue (m : Mound Seal Cli Pub) (params : CreateParams Seal) (pile : Pile Seal Cli Pub)
      (fresh : ∀ id, (m.issue cm params pile).2 = .ok id → id ∉ m.contracts) :
      Appends m (m.issue cm params pile).1
  | consume (m : Mound Seal Cli Pub) (codecs : ConsignmentCodecs Seal Cli Pub)
      (verifier : Verifier Seal Cli Pub) (stream : List UInt8)
      (resolver : List StateCell → List Seal) :
      Appends m (m.consume cm codecs verifier stream resolver).1
  | attest (m : Mound Seal Cli Pub) (published : Pub) (anchors : List (ContractId × Opid × Cli)) :
      Appends m (m.attest published anchors).1

theorem appends_keeps {m m' : Mound Seal Cli Pub} (step : Appends cm m m') : Keeps m m' := by
  cases step with
  | issue params pile fresh =>
      rcases issue_keeps cm m params pile with kept | ⟨id, issued, filed⟩
      · exact kept
      · exact absurd filed (fresh id issued)
  | consume codecs verifier stream resolver => exact consume_keeps cm codecs verifier m stream resolver
  | attest published anchors => exact attest_keeps m published anchors

/-- Over any run of `consume`, `attest` and `issue` steps in which no issue files a contract the
mound already holds, the schemata and the environment stay, and every stockpile filed at the start
is still filed at the end with the same articles, its operation log extended, the seals kept for
each operation unchanged and each operation's witnesses extended. -/
theorem keeps_of_appends {m m' : Mound Seal Cli Pub} (run : Relation.ReflTransGen (Appends cm) m m') :
    Keeps m m' := by
  induction run with
  | refl => exact .refl m
  | tail _ step kept => exact kept.trans (appends_keeps cm step)

/-- A mound holding a contract on seal 5 issues a second contract, on seals 6 and 7, attests the
first, and consumes a consignment of the first that the stockpile accepts: the first contract is
kept, and the second is filed. -/
theorem keeps_of_appends_issued :
    let cm := Commitments.small
    let zero : Bytes 32 := Bytes.ofList 32 []
    let schema : Schema := ⟨⟨⟨[], by decide⟩⟩, ⟨[], by decide⟩, ⟨[⟨"asset", by decide⟩], by decide⟩⟩
    let first : CreateParams UInt8 := ⟨⟨zero⟩, .bitcoin, true, [], [⟨"asset", ⟨.alt 5, zero⟩⟩]⟩
    let second : CreateParams UInt8 :=
      ⟨⟨zero⟩, .bitcoin, true, [], [⟨"asset", ⟨.alt 6, zero⟩⟩, ⟨"asset", ⟨.alt 7, zero⟩⟩]⟩
    let empty : Mound UInt8 Unit Unit :=
      { consensus := .bitcoin, testnet := true
        schemata := (∅ : AList _).insert ⟨zero⟩ schema, contracts := ∅ }
    let m := (empty.issue cm first Pile.empty).1
    let codecs := ConsignmentCodecs.strict Codec.u8 Codec.unit Codec.unit
    let verifier : Verifier UInt8 Unit Unit := fun _ _ _ => .ok ()
    let id : ContractId := ⟨Bytes.ofList 32 [1]⟩
    let issued := (m.issue cm second Pile.empty).1
    let attested := (issued.attest () [(id, ⟨Bytes.ofList 32 [0]⟩, ())]).1
    let stream := (attested.consign cm codecs id [cm.authToken 5]).toOption.getD []
    let consumed := attested.consume cm codecs verifier stream fun _ => []
    id ∈ m.contracts ∧ (⟨Bytes.ofList 32 [2]⟩ : ContractId) ∈ consumed.1.contracts ∧
      consumed.2.isOk = true ∧ Relation.ReflTransGen (Appends cm) m consumed.1 ∧ Keeps m consumed.1 := by
  refine (fun run => ⟨by decide, by set_option maxRecDepth 8000 in decide,
    by set_option maxRecDepth 8000 in decide, run, keeps_of_appends _ run⟩)
    (.tail (.tail (.single (.issue _ _ _ fun id issued => ?_)) (.attest _ _ _)) (.consume _ _ _ _ _))
  obtain rfl : id = ⟨Bytes.ofList 32 [2]⟩ := Except.ok.inj (issued.symm.trans rfl)
  decide

section Accounting

variable {Seal Cli Pub : Type}

theorem mem_insert_of_mem {m : Mound Seal Cli Pub} {id other : ContractId}
    (present : id ∈ m.contracts) (sp : Stockpile Seal Cli Pub) :
    other ∈ m.contracts.insert id sp ↔ other ∈ m.contracts := by
  rw [AList.mem_insert]
  exact ⟨fun | .inl rfl => present | .inr kept => kept, .inr⟩

theorem attest_eq_ok_iff (m : Mound Seal Cli Pub) (published : Pub)
    (anchors : List (ContractId × Opid × Cli)) :
    (m.attest published anchors).2 = .ok () ↔ ∀ anchor ∈ anchors, anchor.1 ∈ m.contracts := by
  induction anchors generalizing m with
  | nil => simp [attest]
  | cons anchor rest ih =>
      obtain ⟨contractId, opid, client⟩ := anchor
      unfold attest
      split
      · rename_i unknown
        simp [AList.lookup_eq_none.mp unknown]
      · rename_i sp found
        have present : contractId ∈ m.contracts := AList.lookup_isSome.mp (by simp [found])
        simp only [ih, mem_insert_of_mem present, List.forall_mem_cons, present, true_and]

theorem mem_attest (m : Mound Seal Cli Pub) (published : Pub) (anchors : List (ContractId × Opid × Cli))
    (id : ContractId) : id ∈ (m.attest published anchors).1.contracts ↔ id ∈ m.contracts := by
  induction anchors generalizing m with
  | nil => rfl
  | cons anchor rest ih =>
      obtain ⟨contractId, opid, client⟩ := anchor
      unfold attest
      split
      · rfl
      · rename_i sp found
        exact (ih _).trans (mem_insert_of_mem (AList.lookup_isSome.mp (by simp [found])) _)

theorem attest_retrieve (m : Mound Seal Cli Pub) (published : Pub)
    (anchors : List (ContractId × Opid × Cli)) {id : ContractId} {sp : Stockpile Seal Cli Pub}
    (filed : m.contracts.lookup id = some sp) :
    ∃ sp', (m.attest published anchors).1.contracts.lookup id = some sp' ∧ sp'.stock = sp.stock ∧
      sp'.pile.keep = sp.pile.keep ∧ ∀ opid, sp'.pile.retrieve opid = sp.pile.retrieve opid ++
        (((anchors.takeWhile fun anchor => anchor.1 ∈ m.contracts).filter
          fun anchor => anchor.1 = id ∧ anchor.2.1 = opid).map fun anchor => ⟨published, anchor.2.2⟩) := by
  induction anchors generalizing m sp with
  | nil => exact ⟨sp, filed, rfl, rfl, fun opid => by simp⟩
  | cons anchor rest ih =>
      obtain ⟨contractId, opid', client⟩ := anchor
      unfold attest
      split
      · rename_i unknown
        refine ⟨sp, filed, rfl, rfl, fun opid => ?_⟩
        simp [AList.lookup_eq_none.mp unknown]
      · rename_i before found
        have present : contractId ∈ m.contracts := AList.lookup_isSome.mp (by simp [found])
        have sameIds : (fun anchor : ContractId × Opid × Cli =>
            decide (anchor.1 ∈ m.contracts.insert contractId (before.attest opid' client published))) =
            fun anchor => decide (anchor.1 ∈ m.contracts) := by
          funext anchor
          simp only [mem_insert_of_mem present]
        by_cases same : id = contractId
        · subst same
          rw [found, Option.some.injEq] at filed
          subst filed
          obtain ⟨sp', refiled, stock, keep, retrieved⟩ :=
            ih { m with contracts := m.contracts.insert id (before.attest opid' client published) }
              (AList.lookup_insert _)
          refine ⟨sp', refiled, stock, keep, fun opid => ?_⟩
          rw [retrieved, sameIds]
          rcases eq_or_ne opid opid' with rfl | otherOp
          · simp [Stockpile.attest, present]
          · simp [Stockpile.attest, present, otherOp, otherOp.symm]
        · obtain ⟨sp', refiled, stock, keep, retrieved⟩ :=
            ih { m with contracts := m.contracts.insert contractId (before.attest opid' client published) }
              (by rw [AList.lookup_insert_ne same]; exact filed)
          refine ⟨sp', refiled, stock, keep, fun opid => ?_⟩
          rw [retrieved, sameIds]
          simp [present, Ne.symm same]

/-- `attest` succeeds exactly when every anchor names a contract the mound holds, never changes
which contracts it holds, and hands each anchor to the stockpile of its contract in order,
panicking at the first anchor of a contract it does not hold: each stockpile keeps its stock and
kept seals, and gains under each operation exactly the anchors addressed to it before that point,
in order, none lost and none twice. -/
theorem attest_accounts (m : Mound Seal Cli Pub) (published : Pub)
    (anchors : List (ContractId × Opid × Cli)) :
    ((m.attest published anchors).2 = .ok () ↔ ∀ anchor ∈ anchors, anchor.1 ∈ m.contracts) ∧
      (∀ id, id ∈ (m.attest published anchors).1.contracts ↔ id ∈ m.contracts) ∧
      ∀ id sp, m.contracts.lookup id = some sp →
        ∃ sp', (m.attest published anchors).1.contracts.lookup id = some sp' ∧
          sp'.stock = sp.stock ∧ sp'.pile.keep = sp.pile.keep ∧
          ∀ opid, sp'.pile.retrieve opid = sp.pile.retrieve opid ++
            (((anchors.takeWhile fun anchor => anchor.1 ∈ m.contracts).filter
              fun anchor => anchor.1 = id ∧ anchor.2.1 = opid).map fun anchor => ⟨published, anchor.2.2⟩) :=
  ⟨attest_eq_ok_iff m published anchors, mem_attest m published anchors,
    fun _ _ filed => attest_retrieve m published anchors filed⟩

end Accounting

end Mound

end RgbWallet
