import RgbWallet.Stock

/-! `Stockpile` (src/stockpile.rs): a contract's stock and its pile, how a contract is issued
into them, how operations and witnesses are applied, and the state the stockpile serves, where
each owned cell is joined with the seal the pile keeps at the cell's position. Where the code
panics, the model returns `.error` with the code's message: `issue` on a codex mismatch, on too
many outputs, and where `Schema::issue` rejects a state name the schema does not declare; `state`
where `keep.read(opid)[pos]` fails. `CreateParams` and `IssueParams` keep the fields `issue`
reads; of the global state, its names. -/

namespace RgbWallet

inductive EitherSeal (Seal : Type)
  | alt (value : Seal)
  | token (auth : AuthToken)
deriving DecidableEq, Repr

namespace EitherSeal

variable {Seal : Type}

def authToken (cm : Commitments Seal) : EitherSeal Seal → AuthToken
  | alt value => cm.authToken value
  | token auth => auth

def toExplicit : EitherSeal Seal → Option Seal
  | alt value => some value
  | token _ => none

end EitherSeal

structure Assignment (Seal : Type) where
  «seal» : Seal
  data : Bytes 32
deriving DecidableEq, Repr

structure NamedState (α : Type) where
  name : String
  state : α
deriving DecidableEq, Repr

structure CreateParams (Seal : Type) where
  codexId : CodexId
  consensus : Consensus
  testnet : Bool
  global : List String
  owned : List (NamedState (Assignment (EitherSeal Seal)))
deriving DecidableEq, Repr

structure IssueParams where
  consensus : Consensus
  testnet : Bool
  global : List String
  owned : List (NamedState StateCell)
deriving DecidableEq, Repr

/-- Modelled from the spec: `Schema::issue` rejects params that name a global or an owned state
the schema's API does not declare (spec §8, property 5); otherwise it makes the articles of a new
contract, its meta from the params and a genesis that creates one cell per owned assignment, in
order. -/
def Schema.issue {Seal : Type} (cm : Commitments Seal) (schema : Schema) (params : IssueParams) :
    Except String Articles :=
  if ∃ name ∈ params.global, name ∉ schema.globalNames then .error "unknown global state name"
  else if ∃ state ∈ params.owned, state.name ∉ schema.ownedNames then .error "unknown owned state name"
  else match SmallVec.tryFromIter (params.owned.map (·.state)) with
  | none => .error "too many owned cells"
  | some cells => .ok
      { contract :=
          { meta := ⟨params.testnet, params.consensus⟩
            codex := schema.codex
            genesis := ⟨⟨(cm.codexId schema.codex).bytes⟩, ⟨[], by decide⟩, cells⟩ }
        contractSigs := ⟨⟨[], by decide⟩⟩
        schema }

section SchemaIssue

variable {Seal : Type} {cm : Commitments Seal} {schema : Schema} {params : IssueParams}

theorem Schema.issue_eq_ok {articles : Articles} (made : schema.issue cm params = .ok articles) :
    schema.Declares params.global (params.owned.map (·.name)) ∧
      articles.contract.meta = ⟨params.testnet, params.consensus⟩ ∧
      articles.contract.genesis.destroying.items = [] ∧
      articles.contract.genesis.destructible.items = params.owned.map (·.state) := by
  unfold Schema.issue at made
  split at made
  · cases made
  · split at made
    · cases made
    · rename_i globalDeclared ownedDeclared
      split at made
      · cases made
      · rename_i cells found
        cases made
        exact ⟨⟨by simpa using globalDeclared, by simpa using ownedDeclared⟩, rfl, rfl,
          SmallVec.items_of_tryFromIter found⟩

theorem Schema.issue_error {message : String} (failed : schema.issue cm params = .error message) :
    message = "unknown global state name" ∨ message = "unknown owned state name" ∨
      message = "too many owned cells" := by
  unfold Schema.issue at failed
  split at failed
  · exact .inl (Except.error.inj failed).symm
  · split at failed
    · exact .inr (.inl (Except.error.inj failed).symm)
    · split at failed
      · exact .inr (.inr (Except.error.inj failed).symm)
      · cases failed

end SchemaIssue

theorem Schema.issue_ok {Seal : Type} (cm : Commitments Seal) (schema : Schema) (params : IssueParams)
    (declared : schema.Declares params.global (params.owned.map (·.name)))
    (fits : params.owned.length ≤ 0xFFFF) : ∃ articles, schema.issue cm params = .ok articles := by
  have globalDeclared : ¬∃ name ∈ params.global, name ∉ schema.globalNames := by
    simpa using declared.1
  have ownedDeclared : ¬∃ state ∈ params.owned, state.name ∉ schema.ownedNames := by
    simpa using declared.2
  have cellsFit : (params.owned.map (·.state)).length ≤ 0xFFFF := by simpa using fits
  simp only [Schema.issue, globalDeclared, ownedDeclared, ↓reduceIte, SmallVec.tryFromIter, cellsFit,
    ↓reduceDIte]
  exact ⟨_, rfl⟩

structure OperationSeals (Seal : Type) where
  operation : Operation
  definedSeals : SmallVec Seal
deriving DecidableEq, Repr

structure ContractState (Seal : Type) where
  owned : List (CellAddr × Assignment Seal)
deriving DecidableEq, Repr

namespace ContractState

variable {Seal To : Type}

def map (st : ContractState Seal) (f : Seal → To) : ContractState To :=
  ⟨st.owned.map fun (addr, assignment) => (addr, { «seal» := f assignment.«seal», data := assignment.data })⟩

def filterMap (st : ContractState Seal) (f : Seal → Option To) : ContractState To :=
  ⟨st.owned.filterMap fun (addr, assignment) =>
    (f assignment.«seal»).map fun «seal» => (addr, { «seal», data := assignment.data })⟩

theorem filterMap_some (st : ContractState Seal) (f : Seal → To) :
    st.filterMap (some ∘ f) = st.map f := by
  simp only [filterMap, map, Function.comp_apply, Option.map_some']
  exact congrArg _ (congrFun (List.filterMap_eq_map _) _)

end ContractState

def CreateParams.issueParams {Seal : Type} (cm : Commitments Seal) (params : CreateParams Seal) : IssueParams :=
  { consensus := params.consensus
    testnet := params.testnet
    global := params.global
    owned := params.owned.map fun assignment =>
      ⟨assignment.name, ⟨assignment.state.data, assignment.state.«seal».authToken cm⟩⟩ }

def CreateParams.explicitSeals {Seal : Type} (params : CreateParams Seal) : List Seal :=
  params.owned.filterMap (·.state.«seal».toExplicit)

structure Stockpile (Seal Cli Pub : Type) where
  stock : Stock
  pile : Pile Seal Cli Pub

namespace Stockpile

variable {Seal Cli Pub : Type} (cm : Commitments Seal)

def issue (schema : Schema) (params : CreateParams Seal) (pile : Pile Seal Cli Pub) :
    Except String (Stockpile Seal Cli Pub) :=
  if params.codexId ≠ cm.codexId schema.codex then .error "assertion `left == right` failed"
  else do
  let some seals := SmallVec.tryFromIter params.explicitSeals | throw "too many outputs"
  let articles ← schema.issue cm (params.issueParams cm)
  let stock := Stock.init cm articles
  pure { stock, pile := pile.keepAppend (stock.genesisOpid cm) seals }

def «open» (articles : Articles) (log : List Operation) (pile : Pile Seal Cli Pub) :
    Stockpile Seal Cli Pub :=
  { stock := Stock.open cm articles log, pile }

def contractId (sp : Stockpile Seal Cli Pub) : ContractId := sp.stock.contractId cm

def «seal» (sp : Stockpile Seal Cli Pub) (value : Seal) : Option CellAddr :=
  sp.stock.auth.lookup (cm.authToken value)

def cellAssignment (sp : Stockpile Seal Cli Pub) (entry : Sigma fun _ : CellAddr => StateCell) :
    Except String (CellAddr × Assignment Seal) := do
  let some seals := sp.pile.keepRead entry.1.opid | throw "no seals kept for the operation"
  let some kept := seals.items[entry.1.pos.toNat]? | throw "index out of bounds"
  pure (entry.1, { «seal» := kept, data := entry.2.data })

def state (sp : Stockpile Seal Cli Pub) : Except String (ContractState Seal) := do
  let owned ← sp.stock.owned.entries.mapM sp.cellAssignment
  pure ⟨owned⟩

def attest (sp : Stockpile Seal Cli Pub) (opid : Opid) (anchor : Cli) (published : Pub) :
    Stockpile Seal Cli Pub :=
  { sp with pile := sp.pile.append opid anchor published }

def applyOperation (sp : Stockpile Seal Cli Pub) (op : OperationSeals Seal) :
    Stockpile Seal Cli Pub :=
  { pile := sp.pile.keepAppend (cm.opid op.operation) op.definedSeals
    stock := sp.stock.apply cm op.operation }

def applyWitness (sp : Stockpile Seal Cli Pub) (opid : Opid) (witness : SealWitness Cli Pub) :
    Stockpile Seal Cli Pub :=
  { sp with pile := sp.pile.append opid witness.client witness.published }

@[simp] theorem attest_stock (sp : Stockpile Seal Cli Pub) (opid : Opid) (anchor : Cli)
    (published : Pub) : (sp.attest opid anchor published).stock = sp.stock := rfl

@[simp] theorem applyWitness_stock (sp : Stockpile Seal Cli Pub) (opid : Opid)
    (witness : SealWitness Cli Pub) : (sp.applyWitness opid witness).stock = sp.stock := rfl

@[simp] theorem applyOperation_articles (sp : Stockpile Seal Cli Pub) (op : OperationSeals Seal) :
    (sp.applyOperation cm op).stock.articles = sp.stock.articles := Stock.apply_articles cm _ _

theorem foldl_applyWitness_invariant (P : Stockpile Seal Cli Pub → Prop)
    (applyWitness : ∀ sp opid witness, P sp → P (sp.applyWitness opid witness)) (opid : Opid)
    (witnesses : List (SealWitness Cli Pub)) {sp : Stockpile Seal Cli Pub} (holds : P sp) :
    P (witnesses.foldl (fun sp witness => sp.applyWitness opid witness) sp) := by
  induction witnesses generalizing sp with
  | nil => exact holds
  | cons witness rest ih => exact ih (applyWitness _ _ _ holds)

theorem foldl_applyWitness_stock (sp : Stockpile Seal Cli Pub) (opid : Opid)
    (witnesses : List (SealWitness Cli Pub)) :
    (witnesses.foldl (fun sp witness => sp.applyWitness opid witness) sp).stock = sp.stock :=
  foldl_applyWitness_invariant (·.stock = sp.stock) (fun _ _ _ same => same) opid witnesses rfl

theorem issue_eq_ok {schema : Schema} {params : CreateParams Seal} {pile : Pile Seal Cli Pub}
    {sp : Stockpile Seal Cli Pub} (issued : issue cm schema params pile = .ok sp) :
    params.codexId = cm.codexId schema.codex ∧
      ∃ seals articles, SmallVec.tryFromIter params.explicitSeals = some seals ∧
        schema.issue cm (params.issueParams cm) = .ok articles ∧
        sp = { stock := Stock.init cm articles,
               pile := pile.keepAppend (cm.opid articles.contract.genesis) seals } := by
  unfold issue at issued
  split at issued
  · cases issued
  · rename_i codexMatches
    refine ⟨not_not.mp codexMatches, ?_⟩
    cases found : SmallVec.tryFromIter params.explicitSeals with
    | none => simp [found] at issued
    | some seals =>
        cases made : schema.issue cm (params.issueParams cm) with
        | error message => simp [found, made] at issued
        | ok articles =>
            simp only [found, made] at issued
            exact ⟨seals, articles, rfl, rfl, by simp [← Except.ok.inj issued, Stock.genesisOpid]⟩

theorem issue_meta {schema : Schema} {params : CreateParams Seal} {pile : Pile Seal Cli Pub}
    {sp : Stockpile Seal Cli Pub} (issued : issue cm schema params pile = .ok sp) :
    sp.stock.articles.contract.meta = ⟨params.testnet, params.consensus⟩ := by
  obtain ⟨-, seals, articles, -, made, rfl⟩ := issue_eq_ok cm issued
  simpa using (Schema.issue_eq_ok made).2.1

theorem issue_ok_iff (schema : Schema) (params : CreateParams Seal) (pile : Pile Seal Cli Pub)
    (codex : params.codexId = cm.codexId schema.codex) :
    (∃ sp, issue cm schema params pile = .ok sp) ↔
      schema.Declares params.global (params.owned.map (·.name)) ∧ params.owned.length ≤ 0xFFFF := by
  have names : (params.issueParams cm).owned.map (·.name) = params.owned.map (·.name) := by
    simp [CreateParams.issueParams]
  constructor
  · rintro ⟨sp, issued⟩
    obtain ⟨-, seals, articles, -, made, -⟩ := issue_eq_ok cm issued
    obtain ⟨declared, -, -, cells⟩ := Schema.issue_eq_ok made
    refine ⟨names ▸ declared, ?_⟩
    simpa [cells, CreateParams.issueParams] using articles.contract.genesis.destructible.length_le
  · rintro ⟨declared, fits⟩
    obtain ⟨articles, made⟩ := Schema.issue_ok cm schema (params.issueParams cm) (names ▸ declared)
      (by simpa [CreateParams.issueParams] using fits)
    have explicitFits : params.explicitSeals.length ≤ 0xFFFF :=
      (List.length_filterMap_le _ _).trans fits
    simp only [issue, codex, ne_eq, not_true_eq_false, ↓reduceIte, SmallVec.tryFromIter,
      explicitFits, ↓reduceDIte, made]
    exact ⟨_, rfl⟩

structure Extends (sp sp' : Stockpile Seal Cli Pub) : Prop where
  articles : sp'.stock.articles = sp.stock.articles
  log : sp.stock.log <+: sp'.stock.log
  keep : ∀ opid seals, sp.pile.keepRead opid = some seals → sp'.pile.keepRead opid = some seals
  witnesses : ∀ opid, sp.pile.retrieve opid <+: sp'.pile.retrieve opid

theorem Extends.refl (sp : Stockpile Seal Cli Pub) : Extends sp sp :=
  ⟨rfl, List.prefix_refl _, fun _ _ => id, fun _ => List.prefix_refl _⟩

theorem Extends.trans {sp sp₁ sp₂ : Stockpile Seal Cli Pub} (first : Extends sp sp₁)
    (later : Extends sp₁ sp₂) : Extends sp sp₂ :=
  ⟨later.articles.trans first.articles, first.log.trans later.log,
    fun opid seals kept => later.keep opid seals (first.keep opid seals kept),
    fun opid => (first.witnesses opid).trans (later.witnesses opid)⟩

theorem attest_extends (sp : Stockpile Seal Cli Pub) (opid : Opid) (anchor : Cli) (published : Pub) :
    Extends sp (sp.attest opid anchor published) :=
  ⟨rfl, List.prefix_refl _, fun _ _ => id, fun other => by simp [attest]⟩

theorem applyWitness_extends (sp : Stockpile Seal Cli Pub) (opid : Opid) (witness : SealWitness Cli Pub) :
    Extends sp (sp.applyWitness opid witness) :=
  attest_extends sp opid witness.client witness.published

theorem applyOperation_extends (sp : Stockpile Seal Cli Pub) (op : OperationSeals Seal) :
    Extends sp (sp.applyOperation cm op) :=
  ⟨applyOperation_articles cm sp op, Stock.log_prefix_apply cm _ _,
    fun opid _ kept => Pile.keepRead_keepAppend _ _ opid _ _ kept, fun opid => by simp [applyOperation]⟩

end Stockpile

end RgbWallet
