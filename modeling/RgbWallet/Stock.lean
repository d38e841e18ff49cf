import RgbWallet.Contract
import Mathlib.Data.List.AList

/-! The two stores a stockpile owns, the `Stock` of a contract and the `Pile` of its seals and
witnesses. Their code lives outside this repository, so both are modelled from the spec: the
stock as a log of operations keyed by opid, with the index of live cells and the auth-token
index, the pile as append-only maps keyed by `Opid`, whose `keepRead` is `none` where
`keep.read` panics on an id never recorded. A call of the code that returns no value ends in a
`Fault`: the error it returns, or a panic with the code's message.

Applying an operation whose opid is logged already leaves the stock as it is, so the cells an
operation spent stay spent when a later consignment carries it again. Every stock built by
`apply` is `Live`: its auth index names live cells of the indexed token, and each live cell was
created, at its address, by a logged operation that no operation logged after it spends. -/

namespace RgbWallet

inductive Fault (ε : Type)
  | error (error : ε)
  | panic (message : String)
deriving DecidableEq, Repr

inductive MergeError
  | contractMismatch
deriving DecidableEq, Repr

section Insertion

variable {κ ν : Type} [DecidableEq κ]

theorem mem_foldl_insert (entries : List (κ × ν)) (map : AList fun _ : κ => ν) (key : κ) :
    key ∈ entries.foldl (fun map entry => map.insert entry.1 entry.2) map ↔
      key ∈ map ∨ key ∈ entries.map Prod.fst := by
  induction entries generalizing map with
  | nil => simp
  | cons entry entries ih =>
      simp only [List.foldl_cons, ih, AList.mem_insert, List.map_cons, List.mem_cons]
      rw [or_assoc, or_left_comm]

theorem lookup_foldl_insert (entries : List (κ × ν)) (map : AList fun _ : κ => ν) {key : κ}
    {value : ν}
    (found : (entries.foldl (fun map entry => map.insert entry.1 entry.2) map).lookup key =
      some value) :
    (key, value) ∈ entries ∨ map.lookup key = some value := by
  induction entries generalizing map with
  | nil => exact .inr found
  | cons entry rest ih =>
      rcases ih _ found with member | earlier
      · exact .inl (List.mem_cons_of_mem _ member)
      · by_cases same : key = entry.1
        · subst same
          rw [AList.lookup_insert, Option.some.injEq] at earlier
          exact .inl (earlier ▸ List.mem_cons_self _ _)
        · rw [AList.lookup_insert_ne same] at earlier
          exact .inr earlier

theorem entries_foldl_insert (entries : List (κ × ν)) (map : AList fun _ : κ => ν)
    (distinct : (entries.map Prod.fst).Nodup) (fresh : ∀ entry ∈ entries, entry.1 ∉ map) :
    (entries.foldl (fun map entry => map.insert entry.1 entry.2) map).entries =
      (entries.map fun entry => (⟨entry.1, entry.2⟩ : Sigma fun _ : κ => ν)).reverse ++ map.entries := by
  induction entries generalizing map with
  | nil => rfl
  | cons entry entries ih =>
      simp only [List.map_cons, List.nodup_cons, List.mem_map] at distinct
      have later : ∀ other ∈ entries, other.1 ∉ map.insert entry.1 entry.2 := fun other mem => by
        rw [AList.mem_insert, not_or]
        exact ⟨fun same => distinct.1 ⟨other, mem, same⟩,
          fresh other (List.mem_cons_of_mem _ mem)⟩
      rw [List.foldl_cons, ih _ distinct.2 later,
        AList.insert_entries_of_neg (fresh entry (List.mem_cons_self _ _))]
      simp

end Insertion

/-- Modelled from the spec: `Stock`, the append-only log of a contract's operations with the
indexes the stockpile reads, its live owned cells (`state().main.owned`) and the auth tokens of
the live cells (`state().raw.auth`). -/
structure Stock where
  articles : Articles
  log : List Operation
  owned : AList (fun _ : CellAddr => StateCell)
  auth : AList (fun _ : AuthToken => CellAddr)

namespace Stock

variable {Seal : Type} (cm : Commitments Seal)

def contractId (stock : Stock) : ContractId := cm.contractId stock.articles.contract

def genesisOpid (stock : Stock) : Opid := cm.opid stock.articles.contract.genesis

def spend (stock : Stock) (addr : CellAddr) : Stock :=
  match stock.owned.lookup addr with
  | some cell => { stock with owned := stock.owned.erase addr, auth := stock.auth.erase cell.auth }
  | none => stock

def create (stock : Stock) (entry : CellAddr × StateCell) : Stock :=
  { stock with
    owned := stock.owned.insert entry.1 entry.2
    auth := stock.auth.insert entry.2.auth entry.1 }

def record (stock : Stock) (op : Operation) : Stock :=
  let stock := op.destroying.items.foldl spend stock
  let stock := (op.cells (cm.opid op)).foldl create stock
  { stock with log := stock.log ++ [op] }

/-- Modelled from the spec: `Stock::apply` adds an operation to the log once, the log being keyed
by opid (spec §3): an operation whose opid is logged already leaves the stock as it is; any other
has the cells it destroys spent and the cells it creates recorded at their positions, and joins
the log. -/
def apply (stock : Stock) (op : Operation) : Stock :=
  if cm.opid op ∈ stock.log.map cm.opid then stock else record cm stock op

/-- Modelled from the spec: `Stock::create` starts the log with the genesis of the articles. -/
def init (articles : Articles) : Stock :=
  apply cm { articles, log := [], owned := ∅, auth := ∅ } articles.contract.genesis

/-- Modelled from the spec: `Stock::open` reopens the stock of stored articles and log. -/
def «open» (articles : Articles) (log : List Operation) : Stock :=
  log.foldl (apply cm) { articles, log := [], owned := ∅, auth := ∅ }

/-- Modelled from the spec: `merge_articles` rejects the articles of another contract and
otherwise keeps the stored contract. -/
def mergeArticles (stock : Stock) (articles : Articles) : Except MergeError Unit :=
  if cm.contractId articles.contract = stock.contractId cm then .ok () else .error .contractMismatch

@[simp] theorem spend_articles (stock : Stock) (addr : CellAddr) :
    (stock.spend addr).articles = stock.articles := by
  unfold spend
  split <;> rfl

@[simp] theorem spend_log (stock : Stock) (addr : CellAddr) : (stock.spend addr).log = stock.log := by
  unfold spend
  split <;> rfl

theorem foldl_field {α β : Type} (field : Stock → β) (step : Stock → α → Stock)
    (preserves : ∀ stock item, field (step stock item) = field stock) (items : List α)
    (stock : Stock) : field (items.foldl step stock) = field stock := by
  induction items generalizing stock with
  | nil => rfl
  | cons item rest ih => rw [List.foldl_cons, ih, preserves]

@[simp] theorem record_articles (stock : Stock) (op : Operation) :
    (stock.record cm op).articles = stock.articles := by
  simp only [record, foldl_field articles create (fun _ _ => rfl), foldl_field articles spend spend_articles]

@[simp] theorem record_log (stock : Stock) (op : Operation) : (stock.record cm op).log = stock.log ++ [op] := by
  simp only [record, foldl_field log create (fun _ _ => rfl), foldl_field log spend spend_log]

@[simp] theorem apply_articles (stock : Stock) (op : Operation) :
    (stock.apply cm op).articles = stock.articles := by
  unfold apply
  split <;> simp

theorem apply_log (stock : Stock) (op : Operation) :
    (stock.apply cm op).log = if cm.opid op ∈ stock.log.map cm.opid then stock.log else stock.log ++ [op] := by
  unfold apply
  split <;> simp

theorem log_prefix_apply (stock : Stock) (op : Operation) : stock.log <+: (stock.apply cm op).log := by
  rw [apply_log]
  split
  · exact List.prefix_refl _
  · exact List.prefix_append _ _

theorem mem_apply_log {stock : Stock} {op logged : Operation} (mem : logged ∈ (stock.apply cm op).log) :
    logged ∈ stock.log ∨ logged = op := by
  rw [apply_log] at mem
  split at mem
  · exact .inl mem
  · simpa using mem

theorem opid_mem_apply_log (stock : Stock) (op : Operation) (opid : Opid) :
    opid ∈ (stock.apply cm op).log.map cm.opid ↔ opid ∈ stock.log.map cm.opid ∨ opid = cm.opid op := by
  rw [apply_log]
  split
  · exact ⟨.inl, by rintro (logged | rfl) <;> assumption⟩
  · simp

@[simp] theorem init_articles (articles : Articles) : (init cm articles).articles = articles :=
  apply_articles cm _ _

@[simp] theorem init_log (articles : Articles) : (init cm articles).log = [articles.contract.genesis] := by
  simp [init, apply_log]

@[simp] theorem owned_foldl_create (entries : List (CellAddr × StateCell)) (stock : Stock) :
    (entries.foldl create stock).owned =
      entries.foldl (fun map entry => map.insert entry.1 entry.2) stock.owned := by
  induction entries generalizing stock with
  | nil => rfl
  | cons entry entries ih => exact ih _

theorem lookup_foldl_spend (addrs : List CellAddr) (stock : Stock) {addr : CellAddr}
    {cell : StateCell} (found : (addrs.foldl spend stock).owned.lookup addr = some cell) :
    stock.owned.lookup addr = some cell ∧ addr ∉ addrs := by
  induction addrs generalizing stock with
  | nil => exact ⟨found, List.not_mem_nil _⟩
  | cons spent addrs ih =>
      obtain ⟨earlier, notLater⟩ := ih _ found
      unfold spend at earlier
      split at earlier
      · by_cases same : addr = spent
        · rw [same, AList.lookup_erase] at earlier
          cases earlier
        · exact ⟨by rwa [AList.lookup_erase_ne same] at earlier,
            List.not_mem_cons_of_ne_of_not_mem same notLater⟩
      · rename_i absent
        refine ⟨earlier, List.not_mem_cons_of_ne_of_not_mem (fun same => ?_) notLater⟩
        rw [same, absent] at earlier
        cases earlier

theorem lookup_apply (stock : Stock) (op : Operation) {addr : CellAddr} {cell : StateCell}
    (found : (stock.apply cm op).owned.lookup addr = some cell) :
    (addr, cell) ∈ op.cells (cm.opid op) ∨ stock.owned.lookup addr = some cell := by
  unfold apply at found
  split at found
  · exact .inr found
  · simp only [record, owned_foldl_create] at found
    exact (lookup_foldl_insert _ _ found).imp_right fun live => (lookup_foldl_spend _ _ live).1

def Indexed (stock : Stock) : Prop :=
  ∀ token addr, stock.auth.lookup token = some addr →
    ∃ cell, stock.owned.lookup addr = some cell ∧ cell.auth = token

theorem spend_indexed {stock : Stock} (indexed : stock.Indexed) (addr : CellAddr) :
    (stock.spend addr).Indexed := by
  unfold spend
  split
  · rename_i cell found
    intro token at' indexedAt
    by_cases same : token = cell.auth
    · subst same
      rw [AList.lookup_erase] at indexedAt
      cases indexedAt
    · rw [AList.lookup_erase_ne same] at indexedAt
      obtain ⟨live, liveAt, auth⟩ := indexed token at' indexedAt
      have different : at' ≠ addr := by
        rintro rfl
        rw [found, Option.some.injEq] at liveAt
        exact same (liveAt ▸ auth).symm
      exact ⟨live, by rw [AList.lookup_erase_ne different]; exact liveAt, auth⟩
  · exact indexed

theorem foldl_spend_indexed (addrs : List CellAddr) {stock : Stock} (indexed : stock.Indexed) :
    (addrs.foldl spend stock).Indexed := by
  induction addrs generalizing stock with
  | nil => exact indexed
  | cons addr addrs ih => exact ih (spend_indexed indexed addr)

theorem create_indexed {stock : Stock} {entry : CellAddr × StateCell} (indexed : stock.Indexed)
    (compatible : ∀ old, stock.owned.lookup entry.1 = some old → old.auth = entry.2.auth) :
    (stock.create entry).Indexed := by
  intro token addr found
  by_cases same : token = entry.2.auth
  · subst same
    simp only [create, AList.lookup_insert, Option.some.injEq] at found
    subst found
    exact ⟨entry.2, AList.lookup_insert _, rfl⟩
  · simp only [create, AList.lookup_insert_ne same] at found
    obtain ⟨cell, live, auth⟩ := indexed token addr found
    have different : addr ≠ entry.1 := by
      rintro rfl
      exact same (auth.symm.trans (compatible cell live))
    exact ⟨cell, by simp only [create, AList.lookup_insert_ne different]; exact live, auth⟩

theorem foldl_create_indexed (entries : List (CellAddr × StateCell)) {stock : Stock}
    (indexed : stock.Indexed) (distinct : (entries.map Prod.fst).Nodup)
    (compatible : ∀ entry ∈ entries, ∀ old, stock.owned.lookup entry.1 = some old →
      old.auth = entry.2.auth) :
    (entries.foldl create stock).Indexed := by
  induction entries generalizing stock with
  | nil => exact indexed
  | cons entry rest ih =>
      simp only [List.map_cons, List.nodup_cons, List.mem_map] at distinct
      refine ih (create_indexed indexed (compatible entry (List.mem_cons_self _ _))) distinct.2
        fun other mem old live => ?_
      have different : other.1 ≠ entry.1 := fun same => distinct.1 ⟨other, mem, same⟩
      simp only [create, AList.lookup_insert_ne different] at live
      exact compatible other (List.mem_cons_of_mem _ mem) old live

theorem record_indexed {stock : Stock} {op : Operation} (indexed : stock.Indexed)
    (compatible : ∀ entry ∈ op.cells (cm.opid op), ∀ old, stock.owned.lookup entry.1 = some old →
      old.auth = entry.2.auth) :
    (stock.record cm op).Indexed :=
  foldl_create_indexed _ (foldl_spend_indexed _ indexed) (Operation.nodup_cells _ op)
    fun entry mem old live => compatible entry mem old (lookup_foldl_spend _ _ live).1

structure Live (stock : Stock) : Prop where
  indexed : stock.Indexed
  unspent : ∀ addr cell, stock.owned.lookup addr = some cell →
    ∃ (i : Nat) (op : Operation), stock.log[i]? = some op ∧ (addr, cell) ∈ op.cells (cm.opid op) ∧
      ∀ (j : Nat) (later : Operation), i < j → stock.log[j]? = some later →
        addr ∉ later.destroying.items

theorem getElem?_append_singleton {α : Type} {list : List α} {last item : α} {j : Nat}
    (found : (list ++ [last])[j]? = some item) : list[j]? = some item ∨ j = list.length ∧ item = last := by
  by_cases inside : j < list.length
  · rw [List.getElem?_append_left inside] at found
    exact .inl found
  · rw [List.getElem?_append_right (Nat.le_of_not_lt inside)] at found
    obtain ⟨first, same⟩ : j - list.length = 0 ∧ last = item := by simpa [List.getElem?_cons] using found
    exact .inr ⟨by omega, same.symm⟩

theorem record_live {stock : Stock} {op : Operation} (live : Live cm stock)
    (fresh : cm.opid op ∉ stock.log.map cm.opid) : Live cm (stock.record cm op) := by
  have logged : ∀ {addr cell}, stock.owned.lookup addr = some cell → addr.opid ∈ stock.log.map cm.opid :=
    fun found => by
      obtain ⟨i, creator, at', created, -⟩ := live.unspent _ _ found
      obtain ⟨pos, -, rfl⟩ := Operation.mem_cells created
      exact List.mem_map_of_mem _ (List.getElem?_mem at')
  refine ⟨record_indexed cm live.indexed fun entry mem old found => absurd (logged found) ?_,
    fun addr cell found => ?_⟩
  · obtain ⟨pos, -, same⟩ := Operation.mem_cells mem
    rwa [same]
  · simp only [record, owned_foldl_create] at found
    rcases lookup_foldl_insert _ _ found with created | earlier
    · refine ⟨stock.log.length, op, by simp, created, fun j later after at' => ?_⟩
      rw [record_log] at at'
      rcases getElem?_append_singleton at' with inside | ⟨same, -⟩
      · exact absurd (List.getElem?_eq_some.mp inside).1 (by omega)
      · omega
    · obtain ⟨before, notSpent⟩ := lookup_foldl_spend _ _ earlier
      obtain ⟨i, creator, at', created, unspent⟩ := live.unspent _ _ before
      refine ⟨i, creator, ?_, created, fun j later after laterAt => ?_⟩
      · rw [record_log, List.getElem?_append_left (List.getElem?_eq_some.mp at').1]
        exact at'
      · rw [record_log] at laterAt
        rcases getElem?_append_singleton laterAt with inside | ⟨-, rfl⟩
        · exact unspent j later after inside
        · exact notSpent

theorem apply_live {stock : Stock} (live : Live cm stock) (op : Operation) :
    Live cm (stock.apply cm op) := by
  unfold apply
  split
  · exact live
  · exact record_live cm live ‹_›

theorem init_live (articles : Articles) : Live cm (init cm articles) :=
  apply_live cm ⟨fun _ _ found => (by cases found), fun _ _ found => (by cases found)⟩ _

theorem mem_init_owned (articles : Articles) (addr : CellAddr)
    (spendsNothing : articles.contract.genesis.destroying.items = []) :
    addr ∈ (init cm articles).owned ↔
      addr ∈ (articles.contract.genesis.cells (cm.opid articles.contract.genesis)).map Prod.fst := by
  simp [init, apply, record, spendsNothing, mem_foldl_insert]

end Stock

/-- Modelled from the spec: the `Pile`, append-only maps keyed by `Opid` of the seals an
operation defines (`keep`) and of the witnesses closing them. -/
structure Pile (Seal Cli Pub : Type) where
  keep : AList (fun _ : Opid => SmallVec Seal)
  witnesses : AList (fun _ : Opid => List (SealWitness Cli Pub))

namespace Pile

variable {Seal Cli Pub : Type}

def empty : Pile Seal Cli Pub := ⟨∅, ∅⟩

/-- Modelled from the spec: `keep_mut().append` keeps the seal list recorded first under an id.
An operation is applied once (`Stock::apply`), so the list kept under its opid is the one its
application defined (spec §4.4, `pile.keep[opid] == op.defined_seals`); a later append under
that id changes nothing. -/
def keepAppend (pile : Pile Seal Cli Pub) (opid : Opid) (seals : SmallVec Seal) :
    Pile Seal Cli Pub :=
  if opid ∈ pile.keep then pile else { pile with keep := pile.keep.insert opid seals }

def keepRead (pile : Pile Seal Cli Pub) (opid : Opid) : Option (SmallVec Seal) :=
  pile.keep.lookup opid

def retrieve (pile : Pile Seal Cli Pub) (opid : Opid) : List (SealWitness Cli Pub) :=
  (pile.witnesses.lookup opid).getD []

def append (pile : Pile Seal Cli Pub) (opid : Opid) (client : Cli) (published : Pub) :
    Pile Seal Cli Pub :=
  { pile with witnesses := pile.witnesses.insert opid (pile.retrieve opid ++ [⟨published, client⟩]) }

theorem keepRead_keepAppend (pile : Pile Seal Cli Pub) (opid other : Opid) (seals kept : SmallVec Seal)
    (found : pile.keepRead other = some kept) : (pile.keepAppend opid seals).keepRead other = some kept := by
  unfold keepAppend
  split
  · exact found
  · rename_i absent
    have different : other ≠ opid := by
      rintro rfl
      exact absent (AList.lookup_isSome.mp (Option.isSome_iff_exists.mpr ⟨kept, found⟩))
    rw [keepRead, AList.lookup_insert_ne different]
    exact found

theorem keepRead_keepAppend_self (pile : Pile Seal Cli Pub) (opid : Opid) (seals : SmallVec Seal) :
    ∃ kept, (pile.keepAppend opid seals).keepRead opid = some kept := by
  unfold keepAppend
  split
  · exact Option.isSome_iff_exists.mp (AList.lookup_isSome.mpr ‹_›)
  · exact ⟨seals, AList.lookup_insert _⟩

@[simp] theorem append_keep (pile : Pile Seal Cli Pub) (opid : Opid) (client : Cli)
    (published : Pub) : (pile.append opid client published).keep = pile.keep := rfl

@[simp] theorem retrieve_append (pile : Pile Seal Cli Pub) (opid other : Opid) (client : Cli)
    (published : Pub) :
    (pile.append opid client published).retrieve other =
      pile.retrieve other ++ if other = opid then [⟨published, client⟩] else [] := by
  by_cases same : other = opid
  · subst same
    simp [retrieve, append]
  · simp [retrieve, append, AList.lookup_insert_ne same, same]

@[simp] theorem retrieve_keepAppend (pile : Pile Seal Cli Pub) (opid other : Opid)
    (seals : SmallVec Seal) : (pile.keepAppend opid seals).retrieve other = pile.retrieve other := by
  unfold keepAppend
  split <;> rfl

theorem mem_keepAppend (pile : Pile Seal Cli Pub) (opid other : Opid) (seals : SmallVec Seal) :
    other ∈ (pile.keepAppend opid seals).keep ↔ other ∈ pile.keep ∨ other = opid := by
  unfold keepAppend
  split
  · rename_i present
    exact ⟨.inl, fun | .inl kept => kept | .inr rfl => present⟩
  · rw [AList.mem_insert, or_comm]

theorem keepRead_keepAppend_of_mem (pile : Pile Seal Cli Pub) (opid other : Opid)
    (seals : SmallVec Seal) (present : other ∈ pile.keep) :
    (pile.keepAppend opid seals).keepRead other = pile.keepRead other := by
  obtain ⟨kept, found⟩ : ∃ kept, pile.keepRead other = some kept :=
    Option.isSome_iff_exists.mp (AList.lookup_isSome.mpr present)
  rw [found]
  exact keepRead_keepAppend pile opid other seals kept found

theorem keepRead_keepAppend_fresh (pile : Pile Seal Cli Pub) (opid : Opid) (seals : SmallVec Seal)
    (absent : opid ∉ pile.keep) : (pile.keepAppend opid seals).keepRead opid = some seals := by
  simp [keepAppend, keepRead, absent]

end Pile

end RgbWallet
