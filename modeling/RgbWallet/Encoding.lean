import RgbWallet.Consignment

/-! The strict encoding of the model's types as the library's derived encoders write it: the
fields of a structure one after another in declaration order, an enum as a one-byte tag, a unit
as no bytes, a state name as the confined list of its characters, each a `u32` scalar value. The
consignment codecs built from them let the model run on concrete streams. -/

namespace RgbWallet

namespace Codec

variable {α : Type}

def unit : Codec Unit where
  encode _ := []
  decode input := .ok ((), input)
  decode_encode _ _ := rfl
  decode_truncated _ cut short := absurd short (Nat.not_lt_zero cut)

def u8 : Codec UInt8 :=
  fixed 1 (fun byte => [byte]) (fun bytes => bytes.headD 0) (fun _ => rfl) (fun _ => rfl)

def tagged (toTag : α → UInt8) (ofTag : UInt8 → Option α)
    (ofTag_toTag : ∀ value, ofTag (toTag value) = some value) : Codec α where
  encode value := u8.encode (toTag value)
  decode input := do
    let (tag, rest) ← u8.decode input
    match ofTag tag with
    | some value => pure (value, rest)
    | none => .error (.invalid "unknown enum tag")
  decode_encode value rest := by
    simp only [u8.decode_encode, ok_bind, ofTag_toTag]
    rfl
  decode_truncated value cut short := by
    simp only [u8.decode_truncated _ cut short, error_bind]

def bool : Codec Bool :=
  tagged (fun flag => if flag then 1 else 0) (fun | 0 => some false | 1 => some true | _ => none)
    (fun flag => by cases flag <;> rfl)

def consensus : Codec Consensus :=
  tagged (fun | .none => 0 | .bitcoin => 1 | .liquid => 2 | .prime => 3)
    (fun | 0 => some .none | 1 => some .bitcoin | 2 => some .liquid | 3 => some .prime | _ => none)
    (fun consensus => by cases consensus <;> rfl)

def contractId : Codec ContractId := (bytes 32).map ContractId.mk ContractId.bytes fun _ => rfl

def contractMeta : Codec ContractMeta :=
  (pair bool consensus).map (fun (testnet, consensus) => ⟨testnet, consensus⟩)
    (fun meta => (meta.testnet, meta.consensus)) fun _ => rfl

def codex : Codec Codex := (smallVec u8).map Codex.mk Codex.code fun _ => rfl

def char : Codec Char := u32.map (fun value => Char.ofNat value.toNat) Char.val Char.ofNat_toNat

def stateName : Codec StateName :=
  (smallVec char).map (fun chars => ⟨⟨chars.items⟩, chars.length_le⟩)
    (fun name => ⟨name.name.data, name.length_le⟩) fun _ => rfl

def schema : Codec Schema :=
  (pair codex (pair (smallVec stateName) (smallVec stateName))).map
    (fun (codex, global, owned) => ⟨codex, global, owned⟩)
    (fun schema => (schema.codex, schema.global, schema.owned)) fun _ => rfl

def contentSigs : Codec ContentSigs :=
  (smallVec (bytes 32)).map ContentSigs.mk ContentSigs.signatures fun _ => rfl

def cellAddr : Codec CellAddr :=
  (pair (bytes 32) u16).map (fun (opid, pos) => ⟨⟨opid⟩, pos⟩) (fun addr => (addr.opid.bytes, addr.pos))
    fun _ => rfl

def stateCell : Codec StateCell :=
  (pair (bytes 32) (bytes 32)).map (fun (data, auth) => ⟨data, ⟨auth⟩⟩)
    (fun cell => (cell.data, cell.auth.bytes)) fun _ => rfl

def operation : Codec Operation :=
  (pair (bytes 32) (pair (smallVec cellAddr) (smallVec stateCell))).map
    (fun (contractId, destroying, destructible) => ⟨⟨contractId⟩, destroying, destructible⟩)
    (fun op => (op.contractId.bytes, op.destroying, op.destructible)) fun _ => rfl

def sealWitness {Cli Pub : Type} (client : Codec Cli) (published : Codec Pub) :
    Codec (SealWitness Cli Pub) :=
  (pair published client).map (fun (published, client) => ⟨published, client⟩)
    (fun witness => (witness.published, witness.client)) fun _ => rfl

end Codec

def ConsignmentCodecs.strict {Seal Cli Pub : Type} (sealCodec : Codec Seal) (client : Codec Cli)
    (published : Codec Pub) : ConsignmentCodecs Seal Cli Pub :=
  { contractId := Codec.contractId, schema := Codec.schema, contractSigs := Codec.contentSigs
    contractMeta := Codec.contractMeta, codex := Codec.codex, operation := Codec.operation
    «seal» := sealCodec, witness := Codec.sealWitness client published }

end RgbWallet
