import Mathlib.Data.List.Basic

/-! Strict encoding as the consignment stream uses it. A codec writes a value and reads it back
from the front of a byte stream, handing over the rest of the stream. Every codec carries its two
laws as fields: reading an encoding gives the value back, and reading an encoding cut short stops
at the end of the stream. The codecs of the library types the repository names (integers, fixed
byte strings, reserved bytes, `SmallVec`) are built here and proved lawful once. -/

namespace RgbWallet

inductive IoErrorKind
  | unexpectedEof
  | other
deriving DecidableEq, Repr

inductive DecodeError
  | io (kind : IoErrorKind)
  | dataIntegrity (message : String)
  | invalid (message : String)
deriving DecidableEq, Repr

def DecodeError.eof : DecodeError := .io .unexpectedEof

structure Codec (α : Type) where
  encode : α → List UInt8
  decode : List UInt8 → Except DecodeError (α × List UInt8)
  decode_encode : ∀ value rest, decode (encode value ++ rest) = .ok (value, rest)
  decode_truncated : ∀ value cut, cut < (encode value).length →
    decode ((encode value).take cut) = .error DecodeError.eof

section ExceptBind

variable {ε α β : Type}

@[simp] theorem ok_bind (value : α) (next : α → Except ε β) :
    (Except.ok value >>= next) = next value := rfl

@[simp] theorem error_bind (error : ε) (next : α → Except ε β) :
    (Except.error error >>= next) = .error error := rfl

theorem bind_eq_ok {first : Except ε α} {next : α → Except ε β} {result : β} :
    (first >>= next) = .ok result ↔ ∃ value, first = .ok value ∧ next value = .ok result := by
  cases first <;> simp [bind, Except.bind]

@[simp] theorem mapError_eq_ok {ε' : Type} {first : Except ε α} {f : ε → ε'} {result : α} :
    first.mapError f = .ok result ↔ first = .ok result := by
  cases first <;> simp [Except.mapError]

theorem map_eq_ok {first : Except ε α} {f : α → β} {result : β} :
    (f <$> first) = .ok result ↔ ∃ value, first = .ok value ∧ f value = result := by
  cases first <;> simp [Functor.map, Except.map]

end ExceptBind

structure Bytes (n : Nat) where
  toList : List UInt8
  length_eq : toList.length = n
deriving DecidableEq, Repr

def Bytes.ofList (n : Nat) (bytes : List UInt8) : Bytes n :=
  ⟨(bytes ++ List.replicate n 0).take n, by simp⟩

theorem Bytes.ofList_toList {n : Nat} (value : Bytes n) : Bytes.ofList n value.toList = value := by
  cases value with
  | mk bytes length =>
      simp only [Bytes.ofList, Bytes.mk.injEq]
      exact List.take_left' length

structure SmallVec (α : Type) where
  items : List α
  length_le : items.length ≤ 0xFFFF
deriving DecidableEq, Repr

def SmallVec.tryFromIter {α : Type} (items : List α) : Option (SmallVec α) :=
  if bound : items.length ≤ 0xFFFF then some ⟨items, bound⟩ else none

theorem SmallVec.items_of_tryFromIter {α : Type} {items : List α} {vec : SmallVec α}
    (fit : SmallVec.tryFromIter items = some vec) : vec.items = items := by
  unfold tryFromIter at fit
  split at fit <;> cases fit
  rfl

def SmallVec.extend {α : Type} (vec : SmallVec α) (more : List α) : Option (SmallVec α) :=
  if bound : (vec.items ++ more).length ≤ 0xFFFF then some ⟨vec.items ++ more, bound⟩ else none

inductive ConfinementError
  | oversize (len maxLen : Nat)
deriving DecidableEq, Repr

def SmallVec.single {α : Type} (item : α) : SmallVec α := ⟨[item], Nat.le_of_ble_eq_true rfl⟩

def SmallVec.push {α : Type} (vec : SmallVec α) (item : α) : Except ConfinementError (SmallVec α) :=
  if bound : (vec.items ++ [item]).length ≤ 0xFFFF then .ok ⟨vec.items ++ [item], bound⟩
  else .error (.oversize (vec.items.length + 1) 0xFFFF)

def leBytes : Nat → Nat → List UInt8
  | 0, _ => []
  | width + 1, value => UInt8.ofNat (value % 256) :: leBytes width (value / 256)

def leValue : List UInt8 → Nat
  | [] => 0
  | byte :: rest => byte.toNat + 256 * leValue rest

@[simp] theorem length_leBytes (width value : Nat) : (leBytes width value).length = width := by
  induction width generalizing value <;> simp [leBytes, *]

theorem toNat_uint8_ofNat (value : Nat) : (UInt8.ofNat value).toNat = value % 256 := by
  simp [UInt8.toNat, UInt8.ofNat, BitVec.toNat_ofNat]

theorem leValue_leBytes (width value : Nat) :
    leValue (leBytes width value) = value % Nat.pow 256 width := by
  induction width generalizing value with
  | zero => simp [leBytes, leValue, Nat.mod_one]
  | succ width ih =>
      simp only [leBytes, leValue, toNat_uint8_ofNat, ih, Nat.mod_mod]
      rw [show Nat.pow 256 (width + 1) = 256 * Nat.pow 256 width from Nat.mul_comm _ _, Nat.mod_mul]

namespace Codec

variable {α β : Type}

def fixed (width : Nat) (toBytes : α → List UInt8) (ofBytes : List UInt8 → α)
    (length_toBytes : ∀ value, (toBytes value).length = width)
    (ofBytes_toBytes : ∀ value, ofBytes (toBytes value) = value) : Codec α where
  encode := toBytes
  decode input :=
    if width ≤ input.length then .ok (ofBytes (input.take width), input.drop width)
    else .error .eof
  decode_encode value rest := by
    have whole : width ≤ (toBytes value ++ rest).length := by
      simp [length_toBytes]
    dsimp only
    rw [if_pos whole, List.take_left' (length_toBytes value), List.drop_left' (length_toBytes value),
      ofBytes_toBytes]
  decode_truncated value cut short := by
    rw [length_toBytes] at short
    have cutLength : ((toBytes value).take cut).length = cut := by
      simp [length_toBytes]; omega
    dsimp only
    rw [if_neg (by omega)]

def bytes (n : Nat) : Codec (Bytes n) :=
  fixed n Bytes.toList (Bytes.ofList n) Bytes.length_eq Bytes.ofList_toList

def u16 : Codec UInt16 :=
  fixed 2 (fun value => leBytes 2 value.toNat) (fun bytes => UInt16.ofNat (leValue bytes))
    (fun _ => length_leBytes 2 _)
    (fun value => by
      have bound : value.toNat < Nat.pow 256 2 := Nat.lt_of_lt_of_le value.toNat_lt_size (by decide)
      dsimp only
      rw [leValue_leBytes, Nat.mod_eq_of_lt bound]
      exact UInt16.toNat.inj (UInt16.toNat_ofNat_of_lt value.toNat_lt_size))

def u32 : Codec UInt32 :=
  fixed 4 (fun value => leBytes 4 value.toNat) (fun bytes => UInt32.ofNat (leValue bytes))
    (fun _ => length_leBytes 4 _)
    (fun value => by
      have bound : value.toNat < Nat.pow 256 4 := Nat.lt_of_lt_of_le value.toNat_lt_size (by decide)
      dsimp only
      rw [leValue_leBytes, Nat.mod_eq_of_lt bound]
      exact UInt32.toNat.inj (UInt32.toNat_ofNat_of_lt value.toNat_lt_size))

def u64 : Codec UInt64 :=
  fixed 8 (fun value => leBytes 8 value.toNat) (fun bytes => UInt64.ofNat (leValue bytes))
    (fun _ => length_leBytes 8 _)
    (fun value => by
      have bound : value.toNat < Nat.pow 256 8 := Nat.lt_of_lt_of_le value.toNat_lt_size (by decide)
      dsimp only
      rw [leValue_leBytes, Nat.mod_eq_of_lt bound]
      exact UInt64.toNat.inj (UInt64.toNat_ofNat_of_lt value.toNat_lt_size))

def reserved (width : Nat) : Codec Unit where
  encode _ := List.replicate width 0
  decode input :=
    if width ≤ input.length then
      if input.take width = List.replicate width 0 then .ok ((), input.drop width)
      else .error (.dataIntegrity "reserved bytes required to have value 0")
    else .error .eof
  decode_encode _ rest := by
    have length : (List.replicate width (0 : UInt8)).length = width := List.length_replicate ..
    dsimp only
    rw [if_pos (by simp), List.take_left' length, if_pos rfl, List.drop_left' length]
  decode_truncated _ cut short := by
    simp only [List.length_replicate] at short
    dsimp only
    rw [if_neg (by simp; omega)]

def decodeMany (codec : Codec α) : Nat → List UInt8 → Except DecodeError (List α × List UInt8)
  | 0, input => .ok ([], input)
  | count + 1, input => do
    let (item, rest) ← codec.decode input
    let (items, rest) ← codec.decodeMany count rest
    pure (item :: items, rest)

theorem decodeMany_encode (codec : Codec α) (items : List α) (rest : List UInt8) :
    codec.decodeMany items.length (items.flatMap codec.encode ++ rest) = .ok (items, rest) := by
  induction items with
  | nil => rfl
  | cons item items ih =>
      simp only [List.length_cons, List.flatMap_cons, List.append_assoc, decodeMany,
        codec.decode_encode, ok_bind, ih]
      rfl

theorem decodeMany_truncated (codec : Codec α) (items : List α) (cut : Nat)
    (short : cut < (items.flatMap codec.encode).length) :
    codec.decodeMany items.length ((items.flatMap codec.encode).take cut) = .error .eof := by
  induction items generalizing cut with
  | nil => simp at short
  | cons item items ih =>
      simp only [List.flatMap_cons, List.length_append] at short ⊢
      rw [List.take_append_eq_append_take]
      by_cases inside : cut < (codec.encode item).length
      · rw [Nat.sub_eq_zero_of_le inside.le, List.take_zero, List.append_nil]
        simp only [List.length_cons, decodeMany, codec.decode_truncated item cut inside, error_bind]
      · rw [List.take_of_length_le (by omega)]
        simp only [List.length_cons, decodeMany, codec.decode_encode, ok_bind,
          ih (cut - (codec.encode item).length) (by omega), error_bind]

theorem toNat_uint16_ofNat_length {α : Type} (vec : SmallVec α) :
    (UInt16.ofNat vec.items.length).toNat = vec.items.length :=
  UInt16.toNat_ofNat_of_lt (by have := vec.length_le; simp only [UInt16.size]; omega)

def smallVec (codec : Codec α) : Codec (SmallVec α) where
  encode vec := u16.encode (UInt16.ofNat vec.items.length) ++ vec.items.flatMap codec.encode
  decode input := do
    let (count, rest) ← u16.decode input
    let (items, rest) ← codec.decodeMany count.toNat rest
    if bound : items.length ≤ 0xFFFF then pure (⟨items, bound⟩, rest)
    else .error (.invalid "confinement bound exceeded")
  decode_encode vec rest := by
    simp only [List.append_assoc, u16.decode_encode, ok_bind, toNat_uint16_ofNat_length,
      decodeMany_encode, vec.length_le, dite_true]
    rfl
  decode_truncated vec cut short := by
    simp only [List.length_append] at short
    dsimp only
    rw [List.take_append_eq_append_take]
    by_cases inside : cut < (u16.encode (UInt16.ofNat vec.items.length)).length
    · rw [Nat.sub_eq_zero_of_le inside.le, List.take_zero, List.append_nil,
        u16.decode_truncated _ cut inside, error_bind]
    · rw [List.take_of_length_le (by omega), u16.decode_encode, ok_bind,
        toNat_uint16_ofNat_length, decodeMany_truncated codec vec.items _ (by omega), error_bind]

def pair (first : Codec α) (second : Codec β) : Codec (α × β) where
  encode value := first.encode value.1 ++ second.encode value.2
  decode input := do
    let (a, rest) ← first.decode input
    let (b, rest) ← second.decode rest
    pure ((a, b), rest)
  decode_encode value rest := by
    simp only [List.append_assoc, first.decode_encode, ok_bind, second.decode_encode]
    rfl
  decode_truncated value cut short := by
    simp only [List.length_append] at short
    dsimp only
    rw [List.take_append_eq_append_take]
    by_cases inside : cut < (first.encode value.1).length
    · rw [Nat.sub_eq_zero_of_le inside.le, List.take_zero, List.append_nil,
        first.decode_truncated _ cut inside, error_bind]
    · rw [List.take_of_length_le (by omega), first.decode_encode, ok_bind,
        second.decode_truncated _ _ (by omega), error_bind]

def map (codec : Codec α) (into : α → β) (back : β → α)
    (into_back : ∀ value, into (back value) = value) : Codec β where
  encode value := codec.encode (back value)
  decode input := do
    let (value, rest) ← codec.decode input
    pure (into value, rest)
  decode_encode value rest := by
    simp only [codec.decode_encode, ok_bind, into_back]
    rfl
  decode_truncated value cut short := by
    simp only [codec.decode_truncated _ cut short, error_bind]

end Codec

end RgbWallet
