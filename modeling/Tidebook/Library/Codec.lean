import Mathlib.Algebra.GroupWithZero.Nat
import Mathlib.Data.List.Basic

/-! # Codecs

Binary formats as pairs of an encoder and a decoder that undo each other. What is put together from
codecs by the rules below is a codec again, and reads back exactly what it wrote.
-/

namespace Tidebook.Library

universe u

variable {α β γ : Type u}

structure Codec (α : Type u) where
  encode : α → List UInt8
  decode : List UInt8 → Option (α × List UInt8)
  decode_encode : ∀ value rest, decode (encode value ++ rest) = some (value, rest)
  encode_decode : ∀ {bytes value rest}, decode bytes = some (value, rest) →
    bytes = encode value ++ rest

namespace Codec

theorem decode_eq_some {codec : Codec α} {bytes rest : List UInt8} {value : α} :
    codec.decode bytes = some (value, rest) ↔ bytes = codec.encode value ++ rest :=
  ⟨codec.encode_decode, fun same => same ▸ codec.decode_encode value rest⟩

/-- Reads a value that takes up all the bytes. -/
def read (codec : Codec α) (bytes : List UInt8) : Option α :=
  match codec.decode bytes with
  | some (value, []) => some value
  | _ => none

theorem read_eq_some {codec : Codec α} {bytes : List UInt8} {value : α} :
    codec.read bytes = some value ↔ bytes = codec.encode value := by
  constructor
  · intro done
    unfold read at done
    split at done
    · next found decoded =>
        cases done
        rw [codec.encode_decode decoded, List.append_nil]
    · cases done
  · rintro rfl
    have decoded := codec.decode_encode value []
    rw [List.append_nil] at decoded
    rw [read, decoded]

@[simp] theorem read_encode (codec : Codec α) (value : α) :
    codec.read (codec.encode value) = some value := read_eq_some.mpr rfl

theorem encode_injective (codec : Codec α) : Function.Injective codec.encode := by
  intro value other same
  have back := codec.read_encode value
  rw [same, read_encode, Option.some.injEq] at back
  exact back.symm

/-! ## Parts -/

def empty : Codec PUnit.{u + 1} where
  encode _ := []
  decode bytes := some (⟨⟩, bytes)
  decode_encode _ _ := rfl
  encode_decode done := by
    cases done
    rfl

def pair (first : Codec α) (second : Codec β) : Codec (α × β) where
  encode value := first.encode value.1 ++ second.encode value.2
  decode bytes := do
    let (left, rest) ← first.decode bytes
    let (right, rest) ← second.decode rest
    pure ((left, right), rest)
  decode_encode value rest := by
    rw [List.append_assoc, first.decode_encode]
    simp [second.decode_encode]
  encode_decode done := by
    simp only [Option.bind_eq_bind, Option.bind_eq_some_iff, Option.pure_def, Option.some.injEq,
      Prod.mk.injEq] at done
    obtain ⟨⟨left, middle⟩, decoded, ⟨right, last⟩, also, rfl, rfl⟩ := done
    rw [first.encode_decode decoded]
    exact (congrArg _ (second.encode_decode also)).trans (List.append_assoc _ _ _).symm

/-- The values of a format that another type views, each through one of them. -/
def narrow (codec : Codec α) (view : α → Option β) (back : β → α)
    (view_back : ∀ value, view (back value) = some value)
    (back_view : ∀ {raw value}, view raw = some value → raw = back value) : Codec β where
  encode value := codec.encode (back value)
  decode bytes := do
    let (raw, rest) ← codec.decode bytes
    let value ← view raw
    pure (value, rest)
  decode_encode value rest := by simp [codec.decode_encode, view_back]
  encode_decode done := by
    simp only [Option.bind_eq_bind, Option.bind_eq_some_iff, Option.pure_def, Option.some.injEq,
      Prod.mk.injEq] at done
    obtain ⟨⟨raw, middle⟩, decoded, value, viewed, rfl, rfl⟩ := done
    rw [codec.encode_decode decoded]
    exact congrArg (codec.encode · ++ middle) (back_view viewed)

/-- A format whose first part tells how the second one is to be read. -/
def chain {family : α → Type u} (head : Codec α) (tail : ∀ value, Codec (family value)) :
    Codec (Sigma family) where
  encode value := head.encode value.1 ++ (tail value.1).encode value.2
  decode bytes := do
    let (first, rest) ← head.decode bytes
    let (second, rest) ← (tail first).decode rest
    pure (⟨first, second⟩, rest)
  decode_encode value rest := by
    rw [List.append_assoc, head.decode_encode]
    simp [(tail value.1).decode_encode]
  encode_decode done := by
    simp only [Option.bind_eq_bind, Option.bind_eq_some_iff, Option.pure_def, Option.some.injEq,
      Prod.mk.injEq] at done
    obtain ⟨⟨first, middle⟩, decoded, ⟨second, last⟩, also, rfl, rfl⟩ := done
    rw [head.encode_decode decoded]
    exact (congrArg _ ((tail first).encode_decode also)).trans (List.append_assoc _ _ _).symm

/-! ## Bytes -/

def Block (width : Nat) := { bytes : List UInt8 // bytes.length = width }

def Block.octet (first second third fourth fifth sixth seventh eighth : UInt8) : Block 8 :=
  ⟨[first, second, third, fourth, fifth, sixth, seventh, eighth], rfl⟩

instance (width : Nat) : DecidableEq (Block width) :=
  inferInstanceAs (DecidableEq { bytes : List UInt8 // bytes.length = width })

def block (width : Nat) : Codec (Block width) where
  encode value := value.val
  decode bytes := if fits : width ≤ bytes.length then
    some (⟨bytes.take width, List.length_take_of_le fits⟩, bytes.drop width) else none
  decode_encode value rest := by
    have enough : width ≤ (value.val ++ rest).length := by
      rw [List.length_append, value.property]
      exact Nat.le_add_right _ _
    rw [dif_pos enough]
    congr 2
    · exact Subtype.ext (List.take_left' value.property)
    · exact List.drop_left' value.property
  encode_decode done := by
    split at done
    · cases done
      exact (List.take_append_drop _ _).symm
    · cases done

/-! ## Numbers -/

/-- The lowest bytes of a number, least significant first. -/
def toBytes : Nat → Nat → List UInt8
  | 0, _ => []
  | width + 1, value => UInt8.ofNat value :: toBytes width (value / 256)

def ofBytes : List UInt8 → Nat
  | [] => 0
  | byte :: rest => byte.toNat + 256 * ofBytes rest

@[simp] theorem length_toBytes (width value : Nat) : (toBytes width value).length = width := by
  induction width generalizing value with
  | zero => rfl
  | succ width ih => simp [toBytes, ih]

theorem ofBytes_toBytes {width value : Nat} (fits : value < 256 ^ width) :
    ofBytes (toBytes width value) = value := by
  induction width generalizing value with
  | zero =>
      rw [Nat.pow_zero, Nat.lt_one_iff] at fits
      rw [fits]
      rfl
  | succ width ih =>
      have smaller : value / 256 < 256 ^ width := by
        rw [Nat.pow_succ] at fits
        exact Nat.div_lt_of_lt_mul (by rwa [Nat.mul_comm])
      have low : (UInt8.ofNat value).toNat = value % 256 := by simp
      rw [toBytes, ofBytes, ih smaller, low]
      exact Nat.mod_add_div value 256

theorem toBytes_ofBytes (bytes : List UInt8) : toBytes bytes.length (ofBytes bytes) = bytes := by
  induction bytes with
  | nil => rfl
  | cons byte rest ih =>
      have small := byte.toNat_lt
      have quotient : (byte.toNat + 256 * ofBytes rest) / 256 = ofBytes rest := by omega
      have low : UInt8.ofNat (byte.toNat + 256 * ofBytes rest) = byte := by
        apply UInt8.toNat.inj
        rw [UInt8.toNat_ofNat']
        omega
      rw [List.length_cons, ofBytes, toBytes, quotient, ih, low]

theorem ofBytes_lt (bytes : List UInt8) : ofBytes bytes < 256 ^ bytes.length := by
  induction bytes with
  | nil => simp [ofBytes]
  | cons byte rest ih =>
      have small := byte.toNat_lt
      rw [List.length_cons, Nat.pow_succ, ofBytes]
      omega

/-- A number of fixed width, least significant byte first. -/
def number (width : Nat) : Codec (Fin (256 ^ width)) :=
  (block width).narrow
    (fun bytes => some ⟨ofBytes bytes.val, by
      have small := ofBytes_lt bytes.val
      rwa [bytes.property] at small⟩)
    (fun value => ⟨toBytes width value.val, length_toBytes _ _⟩)
    (fun value => congrArg some (Fin.ext (ofBytes_toBytes value.isLt)))
    (by
      rintro ⟨bytes, rfl⟩ value same
      cases same
      exact Subtype.ext (toBytes_ofBytes bytes).symm)

/-! ## Choices -/

/-- One byte that tells which of at most 256 cases stands. -/
def tag (cases : Nat) (few : cases ≤ 256) : Codec (Fin cases) :=
  (number 1).narrow (fun value => if fits : value.val < cases then some ⟨value.val, fits⟩ else none)
    (fun choice => ⟨choice.val, Nat.lt_of_lt_of_le choice.isLt few⟩)
    (fun choice => by rw [dif_pos choice.isLt])
    (by
      intro raw choice same
      split at same
      · cases same
        rfl
      · cases same)

/-! ## Texts -/

theorem block_length {limit : Nat} : ∀ (raw : Σ length : Fin limit, Block length.val)
    (fits : raw.2.val.length < limit), raw = ⟨⟨raw.2.val.length, fits⟩, ⟨raw.2.val, rfl⟩⟩
  | ⟨⟨_, _⟩, ⟨_, rfl⟩⟩, _ => rfl

/-- Bytes under their length, which fits four bytes. -/
def sized : Codec { bytes : List UInt8 // bytes.length < 256 ^ 4 } :=
  ((number 4).chain fun length => block length.val).narrow
    (fun raw => some ⟨raw.2.val, by
      rw [raw.2.property]
      exact raw.1.isLt⟩)
    (fun bytes => ⟨⟨bytes.val.length, bytes.property⟩, ⟨bytes.val, rfl⟩⟩)
    (fun _ => rfl)
    (by
      intro raw bytes same
      cases same
      exact block_length raw _)

/-- A text whose length fits four bytes. -/
def Text := { text : String // text.toByteArray.data.toList.length < 256 ^ 4 }

/-- The text that valid bytes spell. -/
def spelled (bytes : { bytes : List UInt8 // bytes.length < 256 ^ 4 }) : Option Text :=
  if valid : bytes.val.toByteArray.IsValidUTF8 then
    some ⟨String.fromUTF8 bytes.val.toByteArray valid, by
      rw [String.fromUTF8, List.toList_data_toByteArray]
      exact bytes.property⟩
  else none

theorem toByteArray_bytes (text : String) :
    text.toByteArray.data.toList.toByteArray = text.toByteArray := ByteArray.ext (by simp)

def text : Codec Text :=
  sized.narrow spelled (fun value => ⟨value.val.toByteArray.data.toList, value.property⟩)
    (by
      intro value
      have back := toByteArray_bytes value.val
      have valid : value.val.toByteArray.data.toList.toByteArray.IsValidUTF8 := by
        rw [back]
        exact value.val.isValidUTF8
      rw [spelled, dif_pos valid]
      exact congrArg some (Subtype.ext (String.toByteArray_inj.mp back)))
    (by
      intro bytes value same
      unfold spelled at same
      split at same
      · cases same
        exact Subtype.ext List.toList_data_toByteArray.symm
      · cases same)

end Codec
end Tidebook.Library
