import Mathlib.Data.List.GetD
import Mathlib.Data.List.Nodup

/-! # Base64

Strict Base64 with padding: a decoder that accepts exactly what the encoder writes.
-/

namespace Tidebook.Library.Base64

def alphabet : List Char :=
  "ABCDEFGHIJKLMNOPQRSTUVWXYZabcdefghijklmnopqrstuvwxyz0123456789+/".toList

def digit (bits : Nat) : Char := alphabet.getD bits '='

def bitsOf (char : Char) : Option Nat :=
  if alphabet.idxOf char < 64 then some (alphabet.idxOf char) else none

theorem length_alphabet : alphabet.length = 64 := by decide

theorem nodup_alphabet : alphabet.Nodup := by decide

theorem bitsOf_digit {bits : Nat} (small : bits < 64) : bitsOf (digit bits) = some bits := by
  have inside : bits < alphabet.length := by rwa [length_alphabet]
  rw [bitsOf, digit, List.getD_eq_getElem _ _ inside, nodup_alphabet.idxOf_getElem _ inside,
    if_pos small]

theorem bitsOf_eq_some {char : Char} {bits : Nat} (known : bitsOf char = some bits) :
    bits < 64 ∧ digit bits = char := by
  unfold bitsOf at known
  split at known
  · next small =>
      cases known
      have inside : alphabet.idxOf char < alphabet.length := by rwa [length_alphabet]
      exact ⟨small, by rw [digit, List.getD_eq_getElem _ _ inside, List.getElem_idxOf]⟩
  · cases known

theorem bitsOf_pad : bitsOf '=' = none := by decide

/-- Three bytes become four characters; the last group is padded. -/
def encode : List UInt8 → List Char
  | [] => []
  | [a] => [digit (a.toNat / 4), digit (a.toNat % 4 * 16), '=', '=']
  | [a, b] => [digit (a.toNat / 4), digit (a.toNat % 4 * 16 + b.toNat / 16),
      digit (b.toNat % 16 * 4), '=']
  | a :: b :: c :: rest =>
      digit (a.toNat / 4) :: digit (a.toNat % 4 * 16 + b.toNat / 16) ::
        digit (b.toNat % 16 * 4 + c.toNat / 64) :: digit (c.toNat % 64) :: encode rest

/-- The bytes of the last group, whose unused bits are zero. -/
def decodeLast (first second third fourth : Char) : Option (List UInt8) := do
  let p ← bitsOf first
  let q ← bitsOf second
  if third = '=' then
    if fourth = '=' ∧ q % 16 = 0 then some [UInt8.ofNat (p * 4 + q / 16)] else none
  else do
    let r ← bitsOf third
    if fourth = '=' then
      if r % 4 = 0 then
        some [UInt8.ofNat (p * 4 + q / 16), UInt8.ofNat (q % 16 * 16 + r / 4)] else none
    else do
      let s ← bitsOf fourth
      some [UInt8.ofNat (p * 4 + q / 16), UInt8.ofNat (q % 16 * 16 + r / 4),
        UInt8.ofNat (r % 4 * 64 + s)]

def decodeGroup (first second third fourth : Char) : Option (List UInt8) := do
  let p ← bitsOf first
  let q ← bitsOf second
  let r ← bitsOf third
  let s ← bitsOf fourth
  some [UInt8.ofNat (p * 4 + q / 16), UInt8.ofNat (q % 16 * 16 + r / 4),
    UInt8.ofNat (r % 4 * 64 + s)]

def decode : List Char → Option (List UInt8)
  | [] => some []
  | [first, second, third, fourth] => decodeLast first second third fourth
  | first :: second :: third :: fourth :: rest => do
      let bytes ← decodeGroup first second third fourth
      let later ← decode rest
      some (bytes ++ later)
  | _ => none

/-! ## Round trips -/

theorem toNat_small {value : Nat} (small : value < 256) : (UInt8.ofNat value).toNat = value :=
  UInt8.toNat_ofNat_of_lt small

theorem ofNat_byte {byte : UInt8} {value : Nat} (same : value = byte.toNat) :
    UInt8.ofNat value = byte := by rw [same, UInt8.ofNat_toNat]

theorem digit_ne_pad {bits : Nat} (small : bits < 64) : digit bits ≠ '=' := by
  intro same
  have known := bitsOf_digit small
  rw [same, bitsOf_pad] at known
  cases known

theorem decodeGroup_digits (a b c : UInt8) :
    decodeGroup (digit (a.toNat / 4)) (digit (a.toNat % 4 * 16 + b.toNat / 16))
      (digit (b.toNat % 16 * 4 + c.toNat / 64)) (digit (c.toNat % 64)) = some [a, b, c] := by
  have first := a.toNat_lt
  have second := b.toNat_lt
  have third := c.toNat_lt
  rw [decodeGroup, bitsOf_digit (by omega), bitsOf_digit (by omega), bitsOf_digit (by omega),
    bitsOf_digit (by omega)]
  simp only [Option.bind_eq_bind, Option.bind_some, Option.some.injEq, List.cons.injEq, and_true]
  exact ⟨ofNat_byte (by omega), ofNat_byte (by omega), ofNat_byte (by omega)⟩

theorem decodeLast_full {first second third fourth : Char} (open_ : third ≠ '=')
    (full : fourth ≠ '=') :
    decodeLast first second third fourth = decodeGroup first second third fourth := by
  simp only [decodeLast, decodeGroup, if_neg open_, if_neg full]

theorem decodeLast_digits (a b c : UInt8) :
    decodeLast (digit (a.toNat / 4)) (digit (a.toNat % 4 * 16 + b.toNat / 16))
      (digit (b.toNat % 16 * 4 + c.toNat / 64)) (digit (c.toNat % 64)) = some [a, b, c] := by
  have third := c.toNat_lt
  rw [decodeLast_full (digit_ne_pad (by omega)) (digit_ne_pad (by omega)), decodeGroup_digits]

theorem decode_encode (bytes : List UInt8) : decode (encode bytes) = some bytes := by
  induction bytes using encode.induct with
  | case1 => rfl
  | case2 a =>
      have first := a.toNat_lt
      rw [encode, decode, decodeLast, bitsOf_digit (by omega), bitsOf_digit (by omega)]
      simp only [Option.bind_eq_bind, Option.bind_some, if_true, true_and]
      have byte : a.toNat / 4 * 4 + a.toNat % 4 * 16 / 16 = a.toNat := by omega
      rw [if_pos (by omega), ofNat_byte byte]
  | case3 a b =>
      have first := a.toNat_lt
      have second := b.toNat_lt
      have open_ : digit (b.toNat % 16 * 4) ≠ '=' := digit_ne_pad (by omega)
      have byte : a.toNat / 4 * 4 + (a.toNat % 4 * 16 + b.toNat / 16) / 16 = a.toNat := by omega
      have next : (a.toNat % 4 * 16 + b.toNat / 16) % 16 * 16 + b.toNat % 16 * 4 / 4 =
          b.toNat := by omega
      rw [encode, decode, decodeLast, bitsOf_digit (by omega), bitsOf_digit (by omega),
        bitsOf_digit (by omega)]
      simp only [Option.bind_eq_bind, Option.bind_some, if_neg open_, if_true]
      rw [if_pos (by omega), ofNat_byte byte, ofNat_byte next]
  | case4 a b c rest ih =>
      rw [encode]
      cases later : encode rest with
      | nil =>
          rw [later] at ih
          cases ih
          rw [decode, decodeLast_digits]
      | cons char more =>
          rw [later] at ih
          rw [decode, decodeGroup_digits, ih]
          · rfl
          · simp

theorem decodeGroup_eq_some {first second third fourth : Char} {bytes : List UInt8}
    (done : decodeGroup first second third fourth = some bytes) (later : List UInt8) :
    first :: second :: third :: fourth :: encode later = encode (bytes ++ later) := by
  simp only [decodeGroup, Option.bind_eq_bind, Option.bind_eq_some_iff, Option.some.injEq] at done
  obtain ⟨p, isFirst, q, isSecond, r, isThird, s, isFourth, rfl⟩ := done
  obtain ⟨small, rfl⟩ := bitsOf_eq_some isFirst
  obtain ⟨also, rfl⟩ := bitsOf_eq_some isSecond
  obtain ⟨too, rfl⟩ := bitsOf_eq_some isThird
  obtain ⟨last, rfl⟩ := bitsOf_eq_some isFourth
  simp only [List.cons_append, List.nil_append, encode]
  rw [toNat_small (by omega), toNat_small (by omega), toNat_small (by omega)]
  congr 2
  · omega
  congr 2
  · omega
  congr 2
  · omega
  congr 2
  omega

theorem decodeLast_eq_some {first second third fourth : Char} {bytes : List UInt8}
    (done : decodeLast first second third fourth = some bytes) :
    [first, second, third, fourth] = encode bytes := by
  by_cases full : third ≠ '=' ∧ fourth ≠ '='
  · have group : decodeGroup first second third fourth = some bytes := by
      rwa [decodeLast_full full.1 full.2] at done
    have whole := decodeGroup_eq_some group []
    rwa [List.append_nil] at whole
  simp only [decodeLast, Option.bind_eq_bind, Option.bind_eq_some_iff] at done
  obtain ⟨p, isFirst, q, isSecond, done⟩ := done
  obtain ⟨small, rfl⟩ := bitsOf_eq_some isFirst
  obtain ⟨also, rfl⟩ := bitsOf_eq_some isSecond
  split at done
  · next pad =>
      split at done
      · next clear =>
          cases done
          rw [pad, clear.1, encode, toNat_small (by omega)]
          congr 2
          · omega
          congr 2
          omega
      · cases done
  · next open_ =>
      have pad : fourth = '=' := not_not.mp fun other => full ⟨open_, other⟩
      simp only [Option.bind_eq_some_iff, if_pos pad] at done
      obtain ⟨r, isThird, done⟩ := done
      obtain ⟨too, rfl⟩ := bitsOf_eq_some isThird
      split at done
      · next clear =>
          cases done
          rw [pad, encode, toNat_small (by omega), toNat_small (by omega)]
          congr 2
          · omega
          congr 2
          · omega
          congr 2
          omega
      · cases done

theorem decode_eq_some {chars : List Char} {bytes : List UInt8} :
    decode chars = some bytes ↔ chars = encode bytes := by
  refine ⟨fun done => ?_, fun same => same ▸ decode_encode bytes⟩
  induction chars using decode.induct generalizing bytes with
  | case1 =>
      cases done
      rfl
  | case2 first second third fourth => exact decodeLast_eq_some done
  | case3 first second third fourth rest more ih =>
      rw [decode] at done
      · simp only [Option.bind_eq_bind, Option.bind_eq_some_iff, Option.some.injEq] at done
        obtain ⟨group, decoded, later, remains, rfl⟩ := done
        rw [ih remains]
        exact decodeGroup_eq_some decoded later
      · exact more
  | case4 chars a b c =>
      rw [decode] at done
      · cases done
      all_goals assumption

theorem encode_injective : Function.Injective encode := fun bytes _ same =>
  Option.some.inj ((decode_encode bytes).symm.trans (decode_eq_some.mpr same))

end Tidebook.Library.Base64
