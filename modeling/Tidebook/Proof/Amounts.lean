import Mathlib.Algebra.Order.Field.Rat
import Mathlib.Tactic.FieldSimp
import Mathlib.Tactic.Ring
import Tidebook.Client.Amounts

/-! # Amounts round-trip

Reading back a shown amount gives the amount, and a text is accepted exactly when it is a numeral
of an amount that can be held.
-/

namespace Tidebook.Proof
open Library Client

/-- A decimal numeral without superfluous leading zeros, by its parts. -/
structure Numeral (text whole fraction : List Char) : Prop where
  spelling : text = whole ++ if fraction = [] then [] else '.' :: fraction
  some_whole : whole ≠ []
  plain : whole.head? = some '0' → whole = ['0']
  digits : ∀ char ∈ whole ++ fraction, char.isDigit

def numeralValue (whole fraction : List Char) : ℚ :=
  spelled whole + spelled fraction / 10 ^ fraction.length

/-! ## Reading -/

theorem trim_trim (text : List Char) : trim (trim text) = trim text := by
  have front : (trim text).dropWhile isSpace = trim text := by
    have within := List.rdropWhile_prefix isSpace (text.dropWhile isSpace)
    cases shape : (text.dropWhile isSpace).rdropWhile isSpace with
    | nil => rw [trim, shape]; rfl
    | cons first rest =>
        obtain ⟨tail, split⟩ := within
        rw [shape, List.cons_append] at split
        have other := List.head?_dropWhile_not isSpace text
        rw [← split, List.head?_cons] at other
        rw [trim, shape, List.dropWhile_cons_of_neg (by simpa using other)]
  rw [trim, front]
  exact List.rdropWhile_idempotent _ _

section Numeral

variable {text whole fraction : List Char} (numeral : Numeral text whole fraction)
include numeral

theorem Numeral.whole_digits : ∀ char ∈ whole, char.isDigit :=
  fun char member => numeral.digits char (List.mem_append_left _ member)

theorem Numeral.fraction_digits : ∀ char ∈ fraction, char.isDigit :=
  fun char member => numeral.digits char (List.mem_append_right _ member)

theorem Numeral.takeWhile_whole {p : Char → Bool} (passes : ∀ char, char.isDigit → p char)
    (stops : ¬p '.') : text.takeWhile p = whole ∧
      text.dropWhile p = if fraction = [] then [] else '.' :: fraction := by
  have within : ∀ char ∈ whole, p char := fun char member =>
    passes char (numeral.whole_digits char member)
  rw [numeral.spelling, List.takeWhile_append_of_pos within, List.dropWhile_append_of_pos within]
  split
  · exact ⟨List.append_nil _, rfl⟩
  · rw [List.takeWhile_cons_of_neg stops, List.dropWhile_cons_of_neg stops]
    exact ⟨List.append_nil _, rfl⟩

theorem Numeral.split : splitPoint text = (whole, fraction) := by
  have other : ∀ char : Char, char.isDigit → decide (char ≠ '.') := by
    intro char digit
    refine decide_eq_true fun point => ?_
    rw [point] at digit
    exact absurd digit (by decide)
  obtain ⟨front, back⟩ := numeral.takeWhile_whole other (by decide)
  rw [splitPoint, front, back]
  split
  · next none_left => simp [none_left]
  · rw [List.drop_one, List.tail_cons, List.takeWhile_eq_self_iff.mpr]
    exact fun char member => other char (numeral.fraction_digits char member)

end Numeral

theorem isNumeral_iff {text : List Char} :
    isNumeral text ↔ ∃ whole fraction, Numeral text whole fraction := by
  constructor
  · intro passed
    rw [isNumeral, Bool.and_eq_true, Bool.or_eq_true, decide_eq_true_iff, Bool.and_eq_true,
      decide_eq_true_iff, decide_eq_true_iff] at passed
    obtain ⟨front, back⟩ := passed
    have digits : ∀ char ∈ text.takeWhile Char.isDigit, char.isDigit := fun char member =>
      List.mem_takeWhile_imp member
    have some_whole : text.takeWhile Char.isDigit ≠ [] := by
      rcases front with zero | ⟨some_left, -⟩
      · rw [zero]; decide
      · exact some_left
    have plain : (text.takeWhile Char.isDigit).head? = some '0' →
        text.takeWhile Char.isDigit = ['0'] := fun zero =>
      front.resolve_right fun ⟨_, other⟩ => other zero
    have whole := List.takeWhile_append_dropWhile (p := Char.isDigit) (l := text)
    cases shape : text.dropWhile Char.isDigit with
    | nil =>
        rw [shape] at whole
        exact ⟨_, [], by simpa using whole.symm, some_whole, plain, by simpa using digits⟩
    | cons point fraction =>
        rw [shape] at back whole
        simp only [Bool.and_eq_true, decide_eq_true_iff, List.all_eq_true] at back
        obtain ⟨⟨rfl, some_fraction⟩, more⟩ := back
        refine ⟨_, fraction, by simpa [some_fraction] using whole.symm, some_whole, plain, ?_⟩
        intro char member
        rcases List.mem_append.mp member with inside | inside
        · exact digits char inside
        · exact more char inside
  · rintro ⟨whole, fraction, numeral⟩
    obtain ⟨front, back⟩ := numeral.takeWhile_whole (fun _ digit => digit) (by decide)
    rw [isNumeral, front, back, Bool.and_eq_true, Bool.or_eq_true, decide_eq_true_iff,
      Bool.and_eq_true, decide_eq_true_iff, decide_eq_true_iff]
    refine ⟨?_, ?_⟩
    · by_cases zero : whole.head? = some '0'
      · exact .inl (numeral.plain zero)
      · exact .inr ⟨numeral.some_whole, zero⟩
    · split
      · rfl
      · next point rest shape =>
          split at shape
          · cases shape
          · next some_fraction =>
              cases shape
              simpa [some_fraction] using numeral.fraction_digits

/-! ## What is read -/

theorem spelled_stripLeadingZeros (text : List Char) :
    spelled (stripLeadingZeros text) = spelled text := by
  rw [stripLeadingZeros]
  split
  · exact spelled_dropWhile
  · exact spelled_drop (Nat.sub_le _ _)

theorem spelled_padded {whole fraction : List Char} {decimals : Nat}
    (fits : fraction.length ≤ decimals) :
    spelled (whole ++ fraction.rightpad decimals '0') =
      spelled whole * 10 ^ decimals + spelled fraction * 10 ^ (decimals - fraction.length) := by
  rw [spelled_append, List.length_rightpad, max_eq_left fits, List.rightpad, spelled_append,
    List.length_replicate, spelled_zeros, Nat.add_zero]

theorem parseTokenAmount_ok {text : List Char} {decimals amount : Nat} {label : String} :
    parseTokenAmount text decimals label = .ok amount ↔ ∃ whole fraction,
      Numeral (trim text) whole fraction ∧ fraction.length ≤ decimals ∧
      amount = spelled (whole ++ fraction.rightpad decimals '0') ∧ 0 < amount ∧ amount < 2 ^ 64 := by
  simp only [parseTokenAmount, bind_eq_ok, require_eq_ok, pure_eq_ok, spelled_stripLeadingZeros,
    Nat.size_le]
  constructor
  · rintro ⟨_, numeral, _, fits, _, positive, _, bounded, rfl⟩
    obtain ⟨whole, fraction, numeral⟩ := isNumeral_iff.mp numeral
    rw [numeral.split] at fits positive bounded ⊢
    exact ⟨whole, fraction, numeral, fits, rfl, Nat.pos_of_ne_zero positive, bounded⟩
  · rintro ⟨whole, fraction, numeral, fits, rfl, positive, bounded⟩
    refine ⟨(), isNumeral_iff.mpr ⟨whole, fraction, numeral⟩, ?_⟩
    rw [numeral.split]
    exact ⟨(), fits, (), positive.ne', (), bounded, rfl⟩

theorem padded_value {whole fraction : List Char} {decimals : Nat}
    (fits : fraction.length ≤ decimals) :
    (spelled (whole ++ fraction.rightpad decimals '0') : ℚ) =
      numeralValue whole fraction * 10 ^ decimals := by
  have scale : (10 : ℚ) ^ decimals = 10 ^ (decimals - fraction.length) * 10 ^ fraction.length := by
    rw [← pow_add, Nat.sub_add_cancel fits]
  rw [spelled_padded fits, numeralValue]
  push_cast
  rw [scale]
  field_simp

/-! ## Showing -/

/-- The parts of a shown amount: all digits but the last ones, and these without the zeros at
their end. -/
structure Shown (value decimals : Nat) (text whole fraction : List Char) : Prop extends
    Numeral text whole fraction where
  fits : fraction.length ≤ decimals
  value_eq : spelled (whole ++ fraction.rightpad decimals '0') = value
  last : fraction.getLast? ≠ some '0'

theorem toDigits_plain (value : Nat) :
    (Nat.toDigits 10 value).head? = some '0' → Nat.toDigits 10 value = ['0'] := by
  intro zero
  rcases Nat.eq_zero_or_pos value with rfl | positive
  · rfl
  · exact absurd zero (head?_toDigits positive)

theorem padded_plain (value : Nat) {decimals : Nat} (some_decimals : decimals ≠ 0) :
    let padded := (Nat.toDigits 10 value).leftpad (decimals + 1) '0'
    let whole := padded.take (padded.length - decimals)
    whole ≠ [] ∧ (whole.head? = some '0' → whole = ['0']) := by
  intro padded whole
  have length : padded.length = max (decimals + 1) (Nat.toDigits 10 value).length :=
    List.length_leftpad
  have taken : whole.length = padded.length - decimals := by
    rw [List.length_take]
    omega
  refine ⟨List.ne_nil_of_length_pos (by omega), fun zero => ?_⟩
  by_cases long : decimals + 1 ≤ (Nat.toDigits 10 value).length
  · have unpadded : padded = Nat.toDigits 10 value := by
      simp [padded, List.leftpad, Nat.sub_eq_zero_of_le long]
    have single := toDigits_plain value (by
      rw [← unpadded, ← zero, List.head?_take, if_neg (by omega)])
    rw [single, List.length_singleton] at long
    omega
  · obtain ⟨char, shape⟩ := List.length_eq_one_iff.mp (show whole.length = 1 by omega)
    rw [shape, List.head?_cons, Option.some.injEq] at zero
    rw [shape, zero]

theorem formatAtomicAmount_shown (value decimals : Nat) : ∃ whole fraction,
    Shown value decimals (formatAtomicAmount value decimals) whole fraction := by
  have digits : ∀ char ∈ Nat.toDigits 10 value, char.isDigit := fun char member =>
    Nat.isDigit_of_mem_toDigits (by decide) (by decide) member
  have some_digits : Nat.toDigits 10 value ≠ [] := Nat.toDigits_ne_nil
  by_cases whole_only : decimals = 0
  · subst whole_only
    refine ⟨Nat.toDigits 10 value, [], ⟨by simp [formatAtomicAmount], some_digits,
      toDigits_plain value, by simpa using digits⟩, le_refl _, ?_, by simp⟩
    simp [List.rightpad]
  · have plain := padded_plain value whole_only
    have padded_digits : ∀ char ∈ (Nat.toDigits 10 value).leftpad (decimals + 1) '0',
        char.isDigit := by
      intro char member
      rcases List.mem_append.mp member with zero | inside
      · rw [List.eq_of_mem_replicate zero]
        decide
      · exact digits char inside
    have length : ((Nat.toDigits 10 value).leftpad (decimals + 1) '0').length =
        max (decimals + 1) (Nat.toDigits 10 value).length := List.length_leftpad
    have value_eq : spelled ((Nat.toDigits 10 value).leftpad (decimals + 1) '0') = value := by
      rw [spelled_leftpad, spelled_toDigits]
    simp only [formatAtomicAmount, if_neg whole_only]
    generalize (Nat.toDigits 10 value).leftpad (decimals + 1) '0' = padded at *
    have low : (padded.drop (padded.length - decimals)).length = decimals := by
      rw [List.length_drop]
      omega
    refine ⟨padded.take (padded.length - decimals),
      (padded.drop (padded.length - decimals)).rdropWhile (· == '0'),
      ⟨?_, plain.1, plain.2, fun char member => ?_⟩, ?_, ?_, rdropWhile_last⟩
    · by_cases none_left : (padded.drop (padded.length - decimals)).rdropWhile (· == '0') = []
      · simp [none_left]
      · simp [none_left]
    · rcases List.mem_append.mp member with front | back
      · exact padded_digits char (List.mem_of_mem_take front)
      · exact padded_digits char
          (List.mem_of_mem_drop ((List.rdropWhile_prefix _ _).subset back))
    · exact (List.rdropWhile_prefix _ _).length_le.trans low.le
    · have restored := rightpad_rdropWhile (padded.drop (padded.length - decimals))
      rw [low] at restored
      rw [restored, List.take_append_drop, value_eq]

theorem Shown.point {value decimals : Nat} {text whole fraction left right : List Char}
    (shown : Shown value decimals text whole fraction) (split : text = left ++ '.' :: right) :
    right = fraction ∧ fraction ≠ [] := by
  have none_whole : '.' ∉ whole := fun member =>
    absurd (shown.whole_digits '.' member) (by decide)
  have none_fraction : '.' ∉ fraction := fun member =>
    absurd (shown.fraction_digits '.' member) (by decide)
  have same := shown.spelling.symm.trans split
  by_cases whole_only : fraction = []
  · rw [if_pos whole_only, List.append_nil] at same
    exact absurd (by simp [same]) none_whole
  · refine ⟨?_, whole_only⟩
    rw [if_neg whole_only] at same
    obtain ⟨between, -, back⟩ | ⟨between, front, back⟩ := List.append_eq_append_iff.mp same
    · cases between with
      | nil => exact (List.cons.inj back).2.symm
      | cons first between =>
          exact absurd (by simp [(List.cons.inj back).2]) none_fraction
    · cases between with
      | nil => exact (List.cons.inj back).2
      | cons first between =>
          exact absurd (by simp [front, ← (List.cons.inj back).1]) none_whole

theorem isSpace_digit {char : Char} (digit : char.isDigit) : isSpace char = false := by
  have bounds : 48 ≤ char.val.toNat ∧ char.val.toNat ≤ 57 := by
    simpa [Char.isDigit, UInt32.le_iff_toNat_le] using digit
  simp only [isSpace, List.mem_cons, List.not_mem_nil, or_false, Bool.or_eq_false_iff,
    decide_eq_false_iff_not, Bool.and_eq_false_iff, ← UInt32.toNat_inj, UInt32.le_iff_toNat_le,
    UInt32.reduceToNat]
  omega

theorem Shown.untrimmed {value decimals : Nat} {text whole fraction : List Char}
    (shown : Shown value decimals text whole fraction) : trim text = text := by
  have visible : ∀ char ∈ text, ¬isSpace char := by
    intro char member
    rw [Bool.not_eq_true]
    rw [shown.spelling, List.mem_append] at member
    rcases member with inside | inside
    · exact isSpace_digit (shown.whole_digits char inside)
    · split at inside
      · cases inside
      · rcases List.mem_cons.mp inside with rfl | behind
        · decide
        · exact isSpace_digit (shown.fraction_digits char behind)
  have front : text.dropWhile isSpace = text :=
    List.dropWhile_eq_self_iff.mpr fun _ => visible _ (List.getElem_mem _)
  rw [trim, front]
  exact List.rdropWhile_eq_self_iff.mpr fun some_left => visible _ (List.getLast_mem some_left)

/-- A shown amount is read back as itself; a text is accepted exactly when it is a numeral of an
amount that can be held, which is the one returned; and no two amounts are shown alike. -/
theorem amounts_round_trip (label : String) (decimals : Nat) :
    (∀ value, 0 < value → value < 2 ^ 64 →
      parseTokenAmount (formatAtomicAmount value decimals) decimals label = .ok value) ∧
    (∀ text, parseTokenAmount text decimals label = parseTokenAmount (trim text) decimals label) ∧
    (∀ text amount, trim text = text → (parseTokenAmount text decimals label = .ok amount ↔
      ∃ whole fraction, Numeral text whole fraction ∧ fraction.length ≤ decimals ∧
        (amount : ℚ) = numeralValue whole fraction * 10 ^ decimals ∧
        0 < amount ∧ amount < 2 ^ 64)) ∧
    (∀ first second, formatAtomicAmount first decimals = formatAtomicAmount second decimals →
      first = second) ∧
    ∀ value whole fraction, formatAtomicAmount value decimals = whole ++ '.' :: fraction →
      fraction ≠ [] ∧ fraction.getLast? ≠ some '0' := by
  refine ⟨fun value positive bounded => ?_, fun text => ?_, fun text amount trimmed => ?_,
    fun first second same => ?_, fun value whole fraction split => ?_⟩
  · obtain ⟨whole, fraction, shown⟩ := formatAtomicAmount_shown value decimals
    refine parseTokenAmount_ok.mpr ⟨whole, fraction, ?_, shown.fits, shown.value_eq.symm, positive,
      bounded⟩
    rw [shown.untrimmed]
    exact shown.toNumeral
  · simp only [parseTokenAmount, trim_trim]
  · rw [parseTokenAmount_ok, trimmed]
    refine exists_congr fun whole => exists_congr fun fraction => and_congr_right fun _ =>
      and_congr_right fun fits => and_congr_left fun _ => ?_
    rw [← padded_value fits]
    exact Nat.cast_inj.symm
  · obtain ⟨whole, fraction, shown⟩ := formatAtomicAmount_shown first decimals
    obtain ⟨front, back, also⟩ := formatAtomicAmount_shown second decimals
    rw [← same] at also
    obtain ⟨rfl, rfl⟩ := Prod.mk.inj (shown.split.symm.trans also.split)
    rw [← shown.value_eq, ← also.value_eq]
  · obtain ⟨front, back, shown⟩ := formatAtomicAmount_shown value decimals
    obtain ⟨rfl, some_left⟩ := shown.point split
    exact ⟨some_left, shown.last⟩

theorem amounts_round_trip_cents :
    parseTokenAmount (formatAtomicAmount 1500 3) 3 "Price" = .ok 1500 ∧
      formatAtomicAmount 1500 3 = "1".toList ++ '.' :: "5".toList ∧
      "5".toList.getLast? ≠ some '0' := by
  have shown : formatAtomicAmount 1500 3 = "1".toList ++ '.' :: "5".toList := by decide +kernel
  obtain ⟨parsed, -, -, -, visible⟩ := amounts_round_trip "Price" 3
  exact ⟨parsed 1500 (by decide) (by decide), shown, (visible 1500 _ _ shown).2⟩

end Tidebook.Proof
