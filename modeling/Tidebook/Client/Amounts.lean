import Tidebook.Library.Checked
import Tidebook.Library.Decimal

/-! # Decimal amounts

How the client reads and shows amounts. Atomic amounts are natural numbers and texts are lists of
characters.
-/

namespace Tidebook.Client
open Tidebook.Library

/-- The characters that a trim takes away. -/
def isSpace (char : Char) : Bool :=
  char.val ∈ [0x9, 0xA, 0xB, 0xC, 0xD, 0x20, 0xA0, 0x1680, 0x2028, 0x2029, 0x202F, 0x205F, 0x3000,
    0xFEFF] || (0x2000 ≤ char.val && char.val ≤ 0x200A)

def trim (text : List Char) : List Char := (text.dropWhile isSpace).rdropWhile isSpace

/-- `^(?:0|[1-9][0-9]*)(?:\.[0-9]+)?$` -/
def isNumeral (text : List Char) : Bool :=
  let whole := text.takeWhile Char.isDigit
  (whole = ['0'] || whole ≠ [] && whole.head? ≠ some '0') &&
    match text.dropWhile Char.isDigit with
    | [] => true
    | point :: fraction => point = '.' && fraction ≠ [] && fraction.all Char.isDigit

/-- The texts in front of the first point and between it and the next one. -/
def splitPoint (text : List Char) : List Char × List Char :=
  (text.takeWhile (· ≠ '.'), ((text.dropWhile (· ≠ '.')).drop 1).takeWhile (· ≠ '.'))

/-- `replace(/^0+(?=\d)/, "")` -/
def stripLeadingZeros (text : List Char) : List Char :=
  let rest := text.dropWhile (· == '0')
  if rest.head?.any Char.isDigit then rest
  else text.drop ((text.takeWhile (· == '0')).length - 1)

def parseTokenAmount (value : List Char) (decimals : Nat) (label : String) : Except String Nat := do
  let normalized := trim value
  require (isNumeral normalized) (label ++ " must be a positive decimal number")
  let (whole, fraction) := splitPoint normalized
  require (fraction.length ≤ decimals)
    (label ++ " supports at most " ++ toString decimals ++ " decimal places")
  let atomic := spelled (stripLeadingZeros (whole ++ fraction.rightpad decimals '0'))
  require (atomic ≠ 0) (label ++ " must be greater than zero")
  require (atomic.size ≤ 64) (label ++ " exceeds the u64 limit")
  pure atomic

def formatAtomicAmount (value decimals : Nat) : List Char :=
  let raw := Nat.toDigits 10 value
  if decimals = 0 then raw
  else
    let padded := raw.leftpad (decimals + 1) '0'
    let whole := padded.take (padded.length - decimals)
    let fraction := (padded.drop (padded.length - decimals)).rdropWhile (· == '0')
    if fraction ≠ [] then whole ++ '.' :: fraction else whole

end Tidebook.Client
