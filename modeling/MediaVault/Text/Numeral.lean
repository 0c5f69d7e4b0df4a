/-!
# Decimal numerals of bounded size

A numeral is an optional `+` and one or more ASCII digits; leading zeros are
allowed.  Reading stops at the first character that decides the outcome, so a
numeral that leaves the range before its first stray character is reported as
too large.
-/

namespace MediaVault.Text

/-- Why a text is no numeral in the wanted range. -/
inductive NumeralError where
  | empty
  | invalidDigit
  | tooLarge
  | tooSmall
deriving Repr, DecidableEq

/-- The wording of a numeral error. -/
def NumeralError.message : NumeralError → String
  | .empty => "cannot parse integer from empty string"
  | .invalidDigit => "invalid digit found in string"
  | .tooLarge => "number too large to fit in target type"
  | .tooSmall => "number too small to fit in target type"

/-- The value of an ASCII digit. -/
def digitValue? (c : Char) : Option Nat :=
  if c.isDigit then some (c.toNat - '0'.toNat) else none

/-- Append the digits of `s` to the number `acc`, which may not pass `most`. -/
def appendDigits (most : Nat) (overflow : NumeralError) :
    Nat → List Char → Except NumeralError Nat
  | acc, [] => .ok acc
  | acc, c :: s =>
    match digitValue? c with
    | none => .error .invalidDigit
    | some d =>
      if acc * 10 + d ≤ most then appendDigits most overflow (acc * 10 + d) s
      else .error overflow

/-- One or more digits denoting a number that is at most `most`. -/
def readDigits (most : Nat) (overflow : NumeralError) : List Char → Except NumeralError Nat
  | [] => .error .invalidDigit
  | s => appendDigits most overflow 0 s

/-- A numeral between `0` and `most`. -/
def readNatural (most : Nat) : List Char → Except NumeralError Nat
  | [] => .error .empty
  | '+' :: s => readDigits most .tooLarge s
  | s => readDigits most .tooLarge s

/-- A numeral between `-(most + 1)` and `most`; a `-` may stand in front. -/
def readInteger (most : Nat) : List Char → Except NumeralError Int
  | [] => .error .empty
  | '+' :: s => (readDigits most .tooLarge s).map Int.ofNat
  | '-' :: s => (readDigits (most + 1) .tooSmall s).map fun n => -(Int.ofNat n)
  | s => (readDigits most .tooLarge s).map Int.ofNat

/-- The largest number of `bits` bits. -/
def maxOfBits (bits : Nat) : Nat :=
  (1 <<< bits) - 1

/-- A decimal numeral with at least `width` digits. -/
def padLeft (width n : Nat) : String :=
  let digits := Nat.toDigits 10 n
  String.ofList (List.replicate (width - digits.length) '0' ++ digits)

end MediaVault.Text
