/-!
# Base-83 numerals

Placeholder hashes are written with 83 printable ASCII characters, most
significant digit first.
-/

namespace MediaVault.Base83

/-- The digits, in the order of their values. -/
def alphabet : List Char :=
  "0123456789ABCDEFGHIJKLMNOPQRSTUVWXYZabcdefghijklmnopqrstuvwxyz#$%*+,-.:;=?@[]^_\x7b|\x7d~".toList

theorem length_alphabet : alphabet.length = 83 := by
  decide +kernel

/-- The digit of value `n` modulo 83. -/
def digit (n : Nat) : Char :=
  alphabet.get ⟨n % 83, by rw [length_alphabet]; exact Nat.mod_lt _ (by decide)⟩

/-- The lowest `length` digits of `value`. -/
def numeral (value : Nat) : (length : Nat) → List Char
  | 0 => []
  | length + 1 => numeral (value / 83) length ++ [digit value]

/-- Append the lowest `length` digits of `value`. -/
def push (out : List Char) (value length : Nat) : List Char :=
  out ++ numeral value length

theorem length_numeral (value length : Nat) : (numeral value length).length = length := by
  induction length generalizing value with
  | zero => rfl
  | succ n ih => simp [numeral, ih]

end MediaVault.Base83
