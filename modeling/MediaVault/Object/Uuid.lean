import MediaVault.Text.Hex

/-!
# Random identifiers

A version 4 UUID is 122 random bits, written as 32 lower-case hexadecimal
digits in five groups.  Where the bits come from is the caller's affair.
-/

namespace MediaVault

/-- A 128-bit identifier. -/
structure Uuid where
  bits : BitVec 128
deriving Repr, DecidableEq, Inhabited

namespace Uuid

/-- The identifier with these bits, apart from the six that name the version
and the variant. -/
def ofRandom (bits : BitVec 128) : Uuid :=
  let versionMask : BitVec 128 := 0xF000#128 <<< 64
  let variantMask : BitVec 128 := 0xC000#128 <<< 48
  ⟨(bits &&& ~~~versionMask &&& ~~~variantMask) ||| (0x4000#128 <<< 64) ||| (0x8000#128 <<< 48)⟩

/-- The hexadecimal digit at position `i`, counted from the left. -/
def digit (u : Uuid) (i : Nat) : Char :=
  Text.hexDigit (u.bits.toNat >>> (4 * (31 - i)) % 16)

/-- `count` digits from position `i` on. -/
def digits (u : Uuid) (i count : Nat) : List Char :=
  (List.range' i count).map u.digit

/-- The five groups, joined by hyphens. -/
def chars (u : Uuid) : List Char :=
  u.digits 0 8 ++ '-' :: u.digits 8 4 ++ '-' :: u.digits 12 4 ++ '-' :: u.digits 16 4 ++
    '-' :: u.digits 20 12

/-- The written form: 36 characters. -/
def text (u : Uuid) : String :=
  String.ofList u.chars

end Uuid

end MediaVault
