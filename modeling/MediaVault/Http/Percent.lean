import MediaVault.Text.Hex
import MediaVault.Text.Utf8

/-!
# Percent escapes

A `%` with two hexadecimal digits stands for one byte.  Any other `%` stands
for itself.
-/

namespace MediaVault.Percent

/-- The byte that two hexadecimal digits denote. -/
def byte? (high low : UInt8) : Option UInt8 := do
  let h ← Text.hexValue? (Char.ofNat high.toNat)
  let l ← Text.hexValue? (Char.ofNat low.toNat)
  pure (UInt8.ofNat (h * 16 + l))

/-- Replace every escape by its byte. -/
def decode : List UInt8 → List UInt8
  | [] => []
  | b :: high :: low :: rest =>
    if b == 0x25 then
      match byte? high low with
      | some v => v :: decode rest
      | none => b :: decode (high :: low :: rest)
    else b :: decode (high :: low :: rest)
  | b :: rest => b :: decode rest

/-- Decode a text whose bytes have to form a text again. -/
def decodeText? (s : String) : Option String :=
  Text.ofUtf8? (decode (Text.utf8 s))

/-- Decode a text of a form: a `+` is a space, and bad bytes are replaced. -/
def decodeForm (bytes : List UInt8) : String :=
  String.ofList (Text.decodeLossy (decode (bytes.map fun b => if b == 0x2B then 0x20 else b)))

/-- The two digits of an escape are in upper case. -/
def escape (b : UInt8) : List Char :=
  ['%', (Text.hexDigit (b.toNat / 16)).toUpper, (Text.hexDigit (b.toNat % 16)).toUpper]

/-- Escape every byte that `keep` does not let through. -/
def encode (keep : Char → Bool) (s : String) : String :=
  String.ofList ((Text.utf8 s).flatMap fun b =>
    let c := Char.ofNat b.toNat
    if b < 0x80 && keep c then [c] else escape b)

/-- The characters that never need an escape. -/
def isUnreserved (c : Char) : Bool :=
  c.isAlphanum || c == '-' || c == '_' || c == '.' || c == '~'

end MediaVault.Percent
