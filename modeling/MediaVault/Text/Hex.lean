/-!
# Bytes as text

Lower-case hexadecimal, and base64 with the alphabet that is safe in URLs and
without padding.
-/

namespace MediaVault.Text

/-- The lower-case hexadecimal digit of `n < 16`. -/
def hexDigit (n : Nat) : Char :=
  Nat.digitChar n

/-- The value of a hexadecimal digit in either case. -/
def hexValue? (c : Char) : Option Nat :=
  if '0' ≤ c && c ≤ '9' then some (c.toNat - '0'.toNat)
  else if 'a' ≤ c && c ≤ 'f' then some (c.toNat - 'a'.toNat + 10)
  else if 'A' ≤ c && c ≤ 'F' then some (c.toNat - 'A'.toNat + 10)
  else none

/-- Two lower-case digits per byte. -/
def hex (bytes : ByteArray) : String :=
  String.ofList (bytes.data.toList.flatMap fun b => [hexDigit (b.toNat / 16), hexDigit (b.toNat % 16)])

/-- The URL-safe base64 alphabet. -/
def base64UrlDigit (n : Nat) : Char :=
  if n < 26 then Char.ofNat ('A'.toNat + n)
  else if n < 52 then Char.ofNat ('a'.toNat + (n - 26))
  else if n < 62 then Char.ofNat ('0'.toNat + (n - 52))
  else if n = 62 then '-' else '_'

/-- Three bytes become four digits; one or two bytes at the end become two or
three digits. -/
def base64UrlChars : List UInt8 → List Char
  | [] => []
  | [a] =>
    let n := a.toNat * 16
    [base64UrlDigit (n / 64), base64UrlDigit (n % 64)]
  | [a, b] =>
    let n := (a.toNat * 256 + b.toNat) * 4
    [base64UrlDigit (n / 4096), base64UrlDigit (n / 64 % 64), base64UrlDigit (n % 64)]
  | a :: b :: c :: rest =>
    let n := (a.toNat * 256 + b.toNat) * 256 + c.toNat
    base64UrlDigit (n / 262144) :: base64UrlDigit (n / 4096 % 64) ::
      base64UrlDigit (n / 64 % 64) :: base64UrlDigit (n % 64) :: base64UrlChars rest

/-- URL-safe base64 without padding. -/
def base64Url (bytes : ByteArray) : String :=
  String.ofList (base64UrlChars bytes.data.toList)

end MediaVault.Text
