import MediaVault.Image.Bits

/-!
# Words that grow

GIF pixels are coded with words from a dictionary that grows as it is used.
Each entry is an earlier entry with one more symbol, so the dictionary is kept
as a list of places in the output where the entry was last written.
-/

namespace MediaVault.Lzw

open Bits

/-- The longest code word. -/
def maxWidth : Nat := 12

/-- A dictionary entry: where it stands in the output and its length. -/
structure Entry where
  place : Nat
  length : Nat
deriving Repr, Inhabited

/-- Where decoding stands. -/
structure State where
  /-- Bits of the next code word. -/
  width : Nat
  /-- Entries after the plain symbols and the two control codes. -/
  entries : Array Entry := #[]
  /-- The entry that was written last. -/
  last : Option Entry := none
  out : ByteArray := ByteArray.empty

/-- Append `length` bytes of the output, from `place` on. -/
def copy (out : ByteArray) (place : Nat) : (length : Nat) → ByteArray
  | 0 => out
  | length + 1 => copy (out.push (Digest.byteAt out place)) (place + 1) length

/-- Write an entry; together with its first symbol the entry before it becomes
a new one. -/
def State.write (s : State) (symbols : Nat) (out : ByteArray) (length : Nat) : State :=
  let entries := match s.last with
    | some e =>
      if symbols + 2 + s.entries.size < 1 <<< maxWidth then s.entries.push ⟨e.place, e.length + 1⟩
      else s.entries
    | none => s.entries
  let next := symbols + 2 + entries.size
  { width := if 1 <<< s.width ≤ next ∧ s.width < maxWidth then s.width + 1 else s.width
    entries := entries
    last := some ⟨s.out.size, length⟩
    out := out }

/-- Take one code word.  Nothing is left to do after the end code. -/
def State.take? (s : State) (symbols code : Nat) : Option State :=
  if code < symbols then some (s.write symbols (s.out.push (UInt8.ofNat code)) 1)
  else
    match s.entries[code - (symbols + 2)]?, s.last with
    | some e, some _ => some (s.write symbols (copy s.out e.place e.length) e.length)
    | none, some e =>
      if code = symbols + 2 + s.entries.size then
        some (s.write symbols (copy s.out e.place (e.length + 1)) (e.length + 1))
      else none
    | _, none => none

/-- Decode until `wanted` symbols are there or the data ends.  `bits` is the
size of a plain symbol; every round takes a code word. -/
def decode (bytes : ByteArray) (bits wanted : Nat) :
    (fuel : Nat) → (place : Nat) → State → Option ByteArray
  | 0, _, s => some s.out
  | fuel + 1, place, s =>
    if wanted ≤ s.out.size then some s.out
    else
      match read? bytes place s.width with
      | none => some s.out
      | some (code, place) =>
        let symbols := 1 <<< bits
        if code = symbols then decode bytes bits wanted fuel place ⟨bits + 1, #[], none, s.out⟩
        else if code = symbols + 1 then some s.out
        else
          match s.take? symbols code with
          | none => none
          | some s => decode bytes bits wanted fuel place s

/-- The first `wanted` symbols, when there are so many. -/
def symbols? (bytes : ByteArray) (bits wanted : Nat) : Option ByteArray := do
  let out ← decode bytes bits wanted (8 * bytes.size + 1) 0 { width := bits + 1 }
  if out.size < wanted then none else pure (out.extract 0 wanted)

end MediaVault.Lzw
