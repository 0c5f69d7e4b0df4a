import MediaVault.Http.Percent
import MediaVault.Proofs.Text

/-!
# Escaped texts come back

An escaped text is plain ASCII.  Reading it replaces the escapes that were put in
and nothing else, whatever was let through unescaped.  A text that was not escaped is
read as it is exactly if it happens to have no escape: `decode_eq_self_iff`.
-/

namespace MediaVault.Percent

/-- Any byte but the mark of an escape is read as it is. -/
theorem decode_cons_of_ne {b : UInt8} (unmarked : b ≠ 0x25) (rest : List UInt8) :
    decode (b :: rest) = b :: decode rest := by
  match rest with
  | [] => rfl
  | [_] => rfl
  | high :: low :: rest => rw [decode, if_neg (by simpa using unmarked)]

/-- The byte of a hexadecimal digit in upper case. -/
def digitByte (n : Nat) : UInt8 := UInt8.ofNat (Text.hexDigit n).toUpper.toNat

/-- The two digits of an escape denote the byte that was escaped. -/
theorem byte?_digitByte (b : UInt8) :
    (escape b).flatMap String.utf8EncodeChar =
        [0x25, digitByte (b.toNat / 16), digitByte (b.toNat % 16)] ∧
      byte? (digitByte (b.toNat / 16)) (digitByte (b.toNat % 16)) = some b := by
  have all : ∀ n < 256, (escape (.ofNat n)).flatMap String.utf8EncodeChar =
        [0x25, digitByte (n / 16), digitByte (n % 16)] ∧
      byte? (digitByte (n / 16)) (digitByte (n % 16)) = some (.ofNat n) := by
    decide +kernel
  simpa using all b.toNat b.toNat_lt

theorem decode_escape (b : UInt8) (rest : List UInt8) :
    decode ((escape b).flatMap String.utf8EncodeChar ++ rest) = b :: decode rest := by
  obtain ⟨bytes, denoted⟩ := byte?_digitByte b
  rw [bytes]
  simp only [List.cons_append, List.nil_append, decode, denoted, beq_self_eq_true, if_pos]

/-- A byte below the last of ASCII is the only one of its character. -/
theorem utf8EncodeChar_ofNat {b : UInt8} (ascii : b < 0x80) :
    String.utf8EncodeChar (Char.ofNat b.toNat) = [b] := by
  have all : ∀ n < 0x80, String.utf8EncodeChar (Char.ofNat n) = [UInt8.ofNat n] := by decide +kernel
  simpa using all b.toNat (UInt8.lt_iff_toNat_lt.mp ascii)

/-- Beside what is let through, an escaped text has nothing but escapes. -/
theorem mem_encode {keep : Char → Bool} {s : String} {c : Char}
    (member : c ∈ (encode keep s).toList) :
    c = '%' ∨ keep c = true ∨ ∃ n < 16, c = (Text.hexDigit n).toUpper := by
  rw [encode, String.toList_ofList, List.mem_flatMap] at member
  obtain ⟨b, -, written⟩ := member
  simp only at written
  split at written
  next kept =>
    obtain rfl := List.mem_singleton.mp written
    exact .inr (.inl (Bool.and_eq_true_iff.mp kept).2)
  next =>
    have small := b.toNat_lt
    simp only [escape, List.mem_cons, List.not_mem_nil, or_false] at written
    rcases written with rfl | rfl | rfl
    · exact .inl rfl
    · exact .inr (.inr ⟨_, by omega, rfl⟩)
    · exact .inr (.inr ⟨_, by omega, rfl⟩)

section

variable {keep : Char → Bool} (marked : keep '%' = false)

include marked

theorem decode_utf8_encode (s : String) : decode (Text.utf8 (encode keep s)) = Text.utf8 s := by
  rw [encode, Text.utf8_eq_flatMap, String.toList_ofList, List.flatMap_assoc]
  -- Byte by byte: a character that was let through, or an escape.
  induction Text.utf8 s with
  | nil => rfl
  | cons b bytes ih =>
    rw [List.flatMap_cons]
    simp only
    split_ifs with kept
    · obtain ⟨ascii, through⟩ := Bool.and_eq_true_iff.mp kept
      have unmarked : b ≠ 0x25 := by
        rintro rfl
        exact absurd (through.symm.trans marked) (by decide)
      rw [List.flatMap_cons, List.flatMap_nil, List.append_nil,
        utf8EncodeChar_ofNat (of_decide_eq_true ascii), List.singleton_append,
        decode_cons_of_ne unmarked, ih]
    · rw [decode_escape, ih]

theorem decodeText?_encode (s : String) : decodeText? (encode keep s) = some s := by
  rw [decodeText?, decode_utf8_encode marked, Text.ofUtf8?_utf8]

end

/-! ## Bytes that are read as they are -/

/-- Somewhere in the bytes stands the mark of an escape with two hexadecimal digits. -/
def HasEscape (bytes : List UInt8) : Prop :=
  ∃ front high low back, bytes = front ++ 0x25 :: high :: low :: back ∧
    (byte? high low).isSome = true

theorem not_hasEscape_nil : ¬ HasEscape [] := by
  rintro ⟨front, high, low, back, written, -⟩
  simp at written

theorem hasEscape_cons_iff {b : UInt8} {bytes : List UInt8} :
    HasEscape (b :: bytes) ↔
      (∃ high low back, b = 0x25 ∧ bytes = high :: low :: back ∧ (byte? high low).isSome = true) ∨
        HasEscape bytes := by
  constructor
  · rintro ⟨front, high, low, back, written, denoted⟩
    cases front with
    | nil =>
      obtain ⟨rfl, rfl⟩ := List.cons.inj written
      exact .inl ⟨high, low, back, rfl, rfl, denoted⟩
    | cons c front =>
      obtain ⟨rfl, rfl⟩ := List.cons.inj written
      exact .inr ⟨front, high, low, back, rfl, denoted⟩
  · rintro (⟨high, low, back, rfl, rfl, denoted⟩ | ⟨front, high, low, back, rfl, denoted⟩)
    · exact ⟨[], high, low, back, rfl, denoted⟩
    · exact ⟨b :: front, high, low, back, rfl, denoted⟩

theorem length_decode_le (bytes : List UInt8) : (decode bytes).length ≤ bytes.length := by
  fun_induction decode bytes with
  | case1 => exact Nat.le_refl _
  | case2 b high low rest marked v denoted ih =>
    simp only [List.length_cons]
    omega
  | case3 b high low rest marked other ih =>
    simp only [List.length_cons] at ih ⊢
    omega
  | case4 b high low rest unmarked ih =>
    simp only [List.length_cons] at ih ⊢
    omega
  | case5 b rest short ih =>
    simp only [List.length_cons]
    omega

/-- Exactly the bytes without an escape are read as they are. -/
theorem decode_eq_self_iff (bytes : List UInt8) : decode bytes = bytes ↔ ¬ HasEscape bytes := by
  have passed {b : UInt8} {rest : List UInt8}
      (ih : decode rest = rest ↔ ¬ HasEscape rest)
      (elsewhere : ¬ ∃ high low back, b = 0x25 ∧ rest = high :: low :: back ∧
        (byte? high low).isSome = true) :
      b :: decode rest = b :: rest ↔ ¬ HasEscape (b :: rest) := by
    rw [List.cons_inj_right, ih, hasEscape_cons_iff, or_iff_right elsewhere]
  fun_induction decode bytes with
  | case1 =>
    exact iff_of_true rfl not_hasEscape_nil
  | case2 b high low rest marked v denoted ih =>
    -- An escape is three bytes for one, and nothing makes up for that.
    refine iff_of_false (fun same => ?_) (not_not_intro ?_)
    · have shorter := length_decode_le rest
      rw [(List.cons.inj same).2, List.length_cons, List.length_cons] at shorter
      omega
    · refine hasEscape_cons_iff.mpr (.inl ⟨high, low, rest, by simpa using marked, rfl, ?_⟩)
      rw [denoted, Option.isSome_some]
  | case3 b high low rest marked other ih =>
    refine passed ih ?_
    rintro ⟨_, _, _, -, ⟨rfl, rfl, rfl⟩, denoted⟩
    rw [other] at denoted
    cases denoted
  | case4 b high low rest unmarked ih =>
    refine passed ih ?_
    rintro ⟨_, _, _, rfl, -⟩
    exact unmarked rfl
  | case5 b rest short ih =>
    refine passed ih ?_
    rintro ⟨high, low, back, -, rfl, -⟩
    exact short high low back rfl

theorem byte?_slash (b : UInt8) : byte? 0x2F b = none ∧ byte? b 0x2F = none := by
  refine ⟨rfl, ?_⟩
  rw [byte?]
  cases Text.hexValue? (Char.ofNat b.toNat) <;> rfl

/-- A slash is no part of an escape, so it keeps what is on its sides apart. -/
theorem hasEscape_append_slash_iff {front back : List UInt8} :
    HasEscape (front ++ 0x2F :: back) ↔ HasEscape front ∨ HasEscape back := by
  induction front with
  | nil =>
    rw [List.nil_append, hasEscape_cons_iff]
    refine or_congr_left (iff_of_false ?_ not_hasEscape_nil)
    rintro ⟨_, _, _, marked, -⟩
    exact absurd marked (by decide)
  | cons b front ih =>
    rw [List.cons_append, hasEscape_cons_iff, hasEscape_cons_iff, or_assoc, ih]
    refine or_congr_left ⟨?_, ?_⟩
    · rintro ⟨high, low, after, rfl, written, denoted⟩
      -- The two digits stand in front of the slash, which is none.
      match front, written with
      | [], written =>
        rw [← (List.cons.inj written).1, (byte?_slash low).1] at denoted
        cases denoted
      | [_], written =>
        rw [← (List.cons.inj (List.cons.inj written).2).1, (byte?_slash high).2] at denoted
        cases denoted
      | _ :: _ :: front, written =>
        obtain ⟨rfl, rest⟩ := List.cons.inj written
        obtain ⟨rfl, -⟩ := List.cons.inj rest
        exact ⟨_, _, front, rfl, rfl, denoted⟩
    · rintro ⟨high, low, after, rfl, rfl, denoted⟩
      exact ⟨high, low, after ++ 0x2F :: back, rfl, rfl, denoted⟩

end MediaVault.Percent
