import Mathlib.Data.List.Induction
import Mathlib.Data.List.Nodup
import Mathlib.Tactic.Ring
import MediaVault.Proofs.Image.Hash

/-!
# Base-83 numerals by powers

A numeral can be written from its lowest digit upwards or, in words of 32 bits, from its highest
digit downwards: each digit is then computed on its own, by a division by a power of 83.  Up to six
digits no power overflows and both ways agree (`pushByPowers_eq`).  Reading is by Horner's rule;
`value?_numeral` and `numeral_of_value?` say that reading and writing undo each other.
-/

namespace MediaVault

/-! ## Arrays and words that have an end -/

/-- What stops a computation on arrays of fixed size and words of 32 bits. -/
inductive Breach where
  | outOfBounds (index size : Nat)
  | overflow
deriving Repr, DecidableEq

/-- The entry at an index, which has to be in bounds. -/
def fetch {α : Type} (entries : List α) (index : Nat) : Except Breach α :=
  match entries[index]? with
  | some entry => .ok entry
  | none => .error (.outOfBounds index entries.length)

theorem fetch_eq_ok {α : Type} {entries : List α} {index : Nat} {entry : α}
    (found : entries[index]? = some entry) : fetch entries index = .ok entry := by
  rw [fetch, found]

@[simp] theorem ok_bind {α β : Type} (value : α) (next : α → Except Breach β) :
    (Except.ok value >>= next) = next value := rfl

namespace Base83

/-! ## The alphabet -/

theorem nodup_alphabet : alphabet.Nodup := by
  decide +kernel

theorem getElem?_alphabet (n : Nat) : alphabet[n % 83]? = some (digit n) := by
  have bound : n % 83 < alphabet.length := by
    rw [length_alphabet]
    exact Nat.mod_lt n (by decide)
  exact List.getElem?_eq_getElem bound

theorem idxOf?_eq_some_iff {c : Char} {k : Nat} :
    alphabet.idxOf? c = some k ↔ k < 83 ∧ c = digit k := by
  rw [List.idxOf?_eq_some_iff]
  constructor
  · rintro ⟨bound, rfl, -⟩
    rw [length_alphabet] at bound
    have found := getElem?_alphabet k
    rw [Nat.mod_eq_of_lt bound] at found
    exact ⟨bound, List.getElem_eq_iff _ |>.mpr found⟩
  · rintro ⟨bound, rfl⟩
    have inside : k < alphabet.length := length_alphabet.symm ▸ bound
    have found := getElem?_alphabet k
    rw [Nat.mod_eq_of_lt bound] at found
    have here : alphabet[k] = digit k := (List.getElem_eq_iff inside).mpr found
    refine ⟨inside, here, fun j earlier same => ?_⟩
    -- The characters are distinct, so the first place of one is its only place.
    have twice := nodup_alphabet.getElem_inj_iff.mp (same.trans here.symm)
    omega

theorem idxOf?_digit (n : Nat) : alphabet.idxOf? (digit n) = some (n % 83) := by
  refine idxOf?_eq_some_iff.mpr ⟨Nat.mod_lt n (by decide), ?_⟩
  have found := getElem?_alphabet (n % 83)
  rw [Nat.mod_mod, getElem?_alphabet] at found
  exact Option.some.inj found

/-! ## Reading a numeral -/

/-- The number that a text denotes, most significant digit first; there is none for a text with
a character outside the alphabet. -/
def value? (text : List Char) : Option Nat :=
  text.foldlM (fun read c => (alphabet.idxOf? c).map fun digit => read * 83 + digit) 0

theorem value?_append_singleton (text : List Char) (c : Char) :
    value? (text ++ [c]) =
      (value? text).bind fun read => (alphabet.idxOf? c).map fun digit => read * 83 + digit := by
  rw [value?, List.foldlM_append]
  simp [value?]

/-- A numeral reads as its value, less what stands before its digits. -/
theorem value?_numeral (value length : Nat) :
    value? (numeral value length) = some (value % 83 ^ length) := by
  induction length generalizing value with
  | zero => simp [numeral, value?, Nat.mod_one]
  | succ length ih =>
    have split : value / 83 % 83 ^ length * 83 + value % 83 = value % 83 ^ (length + 1) := by
      rw [pow_succ', Nat.mod_mul]
      ring
    rw [numeral, value?_append_singleton, ih, idxOf?_digit, Option.bind_some, Option.map_some, split]

theorem exists_value? {text : List Char} (letters : ∀ c ∈ text, c ∈ alphabet) :
    ∃ n, value? text = some n := by
  induction text using List.reverseRecOn with
  | nil => exact ⟨0, rfl⟩
  | append_singleton text c ih =>
    obtain ⟨n, read⟩ := ih fun d member => letters d (List.mem_append_left [c] member)
    have known : c ∈ alphabet := letters c (by simp)
    obtain ⟨k, place⟩ := Option.isSome_iff_exists.mp (List.isSome_idxOf?.mpr known)
    exact ⟨n * 83 + k, by rw [value?_append_singleton, read, place]; rfl⟩

/-- A text is the numeral of the number it denotes. -/
theorem numeral_of_value? {text : List Char} {n : Nat} (read : value? text = some n) :
    numeral n text.length = text := by
  -- What is read last is the lowest digit, so the induction is from the end of the text.
  induction text using List.reverseRecOn generalizing n with
  | nil => rfl
  | append_singleton text c ih =>
    rw [value?_append_singleton] at read
    obtain ⟨upper, above, last⟩ := Option.bind_eq_some_iff.mp read
    obtain ⟨k, place, rfl⟩ := Option.map_eq_some_iff.mp last
    obtain ⟨bound, rfl⟩ := idxOf?_eq_some_iff.mp place
    have rest : (upper * 83 + k) / 83 = upper := by omega
    have lowest : digit (upper * 83 + k) = digit k := by
      have found := getElem?_alphabet (upper * 83 + k)
      rw [show (upper * 83 + k) % 83 = k % 83 by omega, getElem?_alphabet] at found
      exact (Option.some.inj found).symm
    rw [List.length_append, List.length_singleton, numeral, rest, ih above, lowest]

/-! ## Writing by powers -/

def power : Nat → Except Breach UInt32
  | 0 => .ok 1
  | k + 1 => do
    let p ← power k
    if p.toNat * 83 < UInt32.size then .ok (p * 83) else .error .overflow

/-- Append the lowest `length` digits of a word, the highest of them first. -/
def pushByPowers (out : List Char) (value : UInt32) :
    (length : Nat) → Except Breach (List Char)
  | 0 => .ok out
  | length + 1 => do
    let p ← power length
    let c ← fetch alphabet (value / p % 83).toNat
    pushByPowers (out ++ [c]) value length

theorem power_eq_ok {k : Nat} (fits : 83 ^ k < 2 ^ 32) :
    ∃ p, power k = .ok p ∧ p.toNat = 83 ^ k := by
  induction k with
  | zero => exact ⟨1, rfl, rfl⟩
  | succ k ih =>
    rw [pow_succ] at fits
    obtain ⟨p, found, value⟩ := ih (Nat.lt_of_le_of_lt (Nat.le_mul_of_pos_right _ (by decide)) fits)
    have bound : p.toNat * 83 < UInt32.size := value ▸ fits
    refine ⟨p * 83, ?_, ?_⟩
    · rw [power, found]
      exact if_pos bound
    · calc (p * 83).toNat = p.toNat * 83 := by
            rw [UInt32.toNat_mul]
            exact Nat.mod_eq_of_lt bound
        _ = 83 ^ (k + 1) := by rw [value, pow_succ]

/-- The highest digit of a numeral stands in front of the numeral of the others. -/
theorem numeral_succ_eq_cons (value length : Nat) :
    numeral value (length + 1) = digit (value / 83 ^ length) :: numeral value length := by
  induction length generalizing value with
  | zero => simp [numeral]
  | succ length ih =>
    rw [numeral, ih, Nat.div_div_eq_div_mul, ← pow_succ']
    rfl

/-- No power that six digits need overflows. -/
theorem pushByPowers_eq (out : List Char) (value : UInt32) {length : Nat} (short : length ≤ 6) :
    pushByPowers out value length = .ok (push out value.toNat length) := by
  induction length generalizing out with
  | zero => rw [pushByPowers, push, numeral, List.append_nil]
  | succ length ih =>
    have fits : 83 ^ length < 2 ^ 32 :=
      Nat.lt_of_le_of_lt (Nat.pow_le_pow_right (by decide) (Nat.le_of_succ_le_succ short))
        (by decide : 83 ^ 5 < 2 ^ 32)
    obtain ⟨p, found, exact_power⟩ := power_eq_ok fits
    have place : (value / p % 83).toNat = value.toNat / 83 ^ length % 83 := by
      rw [UInt32.toNat_mod, UInt32.toNat_div, exact_power]
      rfl
    have written :
        fetch alphabet (value / p % 83).toNat = .ok (digit (value.toNat / 83 ^ length)) := by
      rw [place]
      exact fetch_eq_ok (getElem?_alphabet _)
    rw [pushByPowers, found, ok_bind, written, ok_bind, ih _ (Nat.le_of_succ_le short), push, push,
      numeral_succ_eq_cons, List.append_assoc, List.singleton_append]

/-- Of a word, `n` digits are appended that denote it, less what stands before them.  Among the
numbers that `n` digits can denote, no two are written alike, and every text of `n` digits that
denotes a word is what is written for that word. -/
theorem numerals_exact (out : List Char) (v : UInt32) {n : Nat} (short : n ≤ 6) :
    ∃ text, pushByPowers out v n = .ok (out ++ text) ∧ push out v.toNat n = out ++ text ∧
      text.length = n ∧ (∀ c ∈ text, c ∈ alphabet) ∧ value? text = some (v.toNat % 83 ^ n) ∧
      (v.toNat < 83 ^ n → value? text = some v.toNat ∧
        ∀ w : UInt32, w.toNat < 83 ^ n → pushByPowers out w n = .ok (out ++ text) → w = v) ∧
      ∀ written : List Char, written.length = n → (∀ c ∈ written, c ∈ alphabet) →
        ∃ k, value? written = some k ∧
          (k < 2 ^ 32 → pushByPowers out (UInt32.ofNat k) n = .ok (out ++ written)) := by
  refine ⟨numeral v.toNat n, pushByPowers_eq out v short, rfl, length_numeral _ _,
    fun c => mem_alphabet_of_mem_numeral, value?_numeral _ _, fun small => ?_,
    fun written length letters => ?_⟩
  · have read : value? (numeral v.toNat n) = some v.toNat := by
      rw [value?_numeral, Nat.mod_eq_of_lt small]
    refine ⟨read, fun w fits same => ?_⟩
    rw [pushByPowers_eq out w short, push, Except.ok.injEq, List.append_cancel_left_eq] at same
    have equal : some w.toNat = some v.toNat := by
      rw [← read, ← same, value?_numeral, Nat.mod_eq_of_lt fits]
    exact UInt32.toNat_inj.mp (Option.some.inj equal)
  · obtain ⟨k, read⟩ := exists_value? letters
    refine ⟨k, read, fun word => ?_⟩
    have kept : (UInt32.ofNat k).toNat = k := UInt32.toNat_ofNat_of_lt' word
    rw [pushByPowers_eq out _ short, kept, push, ← length, numeral_of_value? read]

/-- Six digits hold every word; two do not, and keep what stands last. -/
theorem numerals_exact_of_words :
    (6 ≤ 6 ∧ ∃ text, pushByPowers ['L'] 4294967295 6 = .ok ('L' :: text) ∧
      value? text = some 4294967295) ∧
    (2 ≤ 6 ∧ ∃ text, pushByPowers ['L'] 7000 2 = .ok ('L' :: text) ∧ value? text = some 111) := by
  constructor
  · obtain ⟨text, written, -, -, -, -, exactly, -⟩ := numerals_exact ['L'] 4294967295 (le_refl 6)
    exact ⟨le_refl 6, text, written, (exactly (by decide)).1⟩
  · have two : 2 ≤ 6 := by decide
    obtain ⟨text, written, -, -, -, read, -⟩ := numerals_exact ['L'] 7000 two
    exact ⟨two, text, written, read⟩

end Base83

end MediaVault
