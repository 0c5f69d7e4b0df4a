import Mathlib.Data.List.Basic
import Mathlib.Data.List.TakeWhile
import MediaVault.Http.Message
import MediaVault.Text.Utf8
import MediaVault.Text.Blank
import MediaVault.Text.Letters
import MediaVault.Text.Numeral

/-!
# Texts that come back as they were

A decimal numeral is read back as its number, with nothing for trimming to take
away, and a text without control characters passes through a header unchanged.
-/

namespace MediaVault

namespace Text

/-! ## Trimming -/

variable {p : Char → Bool}

theorem dropWhile_append_exact {front rest : List Char} (inside : ∀ c ∈ front, p c = true)
    (boundary : ∀ c ∈ rest.head?, p c = false) : (front ++ rest).dropWhile p = rest := by
  rw [List.dropWhile_append_of_pos inside]
  cases rest with
  | nil => rfl
  | cons c rest => exact List.dropWhile_cons_of_neg (by simp [boundary c rfl])

theorem stripEnd_append {kept back : List Char} (inside : ∀ c ∈ back, p c = true)
    (boundary : ∀ c ∈ kept.getLast?, p c = false) : stripEnd p (kept ++ back) = kept := by
  have mirrored : (back.reverse ++ kept.reverse).dropWhile p = kept.reverse :=
    dropWhile_append_exact (by simpa using inside) (by simpa using boundary)
  rw [stripEnd, List.reverse_append, mirrored, List.reverse_reverse]

/-- What is stripped off the end satisfies `p`, and nothing more could be stripped. -/
theorem exists_append_stripEnd (p : Char → Bool) (s : List Char) :
    ∃ back, s = stripEnd p s ++ back ∧ (∀ c ∈ back, p c = true) ∧
      ∀ c ∈ (stripEnd p s).getLast?, p c = false := by
  refine ⟨(s.reverse.takeWhile p).reverse, ?_, fun c member => ?_, fun c last => ?_⟩
  · rw [stripEnd, ← List.reverse_append, List.takeWhile_append_dropWhile, List.reverse_reverse]
  · exact List.mem_takeWhile_imp (List.mem_reverse.mp member)
  · rw [stripEnd, List.getLast?_reverse] at last
    have stopped := List.head?_dropWhile_not p s.reverse
    rw [last] at stopped
    exact stopped

theorem stripBoth_append {front kept back : List Char} (before : ∀ c ∈ front, p c = true)
    (behind : ∀ c ∈ back, p c = true) (first : ∀ c ∈ kept.head?, p c = false)
    (last : ∀ c ∈ kept.getLast?, p c = false) : stripBoth p (front ++ kept ++ back) = kept := by
  change stripEnd p ((front ++ kept ++ back).dropWhile p) = kept
  rw [List.append_assoc]
  cases kept with
  | nil =>
    have all_dropped : (front ++ ([] ++ back)).dropWhile p = [] := by
      rw [List.dropWhile_append_of_pos before]
      exact List.dropWhile_eq_nil_iff.mpr behind
    rw [all_dropped]
    rfl
  | cons c kept =>
    rw [dropWhile_append_exact before (by simpa using first)]
    exact stripEnd_append behind last

/-- What is stripped off both ends satisfies `p`, and nothing more could be stripped. -/
theorem exists_append_stripBoth (p : Char → Bool) (s : List Char) :
    ∃ front back, s = front ++ stripBoth p s ++ back ∧ (∀ c ∈ front, p c = true) ∧
      (∀ c ∈ back, p c = true) ∧ (∀ c ∈ (stripBoth p s).head?, p c = false) ∧
      ∀ c ∈ (stripBoth p s).getLast?, p c = false := by
  obtain ⟨back, split, behind, last⟩ := exists_append_stripEnd p (s.dropWhile p)
  refine ⟨s.takeWhile p, back, ?_, fun c => List.mem_takeWhile_imp, behind, fun c first => ?_, last⟩
  · change s = s.takeWhile p ++ stripEnd p (s.dropWhile p) ++ back
    rw [List.append_assoc, ← split, List.takeWhile_append_dropWhile]
  · -- The first character kept is the first one that was not dropped.
    change (stripEnd p (s.dropWhile p)).head? = some c at first
    have stopped := List.head?_dropWhile_not p s
    rw [split, List.head?_append, first] at stopped
    exact stopped

/-- What is kept stands between characters that satisfy `p`, with none of them at its ends. -/
theorem stripBoth_eq_iff {s kept : List Char} :
    stripBoth p s = kept ↔ ∃ front back, s = front ++ kept ++ back ∧ (∀ c ∈ front, p c = true) ∧
      (∀ c ∈ back, p c = true) ∧ (∀ c ∈ kept.head?, p c = false) ∧
      ∀ c ∈ kept.getLast?, p c = false := by
  constructor
  · rintro rfl
    exact exists_append_stripBoth p s
  · rintro ⟨front, back, rfl, before, behind, first, last⟩
    exact stripBoth_append before behind first last

theorem stripBoth_stripBoth (s : List Char) : stripBoth p (stripBoth p s) = stripBoth p s := by
  obtain ⟨front, back, -, -, -, first, last⟩ := exists_append_stripBoth p s
  exact stripBoth_eq_iff.mpr ⟨[], [], by simp, by simp, by simp, first, last⟩

theorem stripBoth_surrounded {front s back : List Char} (before : ∀ c ∈ front, p c = true)
    (behind : ∀ c ∈ back, p c = true) : stripBoth p (front ++ s ++ back) = stripBoth p s := by
  obtain ⟨lead, tail, split, lead_in, tail_in, first, last⟩ := exists_append_stripBoth p s
  refine stripBoth_eq_iff.mpr ⟨front ++ lead, tail ++ back, ?_, ?_, ?_, first, last⟩
  · calc front ++ s ++ back = front ++ (lead ++ stripBoth p s ++ tail) ++ back :=
          congrArg (front ++ · ++ back) split
      _ = front ++ lead ++ stripBoth p s ++ (tail ++ back) := by simp only [List.append_assoc]
  · exact List.forall_mem_append.mpr ⟨before, lead_in⟩
  · exact List.forall_mem_append.mpr ⟨tail_in, behind⟩

theorem stripBoth_map {f : Char → Char} (kept : ∀ c, p (f c) = p c) (s : List Char) :
    stripBoth p (s.map f) = (stripBoth p s).map f := by
  have unchanged : p ∘ f = p := funext kept
  rw [stripBoth, stripBoth, List.dropWhile_map, unchanged, ← List.map_reverse, List.dropWhile_map,
    unchanged, List.map_reverse]

/-- The text is this one between blanks, and no blank stands at the ends of this one. -/
structure TrimsTo (text kept : String) : Prop where
  between : ∃ front back : String, text = front ++ kept ++ back ∧
    (∀ c ∈ front.toList, isBlank c = true) ∧ ∀ c ∈ back.toList, isBlank c = true
  first : ∀ c ∈ kept.toList.head?, isBlank c = false
  last : ∀ c ∈ kept.toList.getLast?, isBlank c = false

theorem trim_eq_iff {text kept : String} : trim text = kept ↔ TrimsTo text kept := by
  rw [trim, ← String.toList_inj, String.toList_ofList, trimChars, stripBoth_eq_iff]
  constructor
  · rintro ⟨front, back, written, before, behind, first, last⟩
    refine ⟨⟨String.ofList front, String.ofList back, ?_, ?_, ?_⟩, first, last⟩
    · rw [← String.toList_inj, written]
      simp
    · rwa [String.toList_ofList]
    · rwa [String.toList_ofList]
  · rintro ⟨⟨front, back, rfl, before, behind⟩, first, last⟩
    exact ⟨front.toList, back.toList, by simp, before, behind, first, last⟩

theorem trim_trim (text : String) : trim (trim text) = trim text := by
  have trimmed : TrimsTo text (trim text) := trim_eq_iff.mp rfl
  exact trim_eq_iff.mpr ⟨⟨"", "", by simp, by simp, by simp⟩, trimmed.first, trimmed.last⟩

theorem nonBlank_eq_some_iff {text kept : String} :
    nonBlank text = some kept ↔ text = kept ∧ ∃ c ∈ text.toList, isBlank c = false := by
  have blank : isBlankText text = true ↔ ¬ ∃ c ∈ text.toList, isBlank c = false := by
    simp [isBlankText]
  rw [nonBlank]
  by_cases inked : ∃ c ∈ text.toList, isBlank c = false
  · rw [if_neg (mt blank.mp (not_not_intro inked)), Option.some.injEq, and_iff_left inked]
  · rw [if_pos (blank.mpr inked)]
    simp only [inked, and_false, reduceCtorEq]

/-- After trimming, a text is blank only if it is empty. -/
theorem nonBlank_trim_eq_some_iff {text kept : String} :
    nonBlank (trim text) = some kept ↔ TrimsTo text kept ∧ kept ≠ "" := by
  rw [nonBlank_eq_some_iff, trim_eq_iff]
  constructor
  · rintro ⟨trimmed, c, member, -⟩
    rw [trim_eq_iff.mpr trimmed] at member
    refine ⟨trimmed, ?_⟩
    rintro rfl
    cases member
  · rintro ⟨trimmed, filled⟩
    refine ⟨trimmed, ?_⟩
    rw [trim_eq_iff.mpr trimmed]
    cases written : kept.toList with
    | nil => exact absurd (String.toList_eq_nil_iff.mp written) filled
    | cons c rest => exact ⟨c, List.mem_cons_self, trimmed.first c (by simp [written])⟩

theorem stripBoth_eq_self {s : List Char} (kept : ∀ c ∈ s, p c = false) : stripBoth p s = s := by
  have bare : stripBoth p ([] ++ s ++ []) = s :=
    stripBoth_append (by simp) (by simp) (fun c first => kept c (List.mem_of_head? first))
      (fun c last => kept c (List.mem_of_getLast? last))
  simpa using bare

theorem range_of_isDigit {c : Char} (digit : c.isDigit = true) : 48 ≤ c.toNat ∧ c.toNat ≤ 57 := by
  simpa [Char.isDigit, UInt32.le_iff_toNat_le] using digit

theorem lt_of_isAlphanum {c : Char} (alphanumeric : c.isAlphanum = true) : c.toNat < 0x80 := by
  have ranges : c.isAlphanum =
      (decide ('A' ≤ c ∧ c ≤ 'Z') || decide ('a' ≤ c) && decide (c ≤ 'z') || c.isDigit) := rfl
  simp only [ranges, Bool.or_eq_true, Bool.and_eq_true, decide_eq_true_eq, Char.le_def,
    UInt32.le_iff_toNat_le] at alphanumeric
  rcases alphanumeric with (⟨-, upper⟩ | ⟨-, lower⟩) | digit
  · exact Nat.lt_of_le_of_lt upper (by decide)
  · exact Nat.lt_of_le_of_lt lower (by decide)
  · exact Nat.lt_of_le_of_lt (range_of_isDigit digit).2 (by decide)

theorem isBlank_of_isDigit {c : Char} (digit : c.isDigit = true) : isBlank c = false := by
  have range := range_of_isDigit digit
  simp only [isBlank, Bool.or_eq_false_iff, Bool.and_eq_false_iff, decide_eq_false_iff_not,
    beq_eq_false_iff_ne]
  omega

/-! ## Decimal numerals -/

variable {most : Nat} {overflow : NumeralError}

/-- Digits are appended as long as the number they make is in range. -/
theorem appendDigits_eq_ok {digits : List Char} (digital : ∀ c ∈ digits, c.isDigit = true)
    (acc : Nat) (fits : Nat.ofDigitChars 10 digits acc ≤ most) :
    appendDigits most overflow acc digits = .ok (Nat.ofDigitChars 10 digits acc) := by
  induction digits generalizing acc with
  | nil => rfl
  | cons c digits ih =>
    have value : digitValue? c = some (c.toNat - '0'.toNat) :=
      if_pos (digital c List.mem_cons_self)
    have step : acc * 10 + (c.toNat - '0'.toNat) = 10 * acc + (c.toNat - '0'.toNat) := by
      rw [Nat.mul_comm]
    rw [Nat.ofDigitChars_cons] at fits ⊢
    -- The number only grows with the digits still to come.
    have grows (init : Nat) : init ≤ Nat.ofDigitChars 10 digits init := by
      rw [Nat.ofDigitChars_eq_ofDigitChars_zero]
      exact Nat.le_add_right_of_le (Nat.le_mul_of_pos_left init (Nat.pow_pos (by decide)))
    simp only [appendDigits, value, step]
    rw [if_pos (Nat.le_trans (grows _) fits)]
    exact ih (fun d member => digital d (List.mem_cons_of_mem c member)) _ fits

theorem readDigits_toDigits {n : Nat} (fits : n ≤ most) :
    readDigits most overflow (Nat.toDigits 10 n) = .ok n := by
  have digital : ∀ c ∈ Nat.toDigits 10 n, c.isDigit = true := fun c member =>
    Nat.isDigit_of_mem_toDigits (by decide) (by decide) member
  have value : Nat.ofDigitChars 10 (Nat.toDigits 10 n) 0 = n := Nat.ofDigitChars_ten_toDigits
  have appended : appendDigits most overflow 0 (Nat.toDigits 10 n) = .ok n := by
    rw [appendDigits_eq_ok digital 0 (value.symm ▸ fits), value]
  cases numeral : Nat.toDigits 10 n with
  | nil => exact absurd numeral Nat.toDigits_ne_nil
  | cons c digits =>
    rw [numeral] at appended
    exact appended

/-- A numeral does not begin with a sign. -/
theorem exists_digit_cons_toDigits (n : Nat) :
    ∃ c digits, Nat.toDigits 10 n = c :: digits ∧ c ≠ '+' ∧ c ≠ '-' := by
  cases numeral : Nat.toDigits 10 n with
  | nil => exact absurd numeral Nat.toDigits_ne_nil
  | cons c digits =>
    have digit : c.isDigit = true :=
      Nat.isDigit_of_mem_toDigits (by decide) (by decide) (numeral ▸ List.mem_cons_self)
    refine ⟨c, digits, rfl, ?_, ?_⟩
    all_goals
      rintro rfl
      exact absurd digit (by decide)

theorem readNatural_toDigits {n : Nat} (fits : n ≤ most) :
    readNatural most (Nat.toDigits 10 n) = .ok n := by
  have read : readDigits most .tooLarge (Nat.toDigits 10 n) = .ok n := readDigits_toDigits fits
  obtain ⟨c, digits, numeral, unsigned, -⟩ := exists_digit_cons_toDigits n
  rw [numeral] at read ⊢
  rw [readNatural, read]
  · simp
  · simp [unsigned]

/-- A numeral with its sign is read back when the number is in range. -/
theorem readInteger_toString {n : Int} (low : -(most + 1 : Int) ≤ n) (high : n ≤ most) :
    readInteger most (toString n).toList = .ok n := by
  rw [Int.toString_eq_repr, Int.repr_eq_if]
  split
  next positive =>
    have read : readDigits most .tooLarge (Nat.toDigits 10 n.toNat) = .ok n.toNat :=
      readDigits_toDigits (by omega)
    obtain ⟨c, digits, numeral, no_plus, no_minus⟩ := exists_digit_cons_toDigits n.toNat
    rw [Nat.repr_eq_ofList_toDigits, String.toList_ofList]
    rw [numeral] at read ⊢
    rw [readInteger, read]
    · exact congrArg Except.ok (Int.toNat_of_nonneg positive)
    · simp
    · simp [no_plus]
    · simp [no_minus]
  next negative =>
    have read : readDigits (most + 1) .tooSmall (Nat.toDigits 10 (-n).toNat) = .ok (-n).toNat :=
      readDigits_toDigits (by omega)
    have signed : ("-" ++ (-n).toNat.repr).toList = '-' :: Nat.toDigits 10 (-n).toNat := by
      simp [Nat.repr_eq_ofList_toDigits]
    rw [signed, readInteger, read]
    exact congrArg Except.ok (by simp only [Int.ofNat_eq_natCast]; omega)

/-- Digits are appended exactly as long as the number they make is in range. -/
theorem appendDigits_eq_ok_iff {digits : List Char} {acc n : Nat} (small : acc ≤ most) :
    appendDigits most overflow acc digits = .ok n ↔
      (∀ c ∈ digits, c.isDigit = true) ∧ Nat.ofDigitChars 10 digits acc = n ∧ n ≤ most := by
  constructor
  · intro read
    induction digits generalizing acc with
    | nil =>
      obtain rfl := Except.ok.inj read
      exact ⟨nofun, rfl, small⟩
    | cons c digits ih =>
      rw [appendDigits] at read
      split at read
      next => cases read
      next d value =>
        split at read
        next fits =>
          obtain ⟨digital, whole, bounded⟩ := ih fits read
          rw [digitValue?] at value
          split at value
          next digit =>
            obtain rfl := Option.some.inj value
            refine ⟨List.forall_mem_cons.mpr ⟨digit, digital⟩, ?_, bounded⟩
            rw [Nat.ofDigitChars_cons, Nat.mul_comm]
            exact whole
          next => cases value
        next => cases read
  · rintro ⟨digital, rfl, bounded⟩
    exact appendDigits_eq_ok digital acc bounded

theorem readDigits_eq_ok_iff {digits : List Char} {n : Nat} :
    readDigits most overflow digits = .ok n ↔
      digits ≠ [] ∧ (∀ c ∈ digits, c.isDigit = true) ∧ Nat.ofDigitChars 10 digits 0 = n ∧
        n ≤ most := by
  cases digits with
  | nil => simp [readDigits]
  | cons c digits =>
    rw [readDigits, appendDigits_eq_ok_iff (Nat.zero_le most)]
    · simp
    · simp

/-- What one or more digits denote, after a `+` or nothing, however large the number is. -/
inductive Denotes : List Char → Nat → Prop where
  | bare {digits : List Char} (filled : digits ≠ []) (digital : ∀ c ∈ digits, c.isDigit = true) :
      Denotes digits (Nat.ofDigitChars 10 digits 0)
  | signed {digits : List Char} (filled : digits ≠ [])
      (digital : ∀ c ∈ digits, c.isDigit = true) :
      Denotes ('+' :: digits) (Nat.ofDigitChars 10 digits 0)

theorem digits_ne_cons {digits : List Char} (digital : ∀ c ∈ digits, c.isDigit = true) {sign : Char}
    (other : sign.isDigit = false) (rest : List Char) : digits ≠ sign :: rest := by
  rintro rfl
  have digit := digital sign List.mem_cons_self
  rw [other] at digit
  cases digit

/-- A number is read exactly from the numerals that denote it, if it is in range. -/
theorem readNatural_eq_ok_iff {numeral : List Char} {n : Nat} :
    readNatural most numeral = .ok n ↔ Denotes numeral n ∧ n ≤ most := by
  constructor
  · intro read
    unfold readNatural at read
    split at read
    next => cases read
    next digits =>
      obtain ⟨filled, digital, rfl, fits⟩ := readDigits_eq_ok_iff.mp read
      exact ⟨.signed filled digital, fits⟩
    next =>
      obtain ⟨filled, digital, rfl, fits⟩ := readDigits_eq_ok_iff.mp read
      exact ⟨.bare filled digital, fits⟩
  · rintro ⟨denoted, fits⟩
    cases denoted with
    | bare filled digital =>
      rw [readNatural]
      · exact readDigits_eq_ok_iff.mpr ⟨filled, digital, rfl, fits⟩
      · exact filled
      · exact digits_ne_cons digital (by decide)
    | signed filled digital => exact readDigits_eq_ok_iff.mpr ⟨filled, digital, rfl, fits⟩

/-- A positive number is read exactly from the numerals that denote it, if it is in range. -/
theorem readInteger_eq_ok_iff {numeral : List Char} {n : Nat} (positive : 0 < n) :
    readInteger most numeral = .ok (n : Int) ↔ Denotes numeral n ∧ n ≤ most := by
  have unsigned {digits : List Char} :
      (readDigits most .tooLarge digits).map Int.ofNat = .ok (n : Int) ↔
        readDigits most .tooLarge digits = .ok n := by
    cases readDigits most .tooLarge digits with
    | error error => simp [Except.map]
    | ok k =>
      rw [Except.map, Except.ok.injEq, Except.ok.injEq]
      exact Int.natCast_inj
  constructor
  · intro read
    unfold readInteger at read
    split at read
    next => cases read
    next digits =>
      obtain ⟨filled, digital, rfl, fits⟩ := readDigits_eq_ok_iff.mp (unsigned.mp read)
      exact ⟨.signed filled digital, fits⟩
    next digits =>
      -- Behind a `-` there is nothing positive.
      cases negated : readDigits (most + 1) .tooSmall digits with
      | error error => simp [negated, Except.map] at read
      | ok k =>
        simp only [negated, Except.map, Except.ok.injEq, Int.ofNat_eq_natCast] at read
        omega
    next =>
      obtain ⟨filled, digital, rfl, fits⟩ := readDigits_eq_ok_iff.mp (unsigned.mp read)
      exact ⟨.bare filled digital, fits⟩
  · rintro ⟨denoted, fits⟩
    cases denoted with
    | bare filled digital =>
      rw [readInteger, unsigned]
      · exact readDigits_eq_ok_iff.mpr ⟨filled, digital, rfl, fits⟩
      · exact filled
      · exact digits_ne_cons digital (by decide)
      · exact digits_ne_cons digital (by decide)
    | signed filled digital =>
      rw [readInteger, unsigned]
      exact readDigits_eq_ok_iff.mpr ⟨filled, digital, rfl, fits⟩

/-- Blanks around a numeral are all that trimming takes away. -/
theorem trimChars_denotes {numeral : List Char} {n : Nat} (denoted : Denotes numeral n)
    {front back : List Char} (before : ∀ c ∈ front, isBlank c = true)
    (behind : ∀ c ∈ back, isBlank c = true) :
    trimChars (front ++ numeral ++ back) = numeral := by
  have inked : ∀ c ∈ numeral, isBlank c = false := by
    cases denoted with
    | bare filled digital => exact fun c member => isBlank_of_isDigit (digital c member)
    | signed filled digital =>
      exact List.forall_mem_cons.mpr
        ⟨by decide, fun c member => isBlank_of_isDigit (digital c member)⟩
  exact stripBoth_append before behind (fun c first => inked c (List.mem_of_head? first))
    fun c last => inked c (List.mem_of_getLast? last)

theorem trimChars_toDigits (n : Nat) : trimChars (Nat.toDigits 10 n) = Nat.toDigits 10 n :=
  stripBoth_eq_self fun _ member =>
    isBlank_of_isDigit (Nat.isDigit_of_mem_toDigits (by decide) (by decide) member)

/-! ## Cutting texts -/

theorem cutAt_append {sep : Char} {front : List Char} (absent : sep ∉ front) (back : List Char) :
    cutAt sep (front ++ sep :: back) = some (front, back) := by
  induction front with
  | nil => simp [cutAt]
  | cons c front ih =>
    have differ : c ≠ sep := fun same => absent (same ▸ List.mem_cons_self)
    have absent_later : sep ∉ front := fun later => absent (List.mem_cons_of_mem c later)
    simp [cutAt, differ, ih absent_later]

/-- A text is cut in front, whatever follows. -/
theorem cutAt_append_of_mem {sep : Char} {front : List Char} (member : sep ∈ front)
    (back : List Char) :
    ∃ before after, cutAt sep (front ++ back) = some (before, after ++ back) := by
  induction front with
  | nil => cases member
  | cons c front ih =>
    by_cases here : c = sep
    · exact ⟨[], front, by simp [cutAt, here]⟩
    · have later : sep ∈ front := (List.mem_cons.mp member).resolve_left (Ne.symm here)
      obtain ⟨before, after, cut⟩ := ih later
      exact ⟨c :: before, after, by simp [cutAt, here, cut]⟩

/-- The first separators of a text are in one place only. -/
theorem append_sep_inj {sep : Char} {a b s t : List Char} (absent : sep ∉ a) (absent_too : sep ∉ b)
    (same : a ++ sep :: s = b ++ sep :: t) : a = b ∧ s = t := by
  have cuts := congrArg (cutAt sep) same
  rw [cutAt_append absent, cutAt_append absent_too] at cuts
  exact Prod.mk.inj (Option.some.inj cuts)

/-- So are the last ones. -/
theorem append_last_sep_inj {sep : Char} {a b s t : List Char} (absent : sep ∉ s)
    (absent_too : sep ∉ t) (same : a ++ sep :: s = b ++ sep :: t) : a = b ∧ s = t := by
  have mirrored : s.reverse ++ sep :: a.reverse = t.reverse ++ sep :: b.reverse := by
    simpa using congrArg List.reverse same
  obtain ⟨lasts, firsts⟩ := append_sep_inj (by simpa using absent) (by simpa using absent_too)
    mirrored
  exact ⟨List.reverse_inj.mp firsts, List.reverse_inj.mp lasts⟩

theorem eq_append_of_cutAt {sep : Char} {s front back : List Char}
    (cut : cutAt sep s = some (front, back)) : s = front ++ sep :: back ∧ sep ∉ front := by
  induction s generalizing front with
  | nil => simp [cutAt] at cut
  | cons c s ih =>
    by_cases here : c = sep
    · simp only [cutAt, here, if_true, Option.some.injEq, Prod.mk.injEq] at cut
      obtain ⟨rfl, rfl⟩ := cut
      exact ⟨by rw [here, List.nil_append], by simp⟩
    · simp only [cutAt, here, if_false, Option.map_eq_some_iff] at cut
      obtain ⟨⟨before, after⟩, later, same⟩ := cut
      obtain ⟨rfl, rfl⟩ := Prod.mk.inj same
      obtain ⟨rfl, absent⟩ := ih later
      exact ⟨rfl, by simp [Ne.symm here, absent]⟩

/-- The last piece is what follows the last separator, or all of a text without one. -/
theorem lastPiece_append {isSep : Char → Bool} {folder base : List Char}
    (closed : ∀ c ∈ folder.getLast?, isSep c = true) (whole : ∀ c ∈ base, isSep c = false) :
    lastPiece isSep (folder ++ base) = base := by
  have stops : folder.reverse.takeWhile (fun c => !isSep c) = [] := by
    cases mirrored : folder.reverse with
    | nil => rfl
    | cons c rest =>
      have last : isSep c = true := closed c (by simp [List.getLast?_eq_head?_reverse, mirrored])
      simp [last]
  rw [lastPiece, List.reverse_append, List.takeWhile_append_of_pos (by simpa using whole), stops,
    List.append_nil, List.reverse_reverse]

theorem exists_append_lastPiece (isSep : Char → Bool) (s : List Char) :
    ∃ folder, s = folder ++ lastPiece isSep s ∧ (∀ c ∈ folder.getLast?, isSep c = true) ∧
      ∀ c ∈ lastPiece isSep s, isSep c = false := by
  refine ⟨(s.reverse.dropWhile fun c => !isSep c).reverse, ?_, fun c last => ?_, fun c member => ?_⟩
  · rw [lastPiece, ← List.reverse_append, List.takeWhile_append_dropWhile, List.reverse_reverse]
  · rw [List.getLast?_reverse] at last
    have stopped := List.head?_dropWhile_not (fun c => !isSep c) s.reverse
    rw [last] at stopped
    simpa using stopped
  · simpa using List.mem_takeWhile_imp (List.mem_reverse.mp member)

theorem dropLead?_append (lead rest : List Char) : dropLead? lead (lead ++ rest) = some rest := by
  induction lead with
  | nil => rfl
  | cons c lead ih => simp [dropLead?, ih]

theorem eq_append_of_dropLead? {lead s rest : List Char}
    (found : dropLead? lead s = some rest) : s = lead ++ rest := by
  fun_induction dropLead? lead s with
  | case1 s => exact Option.some.inj found
  | case2 a lead => cases found
  | case3 b lead s ih => rw [ih found, List.cons_append]
  | case4 a lead b s differ => cases found

theorem stripLead?_eq_some_iff {lead s rest : String} :
    stripLead? lead s = some rest ↔ s = lead ++ rest := by
  rw [stripLead?, Option.map_eq_some_iff]
  constructor
  · rintro ⟨tail, dropped, rfl⟩
    rw [← String.toList_inj, eq_append_of_dropLead? dropped, String.toList_append,
      String.toList_ofList]
  · rintro rfl
    refine ⟨rest.toList, ?_, String.ofList_toList⟩
    rw [String.toList_append, dropLead?_append]

/-! ## Letter case -/

/-- Lowering moves the capital letters to the small ones and nothing else. -/
theorem toLower_cases (c : Char) :
    c.toLower = c ∨ (65 ≤ c.toNat ∧ c.toNat ≤ 90) ∧ c.toLower.toNat = c.toNat + 32 := by
  by_cases upper : c.val ≥ 'A'.val ∧ c.val ≤ 'Z'.val
  · right
    have range : 65 ≤ c.val.toNat ∧ c.val.toNat ≤ 90 := by
      simpa [UInt32.le_iff_toNat_le] using upper
    refine ⟨range, ?_⟩
    have lowered : c.toLower.val = c.val + 32 := congrArg Char.val (dif_pos upper)
    change c.toLower.val.toNat = c.val.toNat + 32
    rw [lowered, UInt32.toNat_add]
    exact Nat.mod_eq_of_lt (by change _ + 32 < 4294967296; omega)
  · exact .inl (dif_neg upper)

theorem toLower_toLower (c : Char) : c.toLower.toLower = c.toLower := by
  rcases toLower_cases c with same | ⟨upper, lowered⟩
  · rw [same, same]
  · rcases toLower_cases c.toLower with same | ⟨upper_again, -⟩
    · exact same
    · omega

theorem lowerChars_lowerChars (s : List Char) : lowerChars (lowerChars s) = lowerChars s := by
  rw [lowerChars, lowerChars, List.map_map]
  exact List.map_congr_left fun c _ => toLower_toLower c

theorem lower_lower (s : String) : lower (lower s) = lower s := by
  rw [lower, lower, String.toList_ofList, lowerChars_lowerChars]

/-- Only letters have a letter case, so separators stay what they are and nothing becomes one. -/
theorem toLower_beq {sep : Char} (other : sep.toNat < 65 ∨ 122 < sep.toNat) (c : Char) :
    (c.toLower == sep) = (c == sep) := by
  rcases toLower_cases c with same | ⟨upper, lowered⟩
  · rw [same]
  · have differ : c ≠ sep := by
      rintro rfl
      omega
    have differ_lowered : c.toLower ≠ sep := by
      rintro rfl
      omega
    rw [beq_eq_false_iff_ne.mpr differ, beq_eq_false_iff_ne.mpr differ_lowered]

theorem isBlank_of_letter {c : Char} (range : 65 ≤ c.toNat ∧ c.toNat ≤ 122) :
    isBlank c = false := by
  simp only [isBlank, Bool.or_eq_false_iff, Bool.and_eq_false_iff, decide_eq_false_iff_not,
    beq_eq_false_iff_ne]
  omega

theorem isBlank_toLower (c : Char) : isBlank c.toLower = isBlank c := by
  rcases toLower_cases c with same | ⟨upper, lowered⟩
  · rw [same]
  · rw [isBlank_of_letter (c := c) (by omega), isBlank_of_letter (by omega)]

theorem trimChars_lowerChars (s : List Char) :
    trimChars (lowerChars s) = lowerChars (trimChars s) :=
  stripBoth_map isBlank_toLower s

theorem sameIgnoringCase_iff {a b : String} : sameIgnoringCase a b = true ↔ lower a = lower b := by
  rw [sameIgnoringCase, beq_iff_eq, lower, lower, String.ofList_inj]

/-- The first entry whose name is `name` in some letter case has this value. -/
theorem find?_sameIgnoringCase_eq_some_iff {α : Type} {entries : List (String × α)} {name : String}
    {value : α} :
    (entries.find? fun entry => sameIgnoringCase entry.1 name).map (·.2) = some value ↔
      ∃ before spelled after, entries = before ++ (spelled, value) :: after ∧
        lower spelled = lower name ∧ ∀ entry ∈ before, lower entry.1 ≠ lower name := by
  have differs {entry : String × α} :
      (!sameIgnoringCase entry.1 name) = true ↔ lower entry.1 ≠ lower name := by
    rw [Bool.not_eq_true', Bool.eq_false_iff, ne_eq, ne_eq, sameIgnoringCase_iff]
  simp only [Option.map_eq_some_iff, List.find?_eq_some_iff_append, differs, sameIgnoringCase_iff]
  constructor
  · rintro ⟨⟨spelled, _⟩, ⟨same, before, after, listed, earlier⟩, rfl⟩
    exact ⟨before, spelled, after, listed, same, earlier⟩
  · rintro ⟨before, spelled, after, listed, same, earlier⟩
    exact ⟨(spelled, value), ⟨same, before, after, listed, earlier⟩, rfl⟩

/-! ## Bytes -/

theorem utf8_eq_flatMap (s : String) : utf8 s = s.toList.flatMap String.utf8EncodeChar := by
  rw [utf8, String.toUTF8, ← String.utf8Encode_toList]
  exact List.toList_data_toByteArray

theorem utf8_append (s t : String) : utf8 (s ++ t) = utf8 s ++ utf8 t := by
  simp only [utf8_eq_flatMap, String.toList_append, List.flatMap_append]

theorem utf8_eq_nil_iff {s : String} : utf8 s = [] ↔ s = "" := by
  constructor
  · intro empty
    rw [utf8_eq_flatMap, List.flatMap_eq_nil_iff] at empty
    refine String.toList_eq_nil_iff.mp (List.eq_nil_iff_forall_not_mem.mpr fun c member => ?_)
    have bytes := String.utf8EncodeChar_ne_nil (c := c)
    exact bytes (empty c member)
  · rintro rfl
    rfl

theorem ofUtf8?_utf8 (s : String) : ofUtf8? (utf8 s) = some s := by
  have bytes : (utf8 s).toByteArray = s.toByteArray :=
    ByteArray.ext (List.data_toByteArray.trans rfl)
  rw [ofUtf8?, bytes, String.fromUTF8?, dif_pos s.isValidUTF8]
  rfl

theorem ofUtf8?_eq_some_iff {bytes : List UInt8} {s : String} :
    ofUtf8? bytes = some s ↔ bytes = utf8 s := by
  constructor
  · intro h
    unfold ofUtf8? String.fromUTF8? at h
    split_ifs at h with valid
    obtain rfl := Option.some.inj h
    change bytes = bytes.toByteArray.data.toList
    rw [List.data_toByteArray]
  · rintro rfl
    exact ofUtf8?_utf8 s

theorem utf8_inj {s t : String} : utf8 s = utf8 t ↔ s = t := by
  constructor
  · intro same
    exact Option.some.inj (by rw [← ofUtf8?_utf8 s, same, ofUtf8?_utf8])
  · rintro rfl
    rfl

end Text

/-! ## Header values -/

namespace HeaderValue

/-- A character that may stand in a header value. -/
def Allows (c : Char) : Prop := c = '\t' ∨ Text.isAsciiControl c = false

theorem allows_iff {c : Char} : Allows c ↔ c.toNat = 9 ∨ 32 ≤ c.toNat ∧ c.toNat ≠ 127 := by
  have tab : c = '\t' ↔ c.toNat = 9 := by
    rw [← Char.toNat_inj]
    rfl
  simp only [Allows, tab, Text.isAsciiControl, Bool.or_eq_false_iff, decide_eq_false_iff_not,
    Nat.not_lt, beq_eq_false_iff_ne, ne_eq]

theorem isAllowed_ofNat {n : Nat} (byte : n < 256) :
    isAllowed (UInt8.ofNat n) = true ↔ n = 9 ∨ 32 ≤ n ∧ n ≠ 127 := by
  have value : (UInt8.ofNat n).toNat = n := UInt8.toNat_ofNat_of_lt' byte
  simp only [isAllowed, Bool.or_eq_true, Bool.and_eq_true, beq_iff_eq, bne_iff_ne,
    decide_eq_true_eq, UInt8.le_iff_toNat_le, ← UInt8.toNat_inj, ne_eq, value]
  rfl

/-- Characters of several bytes are always allowed, as all their bytes are large. -/
theorem all_utf8EncodeChar_iff {c : Char} :
    (∀ b ∈ String.utf8EncodeChar c, isAllowed b = true) ↔ Allows c := by
  rw [allows_iff]
  have point : c.toNat = c.val.toNat := rfl
  simp only [String.utf8EncodeChar]
  split_ifs with one two three
  · simp only [List.mem_singleton, forall_eq, isAllowed_ofNat (by omega : c.val.toNat < 256), point]
  all_goals
    simp only [List.mem_cons, List.not_mem_nil, or_false, forall_eq_or_imp, forall_eq]
    repeat rw [isAllowed_ofNat (by omega)]
    omega

theorem all_utf8_iff {s : String} :
    (∀ b ∈ Text.utf8 s, isAllowed b = true) ↔ ∀ c ∈ s.toList, Allows c := by
  simp only [Text.utf8_eq_flatMap, List.mem_flatMap, ← all_utf8EncodeChar_iff]
  exact ⟨fun all c member b among => all b ⟨c, member, among⟩,
    fun all b ⟨c, member, among⟩ => all c member b among⟩

/-- Exactly the texts without control characters other than tabs may stand in a
header. -/
theorem ofText?_eq_some_iff {s text : String} :
    ofText? s = some text ↔ text = s ∧ ∀ c ∈ s.toList, Allows c := by
  rw [← all_utf8_iff, ← List.all_eq_true, ofText?]
  split_ifs with allowed
  · simp [allowed, eq_comm]
  · simp [allowed]

/-- A text that a header shows as it is. -/
structure Presentable (text : String) : Prop where
  filled : text ≠ ""
  sendable : ofText? text = some text

theorem presentable_toString (n : Nat) : Presentable (toString n) := by
  have digits : (toString n).toList = Nat.toDigits 10 n := by
    rw [Nat.toString_eq_ofList_toDigits, String.toList_ofList]
  constructor
  · intro empty
    exact Nat.toDigits_ne_nil (digits.symm.trans (String.toList_eq_nil_iff.mpr empty))
  · refine ofText?_eq_some_iff.mpr ⟨rfl, fun c member => allows_iff.mpr ?_⟩
    rw [digits] at member
    have range := Text.range_of_isDigit (Nat.isDigit_of_mem_toDigits (by decide) (by decide) member)
    omega

end HeaderValue

end MediaVault
