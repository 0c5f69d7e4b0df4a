import MediaVault.Proofs.Json.Grammar

/-!
# Strings and numbers are read as the grammar has them

Every reading function comes with two lemmas: what it takes off the front of a text belongs to the
grammar, and a text of the grammar is taken off whole.  For the second the text has to end where
the value ends, as a number could go on otherwise: `Closed`.
-/

namespace MediaVault.Json

/-! ## Blanks -/

theorem isBlank_iff {c : Char} :
    (c == ' ' || c == '\n' || c == '\r' || c == '\t') = true ↔ IsBlank c := by
  simp [IsBlank, or_assoc]

theorem skipBlanks_append {before s : List Char} (blank : Blanks before)
    (starts : ∀ c ∈ s.head?, ¬ IsBlank c) : skipBlanks (before ++ s) = s :=
  Text.dropWhile_append_exact (fun c member => isBlank_iff.mpr (blank c member))
    fun c first => Bool.eq_false_iff.mpr (mt isBlank_iff.mp (starts c first))

theorem exists_append_skipBlanks (s : List Char) :
    ∃ before, s = before ++ skipBlanks s ∧ Blanks before :=
  ⟨_, List.takeWhile_append_dropWhile.symm, fun _ member =>
    isBlank_iff.mp (List.mem_takeWhile_imp (p := fun c => c == ' ' || c == '\n' || c == '\r' ||
      c == '\t') member)⟩

theorem isEmpty_skipBlanks_iff {s : List Char} : (skipBlanks s).isEmpty = true ↔ Blanks s := by
  simp only [List.isEmpty_iff, skipBlanks, List.dropWhile_eq_nil_iff, isBlank_iff, Blanks]

/-- The end of a text, or a character that ends a value. -/
def Closed (rest : List Char) : Prop :=
  ∀ c ∈ rest.head?, IsBlank c ∨ c = ',' ∨ c = ']' ∨ c = '}'

theorem Closed.append {after rest : List Char} (blank : Blanks after) (closed : Closed rest) :
    Closed (after ++ rest) := by
  cases after with
  | nil => exact closed
  | cons c after =>
    intro d first
    obtain rfl := Option.some.inj first
    exact .inl (blank c List.mem_cons_self)

theorem Blanks.closed {s : List Char} (blank : Blanks s) : Closed s := by
  rw [← List.append_nil s]
  exact Closed.append blank nofun

/-! ## Strings -/

theorem readUnit_eq_some_iff {s rest : List Char} {n : Nat} :
    readUnit s = some (n, rest) ↔
      ∃ a b c d i j k l, s = a :: b :: c :: d :: rest ∧ Text.hexValue? a = some i ∧
        Text.hexValue? b = some j ∧ Text.hexValue? c = some k ∧ Text.hexValue? d = some l ∧
        n = ((i * 16 + j) * 16 + k) * 16 + l := by
  constructor
  · intro h
    unfold readUnit at h
    split at h
    next a b c d rest =>
      simp only [Option.bind_eq_bind, Option.bind_eq_some_iff, Option.pure_def, Option.some.injEq,
        Prod.mk.injEq] at h
      obtain ⟨i, first, j, second, k, third, l, fourth, rfl, rfl⟩ := h
      exact ⟨a, b, c, d, i, j, k, l, rfl, first, second, third, fourth, rfl⟩
    next => cases h
  · rintro ⟨a, b, c, d, i, j, k, l, rfl, first, second, third, fourth, rfl⟩
    simp [readUnit, first, second, third, fourth]

theorem readEscape_sound {s rest : List Char} {piece : Piece}
    (h : readEscape s = some (piece, rest)) : ∃ e, s = e ++ rest ∧ EscapeText e piece := by
  unfold readEscape at h
  split at h
  case h_9 rest =>
    obtain ⟨⟨n, after⟩, read, made⟩ := Option.map_eq_some_iff.mp h
    obtain ⟨rfl, rfl⟩ := Prod.mk.inj made
    obtain ⟨a, b, c, d, i, j, k, l, rfl, first, second, third, fourth, rfl⟩ :=
      readUnit_eq_some_iff.mp read
    exact ⟨['u', a, b, c, d], rfl, .unit first second third fourth⟩
  case h_10 => cases h
  all_goals
    obtain ⟨rfl, rfl⟩ := Prod.mk.inj (Option.some.inj h)
    exact ⟨[_], rfl, .byte (by decide)⟩

theorem readEscape_append {e : List Char} {piece : Piece} (h : EscapeText e piece)
    (rest : List Char) : readEscape (e ++ rest) = some (piece, rest) := by
  cases h with
  | byte member =>
    simp only [escapes, List.mem_cons, List.not_mem_nil, or_false, Prod.mk.injEq] at member
    rcases member with h | h | h | h | h | h | h | h <;> obtain ⟨rfl, rfl⟩ := h <;> rfl
  | unit first second third fourth =>
    exact Option.map_eq_some_iff.mpr ⟨(_, rest), readUnit_eq_some_iff.mpr
      ⟨_, _, _, _, _, _, _, _, rfl, first, second, third, fourth, rfl⟩, rfl⟩

theorem readString_sound {fuel : Nat} {s rest : List Char} {pieces : List Piece}
    (h : readString fuel s = some (pieces, rest)) :
    ∃ t, s = t ++ '"' :: rest ∧ StringText t pieces := by
  induction fuel generalizing s pieces with
  | zero => cases h
  | succ fuel ih =>
    unfold readString at h
    split at h
    next => contradiction
    next => contradiction
    next heq _ =>
      obtain ⟨rfl, rfl⟩ := Prod.mk.inj (Option.some.inj h)
      exact ⟨[], rfl, .nil⟩
    next fuel' tail heq =>
      obtain rfl := Nat.succ.inj heq
      simp only [Option.bind_eq_bind, Option.bind_eq_some_iff, Option.pure_def, Option.some.injEq,
        Prod.mk.injEq, Prod.exists] at h
      obtain ⟨piece, after, escape, others, rest', read, rfl, rfl⟩ := h
      obtain ⟨e, rfl, escaped⟩ := readEscape_sound escape
      obtain ⟨t, rfl, string⟩ := ih read
      exact ⟨'\\' :: (e ++ t), by simp, .escaped escaped string⟩
    next fuel' c tail quote slash heq =>
      obtain rfl := Nat.succ.inj heq
      split_ifs at h with control
      simp only [Option.bind_eq_bind, Option.bind_eq_some_iff, Option.pure_def, Option.some.injEq,
        Prod.mk.injEq, Prod.exists] at h
      obtain ⟨others, rest', read, rfl, rfl⟩ := h
      obtain ⟨t, rfl, string⟩ := ih read
      exact ⟨c :: t, rfl, .plain quote slash (Nat.le_of_not_lt control) string⟩

theorem readString_append {t : List Char} {pieces : List Piece} (h : StringText t pieces)
    (rest : List Char) (fuel : Nat) (enough : t.length < fuel) :
    readString fuel (t ++ '"' :: rest) = some (pieces, rest) := by
  induction h generalizing fuel with
  | nil =>
    obtain ⟨fuel, rfl⟩ := Nat.exists_eq_add_of_lt enough
    rfl
  | plain quote slash large string ih =>
    obtain _ | fuel := fuel
    · omega
    · rw [List.cons_append, readString, if_neg (Nat.not_lt.mpr large),
        ih fuel (Nat.lt_of_succ_lt_succ enough)]
      · rfl
      · exact quote
      · exact slash
  | escaped escaped string ih =>
    obtain _ | fuel := fuel
    · omega
    · rw [List.length_cons, List.length_append] at enough
      rw [List.cons_append, List.append_assoc, readString, readEscape_append escaped]
      simp only [Option.bind_eq_bind, Option.bind_some, ih fuel (by omega)]
      rfl

/-! ## Texts of strings -/

theorem encodes_of_pieceBytes? {pieces : List Piece} {bytes : List UInt8}
    (h : pieceBytes? pieces = some bytes) : Encodes pieces bytes := by
  fun_induction pieceBytes? pieces generalizing bytes with
  | case1 => obtain rfl := Option.some.inj h; exact .nil
  | case2 b rest ih =>
    obtain ⟨others, read, rfl⟩ := Option.map_eq_some_iff.mp h
    exact .byte (ih read)
  | case3 first high second rest low ih =>
    obtain ⟨others, read, rfl⟩ := Option.map_eq_some_iff.mp h
    exact .pair (by simpa [IsHighSurrogate] using high) (by simpa [IsLowSurrogate] using low) (ih read)
  | case4 => cases h
  | case5 => cases h
  | case6 => cases h
  | case7 rest first high low ih =>
    obtain ⟨others, read, rfl⟩ := Option.map_eq_some_iff.mp h
    exact .unit (by simpa [IsHighSurrogate] using high) (by simpa [IsLowSurrogate] using low) (ih read)

theorem pieceBytes?_of_encodes {pieces : List Piece} {bytes : List UInt8}
    (h : Encodes pieces bytes) : pieceBytes? pieces = some bytes := by
  induction h with
  | nil => rfl
  | byte _ ih => simp only [pieceBytes?, ih, Option.map_some]
  | unit high low _ ih =>
    unfold pieceBytes?
    rw [if_neg (by simpa [IsHighSurrogate] using high),
      if_neg (by simpa [IsLowSurrogate] using low), ih]
    rfl
  | pair high low _ ih =>
    unfold pieceBytes?
    rw [if_pos (by simpa [IsHighSurrogate] using high)]
    exact (if_pos (by simpa [IsLowSurrogate] using low)).trans (by rw [ih]; rfl)

theorem pieceText?_eq_some_iff {pieces : List Piece} {value : String} :
    pieceText? pieces = some value ↔ Encodes pieces (Text.utf8 value) := by
  simp only [pieceText?, Option.bind_eq_some_iff, Text.ofUtf8?_eq_some_iff]
  constructor
  · rintro ⟨_, read, rfl⟩
    exact encodes_of_pieceBytes? read
  · exact fun encodes => ⟨_, pieceBytes?_of_encodes encodes, rfl⟩

theorem quotedText_iff {t : List Char} {value : Option String} :
    QuotedText t value ↔ ∃ s pieces, t = '"' :: (s ++ ['"']) ∧ StringText s pieces ∧
      value = pieceText? pieces := by
  constructor
  · intro h
    cases h with
    | text string encodes => exact ⟨_, _, rfl, string, (pieceText?_eq_some_iff.mpr encodes).symm⟩
    | other string garbled =>
      refine ⟨_, _, rfl, string, (Option.eq_none_iff_forall_ne_some.mpr fun value read => ?_).symm⟩
      exact garbled value (pieceText?_eq_some_iff.mp read)
  · rintro ⟨s, pieces, rfl, string, rfl⟩
    cases read : pieceText? pieces with
    | some value => exact .text string (pieceText?_eq_some_iff.mp read)
    | none =>
      refine .other string fun value encodes => ?_
      rw [pieceText?_eq_some_iff.mpr encodes] at read
      cases read

/-! ## Numbers -/

theorem Closed.head?_isDigit {rest : List Char} (closed : Closed rest) :
    rest.head?.any Char.isDigit = false := by
  cases rest with
  | nil => rfl
  | cons c rest =>
    rcases closed c rfl with (h | h | h | h) | h | h | h <;> subst h <;> rfl

theorem Digits.head {s : List Char} (digits : Digits s) :
    ∃ c t, s = c :: t ∧ c.isDigit = true := by
  obtain ⟨filled, digital⟩ := digits
  obtain ⟨c, t, rfl⟩ := List.exists_cons_of_ne_nil filled
  exact ⟨c, t, rfl, digital c List.mem_cons_self⟩

theorem skipDigits_sound {s rest : List Char} (h : skipDigits s = some rest) :
    ∃ t, s = t ++ rest ∧ Digits t := by
  unfold skipDigits at h
  split_ifs at h with first
  obtain rfl := Option.some.inj h
  refine ⟨_, List.takeWhile_append_dropWhile.symm, ?_, fun c => List.mem_takeWhile_imp⟩
  cases s with
  | nil => cases first
  | cons c s => rw [List.takeWhile_cons_of_pos (by simpa using first)]; exact List.cons_ne_nil _ _

theorem skipDigits_append {t rest : List Char} (digits : Digits t)
    (ends : rest.head?.any Char.isDigit = false) : skipDigits (t ++ rest) = some rest := by
  have skipped : (t ++ rest).dropWhile Char.isDigit = rest :=
    Text.dropWhile_append_exact digits.2 fun c first => by simpa [Option.mem_def.mp first] using ends
  obtain ⟨c, u, rfl, digit⟩ := digits.head
  rw [skipDigits, if_pos (by simpa using digit), skipped]

theorem skipWhole_sound {s rest : List Char} (h : skipWhole s = some rest) :
    ∃ t, s = t ++ rest ∧ WholeText t := by
  unfold skipWhole at h
  split at h
  next =>
    split_ifs at h
    obtain rfl := Option.some.inj h
    exact ⟨['0'], rfl, .zero⟩
  next nonzero =>
    obtain ⟨t, rfl, digits⟩ := skipDigits_sound h
    obtain ⟨c, u, rfl, -⟩ := digits.head
    exact ⟨c :: u, rfl, .digits digits fun zero => nonzero _ (by rw [zero]; rfl)⟩

theorem skipWhole_append {t rest : List Char} (whole : WholeText t)
    (ends : rest.head?.any Char.isDigit = false) : skipWhole (t ++ rest) = some rest := by
  cases whole with
  | zero => simp [skipWhole, ends]
  | digits digits nonzero =>
    rw [← skipDigits_append digits ends]
    unfold skipWhole
    split
    next heq => exact absurd (List.cons.inj heq).1 nonzero
    next => rfl

theorem skipFraction_sound {s rest : List Char} (h : skipFraction s = some rest) :
    ∃ t, s = t ++ rest ∧ FractionText t := by
  unfold skipFraction at h
  split at h
  next =>
    obtain ⟨t, rfl, digits⟩ := skipDigits_sound h
    exact ⟨'.' :: t, rfl, .digits digits⟩
  next =>
    obtain rfl := Option.some.inj h
    exact ⟨[], rfl, .none⟩

theorem skipFraction_append {t rest : List Char} (fraction : FractionText t)
    (ends : rest.head?.any Char.isDigit = false) (pointless : rest.head? ≠ some '.') :
    skipFraction (t ++ rest) = some rest := by
  cases fraction with
  | none =>
    unfold skipFraction
    split
    next heq => exact absurd (congrArg List.head? heq) pointless
    next => rfl
  | digits digits => exact skipDigits_append digits ends

theorem skipExponent_sound {s rest : List Char} (h : skipExponent s = some rest) :
    ∃ t, s = t ++ rest ∧ ExponentText t := by
  unfold skipExponent at h
  split at h
  next e after =>
    split_ifs at h with power
    · have letter : e = 'e' ∨ e = 'E' := by simpa using power
      split at h
      all_goals obtain ⟨t, rfl, digits⟩ := skipDigits_sound h
      · exact ⟨e :: (['+'] ++ t), rfl, .digits letter (.inr (.inl rfl)) digits⟩
      · exact ⟨e :: (['-'] ++ t), rfl, .digits letter (.inr (.inr rfl)) digits⟩
      · exact ⟨e :: ([] ++ t), rfl, .digits letter (.inl rfl) digits⟩
    · obtain rfl := Option.some.inj h
      exact ⟨[], rfl, .none⟩
  next =>
    obtain rfl := Option.some.inj h
    exact ⟨[], rfl, .none⟩

theorem skipExponent_append {t rest : List Char} (exponent : ExponentText t)
    (closed : Closed rest) : skipExponent (t ++ rest) = some rest := by
  cases exponent with
  | none =>
    cases rest with
    | nil => rfl
    | cons c rest =>
      rcases closed c rfl with (h | h | h | h) | h | h | h <;> subst h <;> rfl
  | digits letter signed digits =>
    have skipped := skipDigits_append digits closed.head?_isDigit
    obtain ⟨c, u, rfl, digit⟩ := digits.head
    unfold skipExponent
    rw [List.cons_append, List.append_assoc]
    refine (if_pos (by simpa using letter)).trans ?_
    rcases signed with rfl | rfl | rfl
    · split
      next heq => obtain rfl := (List.cons.inj heq).1; cases digit
      next heq => obtain rfl := (List.cons.inj heq).1; cases digit
      next => exact skipped
    · exact skipped
    · exact skipped

theorem skipNumber_sound {s rest : List Char} (h : skipNumber s = some rest) :
    ∃ t, s = t ++ rest ∧ NumberText t := by
  simp only [skipNumber, Option.bind_eq_bind, Option.bind_eq_some_iff] at h
  obtain ⟨afterWhole, skippedWhole, afterFraction, skippedFraction, skippedExponent⟩ := h
  obtain ⟨whole, unsigned, wholeText⟩ := skipWhole_sound skippedWhole
  obtain ⟨fraction, rfl, fractionText⟩ := skipFraction_sound skippedFraction
  obtain ⟨exponent, rfl, exponentText⟩ := skipExponent_sound skippedExponent
  split at unsigned
  · obtain rfl := unsigned
    exact ⟨['-'] ++ whole ++ fraction ++ exponent, by simp,
      .parts (.inr rfl) wholeText fractionText exponentText⟩
  · obtain rfl := unsigned
    exact ⟨[] ++ whole ++ fraction ++ exponent, by simp,
      .parts (.inl rfl) wholeText fractionText exponentText⟩

theorem WholeText.head {t : List Char} (whole : WholeText t) :
    ∃ c u, t = c :: u ∧ c.isDigit = true := by
  cases whole with
  | zero => exact ⟨_, _, rfl, rfl⟩
  | digits digits => exact ⟨_, _, rfl, digits.2 _ List.mem_cons_self⟩

theorem NumberText.head {t : List Char} (number : NumberText t) :
    ∃ c u, t = c :: u ∧ (c = '-' ∨ c.isDigit = true) := by
  cases number with
  | parts signed whole =>
    obtain ⟨c, u, rfl, digit⟩ := whole.head
    rcases signed with rfl | rfl
    · exact ⟨c, _, rfl, .inr digit⟩
    · exact ⟨'-', _, rfl, .inl rfl⟩

theorem skipNumber_append {t rest : List Char} (number : NumberText t) (closed : Closed rest) :
    skipNumber (t ++ rest) = some rest := by
  cases number with
  | @parts sign whole fraction exponent signed wholeText fractionText exponentText =>
    -- What follows a part does not go on with it.
    have exponentEnds : (exponent ++ rest).head?.any Char.isDigit = false ∧
        (exponent ++ rest).head? ≠ some '.' := by
      cases exponentText with
      | none => exact ⟨closed.head?_isDigit, fun point => by simpa [IsBlank] using closed _ point⟩
      | digits letter => rcases letter with rfl | rfl <;> exact ⟨rfl, by simp⟩
    have fractionEnds : (fraction ++ (exponent ++ rest)).head?.any Char.isDigit = false := by
      cases fractionText with
      | none => exact exponentEnds.1
      | digits => rfl
    have skipped : (skipWhole (whole ++ (fraction ++ (exponent ++ rest)))).bind
        (fun s => (skipFraction s).bind skipExponent) = some rest := by
      rw [skipWhole_append wholeText fractionEnds, Option.bind_some,
        skipFraction_append fractionText exponentEnds.1 exponentEnds.2, Option.bind_some,
        skipExponent_append exponentText closed]
    rw [List.append_assoc, List.append_assoc, List.append_assoc]
    rcases signed with rfl | rfl
    · obtain ⟨c, u, heq, digit⟩ := wholeText.head
      unfold skipNumber
      rw [List.nil_append]
      split
      next minus =>
        rw [heq] at minus
        obtain rfl := (List.cons.inj minus).1
        cases digit
      next => exact skipped
    · exact skipped

end MediaVault.Json
