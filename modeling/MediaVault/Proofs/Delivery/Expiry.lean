import MediaVault.Delivery
import MediaVault.Proofs.Text

/-!
# Expiries within bounds

Whatever expiry is asked for, the one that counts is positive and at most a week, and a
request within these bounds is granted as it is.  A query asks for one by a numeral of any
length; `expiry_parsed` says what becomes of it, also when the number does not fit.
-/

namespace MediaVault.Expiry

/-- An expiry within the bounds is left as it is. -/
theorem clamp_of_le {expiry : Duration} (positive : 0 < expiry.nanoseconds)
    (short : expiry.nanoseconds ≤ longest.nanoseconds) : clamp expiry = expiry := by
  have some_time : expiry.isZero = false := by simp [Duration.isZero, Nat.ne_of_gt positive]
  simp [clamp, some_time, Duration.shorter, Nat.min_eq_left short]

theorem clamp_of_lt {expiry : Duration} (long : longest.nanoseconds < expiry.nanoseconds) :
    clamp expiry = longest := by
  have some_time : expiry.isZero = false := by
    simp [Duration.isZero, Nat.ne_of_gt (Nat.zero_lt_of_lt long)]
  simp [clamp, some_time, Duration.shorter, Nat.min_eq_right (Nat.le_of_lt long)]

theorem clamp_bounds (expiry : Duration) :
    0 < (clamp expiry).nanoseconds ∧ (clamp expiry).nanoseconds ≤ longest.nanoseconds := by
  rcases Nat.eq_zero_or_pos expiry.nanoseconds with zero | positive
  · obtain rfl : expiry = ⟨0⟩ := congrArg Duration.mk zero
    decide
  by_cases short : expiry.nanoseconds ≤ longest.nanoseconds
  · rw [clamp_of_le positive short]
    exact ⟨positive, short⟩
  · rw [clamp_of_lt (by omega)]
    decide

theorem clamp_ofSeconds {n : Nat} (positive : 0 < n) :
    clamp (Duration.ofSeconds n) = Duration.ofSeconds (min n 604800) := by
  have nanoseconds (k : Nat) : (Duration.ofSeconds k).nanoseconds = k * 1000000000 := rfl
  have week : longest.nanoseconds = 604800 * 1000000000 := rfl
  rcases Nat.lt_or_ge 604800 n with long | short
  · rw [Nat.min_eq_right (Nat.le_of_lt long)]
    exact clamp_of_lt (by rw [nanoseconds, week]; omega)
  · rw [Nat.min_eq_left short]
    exact clamp_of_le (by rw [nanoseconds]; omega) (by rw [nanoseconds, week]; omega)

/-! ## Asked for in a query -/

/-- Between blanks, the parameter is a numeral for this number of seconds. -/
def Asks (raw : Option String) (n : Nat) : Prop :=
  ∃ text front numeral back, raw = some text ∧ text.toList = front ++ numeral ++ back ∧
    (∀ c ∈ front, Text.isBlank c = true) ∧ (∀ c ∈ back, Text.isBlank c = true) ∧
    Text.Denotes numeral n

theorem asks_some_iff {text : String} {n : Nat} :
    Asks (some text) n ↔ Text.Denotes (Text.trimChars text.toList) n := by
  constructor
  · rintro ⟨_, front, numeral, back, ⟨rfl⟩, written, before, behind, denoted⟩
    rwa [written, Text.trimChars_denotes denoted before behind]
  · intro denoted
    obtain ⟨front, back, written, before, behind, -, -⟩ :=
      Text.exists_append_stripBoth Text.isBlank text.toList
    exact ⟨text, front, _, back, rfl, written, before, behind, denoted⟩

/-- What the parameter asks for, as far as a counter of 63 bits holds it. -/
theorem parse_of_asks {raw : Option String} {n : Nat} (asks : Asks raw n) (positive : 0 < n)
    (counted : n ≤ 9223372036854775807) : parse raw = Duration.ofSeconds (min n 604800) := by
  obtain ⟨text, front, numeral, back, rfl, -⟩ := id asks
  have read : Text.readInteger (Text.maxOfBits 63) (Text.trimChars text.toList) = .ok (n : Int) :=
    (Text.readInteger_eq_ok_iff positive).mpr ⟨asks_some_iff.mp asks, counted⟩
  rw [parse]
  simp only [read]
  rw [if_pos (by omega), Int.toNat_natCast, clamp_ofSeconds positive]

theorem parse_of_unasked {raw : Option String}
    (unasked : ∀ n, Asks raw n → 0 < n → 9223372036854775807 < n) : parse raw = standard := by
  cases raw with
  | none => rfl
  | some text =>
    simp only [parse]
    split
    next seconds read =>
      -- A positive number that was read is denoted by the text and fits, so it was asked for.
      refine if_neg fun positive => ?_
      obtain ⟨n, rfl⟩ := Int.eq_ofNat_of_zero_le (Int.le_of_lt positive)
      obtain ⟨denoted, fits⟩ := (Text.readInteger_eq_ok_iff (by omega)).mp read
      have counted : n ≤ 9223372036854775807 := fits
      have long := unasked n (asks_some_iff.mpr denoted) (by omega)
      omega
    next => rfl

theorem parse_cases (raw : Option String) :
    (∃ n, Asks raw n ∧ 0 < n ∧ parse raw = Duration.ofSeconds (min n 604800)) ∨
      parse raw = Duration.ofSeconds 600 := by
  by_cases asked : ∃ n, Asks raw n ∧ 0 < n ∧ n ≤ 9223372036854775807
  · obtain ⟨n, asks, positive, counted⟩ := asked
    exact .inl ⟨n, asks, positive, parse_of_asks asks positive counted⟩
  · refine .inr (parse_of_unasked fun n asks positive => ?_)
    exact Nat.lt_of_not_le fun counted => asked ⟨n, asks, positive, counted⟩

/-- The parameter counts exactly if blanks surround a numeral of digits, perhaps after a `+`,
whose number is positive and fits into 63 bits; it is then capped at a week.  Without one
there are ten minutes.  So there is always at least a second and at most a week, and of two
numbers that fit the larger one never gives less. -/
theorem expiry_parsed (raw : Option String) :
    (∀ n, Asks raw n → 0 < n → n ≤ 9223372036854775807 →
      parse raw = Duration.ofSeconds (min n 604800)) ∧
    ((∀ n, Asks raw n → ¬ (0 < n ∧ n ≤ 9223372036854775807)) →
      parse raw = Duration.ofSeconds 600) ∧
    (parse raw = Duration.ofSeconds (parse raw).seconds ∧
      1 ≤ (parse raw).seconds ∧ (parse raw).seconds ≤ 604800) ∧
    ∀ other n k, Asks raw n → Asks other k → 0 < n → n ≤ k → k ≤ 9223372036854775807 →
      (parse raw).seconds ≤ (parse other).seconds := by
  refine ⟨fun n => parse_of_asks, fun unasked => ?_, ?_,
    fun other n k asks more positive le fits => ?_⟩
  · refine parse_of_unasked fun n asks positive => ?_
    exact Nat.lt_of_not_le fun counted => unasked n asks ⟨positive, counted⟩
  · rcases parse_cases raw with ⟨n, -, positive, parsed⟩ | parsed
    · rw [parsed, Duration.seconds_ofSeconds]
      exact ⟨rfl, by omega, Nat.min_le_right n 604800⟩
    · rw [parsed, Duration.seconds_ofSeconds]
      exact ⟨rfl, by decide, by decide⟩
  · rw [parse_of_asks asks positive (Nat.le_trans le fits),
      parse_of_asks more (Nat.lt_of_lt_of_le positive le) fits, Duration.seconds_ofSeconds,
      Duration.seconds_ofSeconds]
    omega

/-- A signed numeral with leading zeros between blanks, and a larger one. -/
theorem expiry_parsed_between_blanks :
    let raw := some " +0090\u00a0"
    let other := some "999999999"
    Asks raw 90 ∧ Asks other 999999999 ∧ parse raw = Duration.ofSeconds 90 ∧
      parse (some "-5") = Duration.ofSeconds 600 ∧
      (parse raw).seconds ≤ (parse other).seconds := by
  intro raw other
  have numeral : Text.Denotes ('+' :: "0090".toList) 90 :=
    .signed (by decide) (List.all_eq_true.mp (by decide))
  have asks : Asks raw 90 := asks_some_iff.mpr numeral
  have more : Asks other 999999999 :=
    asks_some_iff.mpr (.bare (by decide) (List.all_eq_true.mp (by decide)))
  have negative (n : Nat) : ¬ Asks (some "-5") n := by
    intro asked
    cases asks_some_iff.mp asked with
    | bare filled digital => exact absurd (digital '-' List.mem_cons_self) (by decide)
  obtain ⟨parsed, -, -, monotone⟩ := expiry_parsed raw
  exact ⟨asks, more, parsed 90 asks (by decide) (by decide),
    (expiry_parsed (some "-5")).2.1 fun n asked => absurd asked (negative n),
    monotone other 90 999999999 asks more (by decide) (by decide) (by decide)⟩

/-- The first number that does not fit into 63 bits is taken for none at all, and gives less
than the one before it. -/
theorem long_expiry_falls_back :
    Asks (some "9223372036854775808") 9223372036854775808 ∧
      parse (some "9223372036854775808") = Duration.ofSeconds 600 ∧
      Asks (some "9223372036854775807") 9223372036854775807 ∧
      parse (some "9223372036854775807") = Duration.ofSeconds 604800 := by
  exact ⟨asks_some_iff.mpr (.bare (by decide) (List.all_eq_true.mp (by decide))),
    by decide +kernel, asks_some_iff.mpr (.bare (by decide) (List.all_eq_true.mp (by decide))),
    by decide +kernel⟩

end MediaVault.Expiry
