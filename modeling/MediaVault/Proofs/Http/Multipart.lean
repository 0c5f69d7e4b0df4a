import MediaVault.Http.Multipart

/-!
# Forms that are longer than what was read of them

A form is read from front to back, so a part that is closed by its delimiter is settled
by the bytes up to there: `select_append` says that whatever follows makes no difference.
-/

namespace MediaVault

/-! ## Looking for a pattern -/

namespace Bytes

variable {bytes pattern : ByteArray} {start place : Nat}

theorem matchesAt_of_inside {left : Nat} (here : place + (pattern.size - (left + 1)) < bytes.size)
    (there : pattern.size - (left + 1) < pattern.size) :
    matchesAt bytes pattern place (left + 1) =
      (bytes[place + (pattern.size - (left + 1))] == pattern[pattern.size - (left + 1)] &&
        matchesAt bytes pattern place left) :=
  dif_pos ⟨here, there⟩

theorem matchesAt_of_outside {left : Nat}
    (outside : ¬ (place + (pattern.size - (left + 1)) < bytes.size ∧
      pattern.size - (left + 1) < pattern.size)) :
    matchesAt bytes pattern place (left + 1) = false :=
  dif_neg outside

theorem matchesAt_append {left : Nat} (more : ByteArray)
    (inside : place + pattern.size ≤ bytes.size) :
    matchesAt (bytes ++ more) pattern place left = matchesAt bytes pattern place left := by
  induction left with
  | zero => rfl
  | succ left ih =>
    by_cases there : pattern.size - (left + 1) < pattern.size
    · have here : place + (pattern.size - (left + 1)) < bytes.size := by omega
      have still_here : place + (pattern.size - (left + 1)) < (bytes ++ more).size := by
        rw [ByteArray.size_append]
        omega
      rw [matchesAt_of_inside still_here there, matchesAt_of_inside here there,
        ByteArray.getElem_append_left here, ih]
    · rw [matchesAt_of_outside (fun both => there both.2),
        matchesAt_of_outside (fun both => there both.2)]

theorem isAt_append (more : ByteArray) (inside : place + pattern.size ≤ bytes.size) :
    isAt (bytes ++ more) pattern place = isAt bytes pattern place :=
  matchesAt_append more inside

theorem le_of_matchesAt {left : Nat} (some_left : left ≠ 0) (whole : left ≤ pattern.size)
    (matched : matchesAt bytes pattern place left = true) : place + pattern.size ≤ bytes.size := by
  induction left with
  | zero => exact absurd rfl some_left
  | succ left ih =>
    by_cases inside : place + (pattern.size - (left + 1)) < bytes.size ∧
        pattern.size - (left + 1) < pattern.size
    · rw [matchesAt_of_inside inside.1 inside.2] at matched
      cases left with
      | zero => omega
      | succ left => exact ih (by omega) (by omega) (Bool.and_eq_true_iff.mp matched).2
    · rw [matchesAt_of_outside inside] at matched
      cases matched

/-- A pattern that stands somewhere ends within the bytes. -/
theorem le_of_isAt (filled : pattern.size ≠ 0) (stands : isAt bytes pattern place = true) :
    place + pattern.size ≤ bytes.size :=
  le_of_matchesAt filled (Nat.le_refl _) stands

theorem first_of_isAt (filled : 0 < pattern.size) (stands : isAt bytes pattern place = true) :
    ∃ inside : place < bytes.size, bytes[place] = pattern[0] := by
  have ends := le_of_isAt (Nat.ne_of_gt filled) stands
  obtain ⟨others, size⟩ : ∃ others, pattern.size = others + 1 := ⟨pattern.size - 1, by omega⟩
  have first : pattern.size - (others + 1) = 0 := by omega
  rw [isAt, size, matchesAt_of_inside (by omega) (by omega)] at stands
  simp only [first, Nat.add_zero] at stands
  exact ⟨by omega, by simpa using (Bool.and_eq_true_iff.mp stands).1⟩

theorem isAt_of_searchLast {left : Nat} (found : searchLast bytes pattern left = some place) :
    isAt bytes pattern place = true := by
  induction left with
  | zero => cases found
  | succ left ih =>
    rw [searchLast] at found
    split at found
    next stands => exact Option.some.inj found ▸ stands
    next => exact ih found

theorem isAt_of_find? (found : find? bytes pattern start = some place) :
    isAt bytes pattern place = true := by
  rw [find?] at found
  split at found
  · exact isAt_of_searchLast found
  · cases found

theorem searchLast_append {left : Nat} (more : ByteArray) (filled : pattern.size ≠ 0)
    (within : left ≤ bytes.size + 1) (found : searchLast bytes pattern left = some place) :
    searchLast (bytes ++ more) pattern (left + more.size) = some place := by
  induction left with
  | zero => cases found
  | succ left ih =>
    have same_place : (bytes ++ more).size - (left + more.size) = bytes.size - left := by
      rw [ByteArray.size_append]
      omega
    have ends := le_of_isAt filled (isAt_of_searchLast found)
    have from_here := le_of_searchLast found
    -- The pattern ends within the bytes where it is found, so also at every place before.
    have same : isAt (bytes ++ more) pattern (bytes.size - left) =
        isAt bytes pattern (bytes.size - left) := isAt_append more (by omega)
    rw [searchLast] at found
    rw [show left + 1 + more.size = left + more.size + 1 by omega, searchLast, same_place, same]
    split at found
    next stands => rw [if_pos stands, ← Option.some.inj found]
    next other =>
      rw [if_neg other]
      exact ih (by omega) found

/-- What is found does not depend on the bytes behind it. -/
theorem find?_append (more : ByteArray) (filled : pattern.size ≠ 0)
    (found : find? bytes pattern start = some place) :
    find? (bytes ++ more) pattern start = some place := by
  rw [find?] at found
  split at found
  next within =>
    have longer : (bytes ++ more).size - start + 1 = bytes.size - start + 1 + more.size := by
      rw [ByteArray.size_append]
      omega
    rw [find?, if_pos (by rw [ByteArray.size_append]; omega), longer]
    exact searchLast_append more filled (by omega) found
  next => cases found

theorem slice_append {stop : Nat} (more : ByteArray) (inside : stop ≤ bytes.size) :
    slice (bytes ++ more) start stop = slice bytes start stop := by
  have nothing : more.extract (start - bytes.size) (stop - bytes.size) = ByteArray.empty :=
    ByteArray.extract_eq_empty_iff.mpr (by omega)
  rw [slice, slice, ByteArray.extract_append, nothing, ByteArray.append_empty]

end Bytes

/-! ## Reading parts -/

namespace Multipart

variable {body : ByteArray} {place : Nat}

/-- Where padding ends within the bytes, it ends there also when more follow. -/
theorem skipPadding_append (more : ByteArray) {left extra next : Nat}
    (skipped : skipPadding body place left = next) (inside : next < body.size)
    (ended : isPadding body[next] = false) :
    skipPadding (body ++ more) place (left + extra) = next := by
  have still : next < (body ++ more).size := by
    rw [ByteArray.size_append]
    omega
  have stops {here others : Nat} (same : here = next) :
      skipPadding (body ++ more) here others = next := by
    subst same
    cases others with
    | zero => rfl
    | succ others =>
      rw [skipPadding, dif_pos still, ByteArray.getElem_append_left inside, ended]
      rfl
  induction left generalizing place with
  | zero => exact stops skipped
  | succ left ih =>
    rw [skipPadding] at skipped
    split at skipped
    next within =>
      split at skipped
      next padding =>
        have within_all : place < (body ++ more).size := by
          rw [ByteArray.size_append]
          omega
        rw [Nat.succ_add, skipPadding, dif_pos within_all, ByteArray.getElem_append_left within,
          if_pos padding]
        exact ih skipped
      next => exact stops skipped
    next outside => exact stops skipped

theorem afterDelimiter_append (more : ByteArray) {start : Nat}
    (opened : afterDelimiter body place = .opens start) :
    afterDelimiter (body ++ more) place = .opens start := by
  rw [afterDelimiter] at opened
  split at opened
  · cases opened
  next long =>
    have still_long : ¬ (body ++ more).size < place + 2 := by
      rw [ByteArray.size_append]
      omega
    split at opened
    · cases opened
    next unclosed =>
      have still_unclosed : ¬ Bytes.isAt (body ++ more) (Bytes.ofText "--") place = true := by
        rwa [Bytes.isAt_append more (by
          have two : (Bytes.ofText "--").size = 2 := by decide
          omega)]
      dsimp only at opened
      split at opened
      next ended =>
        have two : (Bytes.ofText "\r\n").size = 2 := by decide
        have inside := Bytes.le_of_isAt (by decide) ended
        obtain ⟨within, first⟩ := Bytes.first_of_isAt (by decide) ended
        have no_padding : isPadding body[skipPadding body place (body.size - place)] = false := by
          rw [first]
          decide
        have skipped : skipPadding (body ++ more) place (body.size - place + more.size) = _ :=
          skipPadding_append more rfl within no_padding
        have left : (body ++ more).size - place = body.size - place + more.size := by
          rw [ByteArray.size_append]
          omega
        rw [afterDelimiter, if_neg still_long, if_neg still_unclosed]
        dsimp only
        rw [left, skipped, Bytes.isAt_append more inside, if_pos ended]
        exact opened
      · cases opened

/-- The part that is selected is closed: its delimiter is there. -/
def Parts.Closes (names : List String) (parts : Parts) (head : PartHead) (bytes : ByteArray) :
    Prop :=
  parts.select names = .ok (some ⟨head, [.data bytes]⟩)

theorem Parts.closes_part_iff {names : List String} {head chosen : PartHead}
    {content bytes : ByteArray} {rest : Parts} :
    (Parts.part head content rest).Closes names chosen bytes ↔
      if head.isNamed names then head = chosen ∧ content = bytes
      else rest.Closes names chosen bytes := by
  rw [Closes, select]
  split <;> simp [Closes]

theorem partsFrom_of_ended {delimiter : ByteArray} {start stop finish : Nat}
    {lines : List (String × List UInt8)} (opened : afterDelimiter body place = .opens start)
    (found : Bytes.find? body (Bytes.ofText "\r\n\r\n") start = some stop)
    (read : headerLines maxHeaders (Bytes.list (Bytes.slice body start (stop + 4))) = some lines)
    (ended : Bytes.find? body (Bytes.ofText "\r\n" ++ delimiter) (stop + 4) = some finish)
    (inside : finish + 2 + delimiter.size ≤ body.size) :
    partsFrom delimiter body place =
      .part (headOf lines) (Bytes.slice body (stop + 4) finish)
        (partsFrom delimiter body (finish + 2 + delimiter.size)) := by
  rw [partsFrom]
  split
  next none => cases opened.symm.trans none
  next none => cases opened.symm.trans none
  next here same =>
    obtain rfl := AfterDelimiter.opens.inj (opened.symm.trans same)
    split
    next none => cases found.symm.trans none
    next here same =>
      obtain rfl := Option.some.inj (found.symm.trans same)
      rw [read]
      dsimp only
      split
      next none => cases ended.symm.trans none
      next here same =>
        obtain rfl := Option.some.inj (ended.symm.trans same)
        rw [dif_pos inside]

/-- A closed part is settled by the bytes up to its delimiter. -/
theorem partsFrom_append (more : ByteArray) {delimiter bytes : ByteArray} {names : List String}
    {head : PartHead} (closed : (partsFrom delimiter body place).Closes names head bytes) :
    (partsFrom delimiter (body ++ more) place).Closes names head bytes := by
  fun_induction partsFrom delimiter body place with
  | case1 | case2 | case3 | case4 => cases closed
  | case5 place start opened _ stop found lines read missing =>
    rw [Parts.Closes, Parts.select] at closed
    split at closed
    · cases closed
    · cases closed
  | case7 => cases closed
  | case6 place start opened _ stop found _ lines read finish ended _ inside ih =>
    -- All that this part is made of lies before the end of its delimiter.
    have blank : (Bytes.ofText "\r\n\r\n").size = 4 := by decide
    have header_end := Bytes.le_of_isAt (by rw [blank]; decide) (Bytes.isAt_of_find? found)
    have same_header : Bytes.slice (body ++ more) start (stop + 4) =
        Bytes.slice body start (stop + 4) := Bytes.slice_append more (blank ▸ header_end)
    have same_content : Bytes.slice (body ++ more) (stop + 4) finish =
        Bytes.slice body (stop + 4) finish := Bytes.slice_append more (by omega)
    have filled : (Bytes.ofText "\r\n" ++ delimiter).size ≠ 0 := by
      have two : (Bytes.ofText "\r\n").size = 2 := by decide
      rw [ByteArray.size_append]
      omega
    rw [partsFrom_of_ended (afterDelimiter_append more opened)
      (Bytes.find?_append more (by rw [blank]; decide) found) (same_header ▸ read)
      (Bytes.find?_append more filled ended) (by rw [ByteArray.size_append]; omega),
      Parts.closes_part_iff, same_content]
    rw [Parts.closes_part_iff] at closed
    split
    next named => rwa [if_pos named] at closed
    next other => exact ih (by rwa [if_neg other] at closed)

/-- What a form says up to the end of a closed part does not change when more follows. -/
theorem parts_append (more : ByteArray) {boundary : String} {bytes : ByteArray}
    {names : List String} {head : PartHead}
    (closed : (parts boundary body).Closes names head bytes) :
    (parts boundary (body ++ more)).Closes names head bytes := by
  have filled : (Bytes.ofText ("--" ++ boundary)).size ≠ 0 := by
    have two : (Bytes.ofText "--").size = 2 := by decide
    rw [show Bytes.ofText ("--" ++ boundary) = Bytes.ofText "--" ++ Bytes.ofText boundary from
      String.toByteArray_append, ByteArray.size_append]
    omega
  rw [parts] at closed
  split at closed
  · cases closed
  next found =>
    rw [parts, Bytes.find?_append more filled found]
    exact partsFrom_append more closed

theorem size_le_of_partsFrom {delimiter bytes : ByteArray} {names : List String} {head : PartHead}
    (closed : (partsFrom delimiter body place).Closes names head bytes) :
    bytes.size ≤ body.size := by
  fun_induction partsFrom delimiter body place with
  | case1 | case2 | case3 | case4 => cases closed
  | case5 place start opened _ stop found lines read missing =>
    rw [Parts.Closes, Parts.select] at closed
    split at closed
    · cases closed
    · cases closed
  | case7 => cases closed
  | case6 place start opened _ stop found _ lines read finish ended _ inside ih =>
    rw [Parts.closes_part_iff] at closed
    split at closed
    next =>
      rw [← closed.2, Bytes.slice, ByteArray.size_extract]
      omega
    next => exact ih closed

/-- A part is no longer than its form. -/
theorem size_le_of_parts {boundary : String} {bytes : ByteArray} {names : List String}
    {head : PartHead} (closed : (parts boundary body).Closes names head bytes) :
    bytes.size ≤ body.size := by
  rw [parts] at closed
  split at closed
  · cases closed
  · exact size_le_of_partsFrom closed

end Multipart

end MediaVault
