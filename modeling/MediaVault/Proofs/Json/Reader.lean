import MediaVault.Proofs.Json.Scalars

/-!
# Documents are read as the grammar has them

A reading function is sound and complete for a part of the grammar.  Both carry over from the
values to the lists and the objects that they stand in, so the levels of a document are gone
through by induction: on the fuel for what is read, and on the length for what can be read.
-/

namespace MediaVault.Json

variable {α : Type}

/-! ## Lists and objects -/

/-- What is read off the front of a text belongs to the grammar. -/
def Sound (P : List Char → α → Prop) (read : List Char → Option (α × List Char)) : Prop :=
  ∀ s a rest, read s = some (a, rest) → ∃ before t, s = before ++ t ++ rest ∧ Blanks before ∧ P t a

/-- Texts of the grammar are read as a whole, up to a length. -/
def Complete (size : Nat) (P : List Char → α → Prop)
    (read : List Char → Option (α × List Char)) : Prop :=
  ∀ before t a rest, Blanks before → P t a → t.length ≤ size → Closed rest →
    read (before ++ t ++ rest) = some (a, rest)

/-- A text that begins with what no blank and no closing bracket is. -/
def Starts (t : List Char) : Prop :=
  ∃ c u, t = c :: u ∧ ¬ IsBlank c ∧ c ≠ ']' ∧ c ≠ '}'

theorem Starts.skipBlanks {before t : List Char} (starts : Starts t) (blank : Blanks before)
    (rest : List Char) : skipBlanks (before ++ t ++ rest) = t ++ rest := by
  obtain ⟨c, u, rfl, visible, -⟩ := starts
  rw [List.append_assoc]
  refine skipBlanks_append blank fun d first => ?_
  obtain rfl := Option.some.inj first
  exact visible

section

variable {P : List Char → α → Prop} {read : List Char → Option (α × List Char)} {close : Char}

theorem readSequence_sound (sound : Sound P read) {fuel : Nat} {s rest : List Char} {all : List α}
    (h : readSequence close read fuel s = some (all, rest)) :
    ∃ t, s = t ++ close :: rest ∧ SequenceText P t all := by
  induction fuel generalizing s all with
  | zero => cases h
  | succ fuel ih =>
    simp only [readSequence, Option.bind_eq_bind, Option.bind_eq_some_iff, Prod.exists] at h
    obtain ⟨a, afterValue, readValue, h⟩ := h
    obtain ⟨before, value, rfl, blank, valueText⟩ := sound _ _ _ readValue
    obtain ⟨after, skipped, blankToo⟩ := exists_append_skipBlanks afterValue
    split at h
    next others heq =>
      simp only [Option.bind_eq_some_iff, Option.pure_def, Option.some.injEq, Prod.mk.injEq,
        Prod.exists] at h
      obtain ⟨values, rest', readOthers, rfl, rfl⟩ := h
      obtain ⟨t, rfl, others⟩ := ih readOthers
      rw [skipped, heq]
      exact ⟨_, by simp, .more blank valueText blankToo others⟩
    next c tail separator heq =>
      split_ifs at h with closing
      obtain ⟨rfl, rfl⟩ := Prod.mk.inj (Option.some.inj h)
      rw [skipped, heq, closing]
      exact ⟨_, by simp, .last blank valueText blankToo⟩
    next => cases h

theorem SequenceText.length_le {t : List Char} {all : List α} (sequence : SequenceText P t all) :
    all.length ≤ t.length + 1 := by
  induction sequence with
  | last => simp
  | more blank value blankToo others ih => simp only [List.length_cons, List.length_append]; omega

/-- A bracket that closes a list or an object. -/
def IsClosing (close : Char) : Prop := close = ']' ∨ close = '}'

theorem IsClosing.closed (closing : IsClosing close) (rest : List Char) :
    Closed (close :: rest) := by
  rintro c first
  obtain rfl := Option.some.inj first
  exact closing.elim (fun h => .inr (.inr (.inl h))) fun h => .inr (.inr (.inr h))

theorem IsClosing.not_isBlank (closing : IsClosing close) : ¬ IsBlank close := by
  rcases closing with rfl | rfl <;> simp [IsBlank]

theorem readSequence_append {size : Nat} (complete : Complete size P read)
    (closing : IsClosing close) {t : List Char} {all : List α} (sequence : SequenceText P t all)
    (small : t.length ≤ size) (rest : List Char) (fuel : Nat) (enough : all.length ≤ fuel) :
    readSequence close read fuel (t ++ close :: rest) = some (all, rest) := by
  induction sequence generalizing fuel with
  | @last before value a after blank valueText blankToo =>
    obtain _ | fuel := fuel
    · cases enough
    have readValue := complete before value a (after ++ close :: rest) blank valueText
      (by simp only [List.length_append] at small; omega) (.append blankToo (closing.closed rest))
    have skipped : Json.skipBlanks (after ++ close :: rest) = close :: rest :=
      skipBlanks_append blankToo fun c first => Option.some.inj first ▸ closing.not_isBlank
    rw [List.append_assoc, readSequence, readValue]
    simp only [Option.bind_eq_bind, Option.bind_some, skipped]
    rcases closing with rfl | rfl <;> simp
  | @more before value a after others values blank valueText blankToo othersText ih =>
    obtain _ | fuel := fuel
    · cases enough
    simp only [List.length_append, List.length_cons] at small enough
    have readValue := complete before value a (after ++ ',' :: (others ++ close :: rest)) blank
      valueText (by omega) (.append blankToo fun c first => .inr (.inl (Option.some.inj first).symm))
    have skipped : Json.skipBlanks (after ++ ',' :: (others ++ close :: rest)) =
        ',' :: (others ++ close :: rest) :=
      skipBlanks_append blankToo fun c first => Option.some.inj first ▸ by decide
    rw [List.append_assoc, List.append_assoc, List.cons_append, readSequence, readValue]
    simp only [Option.bind_eq_bind, Option.bind_some, skipped,
      ih (by omega) fuel (by omega), Option.pure_def]

theorem readBracketed_sound (first : Char) (sound : Sound P read) {s rest : List Char}
    {all : List α} (h : readBracketed close read s = some (all, rest)) :
    ∃ t, first :: s = t ++ rest ∧ BracketText first close P t all := by
  unfold readBracketed at h
  obtain ⟨before, skipped, blank⟩ := exists_append_skipBlanks s
  split at h
  next c tail heq =>
    split_ifs at h with closing
    · obtain ⟨rfl, rfl⟩ := Prod.mk.inj (Option.some.inj h)
      rw [skipped, heq, closing]
      exact ⟨_, by simp, .nothing blank⟩
    · obtain ⟨t, rfl, sequence⟩ := readSequence_sound sound h
      exact ⟨_, by simp, .values sequence⟩
  next => cases h

theorem BracketText.head {first : Char} {t : List Char} {all : List α}
    (bracketed : BracketText first close P t all) : ∃ u, t = first :: u := by
  cases bracketed <;> exact ⟨_, rfl⟩

theorem readBracketed_append {first : Char} {size : Nat} (complete : Complete size P read)
    (starts : ∀ t a, P t a → Starts t) (closing : IsClosing close) {u : List Char} {all : List α}
    (bracketed : BracketText first close P (first :: u) all) (small : u.length ≤ size + 1)
    (rest : List Char) : readBracketed close read (u ++ rest) = some (all, rest) := by
  cases bracketed with
  | @nothing inside blank =>
    have skipped : Json.skipBlanks (inside ++ close :: rest) = close :: rest :=
      skipBlanks_append blank fun c first => Option.some.inj first ▸ closing.not_isBlank
    rw [List.append_assoc, List.singleton_append, readBracketed, skipped]
    exact if_pos rfl
  | @values inside _ sequence =>
    obtain ⟨c, v, skipped, unclosed⟩ : ∃ c v,
        Json.skipBlanks (inside ++ close :: rest) = c :: v ∧ c ≠ close := by
      obtain ⟨before, value, after, rfl, blank, start⟩ : ∃ before value after,
          inside = before ++ value ++ after ∧ Blanks before ∧ Starts value := by
        cases sequence with
        | last blank value => exact ⟨_, _, _, rfl, blank, starts _ _ value⟩
        | more blank value => exact ⟨_, _, _, List.append_assoc .., blank, starts _ _ value⟩
      rw [List.append_assoc, start.skipBlanks blank]
      obtain ⟨c, v, rfl, -, list, object⟩ := start
      exact ⟨c, _, rfl, closing.elim (fun h => h ▸ list) fun h => h ▸ object⟩
    have fits : inside.length ≤ size := by simpa using small
    have read := readSequence_append complete closing sequence fits rest
      (inside ++ close :: rest).length
      (by have := sequence.length_le; simp only [List.length_append, List.length_cons]; omega)
    rw [List.append_assoc, List.singleton_append, readBracketed, skipped]
    exact (if_neg unclosed).trans read

theorem QuotedText.starts {t : List Char} {value : Option String} (quoted : QuotedText t value) :
    Starts t := by
  cases quoted <;> exact ⟨'"', _, rfl, by decide, by decide, by decide⟩

theorem MemberText.starts {t : List Char} {member : Option String × α}
    (h : MemberText P t member) : Starts t := by
  cases h with
  | named quoted =>
    obtain ⟨c, u, rfl, start⟩ := quoted.starts
    exact ⟨c, _, rfl, start⟩

theorem readMember_sound (sound : Sound P read) : Sound (MemberText P) (readMember read) := by
  rintro s member rest h
  unfold readMember at h
  obtain ⟨before, skipped, blank⟩ := exists_append_skipBlanks s
  split at h
  next tail heq =>
    simp only [Option.bind_eq_bind, Option.bind_eq_some_iff, Prod.exists] at h
    obtain ⟨pieces, afterName, readName, h⟩ := h
    obtain ⟨name, rfl, string⟩ := readString_sound readName
    obtain ⟨between, skippedToo, blankToo⟩ := exists_append_skipBlanks afterName
    split at h
    next afterColon colon =>
      simp only [Option.bind_eq_some_iff, Option.pure_def, Option.some.injEq, Prod.mk.injEq,
        Prod.exists] at h
      obtain ⟨a, rest', readValue, rfl, rfl⟩ := h
      obtain ⟨behind, value, rfl, blankLast, valueText⟩ := sound _ _ _ readValue
      refine ⟨before, _, ?_, blank,
        .named (quotedText_iff.mpr ⟨_, _, rfl, string, rfl⟩) blankToo blankLast valueText⟩
      rw [skipped, heq, skippedToo, colon]
      simp
    next => cases h
  next => cases h

theorem readMember_complete {size : Nat} (complete : Complete size P read) :
    Complete size (MemberText P) (readMember read) := by
  rintro before t member rest blank memberText small closed
  have skipped := memberText.starts.skipBlanks blank rest
  cases memberText with
  | @named name spelled between after value a quoted blankToo blankLast valueText =>
    obtain ⟨inside, pieces, rfl, string, rfl⟩ := quotedText_iff.mp quoted
    simp only [List.length_append, List.length_cons] at small
    have colon : Json.skipBlanks (between ++ ':' :: (after ++ value ++ rest)) =
        ':' :: (after ++ value ++ rest) :=
      skipBlanks_append blankToo fun c first => Option.some.inj first ▸ by decide
    have readValue := complete after value a rest blankLast valueText (by omega) closed
    have readName := readString_append string (between ++ ':' :: (after ++ value ++ rest))
      ((inside ++ '"' :: (between ++ ':' :: (after ++ value ++ rest))).length + 1)
      (by simp only [List.length_append]; omega)
    have shape : '"' :: (inside ++ ['"']) ++ between ++ ':' :: (after ++ value) ++ rest =
        '"' :: (inside ++ '"' :: (between ++ ':' :: (after ++ value ++ rest))) := by
      simp
    rw [readMember, skipped, shape]
    simp only [Option.bind_eq_bind, readName, Option.bind_some, colon, readValue, Option.pure_def]

end

/-! ## Values -/

theorem skipWord_eq_some_iff {word : String} {s rest : List Char} :
    skipWord word s = some rest ↔ s = word.toList ++ rest := by
  unfold skipWord
  constructor
  · intro h
    split_ifs at h with leads
    obtain ⟨tail, rfl⟩ := List.isPrefixOf_iff_prefix.mp leads
    obtain rfl := Option.some.inj h
    rw [← String.length_toList, List.drop_left]
  · rintro rfl
    rw [if_pos (List.isPrefixOf_iff_prefix.mpr (List.prefix_append _ _)), ← String.length_toList,
      List.drop_left]

theorem ScalarText.head {t : List Char} {leaf : Leaf} (scalar : ScalarText t leaf) :
    ∃ c u, t = c :: u ∧ (c = '"' ∨ c = 'n' ∨ c = 't' ∨ c = 'f' ∨ c = '-' ∨ c.isDigit = true) := by
  cases scalar with
  | null => exact ⟨'n', _, rfl, by decide⟩
  | yes => exact ⟨'t', _, rfl, by decide⟩
  | no => exact ⟨'f', _, rfl, by decide⟩
  | text quoted => cases quoted; exact ⟨'"', _, rfl, by decide⟩
  | garbled quoted => cases quoted; exact ⟨'"', _, rfl, by decide⟩
  | number number =>
    obtain ⟨c, u, rfl, first⟩ := number.head
    exact ⟨c, u, rfl, by tauto⟩

theorem ScalarText.starts {t : List Char} {leaf : Leaf} (scalar : ScalarText t leaf) :
    Starts t := by
  obtain ⟨c, u, rfl, first⟩ := scalar.head
  refine ⟨c, u, rfl, ?_⟩
  rcases first with rfl | rfl | rfl | rfl | rfl | digit
  case inr.inr.inr.inr.inr =>
    refine ⟨?_, ?_, ?_⟩
    · rintro (rfl | rfl | rfl | rfl) <;> cases digit
    · rintro rfl; cases digit
    · rintro rfl; cases digit
  all_goals decide

theorem LeafText.starts {t : List Char} {leaf : Leaf} (h : LeafText t leaf) : Starts t := by
  cases h with
  | scalar scalar => exact scalar.starts
  | list bracketed =>
    obtain ⟨u, rfl⟩ := bracketed.head
    exact ⟨'[', u, rfl, by decide, by decide, by decide⟩
  | object bracketed =>
    obtain ⟨u, rfl⟩ := bracketed.head
    exact ⟨'{', u, rfl, by decide, by decide, by decide⟩

theorem readLeaf_sound (fuel : Nat) : Sound LeafText (readLeaf fuel) := by
  induction fuel with
  | zero => rintro s leaf rest h; cases h
  | succ fuel ih =>
    rintro s leaf rest h
    obtain ⟨before, skipped, blank⟩ := exists_append_skipBlanks s
    have word {spelled : String} {value : Leaf} {text : List Char}
        (scalar : ScalarText spelled.toList value) (begins : skipBlanks s = text)
        (h : (skipWord spelled text).map (fun rest => (value, rest)) = some (leaf, rest)) :
        ∃ before t, s = before ++ t ++ rest ∧ Blanks before ∧ LeafText t leaf := by
      obtain ⟨rest', read, made⟩ := Option.map_eq_some_iff.mp h
      obtain ⟨rfl, rfl⟩ := Prod.mk.inj made
      exact ⟨before, _, by rw [skipped, begins, skipWord_eq_some_iff.mp read, List.append_assoc],
        blank, .scalar scalar⟩
    unfold readLeaf at h
    -- The cases are those of the first character.
    split at h
    next tail heq =>
      obtain ⟨⟨pieces, rest'⟩, read, made⟩ := Option.map_eq_some_iff.mp h
      obtain ⟨rfl, rfl⟩ := Prod.mk.inj made
      obtain ⟨inside, rfl, string⟩ := readString_sound read
      have quoted := quotedText_iff.mpr ⟨inside, pieces, rfl, string, rfl⟩
      refine ⟨before, '"' :: (inside ++ ['"']), by rw [skipped, heq]; simp, blank, .scalar ?_⟩
      cases said : pieceText? pieces with
      | some value => exact .text (said ▸ quoted)
      | none => exact .garbled (said ▸ quoted)
    next tail heq =>
      obtain ⟨⟨items, rest'⟩, read, made⟩ := Option.map_eq_some_iff.mp h
      obtain ⟨rfl, rfl⟩ := Prod.mk.inj made
      obtain ⟨t, shape, bracketed⟩ := readBracketed_sound '[' ih read
      exact ⟨before, t, by rw [skipped, heq, shape, List.append_assoc], blank, .list bracketed⟩
    next tail heq =>
      obtain ⟨⟨members, rest'⟩, read, made⟩ := Option.map_eq_some_iff.mp h
      obtain ⟨rfl, rfl⟩ := Prod.mk.inj made
      obtain ⟨t, shape, bracketed⟩ := readBracketed_sound '{' (readMember_sound ih) read
      exact ⟨before, t, by rw [skipped, heq, shape, List.append_assoc], blank, .object bracketed⟩
    next tail heq => exact word .null heq h
    next tail heq => exact word .yes heq h
    next tail heq => exact word .no heq h
    next =>
      obtain ⟨rest', read, made⟩ := Option.map_eq_some_iff.mp h
      obtain ⟨rfl, rfl⟩ := Prod.mk.inj made
      obtain ⟨t, shape, number⟩ := skipNumber_sound read
      exact ⟨before, t, by rw [skipped, shape, List.append_assoc], blank, .scalar (.number number)⟩

theorem readLeaf_scalar {t : List Char} {leaf : Leaf} (scalar : ScalarText t leaf) (fuel : Nat)
    {before rest : List Char} (blank : Blanks before) (closed : Closed rest) :
    readLeaf (fuel + 1) (before ++ t ++ rest) = some (leaf, rest) := by
  have skipped := scalar.starts.skipBlanks blank rest
  have string : ∀ {value : Option String}, QuotedText t value →
      readLeaf (fuel + 1) (before ++ t ++ rest) = some (value.elim .other .text, rest) := by
    intro value quoted
    obtain ⟨inside, pieces, rfl, string, rfl⟩ := quotedText_iff.mp quoted
    have shape : '"' :: (inside ++ ['"']) ++ rest = '"' :: (inside ++ '"' :: rest) := by simp
    rw [readLeaf, skipped, shape]
    simp only [readString_append string rest _ (show _ < (inside ++ '"' :: rest).length + 1 by
      simp only [List.length_append]; omega), Option.map_some]
  cases scalar with
  | null => rw [readLeaf, skipped]; rfl
  | yes => rw [readLeaf, skipped]; rfl
  | no => rw [readLeaf, skipped]; rfl
  | text quoted => exact string quoted
  | garbled quoted => exact string quoted
  | number number =>
    obtain ⟨c, u, rfl, first⟩ := number.head
    have read := skipNumber_append number closed
    rw [readLeaf, skipped]
    -- A number begins with no character of the other cases.
    split
    case h_7 => rw [read]; rfl
    all_goals
      next heq =>
        obtain rfl := (List.cons.inj heq).1
        rcases first with first | first <;> cases first

theorem readLeaf_complete (size : Nat) :
    ∀ fuel, size ≤ fuel → Complete size LeafText (readLeaf fuel) := by
  induction size with
  | zero =>
    rintro fuel - before t leaf rest - leafText small -
    obtain ⟨c, u, rfl, -⟩ := leafText.starts
    cases small
  | succ size ih =>
    rintro fuel enough before t leaf rest blank leafText small closed
    obtain _ | fuel := fuel
    · cases enough
    have skipped := leafText.starts.skipBlanks blank rest
    have inner := ih fuel (Nat.le_of_succ_le_succ enough)
    cases leafText with
    | scalar scalar => exact readLeaf_scalar scalar fuel blank closed
    | list bracketed =>
      obtain ⟨u, rfl⟩ := bracketed.head
      have read := readBracketed_append inner (fun _ _ => LeafText.starts) (.inl rfl) bracketed
        (Nat.le_succ_of_le (Nat.le_of_succ_le_succ small)) rest
      rw [readLeaf, skipped, List.cons_append]
      simp only [read, Option.map_some]
    | object bracketed =>
      obtain ⟨u, rfl⟩ := bracketed.head
      have read := readBracketed_append (readMember_complete inner) (fun _ _ => MemberText.starts)
        (.inr rfl) bracketed (Nat.le_succ_of_le (Nat.le_of_succ_le_succ small)) rest
      rw [readLeaf, skipped, List.cons_append]
      simp only [read, Option.map_some]

/-! ## Documents -/

theorem mapM_names_eq_some_iff {read : List (Option String × Leaf)}
    {members : List (String × Leaf)} :
    (read.mapM fun m => m.1.map fun name => (name, m.2)) = some members ↔
      read = members.map fun m => (some m.1, m.2) := by
  induction read generalizing members with
  | nil => cases members <;> simp
  | cons m read ih =>
    obtain ⟨name, leaf⟩ := m
    cases members <;> cases name <;>
      simp [List.mapM_cons, Option.bind_eq_some_iff, ih, Prod.ext_iff, and_comm]

theorem readOutline_sound : Sound OutlineText readOutline := by
  rintro s outline rest h
  obtain ⟨before, skipped, blank⟩ := exists_append_skipBlanks s
  unfold readOutline at h
  split at h
  next tail heq =>
    obtain ⟨⟨items, rest'⟩, read, made⟩ := Option.map_eq_some_iff.mp h
    obtain ⟨rfl, rfl⟩ := Prod.mk.inj made
    obtain ⟨t, shape, bracketed⟩ :=
      readBracketed_sound '[' (readLeaf_sound _) read
    exact ⟨before, t, by rw [skipped, heq, shape, List.append_assoc], blank, .list bracketed⟩
  next tail heq =>
    simp only [Option.bind_eq_bind, Option.bind_eq_some_iff, Option.pure_def, Option.some.injEq,
      Prod.mk.injEq, Prod.exists] at h
    obtain ⟨read, rest', readMembers, members, named, rfl, rfl⟩ := h
    obtain rfl := mapM_names_eq_some_iff.mp named
    obtain ⟨t, shape, bracketed⟩ :=
      readBracketed_sound '{' (readMember_sound (readLeaf_sound _)) readMembers
    exact ⟨before, t, by rw [skipped, heq, shape, List.append_assoc], blank, .object bracketed⟩
  next noList noObject =>
    obtain ⟨⟨leaf, rest'⟩, read, made⟩ := Option.map_eq_some_iff.mp h
    obtain ⟨rfl, rfl⟩ := Prod.mk.inj made
    obtain ⟨front, t, shape, blankToo, leafText⟩ := readLeaf_sound 1 _ _ _ read
    have whole : s = before ++ front ++ t ++ rest' := by rw [skipped, shape]; simp
    have blanks : Blanks (before ++ front) :=
      fun c member => (List.mem_append.mp member).elim (blank c) (blankToo c)
    have begins : skipBlanks s = t ++ rest' := by rw [whole, leafText.starts.skipBlanks blanks]
    cases leafText with
    | scalar scalar => exact ⟨before ++ front, t, whole, blanks, .scalar scalar⟩
    | list bracketed => cases bracketed <;> exact absurd begins (noList _)
    | object bracketed => cases bracketed <;> exact absurd begins (noObject _)

theorem OutlineText.starts {t : List Char} {outline : Outline} (h : OutlineText t outline) :
    Starts t := by
  cases h with
  | scalar scalar => exact scalar.starts
  | list bracketed => exact (LeafText.list bracketed).starts
  | object bracketed => exact (LeafText.object bracketed).starts

theorem readOutline_append {before t rest : List Char} {outline : Outline} (blank : Blanks before)
    (h : OutlineText t outline) (closed : Closed rest) :
    readOutline (before ++ t ++ rest) = some (outline, rest) := by
  have skipped := h.starts.skipBlanks blank rest
  have inner (u : List Char) : Complete (u ++ rest).length LeafText (readLeaf (u ++ rest).length) :=
    readLeaf_complete _ _ le_rfl
  cases h with
  | scalar scalar =>
    have read := readLeaf_scalar scalar 0 (show Blanks [] by nofun) closed
    obtain ⟨c, u, rfl, first⟩ := scalar.head
    rw [readOutline, skipped]
    split
    case h_3 => exact Option.map_eq_some_iff.mpr ⟨(_, rest), read, rfl⟩
    all_goals
      next heq =>
        obtain rfl := (List.cons.inj heq).1
        rcases first with h | h | h | h | h | h <;> cases h
  | list bracketed =>
    obtain ⟨u, rfl⟩ := bracketed.head
    have read := readBracketed_append (inner u) (fun _ _ => LeafText.starts) (.inl rfl) bracketed
      (by simp only [List.length_append]; omega) rest
    rw [readOutline, skipped, List.cons_append]
    simp only [read, Option.map_some]
  | object bracketed =>
    obtain ⟨u, rfl⟩ := bracketed.head
    have read := readBracketed_append (readMember_complete (inner u)) (fun _ _ => MemberText.starts)
      (.inr rfl) bracketed (by simp only [List.length_append]; omega) rest
    rw [readOutline, skipped, List.cons_append]
    simp only [read, Option.bind_eq_bind, Option.bind_some]
    rw [mapM_names_eq_some_iff.mpr rfl]
    rfl

theorem ofBytes?_eq_some_iff {bytes : ByteArray} {outline : Outline} :
    ofBytes? bytes = some outline ↔ Document bytes outline := by
  unfold ofBytes? Document
  constructor
  · intro h
    split at h
    next outline' rest read =>
      split_ifs at h with ended
      obtain rfl := Option.some.inj h
      obtain ⟨before, t, shape, blank, text⟩ := readOutline_sound _ _ _ read
      exact ⟨before, t, rest, shape, blank, text, isEmpty_skipBlanks_iff.mp ended⟩
    next => cases h
  · rintro ⟨before, t, after, shape, blank, text, blankToo⟩
    rw [shape, readOutline_append blank text blankToo.closed]
    exact if_pos (isEmpty_skipBlanks_iff.mpr blankToo)

end MediaVault.Json
