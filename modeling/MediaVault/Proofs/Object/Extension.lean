import MediaVault.Proofs.Object.Key

/-!
# Extensions of uploaded files

A client's name keeps its extension exactly when its last component is a stem, a dot and a
short run of ASCII letters and digits.  Dot files, names that end in a dot, relative steps and
folders are not of this form and keep none.  What follows the identifier in a fresh name is the
extension or nothing, so a fresh name tells both.
-/

namespace MediaVault

theorem Segment.isSeparator_eq_false_iff {c : Char} :
    isSeparator c = false ↔ c ≠ '/' ∧ c ≠ '\\' := by
  simp [isSeparator]

theorem Uuid.length_text (id : Uuid) : id.text.length = 36 := by
  rw [← String.length_toList, text, String.toList_ofList, id.length_chars]

namespace FileName

variable {name extension : String}

/-- An ASCII letter or digit. -/
def IsAlphanumeric (c : Char) : Prop :=
  'A' ≤ c ∧ c ≤ 'Z' ∨ 'a' ≤ c ∧ c ≤ 'z' ∨ '0' ≤ c ∧ c ≤ '9'

/-- What may stand in front of the last component of a name. -/
def IsFolder (folder : String) : Prop :=
  folder = "" ∨ ∃ above, folder = above ++ "/" ∨ folder = above ++ "\\"

/-- The last component of a name is a stem, a dot and this extension, which is short and plain. -/
structure Bears (name extension : String) : Prop where
  parted : ∃ folder stem : String, name = folder ++ stem ++ "." ++ extension ∧ IsFolder folder ∧
    stem ≠ "" ∧ '/' ∉ stem.toList ∧ '\\' ∉ stem.toList
  short : 1 ≤ extension.length ∧ extension.length ≤ 16
  plain : ∀ c ∈ extension.toList, IsAlphanumeric c

/-! ## Characters and folders -/

theorem isAlphanumeric_iff {c : Char} : Text.isAsciiAlphanumeric c = true ↔ IsAlphanumeric c := by
  have ranges : Text.isAsciiAlphanumeric c =
      (decide ('A' ≤ c ∧ c ≤ 'Z') || decide ('a' ≤ c) && decide (c ≤ 'z') ||
        decide ('0' ≤ c) && decide (c ≤ '9')) := rfl
  simp only [ranges, Bool.or_eq_true, Bool.and_eq_true, decide_eq_true_eq, IsAlphanumeric, or_assoc]

theorem IsAlphanumeric.ne {c other : Char} (alphanumeric : IsAlphanumeric c)
    (outside : Text.isAsciiAlphanumeric other = false) : c ≠ other := by
  rintro rfl
  rw [isAlphanumeric_iff.mpr alphanumeric] at outside
  cases outside

theorem isSeparator_of_isFolder {folder : String} (whole : IsFolder folder) :
    ∀ c ∈ folder.toList.getLast?, Segment.isSeparator c = true := by
  rcases whole with rfl | ⟨above, rfl | rfl⟩
  · simp
  · simp [Segment.isSeparator]
  · simp [Segment.isSeparator]

theorem isFolder_ofList {folder : List Char}
    (closed : ∀ c ∈ folder.getLast?, Segment.isSeparator c = true) :
    IsFolder (String.ofList folder) := by
  cases List.eq_nil_or_concat folder with
  | inl empty => exact .inl (by simp [empty])
  | inr more =>
    obtain ⟨above, last, rfl⟩ := more
    have separator : Segment.isSeparator last = true := closed last (by simp)
    simp only [Segment.isSeparator, Bool.or_eq_true, beq_iff_eq] at separator
    refine .inr ⟨String.ofList above, ?_⟩
    cases separator with
    | inl slash => exact .inl (by simp [slash, String.ofList_append])
    | inr backslash => exact .inr (by simp [backslash, String.ofList_append])

/-! ## The extension -/

theorem isPlainExtension_iff : isPlainExtension extension.toList = true ↔
    (1 ≤ extension.length ∧ extension.length ≤ 16) ∧ ∀ c ∈ extension.toList, IsAlphanumeric c := by
  have filled : (!extension.toList.isEmpty) = true ↔ 1 ≤ extension.length := by
    rw [← String.length_toList, Bool.not_eq_true', List.isEmpty_eq_false_iff, ← List.length_pos_iff]
    rfl
  simp only [isPlainExtension, maxExtension, Bool.and_eq_true, filled, decide_eq_true_eq,
    List.all_eq_true, isAlphanumeric_iff, String.length_toList]

theorem afterLastDot?_eq_some_iff {base e : List Char} :
    afterLastDot? base = some e ↔ ∃ stem, base = stem ++ '.' :: e ∧ stem ≠ [] ∧ '.' ∉ e := by
  constructor
  · intro found
    rw [afterLastDot?] at found
    split at found
    next after before cut =>
      by_cases bare : before = []
      · simp [bare] at found
      · simp only [List.isEmpty_iff, bare, if_false, Option.some.injEq] at found
        obtain ⟨mirrored, absent⟩ := Text.eq_append_of_cutAt cut
        subst found
        refine ⟨before.reverse, ?_, by simpa using bare, by simpa using absent⟩
        rw [← List.reverse_reverse base, mirrored]
        simp
    next => cases found
  · rintro ⟨stem, rfl, filled, absent⟩
    have mirrored : (stem ++ '.' :: e).reverse = e.reverse ++ '.' :: stem.reverse := by simp
    rw [afterLastDot?, mirrored, Text.cutAt_append (by simpa using absent)]
    simp [filled]

theorem bears_of_extension? (kept : extension? name = some extension) : Bears name extension := by
  obtain ⟨after, plain⟩ := extension?_eq_some_iff_afterLastDot?.mp kept
  obtain ⟨short, alphanumeric⟩ := isPlainExtension_iff.mp plain
  obtain ⟨stem, base, filled, -⟩ := afterLastDot?_eq_some_iff.mp after
  obtain ⟨folder, parted, closed, whole⟩ :=
    Text.exists_append_lastPiece Segment.isSeparator name.toList
  rw [base] at parted whole
  have inside : ∀ c ∈ stem, c ≠ '/' ∧ c ≠ '\\' := fun c member =>
    Segment.isSeparator_eq_false_iff.mp (whole c (List.mem_append_left _ member))
  refine ⟨⟨String.ofList folder, String.ofList stem, ?_, isFolder_ofList closed, ?_, ?_, ?_⟩,
    short, alphanumeric⟩
  · rw [← String.toList_inj, parted]
    simp
  · simpa using filled
  · rw [String.toList_ofList]
    exact fun member => (inside '/' member).1 rfl
  · rw [String.toList_ofList]
    exact fun member => (inside '\\' member).2 rfl

theorem Bears.extension?_eq (bears : Bears name extension) : extension? name = some extension := by
  obtain ⟨⟨folder, stem, rfl, whole, filled, no_slash, no_backslash⟩, short, alphanumeric⟩ := bears
  -- No separator stands behind the folder, so the rest is the last component.
  have inside : ∀ c ∈ stem.toList ++ '.' :: extension.toList, Segment.isSeparator c = false := by
    intro c member
    apply Segment.isSeparator_eq_false_iff.mpr
    simp only [List.mem_append, List.mem_cons] at member
    rcases member with member | rfl | member
    · exact ⟨fun same => no_slash (same ▸ member), fun same => no_backslash (same ▸ member)⟩
    · decide
    · exact ⟨(alphanumeric c member).ne (by decide), (alphanumeric c member).ne (by decide)⟩
  have base : Text.lastPiece Segment.isSeparator (folder ++ stem ++ "." ++ extension).toList =
      stem.toList ++ '.' :: extension.toList := by
    rw [← Text.lastPiece_append (isSeparator_of_isFolder whole) inside]
    simp
  apply extension?_eq_some_iff_afterLastDot?.mpr
  constructor
  · rw [base]
    apply afterLastDot?_eq_some_iff.mpr
    refine ⟨stem.toList, rfl, by simpa using filled, fun member => ?_⟩
    exact (alphanumeric '.' member).ne (by decide) rfl
  · exact isPlainExtension_iff.mpr ⟨short, alphanumeric⟩

theorem extension?_eq_some_iff : extension? name = some extension ↔ Bears name extension :=
  ⟨bears_of_extension?, Bears.extension?_eq⟩

theorem extension?_eq_none_iff :
    extension? name = none ↔ ¬ ∃ extension, Bears name extension := by
  simp only [← extension?_eq_some_iff, Option.eq_none_iff_forall_ne_some, not_exists, ne_eq]

/-! ## Fresh names -/

/-- What stands behind the identifier in a fresh name. -/
def ending : Option String → String
  | none => ""
  | some extension => "." ++ extension

theorem ending_inj {kept other : Option String} (same : ending kept = ending other) :
    kept = other := by
  cases kept with
  | none =>
    cases other with
    | none => rfl
    | some extension => simp [ending, ← String.toList_inj] at same
  | some extension =>
    cases other with
    | none => simp [ending, ← String.toList_inj] at same
    | some another => simpa [ending, ← String.toList_inj] using same

theorem fresh_eq_append (id : Uuid) (name : String) :
    fresh id name = id.text ++ ending (extension? name) := by
  rw [fresh]
  cases extension? name with
  | none => simp [ending]
  | some extension => simp [ending, String.append_assoc]

theorem length_fresh_le (id : Uuid) (name : String) : (fresh id name).length ≤ 53 := by
  rw [fresh_eq_append, String.length_append, id.length_text]
  cases kept : extension? name with
  | none => simp [ending]
  | some extension =>
    have short := (extension?_eq_some_iff.mp kept).short.2
    have dotted : (ending (some extension)).length = 1 + extension.length := by
      rw [ending, String.length_append]
      rfl
    omega

theorem fresh_inj {id other : Uuid} {otherName : String}
    (same : fresh id name = fresh other otherName) :
    id = other ∧ extension? name = extension? otherName := by
  -- The identifiers are equally long, so they end where their endings begin.
  have chars : id.chars = other.chars := by
    rw [← String.ofList_inj, ← String.toList_inj]
    show id.text.toList = other.text.toList
    rw [← take_fresh id name, ← take_fresh other otherName, same]
  obtain rfl := Uuid.chars_inj chars
  rw [fresh_eq_append, fresh_eq_append] at same
  exact ⟨rfl, ending_inj (by simpa [← String.toList_inj] using same)⟩

/-- A name has exactly the extension that it bears, and none if it bears none.  A fresh name is
the identifier alone or that with the extension, letter for letter; it has at most 53 characters,
stays where it is put, and tells the identifier and the extension. -/
theorem extension_kept (id : Uuid) (name : String) :
    (∀ extension, extension? name = some extension ↔ Bears name extension) ∧
    (extension? name = none ↔ ¬ ∃ extension, Bears name extension) ∧
    (∀ extension, Bears name extension → fresh id name = id.text ++ "." ++ extension) ∧
    ((¬ ∃ extension, Bears name extension) → fresh id name = id.text) ∧
    (fresh id name).length ≤ 53 ∧ Segment.isSafe (fresh id name) = true ∧
    ∀ (other : Uuid) (otherName : String), fresh id name = fresh other otherName →
      id = other ∧ extension? name = extension? otherName := by
  refine ⟨fun _ => extension?_eq_some_iff, extension?_eq_none_iff, fun extension bears => ?_,
    fun bare => ?_, length_fresh_le id name, Segment.isSafe_iff.mpr (isPlain_fresh id name),
    fun _ _ => fresh_inj⟩
  · rw [fresh, extension?_eq_some_iff.mpr bears]
  · rw [fresh, extension?_eq_none_iff.mpr bare]

/-- The last of several dots counts, behind separators of both kinds; a dot file has no
extension. -/
theorem extension_kept_of_archive :
    let id := Uuid.ofRandom 0
    Bears "C:\\me/holiday.tar.GZ" "GZ" ∧
      fresh id "C:\\me/holiday.tar.GZ" = id.text ++ "." ++ "GZ" ∧
      (¬ ∃ extension, Bears "home/.bashrc" extension) ∧ fresh id "home/.bashrc" = id.text ∧
      fresh id "b.GZ" = fresh id "C:\\me/holiday.tar.GZ" ∧
      extension? "b.GZ" = extension? "C:\\me/holiday.tar.GZ" := by
  intro id
  have archive : Bears "C:\\me/holiday.tar.GZ" "GZ" :=
    ⟨⟨"C:\\me/", "holiday.tar", by decide, .inr ⟨"C:\\me", .inl (by decide)⟩, by decide, by decide,
      by decide⟩, by decide, by simp [IsAlphanumeric]⟩
  have dotted : ¬ ∃ extension, Bears "home/.bashrc" extension :=
    extension?_eq_none_iff.mp (by decide)
  have same : fresh id "b.GZ" = fresh id "C:\\me/holiday.tar.GZ" := by decide +kernel
  obtain ⟨-, -, kept, -⟩ := extension_kept id "C:\\me/holiday.tar.GZ"
  obtain ⟨-, -, -, bare, -⟩ := extension_kept id "home/.bashrc"
  obtain ⟨-, -, -, -, -, -, tells⟩ := extension_kept id "b.GZ"
  exact ⟨archive, kept "GZ" archive, dotted, bare dotted, same, (tells id _ same).2⟩

end FileName

end MediaVault
