import MediaVault.Object.Key
import MediaVault.Proofs.Text

/-!
# Names in keys

A segment that passes the check stays where it is put, and a fresh file name
passes it too.  So a key has the slashes of its namespace only: `splitOn_key`
takes it apart again, and `key_inj_iff` says that no two resources share one.
-/

namespace MediaVault

/-! ## Segments -/

namespace Segment

/-- A character that cannot lead out of a segment. -/
def IsPlainChar (c : Char) : Prop :=
  c ≠ '/' ∧ c ≠ '\\' ∧ 0x20 ≤ c.toNat ∧ c.toNat ≠ 0x7F

/-- A name that stays where it is put. -/
structure IsPlain (segment : String) : Prop where
  filled : segment ≠ ""
  not_here : segment ≠ "."
  not_up : segment ≠ ".."
  chars : ∀ c ∈ segment.toList, IsPlainChar c

theorem isSafe_iff {segment : String} : isSafe segment = true ↔ IsPlain segment := by
  have plain (c : Char) :
      (!isSeparator c && !Text.isAsciiControl c) = true ↔ IsPlainChar c := by
    simp only [isSeparator, Text.isAsciiControl, IsPlainChar, Bool.not_or, Bool.and_eq_true,
      Bool.not_eq_true', beq_eq_false_iff_ne, decide_eq_false_iff_not, Nat.not_lt, ne_eq,
      and_assoc]
  simp only [isSafe, Bool.and_eq_true, bne_iff_ne, List.all_eq_true, plain, Bool.not_eq_true',
    List.isEmpty_eq_false_iff, ne_eq, String.toList_eq_nil_iff]
  constructor
  · rintro ⟨⟨⟨filled, not_here⟩, not_up⟩, chars⟩
    exact ⟨filled, not_here, not_up, chars⟩
  · rintro ⟨filled, not_here, not_up, chars⟩
    exact ⟨⟨⟨filled, not_here⟩, not_up⟩, chars⟩

theorem IsPlain.slash_not_mem {segment : String} (plain : IsPlain segment) :
    '/' ∉ segment.toList :=
  fun member => (plain.chars '/' member).1 rfl

theorem slash_not_mem {segment : String} (safe : isSafe segment = true) :
    '/' ∉ segment.toList :=
  (isSafe_iff.mp safe).slash_not_mem

theorem isSafe_of_firstUnsafe?_eq_none {segments : List String}
    (unrefused : firstUnsafe? segments = none) : ∀ segment ∈ segments, isSafe segment = true := by
  intro segment member
  simpa using List.find?_eq_none.mp unrefused segment member

theorem firstUnsafe?_eq_none {segments : List String}
    (plain : ∀ segment ∈ segments, IsPlain segment) : firstUnsafe? segments = none := by
  refine List.find?_eq_none.mpr fun segment member => ?_
  simp [isSafe_iff.mpr (plain segment member)]

end Segment

/-! ## Fresh names -/

namespace Uuid

theorem length_chars (id : Uuid) : id.chars.length = 36 := by
  simp [chars, digits]

theorem isPlainChar_of_mem_chars (id : Uuid) {c : Char} (member : c ∈ id.chars) :
    Segment.IsPlainChar c := by
  have hyphen : Segment.IsPlainChar '-' := by simp [Segment.IsPlainChar]
  have digit : ∀ n < 16, Segment.IsPlainChar (Text.hexDigit n) := by
    unfold Segment.IsPlainChar
    decide
  have digits (i count : Nat) (among : c ∈ id.digits i count) : Segment.IsPlainChar c := by
    obtain ⟨position, _, rfl⟩ := List.mem_map.mp among
    exact digit _ (Nat.mod_lt _ (by decide))
  -- Five groups of digits, each but the first after a hyphen.
  simp only [chars, List.mem_append, List.mem_cons] at member
  rcases member with ((((group | rfl | group) | rfl | group) | rfl | group) | rfl | group)
  all_goals first | exact hyphen | exact digits _ _ group

theorem filter_digits (id : Uuid) (i count : Nat) :
    (id.digits i count).filter (· != '-') = id.digits i count := by
  have digit : ∀ n < 16, Text.hexDigit n != '-' := by decide
  refine List.filter_eq_self.mpr fun c member => ?_
  obtain ⟨position, -, rfl⟩ := List.mem_map.mp member
  exact digit _ (Nat.mod_lt _ (by decide))

/-- Without its hyphens, the written form is one run of digits. -/
theorem filter_chars (id : Uuid) : id.chars.filter (· != '-') = id.digits 0 32 := by
  have join (i count more : Nat) :
      id.digits i count ++ id.digits (i + count) more = id.digits i (count + more) := by
    simp [digits, ← List.map_append, List.range'_append_1]
  simp only [chars, List.filter_append, filter_digits, List.filter_cons_of_neg, bne_self_eq_false,
    Bool.false_eq_true, not_false_eq_true]
  exact (congrArg (· ++ _ ++ _ ++ _) (join 0 8 4)).trans <|
    (congrArg (· ++ _ ++ _) (join 0 12 4)).trans <|
    (congrArg (· ++ _) (join 0 16 4)).trans (join 0 20 12)

theorem chars_inj {id other : Uuid} (same : id.chars = other.chars) : id = other := by
  have hexDigit_inj : ∀ n < 16, ∀ m < 16, Text.hexDigit n = Text.hexDigit m → n = m := by decide
  have digits : id.digits 0 32 = other.digits 0 32 := by
    rw [← filter_chars, ← filter_chars, same]
  have digit (i : Nat) (bound : i < 32) :
      id.bits.toNat >>> (4 * (31 - i)) % 2 ^ 4 = other.bits.toNat >>> (4 * (31 - i)) % 2 ^ 4 :=
    hexDigit_inj _ (Nat.mod_lt _ (by decide)) _ (Nat.mod_lt _ (by decide))
      (List.map_inj_left.mp digits i (by simp; omega))
  -- Every bit is one of the four in some digit.
  have bits : id.bits = other.bits := by
    refine BitVec.eq_of_getLsbD_eq fun k bound => ?_
    have shared := congrArg (Nat.testBit · (k % 4)) (digit (31 - k / 4) (by omega))
    have place : 4 * (31 - (31 - k / 4)) + k % 4 = k := by omega
    have within : k % 4 < 4 := Nat.mod_lt _ (by decide)
    simp only [Nat.testBit_mod_two_pow, Nat.testBit_shiftRight, place, within, decide_true,
      Bool.true_and] at shared
    exact shared
  cases id
  cases other
  exact congrArg _ bits

theorem text_inj {id other : Uuid} (same : id.text = other.text) : id = other :=
  chars_inj (String.ofList_inj.mp same)

end Uuid

namespace FileName

theorem extension?_eq_some_iff_afterLastDot? {name extension : String} :
    extension? name = some extension ↔
      afterLastDot? (Text.lastPiece Segment.isSeparator name.toList) = some extension.toList ∧
        isPlainExtension extension.toList = true := by
  rw [extension?, Option.bind_eq_some_iff]
  constructor
  · rintro ⟨piece, after, kept⟩
    split at kept
    next plain =>
      obtain rfl := Option.some.inj kept
      rw [String.toList_ofList]
      exact ⟨after, plain⟩
    next => cases kept
  · rintro ⟨after, plain⟩
    exact ⟨extension.toList, after, by rw [if_pos plain, String.ofList_toList]⟩

theorem isPlainExtension_of_extension? {name extension : String}
    (found : extension? name = some extension) : isPlainExtension extension.toList = true :=
  (extension?_eq_some_iff_afterLastDot?.mp found).2

theorem isPlainChar_of_mem_extension {name extension : String}
    (found : extension? name = some extension) {c : Char} (member : c ∈ extension.toList) :
    Segment.IsPlainChar c := by
  have short := isPlainExtension_of_extension? found
  simp only [isPlainExtension, Bool.and_eq_true, List.all_eq_true] at short
  have alphanumeric : c.isAlphanum = true := short.2 c member
  have controls : ∀ n < 0x20, (Char.ofNat n).isAlphanum = false := by decide
  refine ⟨?_, ?_, ?_, ?_⟩
  · rintro rfl
    cases alphanumeric
  · rintro rfl
    cases alphanumeric
  · refine Nat.le_of_not_lt fun low => ?_
    have control := controls c.toNat low
    rw [Char.ofNat_toNat, alphanumeric] at control
    cases control
  · intro delete
    rw [← Char.ofNat_toNat c, delete] at alphanumeric
    cases alphanumeric

/-- A fresh name is the identifier, or that with a short extension of letters and digits. -/
theorem fresh_eq (id : Uuid) (clientName : String) :
    fresh id clientName = id.text ∨
      ∃ extension : String, isPlainExtension extension.toList = true ∧
        fresh id clientName = id.text ++ "." ++ extension := by
  rw [fresh]
  cases found : extension? clientName with
  | none => exact .inl rfl
  | some extension => exact .inr ⟨extension, isPlainExtension_of_extension? found, rfl⟩

/-- A fresh name starts with the identifier, and what follows stays in its place. -/
theorem toList_fresh (id : Uuid) (clientName : String) :
    ∃ tail, (fresh id clientName).toList = id.chars ++ tail ∧
      ∀ c ∈ tail, Segment.IsPlainChar c := by
  rw [fresh]
  cases found : extension? clientName with
  | none => exact ⟨[], by simp [Uuid.text], by simp⟩
  | some extension =>
    refine ⟨'.' :: extension.toList, by simp [Uuid.text], fun c member => ?_⟩
    rcases List.mem_cons.mp member with rfl | member
    · simp [Segment.IsPlainChar]
    · exact isPlainChar_of_mem_extension found member

theorem take_fresh (id : Uuid) (clientName : String) :
    (fresh id clientName).toList.take 36 = id.text.toList := by
  obtain ⟨tail, written, -⟩ := toList_fresh id clientName
  rw [written, ← id.length_chars, List.take_left, Uuid.text, String.toList_ofList]

/-- A fresh name may be put anywhere. -/
theorem isPlain_fresh (id : Uuid) (clientName : String) :
    Segment.IsPlain (fresh id clientName) := by
  obtain ⟨tail, written, plain⟩ := toList_fresh id clientName
  have long : 36 ≤ (fresh id clientName).toList.length := by
    rw [written, List.length_append, id.length_chars]
    omega
  -- The identifier alone is longer than the texts that lead elsewhere.
  have differs (text : String) (short : text.toList.length < 36) : fresh id clientName ≠ text := by
    rintro same
    rw [same] at long
    omega
  refine ⟨differs "" (by decide), differs "." (by decide), differs ".." (by decide), ?_⟩
  intro c member
  rw [written] at member
  rcases List.mem_append.mp member with member | member
  · exact id.isPlainChar_of_mem_chars member
  · exact plain c member

theorem slash_not_mem_fresh (id : Uuid) (clientName : String) :
    '/' ∉ (fresh id clientName).toList :=
  (isPlain_fresh id clientName).slash_not_mem

end FileName

/-! ## Keys -/

namespace Resource

/-- The three components of the resource's key. -/
def components : Resource → List String
  | .postFile postId fileName => ["posts", postId, fileName]
  | .profileImage userId => ["profiles", userId, "profile"]

theorem toList_key (resource : Resource) :
    resource.key.toList = ['/'].intercalate (resource.components.map String.toList) := by
  cases resource with
  | postFile postId fileName => simp [key, components, List.intercalate]
  | profileImage userId => simp [key, components, List.intercalate]

/-- The names that clients supply stay where they are put. -/
def IsPlain (resource : Resource) : Prop :=
  ∀ segment ∈ resource.segments, Segment.IsPlain segment

theorem isPlain_postFile {postId fileName : String} (plain_post : Segment.IsPlain postId)
    (plain_file : Segment.IsPlain fileName) : (postFile postId fileName).IsPlain := by
  simp [IsPlain, segments, plain_post, plain_file]

theorem isPlain_of_unrefused {resource : Resource}
    (unrefused : Segment.firstUnsafe? resource.segments = none) : resource.IsPlain :=
  fun segment member =>
    Segment.isSafe_iff.mp (Segment.isSafe_of_firstUnsafe?_eq_none unrefused segment member)

theorem isPlain_of_mem_components {resource : Resource} (plain : resource.IsPlain) :
    ∀ component ∈ resource.components, Segment.IsPlain component := by
  have posts : Segment.IsPlain "posts" := Segment.isSafe_iff.mp (by decide)
  have profiles : Segment.IsPlain "profiles" := Segment.isSafe_iff.mp (by decide)
  have profile : Segment.IsPlain "profile" := Segment.isSafe_iff.mp (by decide)
  cases resource with
  | postFile postId fileName =>
    simpa [components, posts, IsPlain, segments] using plain
  | profileImage userId =>
    simpa [components, profiles, profile, IsPlain, segments] using plain

/-- Cutting a key at its slashes gives its components back. -/
theorem splitOn_key {resource : Resource} (plain : resource.IsPlain) :
    resource.key.toList.splitOn '/' = resource.components.map String.toList := by
  rw [toList_key]
  refine List.splitOn_intercalate '/' ?_ ?_
  · intro piece member
    obtain ⟨component, among, rfl⟩ := List.mem_map.mp member
    exact (isPlain_of_mem_components plain component among).slash_not_mem
  · cases resource <;> simp [components]

/-- A key has three components, and none of them leads elsewhere. -/
theorem parts_of_key {resource : Resource} (plain : resource.IsPlain) :
    (resource.key.toList.splitOn '/').length = 3 ∧
      ∀ part ∈ resource.key.toList.splitOn '/', part ≠ [] ∧ part ≠ ['.'] ∧ part ≠ ['.', '.'] := by
  rw [splitOn_key plain]
  constructor
  · cases resource <;> rfl
  · intro part member
    obtain ⟨component, among, rfl⟩ := List.mem_map.mp member
    obtain ⟨filled, not_here, not_up, _⟩ := isPlain_of_mem_components plain component among
    have same_list {text : String} (differ : component ≠ text) : component.toList ≠ text.toList :=
      fun same => differ (String.toList_inj.mp same)
    exact ⟨same_list filled, same_list not_here, same_list not_up⟩

theorem components_inj {resource other : Resource}
    (same : resource.components = other.components) : resource = other := by
  cases resource <;> cases other <;> simp_all [components]

theorem key_inj_iff {resource other : Resource} (plain : resource.IsPlain)
    (plain_other : other.IsPlain) : resource.key = other.key ↔ resource = other := by
  constructor
  · intro same
    have split : resource.components.map String.toList = other.components.map String.toList := by
      rw [← splitOn_key plain, ← splitOn_key plain_other, same]
    exact components_inj ((List.map_inj_right fun _ _ => String.toList_inj.mp).mp split)
  · rintro rfl
    rfl

theorem toList_postPrefix (postId : String) :
    (postPrefix postId).toList = "posts/".toList ++ (postId.toList ++ ['/']) := by
  simp [postPrefix]

theorem startsWith_key (postId fileName : String) :
    Text.startsWith (postPrefix postId) (postFile postId fileName).key = true := by
  rw [Text.startsWith, List.isPrefixOf_iff_prefix]
  exact ⟨fileName.toList, by simp [postPrefix, key]⟩

/-- Only the attachments of a post have keys that start like theirs, whatever its id
starts with. -/
theorem startsWith_postPrefix_iff {resource : Resource} {postId : String}
    (plain : resource.IsPlain) (plain_post : Segment.IsPlain postId) :
    Text.startsWith (postPrefix postId) resource.key = true ↔
      ∃ fileName, resource = .postFile postId fileName := by
  constructor
  · rw [Text.startsWith, List.isPrefixOf_iff_prefix]
    rintro ⟨rest, same⟩
    cases resource with
    | postFile other fileName =>
      have plain_other := plain other (by simp [segments])
      have tails : postId.toList ++ '/' :: rest = other.toList ++ '/' :: fileName.toList := by
        simpa [postPrefix, key] using same
      obtain ⟨posts, -⟩ :=
        Text.append_sep_inj plain_post.slash_not_mem plain_other.slash_not_mem tails
      exact ⟨fileName, by rw [String.toList_inj.mp posts]⟩
    | profileImage userId => simp [postPrefix, key] at same
  · rintro ⟨fileName, rfl⟩
    exact startsWith_key postId fileName

theorem fileNameOf_key (postId : String) {fileName : String} (plain : Segment.IsPlain fileName) :
    fileNameOf (key (.postFile postId fileName)) = fileName := by
  have written : (key (.postFile postId fileName)).toList =
      (postPrefix postId).toList ++ fileName.toList := by
    simp [key, postPrefix]
  have closed : ∀ c ∈ (postPrefix postId).toList.getLast?, (c == '/') = true := by
    rw [toList_postPrefix, ← List.append_assoc, List.getLast?_concat]
    simp
  have whole : ∀ c ∈ fileName.toList, (c == '/') = false := by
    intro c member
    have differ : c ≠ '/' := fun same => plain.slash_not_mem (same ▸ member)
    simpa using differ
  rw [fileNameOf, written, Text.lastPiece_append closed whole, String.ofList_toList]

end Resource

end MediaVault
