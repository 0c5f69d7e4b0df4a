import MediaVault.Object.Info
import MediaVault.Proofs.Object.Metadata
import MediaVault.Proofs.Text

/-!
# Attributes of images in user metadata

The three entries of an image are found under any letter case, and reading them
yields the attributes that were written.  `Holds` is what an upload leaves in
the metadata of an object: these entries, or none.
-/

namespace MediaVault

namespace UserMetadata

variable {entries : UserMetadata} {name : String}

theorem lookup?_eq_some {other value : String} (found : entries[other]? = some value)
    (same : Text.sameIgnoringCase other name = true)
    (only : ∀ rival text, entries[rival]? = some text → Text.sameIgnoringCase rival name = true →
      text = value) : entries.lookup? name = some value := by
  rw [lookup?]
  cases first : entries.toList.find? fun entry => Text.sameIgnoringCase entry.1 name with
  | none =>
    have listed := Std.TreeMap.mem_toList_iff_getElem?_eq_some.mpr found
    exact absurd same (List.find?_eq_none.mp first _ listed)
  | some entry =>
    -- The first entry of the name need not be this one, but it has the same text.
    have listed := Std.TreeMap.mem_toList_iff_getElem?_eq_some.mp (List.mem_of_find?_eq_some first)
    have hit := List.find?_some first
    rw [Option.map_some, only entry.1 entry.2 listed hit]

theorem lookup?_eq_none
    (absent : ∀ other text, entries[other]? = some text → Text.sameIgnoringCase other name = false) :
    entries.lookup? name = none := by
  rw [lookup?, Option.map_eq_none_iff, List.find?_eq_none]
  intro entry listed
  simp [absent entry.1 entry.2 (Std.TreeMap.mem_toList_iff_getElem?_eq_some.mp listed)]

/-- Among names in lower case, looking one up ignores nothing. -/
theorem LowerNamed.lookup?_eq (lowerNamed : LowerNamed entries) (small : Text.lower name = name) :
    entries.lookup? name = entries[name]? := by
  have eq_of_same {other text : String} (found : entries[other]? = some text)
      (same : Text.sameIgnoringCase other name = true) : other = name := by
    calc other = Text.lower other := (lowerNamed other text found).symm
      _ = Text.lower name := Text.sameIgnoringCase_iff.mp same
      _ = name := small
  cases found : entries[name]? with
  | some value =>
    refine lookup?_eq_some found (Text.sameIgnoringCase_iff.mpr rfl) fun rival text present same => ?_
    obtain rfl := eq_of_same present same
    exact Option.some.inj (present.symm.trans found)
  | none =>
    refine lookup?_eq_none fun other text present => Bool.eq_false_iff.mpr fun same => ?_
    obtain rfl := eq_of_same present same
    cases found.symm.trans present

/-- The entries are those of an image, or there are none. -/
def Holds (entries : UserMetadata) (shown : Option ImageAttributes) : Prop :=
  ∀ name : String, entries[name]? = shown.bind fun attributes => attributes.toUserMetadata[name]?

namespace Holds

variable {shown : Option ImageAttributes} (holds : entries.Holds shown)

include holds

theorem lowerNamed : LowerNamed entries := by
  intro other text found
  rw [holds] at found
  obtain ⟨attributes, _, entry⟩ := Option.bind_eq_some_iff.mp found
  exact attributes.lowerNamed_toUserMetadata other text entry

theorem lookup?_eq {name : String} (small : Text.lower name = name) :
    entries.lookup? name = shown.bind fun attributes => attributes.toUserMetadata[name]? := by
  rw [holds.lowerNamed.lookup?_eq small, holds]

theorem lookup?_blurhash :
    entries.lookup? ImageAttributes.blurhashName = shown.map (·.blurhash) := by
  rw [holds.lookup?_eq (by decide), Option.map_eq_bind]
  simp only [ImageAttributes.getElem?_toUserMetadata]
  rfl

theorem lookup?_width :
    entries.lookup? ImageAttributes.widthName = shown.map fun a => toString a.width.toNat := by
  rw [holds.lookup?_eq (by decide), Option.map_eq_bind]
  simp only [ImageAttributes.getElem?_toUserMetadata]
  rfl

theorem lookup?_height :
    entries.lookup? ImageAttributes.heightName = shown.map fun a => toString a.height.toNat := by
  rw [holds.lookup?_eq (by decide), Option.map_eq_bind]
  simp only [ImageAttributes.getElem?_toUserMetadata]
  rfl

end Holds

end UserMetadata

namespace ImageAttributes

variable {entries : UserMetadata}

/-- A dimension that was written as a numeral is read back. -/
theorem dimension_eq {name : String} {written : Option UInt32}
    (found : entries.lookup? name = written.map fun n => toString n.toNat) :
    dimension entries name = written.getD 0 := by
  rw [dimension, found]
  cases written with
  | none => rfl
  | some n =>
    have fits : n.toNat ≤ Text.maxOfBits 32 := Nat.le_of_lt_succ n.toNat_lt
    simp only [Option.map_some, Nat.toString_eq_ofList_toDigits, String.toList_ofList,
      Text.trimChars_toDigits, Text.readNatural_toDigits fits, UInt32.ofNat_toNat, Option.getD_some]

/-- What was written is what is read; without an image all reads as empty. -/
theorem ofUserMetadata_of_holds {shown : Option ImageAttributes} (holds : entries.Holds shown) :
    ofUserMetadata entries = shown.getD { blurhash := "", width := 0, height := 0 } := by
  have width : dimension entries widthName = (shown.map (·.width)).getD 0 := by
    refine dimension_eq ?_
    rw [holds.lookup?_width, Option.map_map]
    rfl
  have height : dimension entries heightName = (shown.map (·.height)).getD 0 := by
    refine dimension_eq ?_
    rw [holds.lookup?_height, Option.map_map]
    rfl
  rw [ofUserMetadata, holds.lookup?_blurhash, width, height]
  cases shown <;> rfl

end ImageAttributes

end MediaVault
