import MediaVault.Proofs.Object.Attributes
import MediaVault.Proofs.Store.Memory
import MediaVault.S3.Store

/-!
# Metadata under other spellings

A store collects the entries anew under lower-case names.  That changes their
order and merges entries whose names differ in letter case only.  A look-up does
not notice as long as its own name is there once, whatever becomes of the other
entries (`Single.lookup?_collected`).  So the attributes of an image are read back
from any spelling of their three names.
-/

namespace MediaVault

namespace UserMetadata

variable {entries : UserMetadata} {name value : String} {listed : List (String × String)}

/-- The listed entries under lower-case names; of names that fall together the
last one stays. -/
def collected (listed : List (String × String)) : UserMetadata :=
  Std.TreeMap.ofList (listed.map fun entry => (Text.lower entry.1, entry.2)) compare

/-- At most one entry has the name, in whatever letter case. -/
def Single (entries : UserMetadata) (name : String) : Prop :=
  ∀ entry ∈ entries.toList, ∀ rival ∈ entries.toList,
    Text.sameIgnoringCase entry.1 name = true → Text.sameIgnoringCase rival.1 name = true →
      entry = rival

instance : Decidable (entries.Single name) :=
  inferInstanceAs (Decidable (∀ entry ∈ entries.toList, ∀ rival ∈ entries.toList,
    Text.sameIgnoringCase entry.1 name = true → Text.sameIgnoringCase rival.1 name = true →
      entry = rival))

/-- No two names differ in letter case only. -/
def Distinct (entries : UserMetadata) : Prop :=
  ∀ entry ∈ entries.toList, ∀ rival ∈ entries.toList,
    Text.sameIgnoringCase entry.1 rival.1 = true → entry = rival

instance : Decidable entries.Distinct :=
  inferInstanceAs (Decidable (∀ entry ∈ entries.toList, ∀ rival ∈ entries.toList,
    Text.sameIgnoringCase entry.1 rival.1 = true → entry = rival))

/-- The entries of an image are there, each under its name in some letter case and
once; nothing is said of other entries. -/
def Carries (entries : UserMetadata) (attributes : ImageAttributes) : Prop :=
  ∀ entry ∈ attributes.toUserMetadata.toList,
    (∃ spelled ∈ entries.toList,
      Text.sameIgnoringCase spelled.1 entry.1 = true ∧ spelled.2 = entry.2) ∧
    entries.Single entry.1

instance (attributes : ImageAttributes) : Decidable (entries.Carries attributes) :=
  inferInstanceAs (Decidable (∀ entry ∈ attributes.toUserMetadata.toList,
    (∃ spelled ∈ entries.toList,
      Text.sameIgnoringCase spelled.1 entry.1 = true ∧ spelled.2 = entry.2) ∧
    entries.Single entry.1))

theorem Distinct.single (distinct : entries.Distinct) (name : String) : entries.Single name := by
  intro entry listed rival listed_too same same_too
  refine distinct entry listed rival listed_too (Text.sameIgnoringCase_iff.mpr ?_)
  rw [Text.sameIgnoringCase_iff.mp same, Text.sameIgnoringCase_iff.mp same_too]

/-! ## Maps of lists that repeat a name -/

theorem mem_of_getElem?_ofList
    (found : (Std.TreeMap.ofList listed compare)[name]? = some value) : (name, value) ∈ listed := by
  rw [Std.TreeMap.ofList_eq_insertMany_empty, Std.TreeMap.getElem?_insertMany_list,
    Std.TreeMap.getElem?_emptyc, Option.or_none, List.findSomeRev?_eq_findSome?_reverse] at found
  obtain ⟨⟨other, text⟩, member, hit⟩ := List.exists_of_findSome?_eq_some found
  simp only [Std.compare_eq_iff_eq, Option.ite_none_right_eq_some, Option.some.injEq] at hit
  obtain ⟨rfl, rfl⟩ := hit
  exact List.mem_reverse.mp member

/-- A name may be repeated as long as its entries agree. -/
theorem getElem?_ofList_of_agree (member : (name, value) ∈ listed)
    (agree : ∀ text, (name, text) ∈ listed → text = value) :
    (Std.TreeMap.ofList listed compare)[name]? = some value := by
  have present : name ∈ Std.TreeMap.ofList listed compare := by
    simpa using ⟨value, member⟩
  obtain ⟨text, found⟩ :=
    Option.isSome_iff_exists.mp (Std.TreeMap.isSome_getElem?_iff_mem.mpr present)
  rw [found, agree text (mem_of_getElem?_ofList found)]

/-! ## Looking up -/

theorem lookup?_lower : entries.lookup? (Text.lower name) = entries.lookup? name := by
  have same (other : String) :
      Text.sameIgnoringCase other (Text.lower name) = Text.sameIgnoringCase other name := by
    rw [Bool.eq_iff_iff, Text.sameIgnoringCase_iff, Text.sameIgnoringCase_iff, Text.lower_lower]
  simp only [lookup?, same]

theorem Single.lookup?_eq_some_iff (single : entries.Single name) :
    entries.lookup? name = some value ↔
      ∃ spelled, (spelled, value) ∈ entries.toList ∧
        Text.sameIgnoringCase spelled name = true := by
  constructor
  · intro found
    obtain ⟨⟨spelled, text⟩, first, rfl⟩ := Option.map_eq_some_iff.mp found
    have same := List.find?_some first
    exact ⟨spelled, List.mem_of_find?_eq_some first, same⟩
  · rintro ⟨spelled, member, same⟩
    refine lookup?_eq_some (Std.TreeMap.mem_toList_iff_getElem?_eq_some.mp member) same ?_
    intro rival text found same_too
    have member_too := Std.TreeMap.mem_toList_iff_getElem?_eq_some.mpr found
    exact (Prod.mk.inj (single _ member_too _ member same_too same)).2

theorem lowerNamed_collected (listed : List (String × String)) :
    LowerNamed (collected listed) := by
  intro name text found
  obtain ⟨entry, -, lowered⟩ := List.mem_map.mp (mem_of_getElem?_ofList found)
  obtain ⟨rfl, rfl⟩ := Prod.mk.inj lowered
  exact Text.lower_lower entry.1

/-- A name that is there once is looked up as before. -/
theorem Single.lookup?_collected (single : entries.Single name)
    (perm : listed.Perm entries.toList) :
    (collected listed).lookup? name = entries.lookup? name := by
  -- Both look-ups see the entries of this name only, and there is at most one of them.
  have exact_lookup : (collected listed).lookup? name = (collected listed)[Text.lower name]? := by
    rw [← lookup?_lower, (lowerNamed_collected listed).lookup?_eq (Text.lower_lower name)]
  have lowered_iff {text : String} :
      (Text.lower name, text) ∈ (listed.map fun entry => (Text.lower entry.1, entry.2)) ↔
        entries.lookup? name = some text := by
    rw [single.lookup?_eq_some_iff, List.mem_map]
    constructor
    · rintro ⟨⟨spelled, _⟩, member, lowered⟩
      obtain ⟨same, rfl⟩ := Prod.mk.inj lowered
      exact ⟨spelled, perm.mem_iff.mp member, Text.sameIgnoringCase_iff.mpr same⟩
    · rintro ⟨spelled, member, same⟩
      exact ⟨(spelled, text), perm.mem_iff.mpr member,
        Prod.ext (Text.sameIgnoringCase_iff.mp same) rfl⟩
  refine Option.ext fun text => ?_
  rw [exact_lookup, ← lowered_iff]
  constructor
  · exact mem_of_getElem?_ofList
  · -- Others may have fallen together, so the names of the list need not be distinct.
    intro member
    refine getElem?_ofList_of_agree member fun other member_too => ?_
    exact Option.some.inj ((lowered_iff.mp member_too).symm.trans (lowered_iff.mp member))

/-! ## What stores tell -/

/-- The stores tell metadata with the property of an object that was written with
these entries: the memory store when the object is looked up after the write, the
remote one when the service repeats what it was sent, in any order. -/
structure ToldAs (entries : UserMetadata) (property : UserMetadata → Prop) : Prop where
  memory : ∀ (bucket : String) (now later : Timestamp) (contents : Contents) (key : String)
    (payload : Payload) (options : PutOptions) (bytes : ByteArray),
    contents.created = true → payload.collect = .ok bytes → options.userMetadata = entries →
    ∃ outcome after info,
      Ends ((MemoryStore.sequential bucket now).put key payload options) contents (.ok outcome)
        after ∧
      Ends ((MemoryStore.sequential bucket later).stat key) after (.ok info) after ∧
      property info.userMetadata
  remote : ∀ (key : String) (options : PutOptions) (reply : S3.ObjectReply),
    options.userMetadata = entries →
    reply.userMetadata.Perm (S3.Store.sent options).userMetadata →
    property (S3.Store.infoOf key reply).userMetadata

theorem toldAs_of_collected {property : UserMetadata → Prop}
    (collects : ∀ listed, listed.Perm entries.toList → property (collected listed)) :
    entries.ToldAs property where
  memory := by
    intro bucket now later contents key payload options bytes created read written
    let object := MemoryStore.objectOf key bytes options now
    refine ⟨⟨Digest.md5Hex bytes, bytes.size⟩, contents.write key object, object.info, ?_, ?_, ?_⟩
    · change Ends ((MemoryStore.faulty bucket (fun _ => none) now).put key payload options) _ _ _
      apply MemoryStore.put_ends_iff.mpr
      simp [MemoryStore.obstacle?, created, read, object]
    · change Ends ((MemoryStore.faulty bucket (fun _ => none) later).stat key) _ _ _
      apply MemoryStore.stat_ends_iff.mpr
      simp [MemoryStore.obstacle?, created, Contents.find, Except.map]
    · change property (collected options.userMetadata.toList)
      rw [written]
      exact collects _ (.refl _)
  remote := by
    intro key options reply written perm
    subst written
    exact collects reply.userMetadata perm

end UserMetadata

namespace ImageAttributes

variable {entries : UserMetadata} {a : ImageAttributes}

theorem ofUserMetadata_of_lookups
    (told : ∀ entry ∈ a.toUserMetadata.toList, entries.lookup? entry.1 = some entry.2) :
    ofUserMetadata entries = a := by
  have found {name value : String} (written : a.toUserMetadata[name]? = some value) :
      entries.lookup? name = some value :=
    told (name, value) (Std.TreeMap.mem_toList_iff_getElem?_eq_some.mpr written)
  have blurhash : entries.lookup? blurhashName = some a.blurhash :=
    found (a.getElem?_toUserMetadata blurhashName)
  have width : dimension entries widthName = (some a.width).getD 0 :=
    dimension_eq (found (a.getElem?_toUserMetadata widthName))
  have height : dimension entries heightName = (some a.height).getD 0 :=
    dimension_eq (found (a.getElem?_toUserMetadata heightName))
  rw [ofUserMetadata, blurhash, width, height]
  rfl

end ImageAttributes

namespace UserMetadata

/-- Attributes are read from any map that carries them, and from what a store tells
of such a map; among distinct names all look-ups are as before. -/
theorem attributes_survive_spelling (entries : UserMetadata) :
    (∀ attributes, entries.Carries attributes →
      ImageAttributes.ofUserMetadata entries = attributes ∧
      entries.ToldAs fun told => ImageAttributes.ofUserMetadata told = attributes) ∧
    (entries.Distinct →
      entries.ToldAs fun told => ∀ name, told.lookup? name = entries.lookup? name) := by
  refine ⟨fun attributes carries => ?_, fun distinct => ?_⟩
  · have found : ∀ entry ∈ attributes.toUserMetadata.toList,
        entries.lookup? entry.1 = some entry.2 := by
      intro entry listed
      obtain ⟨⟨⟨spelled, value⟩, member, same, rfl⟩, single⟩ := carries entry listed
      exact single.lookup?_eq_some_iff.mpr ⟨spelled, member, same⟩
    refine ⟨ImageAttributes.ofUserMetadata_of_lookups found, toldAs_of_collected ?_⟩
    intro listed perm
    refine ImageAttributes.ofUserMetadata_of_lookups fun entry member => ?_
    rw [(carries entry member).2.lookup?_collected perm, found entry member]
  · exact toldAs_of_collected fun listed perm name => (distinct.single name).lookup?_collected perm

/-- Beside the entries of an image, two names fall together: their look-up changes,
the attributes stay. -/
theorem attributes_survive_spelling_of_shouting :
    let attributes : ImageAttributes := { blurhash := "LKO2 ?", width := 100, height := 4294967295 }
    let image : UserMetadata := Std.TreeMap.ofList
      [("X-BLURHASH", "LKO2 ?"), ("x-Width", "100"), ("X-height", "4294967295"), ("Note", "first"),
        ("note", "last")] compare
    let plain : UserMetadata := Std.TreeMap.ofList [("Zoom", "2"), ("author", "é")] compare
    (image.Carries attributes ∧ ImageAttributes.ofUserMetadata image = attributes ∧
      image.ToldAs fun told => ImageAttributes.ofUserMetadata told = attributes) ∧
    (image.lookup? "NOTE" = some "first" ∧ image.lowerNames.lookup? "NOTE" = some "last") ∧
    (plain.Distinct ∧ plain.lookup? "ZOOM" = some "2" ∧
      plain.ToldAs fun told => ∀ name, told.lookup? name = plain.lookup? name) := by
  intro attributes image plain
  have carries : image.Carries attributes := by decide +kernel
  have distinct : plain.Distinct := by decide +kernel
  exact ⟨⟨carries, (attributes_survive_spelling image).1 attributes carries⟩, by decide +kernel,
    distinct, by decide +kernel, (attributes_survive_spelling plain).2 distinct⟩

end UserMetadata

end MediaVault
