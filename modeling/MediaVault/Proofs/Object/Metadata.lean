import MediaVault.Object.Metadata

/-!
# Entries of user metadata

Metadata is compared entry by entry.  Stores lower the names of the entries;
for metadata whose names are lower already, such as that of an image, nothing
changes.
-/

namespace MediaVault

namespace UserMetadata

variable {entries : UserMetadata}

/-- Entries in another order are the same metadata. -/
theorem getElem?_ofList_of_perm {listed : List (String × String)}
    (perm : listed.Perm entries.toList) (name : String) :
    (Std.TreeMap.ofList listed compare)[name]? = entries[name]? := by
  cases value : entries[name]? with
  | some text =>
    have member := perm.mem_iff.mpr (Std.TreeMap.mem_toList_iff_getElem?_eq_some.mpr value)
    refine Std.TreeMap.getElem?_ofList_of_mem Std.ReflCmp.compare_self ?_ member
    refine (perm.pairwise_iff fun apart same => ?_).mpr Std.TreeMap.distinct_keys_toList
    exact apart (Std.OrientedCmp.eq_symm same)
  | none =>
    refine Std.TreeMap.getElem?_ofList_of_contains_eq_false ?_
    simp only [List.contains_eq_mem, decide_eq_false_iff_not, List.mem_map, not_exists, not_and]
    rintro ⟨other, text⟩ member rfl
    have found := Std.TreeMap.mem_toList_iff_getElem?_eq_some.mp (perm.mem_iff.mp member)
    simp [value] at found

theorem toList_eq_of_getElem?_eq {others : UserMetadata}
    (same : ∀ name : String, entries[name]? = others[name]?) : entries.toList = others.toList :=
  (Std.TreeMap.Equiv.of_forall_constGet?_eq same).toList_eq

/-- No name changes when names are lowered. -/
def LowerNamed (entries : UserMetadata) : Prop :=
  ∀ name text, entries[name]? = some text → Text.lower name = name

theorem lowerNamed_empty : LowerNamed ∅ := by
  intro name text found
  simp at found

theorem LowerNamed.map_lower (lower : LowerNamed entries) :
    entries.toList.map (fun entry => (Text.lower entry.1, entry.2)) = entries.toList := by
  refine (List.map_congr_left fun entry listed => ?_).trans entries.toList.map_id
  rw [lower entry.1 entry.2 (Std.TreeMap.mem_toList_iff_getElem?_eq_some.mp listed)]
  rfl

theorem LowerNamed.getElem?_lowerNames (lower : LowerNamed entries) (name : String) :
    entries.lowerNames[name]? = entries[name]? := by
  rw [lowerNames, lower.map_lower]
  exact getElem?_ofList_of_perm (.refl _) name

end UserMetadata

namespace ImageAttributes

theorem getElem?_toUserMetadata (a : ImageAttributes) (name : String) :
    a.toUserMetadata[name]? =
      if name = "x-blurhash" then some a.blurhash
      else if name = "x-width" then some (toString a.width.toNat)
      else if name = "x-height" then some (toString a.height.toNat)
      else none := by
  simp only [toUserMetadata, blurhashName, widthName, heightName, Std.TreeMap.ofList_cons,
    Std.TreeMap.insertMany_cons, Std.TreeMap.insertMany_nil, Std.TreeMap.getElem?_insert,
    Std.compare_eq_iff_eq, Std.TreeMap.getElem?_emptyc, eq_comm (b := name)]
  by_cases hash : name = "x-blurhash"
  · subst name; rfl
  by_cases width : name = "x-width"
  · subst name; rfl
  · simp only [hash, width, if_false]

theorem lowerNamed_toUserMetadata (a : ImageAttributes) :
    UserMetadata.LowerNamed a.toUserMetadata := by
  intro other text found
  rw [getElem?_toUserMetadata] at found
  split at found
  · subst other; rfl
  split at found
  · subst other; rfl
  split at found
  · subst other; rfl
  · cases found

theorem getElem?_lowerNames_toUserMetadata (a : ImageAttributes) (name : String) :
    a.toUserMetadata.lowerNames[name]? = a.toUserMetadata[name]? :=
  a.lowerNamed_toUserMetadata.getElem?_lowerNames name

end ImageAttributes

end MediaVault
