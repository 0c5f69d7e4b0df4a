import Mathlib.Data.String.Basic
import MediaVault.Proofs.Text
import MediaVault.Store.Memory

/-!
# Keys with a common lead

The memory store finds the keys that start with a text by their place in key
order: it skips what comes before the text and stops at the first key that
does not start with it.  `scan_eq_filter` says that this misses no key.
-/

namespace MediaVault

namespace Text

theorem startsWith_iff {lead s : String} :
    startsWith lead s = true ↔ lead.toList <+: s.toList :=
  List.isPrefixOf_iff_prefix

/-- A text does not come before its own beginning. -/
theorem not_lt_of_startsWith {lead s : String} (starts : startsWith lead s = true) :
    ¬ s < lead := by
  rw [String.lt_iff_toList_lt]
  exact List.not_lt.mpr (startsWith_iff.mp starts).le

/-- Between a lead and the texts that start with it there are no others. -/
theorem prefix_of_between {lead s t : List Char} (from_lead : ¬ s < lead) (below : s < t)
    (starts : lead <+: t) : lead <+: s := by
  induction lead generalizing s t with
  | nil => exact List.nil_prefix
  | cons a lead ih =>
    cases s with
    | nil => exact absurd (List.nil_lt_cons a lead) from_lead
    | cons b s =>
      obtain ⟨rest, rfl⟩ := starts
      rw [List.cons_append, List.cons_lt_cons_iff] at below
      rw [List.cons_lt_cons_iff, not_or, not_and] at from_lead
      -- The first letters agree, since neither comes before the other.
      rcases below with less | ⟨rfl, below⟩
      · exact absurd less from_lead.1
      · have inner := ih (from_lead.2 rfl) below (List.prefix_append lead rest)
        exact (List.prefix_cons_inj b).mpr inner

theorem startsWith_of_between {lead s t : String} (from_lead : ¬ s < lead) (below : s < t)
    (starts : startsWith lead t = true) : startsWith lead s = true := by
  rw [String.lt_iff_toList_lt] at from_lead below
  exact startsWith_iff.mpr (prefix_of_between from_lead below (startsWith_iff.mp starts))

/-! ## Byte order -/

/-- The bytes of two characters differ where the smaller one has the smaller byte. -/
theorem utf8EncodeChar_append_lt {a b : Char} (less : a < b) (s t : List UInt8) :
    String.utf8EncodeChar a ++ s < String.utf8EncodeChar b ++ t := by
  have below : a.val.toNat < b.val.toNat := less
  have bound : b.val.toNat < 0x110000 := b.valid.elim (by omega) (by omega)
  have byte {m n : Nat} (m_lt : m < 256) (n_lt : n < 256) :
      (UInt8.ofNat m < UInt8.ofNat n ↔ m < n) ∧ (UInt8.ofNat m = UInt8.ofNat n ↔ m = n) := by
    simp [UInt8.lt_iff_toNat_lt, ← UInt8.toNat_inj, UInt8.toNat_ofNat_of_lt' m_lt,
      UInt8.toNat_ofNat_of_lt' n_lt]
  have six (n : Nat) : n / 4096 = n / 64 / 64 ∧ n / 262144 = n / 64 / 64 / 64 := by omega
  simp only [String.utf8EncodeChar, (six _).1, (six _).2]
  split_ifs
  all_goals
    simp only [List.cons_append, List.nil_append, List.cons_lt_cons_iff]
    repeat rw [(byte (by omega) (by omega)).1]
    repeat rw [(byte (by omega) (by omega)).2]
    omega

theorem flatMap_utf8EncodeChar_lt {s t : List Char} (less : s < t) :
    s.flatMap String.utf8EncodeChar < t.flatMap String.utf8EncodeChar := by
  induction s generalizing t with
  | nil =>
    cases t with
    | nil => exact absurd less (List.lt_irrefl _)
    | cons b t =>
      obtain ⟨first, others, bytes⟩ :=
        List.exists_cons_of_ne_nil (@String.utf8EncodeChar_ne_nil b)
      rw [List.flatMap_cons, bytes]
      exact List.nil_lt_cons _ _
  | cons a s ih =>
    cases t with
    | nil => exact absurd less (List.not_lt_nil _)
    | cons b t =>
      rw [List.flatMap_cons, List.flatMap_cons]
      rcases List.cons_lt_cons_iff.mp less with first | ⟨rfl, rest⟩
      · exact utf8EncodeChar_append_lt first _ _
      · exact List.append_left_lt (ih rest)

/-- Texts are in the order of their bytes. -/
theorem utf8_lt {s t : String} (less : s < t) : utf8 s < utf8 t := by
  rw [utf8_eq_flatMap, utf8_eq_flatMap]
  exact flatMap_utf8EncodeChar_lt (String.lt_iff_toList_lt.mp less)

end Text

/-- Entries in the order of their keys. -/
def KeySorted {α : Type} (entries : List (String × α)) : Prop :=
  entries.Pairwise fun a b => a.1 < b.1

theorem keySorted_toList {α : Type} (entries : Std.TreeMap String α) :
    KeySorted entries.toList :=
  Std.TreeMap.ordered_keys_toList.imp fun less => compare_lt_iff_lt.mp less

theorem takeWhile_dropWhile_eq_filter {α : Type} {lead : String} {entries : List (String × α)}
    (sorted : KeySorted entries) :
    (entries.dropWhile fun entry => decide (entry.1 < lead)).takeWhile
        (fun entry => Text.startsWith lead entry.1) =
      entries.filter fun entry => Text.startsWith lead entry.1 := by
  induction entries with
  | nil => rfl
  | cons entry entries ih =>
    obtain ⟨above, sorted⟩ := List.pairwise_cons.mp sorted
    by_cases before : entry.1 < lead
    · have apart : ¬ Text.startsWith lead entry.1 = true := fun starts =>
        Text.not_lt_of_startsWith starts before
      rw [List.dropWhile_cons_of_pos (by simpa using before),
        List.filter_cons_of_neg (by simpa using apart)]
      exact ih sorted
    · -- From here on nothing is skipped.
      have reached : entries.dropWhile (fun entry => decide (entry.1 < lead)) = entries := by
        cases entries with
        | nil => rfl
        | cons next entries =>
          have later : ¬ next.1 < lead := fun less =>
            before (lt_trans (above next List.mem_cons_self) less)
          exact List.dropWhile_cons_of_neg (by simpa using later)
      rw [List.dropWhile_cons_of_neg (by simpa using before)]
      by_cases starts : Text.startsWith lead entry.1 = true
      · rw [List.takeWhile_cons_of_pos (by simpa using starts),
          List.filter_cons_of_pos (by simpa using starts), ← ih sorted, reached]
      · rw [List.takeWhile_cons_of_neg (by simpa using starts),
          List.filter_cons_of_neg (by simpa using starts)]
        refine (List.filter_eq_nil_iff.mpr fun later member starts_later => ?_).symm
        exact starts (Text.startsWith_of_between before (above later member) starts_later)

namespace Contents

/-- The scan finds exactly the keys that start with the text. -/
theorem scan_eq_filter (contents : Contents) (lead : String) :
    contents.scan lead =
      (contents.objects.toList.filter fun entry => Text.startsWith lead entry.1).map (·.2) := by
  rw [scan, takeWhile_dropWhile_eq_filter (keySorted_toList contents.objects)]

variable {contents : Contents} {lead : String}

theorem mem_scan_iff {object : StoredObject} :
    object ∈ contents.scan lead ↔
      ∃ key, contents.objects[key]? = some object ∧ Text.startsWith lead key = true := by
  simp only [scan_eq_filter, List.mem_map, List.mem_filter, Prod.exists,
    Std.TreeMap.mem_toList_iff_getElem?_eq_some]
  constructor
  · rintro ⟨key, _, found, rfl⟩
    exact ⟨key, found⟩
  · rintro ⟨key, found⟩
    exact ⟨key, object, found, rfl⟩

/-- The map is sorted by the keys it stores under; where these are on record, so is
what a scan finds. -/
theorem scan_sorted (keyed : ∀ (key : String) (object : StoredObject),
      contents.objects[key]? = some object → object.info.key = key) (lead : String) :
    (contents.scan lead).Pairwise fun object later =>
      Text.utf8 object.info.key < Text.utf8 later.info.key := by
  have sorted : contents.objects.toList.Pairwise fun entry later =>
      Text.utf8 entry.2.info.key < Text.utf8 later.2.info.key := by
    apply (keySorted_toList contents.objects).imp_of_mem
    intro entry later member member_later less
    rw [Std.TreeMap.mem_toList_iff_getElem?_eq_some] at member member_later
    rw [keyed _ _ member, keyed _ _ member_later]
    exact Text.utf8_lt less
  rw [scan_eq_filter, List.pairwise_map]
  exact sorted.filter _

end Contents

end MediaVault
