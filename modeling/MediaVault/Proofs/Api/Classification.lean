import MediaVault.Image.Decoder
import MediaVault.Proofs.Api.ObjectHeaders
import MediaVault.Proofs.Media.Ingest

/-!
# Spellings of a content type

Three decisions are made about the content type of an object: whether its payload is read as an
image, as which format it is decoded, and whether it is shown in place.  All of them look at the
essence, and the essence is the same for all spellings: `variant_iff_essence_eq` says that two
content types have one essence exactly if letter case, surrounding blanks and parameters lead from
one to the other.  What an upload makes of a content type before it is stored is such a spelling,
except that nothing at all becomes the fallback, about which the decisions are the same as well.
-/

namespace MediaVault

namespace ContentType

/-! ## Spellings -/

/-- The second content type is a spelling of the first. -/
inductive Variant : String → String → Prop where
  | letterCase {a b : String} (same : Text.lower a = Text.lower b) : Variant a b
  | surrounded (a : String) {front back : String} (before : ∀ c ∈ front.toList, Text.isBlank c = true)
      (behind : ∀ c ∈ back.toList, Text.isBlank c = true) : Variant a (front ++ a ++ back)
  | parameters (a rest : String) : Variant a (a ++ ";" ++ rest)
  | symm {a b : String} : Variant a b → Variant b a
  | trans {a b c : String} : Variant a b → Variant b c → Variant a c

theorem Variant.refl (a : String) : Variant a a := .letterCase rfl

theorem takeWhile_lowerChars (s : List Char) :
    (Text.lowerChars s).takeWhile (· != ';') = Text.lowerChars (s.takeWhile (· != ';')) := by
  have unchanged : ((· != ';') ∘ Char.toLower) = (· != ';') := by
    funext c
    rw [Function.comp_apply, bne, bne, Text.toLower_beq (by decide)]
  rw [Text.lowerChars, List.takeWhile_map, unchanged]
  rfl

theorem essenceChars_lowerChars (s : List Char) :
    essenceChars (Text.lowerChars s) = essenceChars s := by
  rw [essenceChars, takeWhile_lowerChars, Text.trimChars_lowerChars, Text.lowerChars_lowerChars]
  rfl

/-- Blanks behind a semicolon are cut off with what follows it, others are trimmed. -/
theorem essenceChars_surrounded {front s back : List Char}
    (before : ∀ c ∈ front, Text.isBlank c = true) (behind : ∀ c ∈ back, Text.isBlank c = true) :
    essenceChars (front ++ s ++ back) = essenceChars s := by
  -- No blank is a semicolon, so the parameters begin where they began.
  have unblank {c : Char} (blank : Text.isBlank c = true) : (c != ';') = true := by
    rw [bne_iff_ne]
    rintro rfl
    cases blank
  have lead : (front ++ s ++ back).takeWhile (· != ';') =
      front ++ (s ++ back).takeWhile (· != ';') := by
    rw [List.append_assoc, List.takeWhile_append_of_pos fun c member => unblank (before c member)]
  have tail : ∃ kept, (s ++ back).takeWhile (· != ';') = s.takeWhile (· != ';') ++ kept ∧
      ∀ c ∈ kept, Text.isBlank c = true := by
    rw [List.takeWhile_append]
    split
    next whole =>
      refine ⟨back.takeWhile (· != ';'), ?_, fun c member => ?_⟩
      · rw [(List.takeWhile_prefix (· != ';')).eq_of_length whole]
      · exact behind c ((List.takeWhile_prefix _).subset member)
    next => exact ⟨[], by simp, by simp⟩
  obtain ⟨kept, cut, blank⟩ := tail
  rw [essenceChars, lead, cut, ← List.append_assoc, Text.trimChars,
    Text.stripBoth_surrounded before blank]
  rfl

theorem essenceChars_parameters (s rest : List Char) :
    essenceChars (s ++ ';' :: rest) = essenceChars s := by
  have cut : (s ++ ';' :: rest).takeWhile (· != ';') = s.takeWhile (· != ';') := by
    induction s with
    | nil => rfl
    | cons c s ih =>
      rw [List.cons_append, List.takeWhile_cons, List.takeWhile_cons, ih]
  rw [essenceChars, cut]
  rfl

theorem Variant.essence_eq {a b : String} (variant : Variant a b) : essence b = essence a := by
  induction variant with
  | letterCase same =>
    have lowered (s : String) : essence (Text.lower s) = essence s := by
      rw [essence, Text.lower, String.toList_ofList, essenceChars_lowerChars]
      rfl
    rw [← lowered, ← same, lowered]
  | surrounded a before behind =>
    rw [essence, String.toList_append, String.toList_append, essenceChars_surrounded before behind]
    rfl
  | parameters a rest =>
    have written : (a ++ ";" ++ rest).toList = a.toList ++ ';' :: rest.toList := by simp
    rw [essence, written, essenceChars_parameters]
    rfl
  | symm _ ih => exact ih.symm
  | trans _ _ first second => exact second.trans first

theorem variant_kind (a : String) :
    Variant (String.ofList (a.toList.takeWhile (· != ';'))) a := by
  have whole := List.takeWhile_append_dropWhile (p := (· != ';')) (l := a.toList)
  rcases parameters_cases a.toList with none | ⟨rest, some⟩
  · rw [none, List.append_nil] at whole
    rw [whole, String.ofList_toList]
    exact .refl a
  · have written : a = String.ofList (a.toList.takeWhile (· != ';')) ++ ";" ++ String.ofList rest := by
      rw [some] at whole
      rw [← String.toList_inj]
      simpa using whole.symm
    have shorter := Variant.parameters (String.ofList (a.toList.takeWhile (· != ';')))
      (String.ofList rest)
    rwa [← written] at shorter

theorem variant_trim (a : String) : Variant (Text.trim a) a := by
  have trimmed : Text.TrimsTo a (Text.trim a) := Text.trim_eq_iff.mp rfl
  obtain ⟨front, back, written, before, behind⟩ := trimmed.between
  have longer := Variant.surrounded (Text.trim a) before behind
  rwa [← written] at longer

/-- A content type loses its parameters, then its blanks, then its capital letters. -/
theorem variant_essence (a : String) : Variant a (essence a) := by
  let kind := String.ofList (a.toList.takeWhile (· != ';'))
  have lowered : essence a = Text.lower (Text.trim kind) := by
    simp only [essence, essenceChars, Text.lower, Text.trim, kind, String.toList_ofList]
  have small : Variant (Text.trim kind) (essence a) :=
    .letterCase (by rw [lowered, Text.lower_lower])
  exact .trans (.symm (.trans (variant_trim kind) (variant_kind a))) small

theorem essence_essence (a : String) : essence (essence a) = essence a :=
  (variant_essence a).essence_eq

theorem variant_iff_essence_eq {a b : String} : Variant a b ↔ essence b = essence a := by
  constructor
  · exact Variant.essence_eq
  · intro same
    exact .trans (variant_essence a) (same ▸ .symm (variant_essence b))

/-! ## Decisions -/

/-- All decisions about two content types are the same: whether they are images, the format, and
whether an object is shown in place. -/
structure Alike (a b : String) : Prop where
  image : isImage a = isImage b
  format : ImageFormat.ofContentType? a = ImageFormat.ofContentType? b
  shown : ∀ info : ObjectInfo,
    (ObjectResponse.headOnly { info with contentType := a }).values "content-disposition" =
      (ObjectResponse.headOnly { info with contentType := b }).values "content-disposition"

theorem Alike.trans {a b c : String} (first : Alike a b) (second : Alike b c) : Alike a c :=
  ⟨first.image.trans second.image, first.format.trans second.format,
    fun info => (first.shown info).trans (second.shown info)⟩

theorem Alike.of_decisions {a b : String} (image : isImage a = isImage b)
    (format : ImageFormat.ofContentType? a = ImageFormat.ofContentType? b)
    (pdf : isPdf a = isPdf b) : Alike a b := by
  refine ⟨image, format, fun info => ?_⟩
  have shown (t : String) :
      (ObjectResponse.headOnly { info with contentType := t }).values "content-disposition" =
        if isPdf t then ["inline"] else [] :=
    @ObjectResponse.values_contentDisposition { info with contentType := t } _ rfl
  rw [shown, shown, pdf]

theorem Variant.alike {a b : String} (variant : Variant a b) : Alike a b := by
  have same := variant.essence_eq
  refine .of_decisions ?_ ?_ ?_
  · rw [isImage, isImage, same]
  · rw [ImageFormat.ofContentType?, ImageFormat.ofContentType?, same]
  · rw [isPdf, isPdf, same]

/-- A content type of blanks is nothing to any decision, and neither is the fallback. -/
theorem alike_fallback {a : String} (blank : Text.trim a = "") : Alike a fallback := by
  have variant : Variant a "" := blank ▸ .symm (variant_trim a)
  refine variant.alike.trans (.of_decisions ?_ ?_ ?_)
  · decide +kernel
  · decide +kernel
  · decide +kernel

theorem isImage_of_format {a : String} {format : ImageFormat}
    (declared : ImageFormat.ofContentType? a = some format) : isImage a = true := by
  obtain ⟨entry, found, rfl⟩ := Option.map_eq_some_iff.mp declared
  have images : ∀ entry ∈ ImageFormat.registry, Text.startsWith "image/" entry.1 = true := by
    decide +kernel
  have named : entry.1 = essence a := by simpa using List.find?_some found
  rw [isImage, ← named]
  exact images entry (List.mem_of_find?_eq_some found)

/-! ## Uploads -/

/-- An upload trims the content type, and records the fallback when nothing is left. -/
theorem alike_effective (a : String) : Alike a (MediaService.effectiveContentType (some a)) := by
  rw [MediaService.effectiveContentType, Option.map_some]
  change Alike a (if (Text.trim a).toList.isEmpty = true then fallback else Text.trim a)
  split
  next empty =>
    exact alike_fallback (String.toList_eq_nil_iff.mp (List.isEmpty_iff.mp empty))
  next => exact (variant_trim a).symm.alike

/-- The bytes of an image of at most 5 MiB are shown to the decoder before they are stored. -/
theorem prepare_of_isImage {extract : String → ByteArray → Option ImageAttributes}
    {contentType : String} {pieces : List ByteArray} (image : isImage contentType = true)
    (small : (Bytes.join pieces).size ≤ 5 * 1024 * 1024) :
    MediaService.prepare extract contentType (pieces.map .data) =
      .ok (.buffered (Bytes.join pieces),
        ((extract contentType (Bytes.join pieces)).map ImageAttributes.toUserMetadata).getD ∅) := by
  obtain ⟨handed, prepared, handover⟩ := MediaService.prepare_data extract contentType pieces
  rw [prepared]
  cases handover with
  | buffered _ _ => rfl
  | oversized _ large => exact absurd small (Nat.not_le_of_lt large)
  | untouched other => cases image.symm.trans other

theorem extract?_of_format {contentType : String} {format : ImageFormat}
    (declared : ImageFormat.ofContentType? contentType = some format) (bytes : ByteArray) :
    ImageAttributes.extract? contentType bytes =
      (format.decode? bytes).bind ImageAttributes.ofRaster? := by
  rw [ImageAttributes.extract?, ImageFormat.choose?, declared]
  rfl

/-- The essence of a content type is its own essence and that of all its spellings.  So all
decisions are the same about every spelling, before and after an upload has trimmed it, and about
no content type at all.  A content type with a format is one of images: its uploads are shown to
the decoder, and decoded as that format. -/
theorem classification_stable {a b : String} (variant : Variant a b) :
    essence (essence a) = essence a ∧ essence b = essence a ∧ Alike a b ∧
      Alike a (MediaService.effectiveContentType (some b)) ∧
      Alike "" (MediaService.effectiveContentType none) ∧
      ∀ format, ImageFormat.ofContentType? a = some format →
        let recorded := MediaService.effectiveContentType (some b)
        isImage a = true ∧ isImage recorded = true ∧
          (∀ extract pieces, (Bytes.join pieces).size ≤ 5 * 1024 * 1024 →
            MediaService.prepare extract recorded (pieces.map .data) =
              .ok (.buffered (Bytes.join pieces),
                ((extract recorded (Bytes.join pieces)).map ImageAttributes.toUserMetadata).getD ∅)) ∧
          ∀ bytes, ImageAttributes.extract? recorded bytes =
            (format.decode? bytes).bind ImageAttributes.ofRaster? := by
  have recorded_alike : Alike a (MediaService.effectiveContentType (some b)) :=
    variant.alike.trans (alike_effective b)
  refine ⟨essence_essence a, variant.essence_eq, variant.alike, recorded_alike,
    alike_fallback (by decide), fun format declared => ?_⟩
  have image : isImage a = true := isImage_of_format declared
  have recorded_image : isImage (MediaService.effectiveContentType (some b)) = true :=
    recorded_alike.image ▸ image
  have recorded_format : ImageFormat.ofContentType? (MediaService.effectiveContentType (some b)) =
      some format := recorded_alike.format ▸ declared
  exact ⟨image, recorded_image, fun extract pieces small => prepare_of_isImage recorded_image small,
    extract?_of_format recorded_format⟩

/-- An odd spelling of `image/png` is decoded as PNG. -/
theorem classification_stable_of_odd_png :
    Variant "image/PNG" " Image/png\u00A0; q=1" ∧
      isImage (MediaService.effectiveContentType (some " Image/png\u00A0; q=1")) = true ∧
      ∀ bytes, ImageAttributes.extract?
          (MediaService.effectiveContentType (some " Image/png\u00A0; q=1")) bytes =
        (Png.decode? bytes).bind ImageAttributes.ofRaster? := by
  have spelled : Variant "image/PNG" " Image/png\u00A0; q=1" :=
    .trans (.letterCase (by decide : Text.lower "image/PNG" = Text.lower "Image/png"))
      (.trans (@Variant.surrounded "Image/png" " " "\u00A0" (List.all_eq_true.mp (by decide))
          (List.all_eq_true.mp (by decide)))
        (.parameters (" " ++ "Image/png" ++ "\u00A0") " q=1"))
  have png : ImageFormat.ofContentType? "image/PNG" = some .png := by decide +kernel
  obtain ⟨-, -, -, -, -, path⟩ := classification_stable spelled
  obtain ⟨-, image, -, decoded⟩ := path .png png
  exact ⟨spelled, image, decoded⟩

end ContentType

end MediaVault
