import MediaVault.Proofs.Api.Answers
import MediaVault.Proofs.Object.Attributes

/-!
# Stored attributes in response headers

The headers of an object are filled from texts that clients and stores supply.  Each text goes
out as it is or not at all, under a name that no text can change, so none of them can begin a
header of its own.  `Response.Describes` says for every header when it is there and with which
text; what a text may hold is said in bytes, and which metadata entry counts in the order of the
entries.
-/

namespace MediaVault

/-! ## Texts that may be sent -/

/-- No byte of the text is a control character, tabs apart. -/
def HeaderValue.IsClean (text : String) : Prop :=
  ∀ b ∈ Text.utf8 text, b = 0x09 ∨ 0x20 ≤ b ∧ b ≠ 0x7F

instance (text : String) : Decidable (HeaderValue.IsClean text) :=
  inferInstanceAs (Decidable (∀ b ∈ Text.utf8 text, b = 0x09 ∨ 0x20 ≤ b ∧ b ≠ 0x7F))

theorem HeaderValue.ofText?_eq_some_iff_isClean {value text : String} :
    ofText? value = some text ↔ value = text ∧ IsClean text := by
  have clean : (Text.utf8 value).all isAllowed = true ↔ IsClean value := by
    simp [IsClean, isAllowed]
  rw [ofText?]
  by_cases allowed : (Text.utf8 value).all isAllowed = true
  · rw [if_pos allowed, Option.some.injEq]
    constructor
    · rintro rfl
      exact ⟨rfl, clean.mp allowed⟩
    · exact And.left
  · rw [if_neg allowed]
    constructor
    · intro passed
      cases passed
    · rintro ⟨rfl, sendable⟩
      exact absurd (clean.mpr sendable) allowed

/-! ## Entries of the metadata -/

namespace UserMetadata

/-- Of the entries whose name is `name` in some letter case, the first has this value. -/
def FirstEntry (entries : UserMetadata) (name value : String) : Prop :=
  ∃ before spelled after, entries.toList = before ++ (spelled, value) :: after ∧
    Text.lower spelled = Text.lower name ∧
    ∀ entry ∈ before, Text.lower entry.1 ≠ Text.lower name

theorem lookup?_eq_some_iff {entries : UserMetadata} {name value : String} :
    entries.lookup? name = some value ↔ entries.FirstEntry name value :=
  Text.find?_sameIgnoringCase_eq_some_iff

end UserMetadata

/-! ## Documents shown in place -/

namespace ContentType

/-- Up to its parameters and between blanks, the content type is `application/pdf` in some
letter case. -/
def NamesPdf (contentType : String) : Prop :=
  ∃ front kind back parameters : List Char,
    contentType.toList = front ++ kind ++ back ++ parameters ∧
    (∀ c ∈ front, Text.isBlank c = true) ∧ (∀ c ∈ back, Text.isBlank c = true) ∧
    Text.lowerChars kind = "application/pdf".toList ∧
    (parameters = [] ∨ ∃ rest, parameters = ';' :: rest)

/-- Blanks and parameters are all that is cut off a content type. -/
theorem trimChars_takeWhile_append {front kind back parameters : List Char}
    (before : ∀ c ∈ front, Text.isBlank c = true) (behind : ∀ c ∈ back, Text.isBlank c = true)
    (whole : ';' ∉ kind) (first : ∀ c ∈ kind.head?, Text.isBlank c = false)
    (last : ∀ c ∈ kind.getLast?, Text.isBlank c = false)
    (cut : parameters = [] ∨ ∃ rest, parameters = ';' :: rest) :
    Text.trimChars ((front ++ kind ++ back ++ parameters).takeWhile (· != ';')) = kind := by
  have unblank {c : Char} (blank : Text.isBlank c = true) : c ≠ ';' := by
    rintro rfl
    cases blank
  have inside : ∀ c ∈ front ++ kind ++ back, (c != ';') = true := by
    intro c member
    simp only [List.mem_append] at member
    rw [bne_iff_ne]
    rcases member with (member | member) | member
    · exact unblank (before c member)
    · exact fun same => whole (same ▸ member)
    · exact unblank (behind c member)
  have stops : parameters.takeWhile (· != ';') = [] := by
    rcases cut with rfl | ⟨rest, rfl⟩
    · rfl
    · rfl
  rw [List.takeWhile_append_of_pos inside, stops, List.append_nil]
  exact Text.stripBoth_append before behind first last

theorem isPdf_iff_trimmed {contentType : String} : isPdf contentType = true ↔
    Text.lowerChars (Text.trimChars (contentType.toList.takeWhile (· != ';'))) =
      "application/pdf".toList := by
  rw [isPdf, beq_iff_eq, essence, essenceChars, ← String.toList_inj, String.toList_ofList]

/-- What is cut off is nothing or begins with a semicolon. -/
theorem parameters_cases (s : List Char) :
    s.dropWhile (· != ';') = [] ∨ ∃ rest, s.dropWhile (· != ';') = ';' :: rest := by
  cases parameters : s.dropWhile (· != ';') with
  | nil => exact .inl rfl
  | cons c rest =>
    have stopped := List.head?_dropWhile_not (· != ';') s
    rw [parameters] at stopped
    have semicolon : c = ';' := by simpa using stopped
    exact .inr ⟨rest, by rw [semicolon]⟩

theorem namesPdf_of_isPdf {contentType : String} (pdf : isPdf contentType = true) :
    NamesPdf contentType := by
  have named := isPdf_iff_trimmed.mp pdf
  obtain ⟨front, back, written, before, behind, -, -⟩ :=
    Text.exists_append_stripBoth Text.isBlank (contentType.toList.takeWhile (· != ';'))
  refine ⟨front, _, back, contentType.toList.dropWhile (· != ';'), ?_, before, behind, named, ?_⟩
  · change _ = front ++ Text.stripBoth Text.isBlank _ ++ back ++ _
    rw [← written, List.takeWhile_append_dropWhile]
  · exact parameters_cases contentType.toList

theorem NamesPdf.isPdf {contentType : String} (pdf : NamesPdf contentType) :
    isPdf contentType = true := by
  obtain ⟨front, kind, back, parameters, written, before, behind, named, cut⟩ := pdf
  -- The essence begins and ends with letters in any case, so trimming stops there.
  have letter {c d : Char} (lowered : c.toLower = d) (unblank : Text.isBlank d = false) :
      Text.isBlank c = false := by
    rw [← Text.isBlank_toLower, lowered]
    exact unblank
  have first : kind.head?.map Char.toLower = some 'a' := by
    rw [← List.head?_map, ← Text.lowerChars, named]
    decide
  have last : kind.getLast?.map Char.toLower = some 'f' := by
    rw [← List.getLast?_map, ← Text.lowerChars, named]
    decide
  rw [isPdf_iff_trimmed, written, trimChars_takeWhile_append before behind ?_ ?_ ?_ cut, named]
  · intro member
    have lowered : ';' ∈ Text.lowerChars kind := List.mem_map.mpr ⟨';', member, rfl⟩
    rw [named] at lowered
    revert lowered
    decide
  · intro c found
    rw [Option.mem_def] at found
    exact letter (by simpa [found] using first) (by decide)
  · intro c found
    rw [Option.mem_def] at found
    exact letter (by simpa [found] using last) (by decide)

theorem isPdf_iff {contentType : String} : isPdf contentType = true ↔ NamesPdf contentType :=
  ⟨namesPdf_of_isPdf, NamesPdf.isPdf⟩

end ContentType

/-! ## The headers of an object -/

/-- The header is sent once, with the text that is its source and is clean; without such a text
it is left out. -/
structure Response.Mirrors (response : Response) (name : String) (source : String → Prop) :
    Prop where
  sent : ∀ text, response.values name = [text] ↔ source text ∧ HeaderValue.IsClean text
  omitted : response.values name = [] ↔ ¬ ∃ text, source text ∧ HeaderValue.IsClean text

/-- The headers are those of an object, and nothing else is in them. -/
structure Response.Describes (response : Response) (info : ObjectInfo) : Prop where
  clean : ∀ header ∈ response.headers, HeaderValue.IsClean header.2
  known : ∀ header ∈ response.headers, header.1 ∈ ObjectResponse.headerNames
  type : HeaderValue.IsClean info.contentType →
    response.values "content-type" = [info.contentType]
  fallback : ¬ HeaderValue.IsClean info.contentType →
    response.values "content-type" = ["application/octet-stream"]
  length : ∃ n : Nat, (n : Int) = max info.size 0 ∧
    response.values "content-length" = [toString n]
  etag : response.Mirrors "etag" fun text => text = "\"" ++ info.etag ++ "\""
  lastModified : response.Mirrors "last-modified" fun text => text = info.lastModified.httpDate
  cacheControl : response.Mirrors "cache-control" fun text => info.cacheControl = some text
  blurhash : response.Mirrors "x-blurhash" fun text =>
    info.userMetadata.FirstEntry "x-blurhash" text ∧ text ≠ ""
  width : response.Mirrors "x-image-width" fun text =>
    info.userMetadata.FirstEntry "x-width" text ∧ text ≠ ""
  height : response.Mirrors "x-image-height" fun text =>
    info.userMetadata.FirstEntry "x-height" text ∧ text ≠ ""
  shown : response.values "content-disposition" = ["inline"] ↔
    ContentType.NamesPdf info.contentType
  unshown : response.values "content-disposition" = [] ↔
    ¬ ContentType.NamesPdf info.contentType

theorem Response.mirrors_of_values {response : Response} {name : String} {value : Option String}
    {source : String → Prop}
    (values : response.values name = (value.bind HeaderValue.ofText?).toList)
    (told : ∀ text, value = some text ↔ source text) : response.Mirrors name source := by
  have passed (text : String) :
      value.bind HeaderValue.ofText? = some text ↔ source text ∧ HeaderValue.IsClean text := by
    simp only [Option.bind_eq_some_iff, HeaderValue.ofText?_eq_some_iff_isClean, told]
    constructor
    · rintro ⟨_, here, rfl, clean⟩
      exact ⟨here, clean⟩
    · rintro ⟨here, clean⟩
      exact ⟨text, here, rfl, clean⟩
  constructor
  · intro text
    rw [values, Option.toList_eq_singleton_iff, passed]
  · simp only [values, Option.toList_eq_nil_iff, ← passed, Option.eq_none_iff_forall_ne_some,
      not_exists, ne_eq]

namespace ObjectResponse

variable {info : ObjectInfo}

theorem metadataValue?_eq_some_iff {name text : String} :
    metadataValue? info name = some text ↔ info.userMetadata.FirstEntry name text ∧ text ≠ "" := by
  have filled : (!text.toList.isEmpty) = true ↔ text ≠ "" := by simp
  rw [metadataValue?, Option.filter_eq_some_iff, UserMetadata.lookup?_eq_some_iff, filled]

theorem mem_headers {header : String × String} (member : header ∈ headers info) :
    ∃ value, (header.1, some value) ∈ sources info ∧ HeaderValue.ofText? value = some header.2 := by
  rw [headers_eq_flatMap, List.mem_flatMap] at member
  obtain ⟨⟨name, value⟩, listed, among⟩ := member
  rw [header?] at among
  split at among
  next text passed =>
    obtain rfl := List.mem_singleton.mp among
    obtain ⟨source, rfl, sendable⟩ := Option.bind_eq_some_iff.mp passed
    exact ⟨source, listed, sendable⟩
  next => cases among

theorem contentType_of_isClean (clean : HeaderValue.IsClean info.contentType) :
    contentType info = info.contentType := by
  rw [contentType, HeaderValue.ofText?_eq_some_iff_isClean.mpr ⟨rfl, clean⟩, Option.getD_some]

theorem contentType_of_not_isClean (unclean : ¬ HeaderValue.IsClean info.contentType) :
    contentType info = "application/octet-stream" := by
  have refused : HeaderValue.ofText? info.contentType = none := by
    refine Option.eq_none_iff_forall_ne_some.mpr fun text sendable => ?_
    obtain ⟨rfl, clean⟩ := HeaderValue.ofText?_eq_some_iff_isClean.mp sendable
    exact unclean clean
  rw [contentType, refused]
  rfl

section

variable {response : Response} (described : response.headers = headers info)

include described

theorem values_contentType : response.values "content-type" = [contentType info] := by
  have listed : ("content-type", some (contentType info)) ∈ sources info := by simp [sources]
  rw [values_of_source described listed, Option.bind_some, ofText?_contentType, Option.toList_some]

theorem values_contentDisposition :
    response.values "content-disposition" =
      if ContentType.isPdf info.contentType then ["inline"] else [] := by
  have listed : ("content-disposition",
      if ContentType.isPdf info.contentType then some "inline" else none) ∈ sources info := by
    simp [sources]
  rw [values_of_source described listed]
  split
  · rfl
  · rfl

theorem mirrors_of_source {name : String} {value : Option String} {source : String → Prop}
    (told : ∀ text, value = some text ↔ source text) (listed : (name, value) ∈ sources info) :
    response.Mirrors name source :=
  Response.mirrors_of_values (values_of_source described listed) told

theorem describes_of_headers : response.Describes info where
  clean := by
    intro header member
    obtain ⟨value, -, sendable⟩ := mem_headers (described ▸ member)
    obtain ⟨rfl, clean⟩ := HeaderValue.ofText?_eq_some_iff_isClean.mp sendable
    exact clean
  known := by
    intro header member
    obtain ⟨value, listed, -⟩ := mem_headers (described ▸ member)
    have named : header.1 ∈ (sources info).map Prod.fst := List.mem_map.mpr ⟨_, listed, rfl⟩
    exact named
  type := by
    intro clean
    rw [values_contentType described, contentType_of_isClean clean]
  fallback := by
    intro unclean
    rw [values_contentType described, contentType_of_not_isClean unclean]
  length := ⟨info.size.toNat, by omega, values_length described⟩
  etag := mirrors_of_source described (fun _ => Option.some_inj.trans eq_comm) (by simp [sources])
  lastModified :=
    mirrors_of_source described (fun _ => Option.some_inj.trans eq_comm) (by simp [sources])
  cacheControl := mirrors_of_source described (fun _ => Iff.rfl) (by simp [sources])
  blurhash :=
    mirrors_of_source described (fun _ => metadataValue?_eq_some_iff) (by
      simp [sources, ImageAttributes.blurhashName])
  width :=
    mirrors_of_source described (fun _ => metadataValue?_eq_some_iff) (by
      simp [sources, ImageAttributes.widthName])
  height :=
    mirrors_of_source described (fun _ => metadataValue?_eq_some_iff) (by
      simp [sources, ImageAttributes.heightName])
  shown := by
    rw [values_contentDisposition described, ← ContentType.isPdf_iff]
    split <;> simp_all
  unshown := by
    rw [values_contentDisposition described, ← ContentType.isPdf_iff]
    split <;> simp_all

end

/-- Whatever texts are stored with an object, with or without its content, its headers are those
that describe it: each is sent at most once, verbatim and without control characters. -/
theorem stored_attributes_inject_nothing (info : ObjectInfo) :
    (headOnly info).Describes info ∧ ∀ bytes, (full ⟨info, bytes⟩).Describes info :=
  ⟨describes_of_headers rfl, fun _ => describes_of_headers rfl⟩

/-- Line breaks in stored texts: the type is replaced, the tag is left out, and what is harmless
goes out beside them. -/
theorem stored_attributes_inject_nothing_with_line_breaks :
    let info : ObjectInfo :=
      { key := "posts/p1/a", contentType := "application/PDF;\r\nx-admin: 1", size := -1
        etag := "a\r\nset-cookie: b", lastModified := Timestamp.epoch
        cacheControl := some "no-store", userMetadata := ∅ }
    ¬ HeaderValue.IsClean info.contentType ∧
      (headOnly info).values "content-type" = ["application/octet-stream"] ∧
      (headOnly info).values "etag" = [] ∧ (headOnly info).values "cache-control" = ["no-store"] ∧
      (headOnly info).values "content-disposition" = ["inline"] := by
  intro info
  have unclean : ¬ HeaderValue.IsClean info.contentType := by decide +kernel
  have pdf : ContentType.NamesPdf info.contentType :=
    ⟨[], "application/PDF".toList, [], ";\r\nx-admin: 1".toList, by decide, by simp, by simp,
      by decide, .inr ⟨"\r\nx-admin: 1".toList, by decide⟩⟩
  have described := (stored_attributes_inject_nothing info).1
  refine ⟨unclean, described.fallback unclean, described.etag.omitted.mpr ?_,
    (described.cacheControl.sent "no-store").mpr ⟨rfl, by decide +kernel⟩,
    described.shown.mpr pdf⟩
  rintro ⟨_, rfl, clean⟩
  revert clean
  decide +kernel

end ObjectResponse

end MediaVault
