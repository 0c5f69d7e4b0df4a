import MediaVault.Proofs.Delivery.Resolution
import MediaVault.Proofs.Http.Percent
import MediaVault.Proofs.Object.Key
import MediaVault.S3.Signer

/-!
# What delivery URLs name

Whoever follows a URL asks for the path in it: what stands behind the base up to the first
`?` or `#`, with its escapes read.  The URLs of the CDN have the key there as it is, and
`cdn_urls_name_objects` says for which keys that is good enough.  A signer of the remote
service escapes the key, so its URLs name every object.
-/

namespace MediaVault

/-! ## Reading a path -/

/-- A path goes on with this character. -/
def isPathChar (c : Char) : Bool :=
  !(c == '?' || c == '#')

/-- What a URL asks for behind its base: up to a `?` or a `#`, with the escapes read. -/
def pathBehind? (base url : String) : Option (List UInt8) :=
  (Text.stripLead? base url).map fun rest =>
    Percent.decode (Text.utf8 (String.ofList (rest.toList.takeWhile isPathChar)))

theorem pathBehind?_append {base path rest : String}
    (within : ∀ c ∈ path.toList, isPathChar c = true)
    (ended : ∀ c ∈ rest.toList.head?, isPathChar c = false) :
    pathBehind? base (base ++ (path ++ rest)) = some (Percent.decode (Text.utf8 path)) := by
  have stops : rest.toList.takeWhile isPathChar = [] := by
    cases written : rest.toList with
    | nil => rfl
    | cons c later => exact List.takeWhile_cons_of_neg (by simp [ended c (by rw [written]; rfl)])
  rw [pathBehind?, Text.stripLead?, String.toList_append, Text.dropLead?_append, Option.map_some,
    Option.map_some, String.toList_ofList, String.toList_append,
    List.takeWhile_append_of_pos within, stops, List.append_nil, String.ofList_toList]

theorem exists_append_path (text : String) :
    ∃ path rest : String, text = path ++ rest ∧ (∀ c ∈ path.toList, isPathChar c = true) ∧
      ∀ c ∈ rest.toList.head?, isPathChar c = false := by
  refine ⟨String.ofList (text.toList.takeWhile isPathChar),
    String.ofList (text.toList.dropWhile isPathChar), ?_, ?_, ?_⟩
  · rw [← String.ofList_append, List.takeWhile_append_dropWhile, String.ofList_toList]
  · rw [String.toList_ofList]
    exact fun c => List.mem_takeWhile_imp
  · intro c first
    rw [String.toList_ofList] at first
    have stopped := List.head?_dropWhile_not isPathChar text.toList
    rw [first] at stopped
    exact stopped

/-! ## Texts that stand for themselves -/

/-- In a path, the text stands for itself. -/
structure IsLiteral (text : String) : Prop where
  path : ∀ c ∈ text.toList, isPathChar c = true
  unescaped : ¬ Percent.HasEscape (Text.utf8 text)

theorem pathBehind?_eq_some_iff {base text : String} :
    pathBehind? base (base ++ text) = some (Text.utf8 text) ↔ IsLiteral text := by
  obtain ⟨path, rest, rfl, within, ended⟩ := exists_append_path text
  rw [pathBehind?_append within ended, Option.some_inj]
  constructor
  · intro same
    -- Cutting the rest off or reading an escape makes a text shorter, so neither happened.
    have lengths := congrArg List.length same
    have shorter := Percent.length_decode_le (Text.utf8 path)
    rw [Text.utf8_append, List.length_append] at lengths
    obtain rfl : rest = "" := Text.utf8_eq_nil_iff.mp (List.eq_nil_of_length_eq_zero (by omega))
    rw [String.append_empty] at same ⊢
    exact ⟨within, (Percent.decode_eq_self_iff _).mp same⟩
  · rintro ⟨whole, unescaped⟩
    have empty : rest = "" := by
      refine String.toList_eq_nil_iff.mp (List.head?_eq_none_iff.mp ?_)
      refine Option.eq_none_iff_forall_ne_some.mpr fun c first => ?_
      have member : c ∈ rest.toList := List.mem_of_head? first
      have inside := whole c (by rw [String.toList_append]; exact List.mem_append_right _ member)
      rw [ended c first] at inside
      cases inside
    subst empty
    rw [String.append_empty] at unescaped ⊢
    exact (Percent.decode_eq_self_iff _).mpr unescaped

theorem isLiteral_append_slash_iff {front back : String} :
    IsLiteral (front ++ "/" ++ back) ↔ IsLiteral front ∧ IsLiteral back := by
  have slash : Text.utf8 "/" = [0x2F] := rfl
  have path_char : isPathChar '/' = true := by decide
  have path : (∀ c ∈ (front ++ "/" ++ back).toList, isPathChar c = true) ↔
      (∀ c ∈ front.toList, isPathChar c = true) ∧ ∀ c ∈ back.toList, isPathChar c = true := by
    simp [or_imp, forall_and, path_char]
  have escape : Percent.HasEscape (Text.utf8 (front ++ "/" ++ back)) ↔
      Percent.HasEscape (Text.utf8 front) ∨ Percent.HasEscape (Text.utf8 back) := by
    rw [Text.utf8_append, Text.utf8_append, slash, List.append_assoc, List.singleton_append,
      Percent.hasEscape_append_slash_iff]
  constructor
  · rintro ⟨inside, unescaped⟩
    rw [path] at inside
    rw [escape, not_or] at unescaped
    exact ⟨⟨inside.1, unescaped.1⟩, ⟨inside.2, unescaped.2⟩⟩
  · rintro ⟨⟨inside, unescaped⟩, ⟨inside_too, unescaped_too⟩⟩
    exact ⟨path.mpr ⟨inside, inside_too⟩, fun escaped =>
      (escape.mp escaped).elim unescaped unescaped_too⟩

theorem isLiteral_of_unmarked {text : String}
    (plain : text.toList.all isPathChar = true) (unmarked : 0x25 ∉ Text.utf8 text) :
    IsLiteral text := by
  refine ⟨List.all_eq_true.mp plain, ?_⟩
  rintro ⟨front, high, low, back, written, -⟩
  exact unmarked (by simp [written])

theorem Resource.isLiteral_key_iff {resource : Resource} :
    IsLiteral ("/" ++ resource.key) ↔ ∀ name ∈ resource.segments, IsLiteral name := by
  have empty : IsLiteral "" := isLiteral_of_unmarked (by decide) (by decide)
  have lead (text : String) : IsLiteral ("/" ++ text) ↔ IsLiteral text := by
    have written : "/" ++ text = "" ++ "/" ++ text := by rw [String.empty_append]
    rw [written, isLiteral_append_slash_iff, and_iff_right empty]
  cases resource with
  | postFile postId fileName =>
    have posts : IsLiteral "posts" := isLiteral_of_unmarked (by decide) (by decide)
    have written : key (.postFile postId fileName) =
        "posts" ++ "/" ++ (postId ++ "/" ++ fileName) := by
      simp [key, ← String.toList_inj]
    rw [lead, written, isLiteral_append_slash_iff, isLiteral_append_slash_iff,
      and_iff_right posts]
    simp [segments]
  | profileImage userId =>
    have profiles : IsLiteral "profiles" := isLiteral_of_unmarked (by decide) (by decide)
    have profile : IsLiteral "profile" := isLiteral_of_unmarked (by decide) (by decide)
    have written : key (.profileImage userId) =
        "profiles" ++ "/" ++ (userId ++ "/" ++ "profile") := by
      simp [key, ← String.toList_inj]
    rw [lead, written, isLiteral_append_slash_iff, isLiteral_append_slash_iff,
      and_iff_right profiles, and_iff_left profile]
    simp [segments]

/-! ## URLs of the remote service -/

namespace S3.Signer

/-- What the paths of all objects start with. -/
def bucketPath (signer : Signer) : String :=
  let base := (splitEndpoint signer.endpoint).2
  (splitEndpoint signer.endpoint).1 ++ (if base = "" then "/" else base) ++ signer.settings.bucket

/-- A signer escapes the key, so what its URL asks for is the key, whatever that holds. -/
theorem pathBehind?_url (signer : Signer) (now : Timestamp) (key : String) (expiry : Duration) :
    pathBehind? signer.bucketPath (signer.url now key expiry) =
      some (Text.utf8 ("/" ++ key)) := by
  let keep (c : Char) : Bool := Percent.isUnreserved c || c == '/'
  have kept (c : Char) (through : keep c = true) : isPathChar c = true := by
    by_contra other
    simp only [isPathChar, Bool.not_eq_true', Bool.not_eq_false, Bool.or_eq_true,
      beq_iff_eq] at other
    rcases other with rfl | rfl
    · exact absurd through (by decide)
    · exact absurd through (by decide)
  have digit : ∀ n < 16, isPathChar (Text.hexDigit n).toUpper = true := by decide
  have within : ∀ c ∈ ("/" ++ Percent.encode keep key).toList, isPathChar c = true := by
    rw [String.toList_append]
    refine List.forall_mem_append.mpr ⟨List.all_eq_true.mp (by decide), fun c member => ?_⟩
    rcases Percent.mem_encode member with rfl | through | ⟨n, small, rfl⟩
    · decide
    · exact kept c through
    · exact digit n small
  let query := "?" ++ queryText (operation :: signer.parameters now expiry) ++
    "&X-Amz-Signature=" ++ signer.signature now key expiry
  have written : signer.url now key expiry =
      signer.bucketPath ++ ("/" ++ Percent.encode keep key ++ query) := by
    simp only [url, objectPath, bucketPath, query, keep, String.append_assoc]
  have slash : Text.utf8 "/" = [0x2F] := rfl
  rw [written, pathBehind?_append within (by simp [query, isPathChar]), Text.utf8_append, slash,
    List.singleton_append, Percent.decode_cons_of_ne (by decide),
    Percent.decode_utf8_encode (by decide), Text.utf8_append, slash, List.singleton_append]

end S3.Signer

/-! ## URLs of the CDN -/

namespace Resolver

variable {cdn : Option String} {base : String}

theorem resolve_of_serves_in {m : Type → Type} [Monad m] (serves : Serves cdn base)
    (publicSigner : Option (UrlSigner m)) (signer : UrlSigner m) (key : String)
    (requested : Duration) :
    (create cdn publicSigner signer).resolve key requested =
      pure { url := base ++ "/" ++ key, source := .cdn, expiresIn := Expiry.clamp requested } := by
  have used : (create cdn publicSigner signer).cdn = some base := usableCdn_eq_some_iff.mpr serves
  rw [resolve, used]

theorem pathBehind?_key_iff {resource : Resource} :
    pathBehind? base (base ++ "/" ++ resource.key) = some (Text.utf8 ("/" ++ resource.key)) ↔
      ∀ name ∈ resource.segments, IsLiteral name := by
  rw [String.append_assoc, pathBehind?_eq_some_iff, Resource.isLiteral_key_iff]

/-- The URL of the CDN asks for the key exactly if all names in the key are texts that a path
holds as they are: without `?`, `#` and escapes.  Two keys of such names never share a path. -/
theorem cdn_urls_name_objects (serves : Serves cdn base) (resource : Resource) :
    ∃ url,
      (∀ (m : Type → Type) [Monad m] (publicSigner : Option (UrlSigner m)) (signer : UrlSigner m)
        (requested : Duration),
        (create cdn publicSigner signer).resolve resource.key requested =
          pure { url := url, source := .cdn, expiresIn := Expiry.clamp requested }) ∧
      (pathBehind? base url = some (Text.utf8 ("/" ++ resource.key)) ↔
        ∀ name ∈ resource.segments, IsLiteral name) ∧
      ∀ other : Resource, (∀ name ∈ resource.segments, IsLiteral name) →
        (∀ name ∈ other.segments, IsLiteral name) →
        (pathBehind? base url = pathBehind? base (base ++ "/" ++ other.key) ↔
          resource.key = other.key) := by
  refine ⟨base ++ "/" ++ resource.key,
    fun m _ publicSigner signer => resolve_of_serves_in serves publicSigner signer resource.key,
    pathBehind?_key_iff, fun other literal literal_other => ?_⟩
  rw [pathBehind?_key_iff.mpr literal, pathBehind?_key_iff.mpr literal_other, Option.some_inj,
    Text.utf8_inj, String.append_right_inj]

/-- Blanks, letters beyond ASCII and a `%` that begins no escape do no harm. -/
theorem cdn_urls_name_objects_with_blanks :
    let setting := " https://cdn.example.com/ "
    let base := "https://cdn.example.com"
    let resource := Resource.postFile "p1" "é 100% +.png"
    let other := Resource.postFile "p1" "é 100% -.png"
    Serves (some setting) base ∧ resource.IsPlain ∧ other.IsPlain ∧
      ∃ url, pathBehind? base url = some (Text.utf8 "/posts/p1/é 100% +.png") ∧
        pathBehind? base url ≠ pathBehind? base (base ++ "/" ++ other.key) := by
  intro setting base resource other
  have serves : Serves (some setting) base := usableCdn_eq_some_iff.mp (by decide)
  have post : IsLiteral "p1" := isLiteral_of_unmarked (by decide) (by decide)
  have file : IsLiteral "é 100% +.png" :=
    ⟨List.all_eq_true.mp (by decide), (Percent.decode_eq_self_iff _).mp (by decide +kernel)⟩
  have file_too : IsLiteral "é 100% -.png" :=
    ⟨List.all_eq_true.mp (by decide), (Percent.decode_eq_self_iff _).mp (by decide +kernel)⟩
  have literal : ∀ name ∈ resource.segments, IsLiteral name := by
    simp [resource, Resource.segments, post, file]
  have literal_too : ∀ name ∈ other.segments, IsLiteral name := by
    simp [other, Resource.segments, post, file_too]
  obtain ⟨url, -, named, shared⟩ := cdn_urls_name_objects serves resource
  exact ⟨serves, Resource.isPlain_of_unrefused (by decide),
    Resource.isPlain_of_unrefused (by decide), url, named.mpr literal,
    fun same => absurd ((shared other literal literal_too).mp same) (by decide)⟩

/-- A question mark ends the path and an escape is read, so these URLs ask for other objects
than they were made for.  The URL that a signer of the remote service makes does not. -/
theorem cdn_urls_miss_objects :
    let base := "https://cdn.example.com"
    let asked := Resource.postFile "p1" "a?b"
    let escaped := Resource.postFile "p1" "a%41"
    let other := Resource.postFile "p1" "aA"
    (Serves (some base) base ∧ asked.IsPlain ∧ escaped.IsPlain ∧ other.IsPlain) ∧
      (∀ (m : Type → Type) [Monad m] (signer : UrlSigner m) (key : String) (requested : Duration),
        (create (some base) none signer).resolve key requested =
          pure { url := base ++ "/" ++ key, source := .cdn, expiresIn := Expiry.clamp requested }) ∧
      pathBehind? base (base ++ "/" ++ asked.key) = some (Text.utf8 "/posts/p1/a") ∧
      (escaped.key ≠ other.key ∧ pathBehind? base (base ++ "/" ++ escaped.key) =
        pathBehind? base (base ++ "/" ++ other.key)) ∧
      ∀ (signer : S3.Signer) (now : Timestamp) (expiry : Duration),
        pathBehind? signer.bucketPath (signer.url now asked.key expiry) =
          some (Text.utf8 ("/" ++ asked.key)) := by
  intro base asked escaped other
  have serves : Serves (some base) base := usableCdn_eq_some_iff.mp (by decide)
  refine ⟨⟨serves, Resource.isPlain_of_unrefused (by decide),
    Resource.isPlain_of_unrefused (by decide), Resource.isPlain_of_unrefused (by decide)⟩, ?_,
    by decide +kernel, ⟨by decide, by decide +kernel⟩, ?_⟩
  · exact fun m _ signer => resolve_of_serves_in serves none signer
  · exact fun signer now expiry => signer.pathBehind?_url now asked.key expiry

end Resolver

end MediaVault
