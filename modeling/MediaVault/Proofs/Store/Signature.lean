import Mathlib
import MediaVault.Proofs.Text
import MediaVault.Store.SecretSigner

/-!
# Signatures bind what they were made for

A signature is the digest of five lines.  The key may hold newlines itself, but
three lines without any come before it and a numeral after it, so the digested
text can be taken apart in one way only (`digestInput_inj`).  `verify` reads a URL
on its own terms, where the key ends at the first question mark and the last
parameter of a name counts; whatever it accepts was signed as it was read.
-/

namespace MediaVault

namespace Text

/-! ## Base64 -/

theorem base64UrlDigit_inj {m n : Nat} (m_lt : m < 64) (n_lt : n < 64)
    (same : base64UrlDigit m = base64UrlDigit n) : m = n := by
  have apart : ∀ m < 64, ∀ n < 64, base64UrlDigit m = base64UrlDigit n → m = n := by
    decide +kernel
  exact apart m m_lt n n_lt same

theorem base64UrlChars_injective : Function.Injective base64UrlChars := by
  intro s
  -- Three bytes at a time; the number of digits left over tells how the text ends.
  induction s using base64UrlChars.induct with
  | case1 =>
    intro t same
    match t with
    | [] => rfl
    | [_] | [_, _] | _ :: _ :: _ :: _ => simp [base64UrlChars] at same
  | case2 a =>
    intro t same
    match t with
    | [] | [_, _] | _ :: _ :: _ :: _ => simp [base64UrlChars] at same
    | [b] =>
      have a_lt := a.toNat_lt
      have b_lt := b.toNat_lt
      simp only [base64UrlChars, List.cons.injEq, and_true] at same
      have high := base64UrlDigit_inj (by omega) (by omega) same.1
      have low := base64UrlDigit_inj (by omega) (by omega) same.2
      rw [UInt8.toNat_inj.mp (by omega : a.toNat = b.toNat)]
  | case3 a b =>
    intro t same
    match t with
    | [] | [_] | _ :: _ :: _ :: _ => simp [base64UrlChars] at same
    | [c, d] =>
      have a_lt := a.toNat_lt
      have b_lt := b.toNat_lt
      have c_lt := c.toNat_lt
      have d_lt := d.toNat_lt
      simp only [base64UrlChars, List.cons.injEq, and_true] at same
      have high := base64UrlDigit_inj (by omega) (by omega) same.1
      have middle := base64UrlDigit_inj (by omega) (by omega) same.2.1
      have low := base64UrlDigit_inj (by omega) (by omega) same.2.2
      rw [UInt8.toNat_inj.mp (by omega : a.toNat = c.toNat),
        UInt8.toNat_inj.mp (by omega : b.toNat = d.toNat)]
  | case4 a b c rest ih =>
    intro t same
    match t with
    | [] | [_] | [_, _] => simp [base64UrlChars] at same
    | d :: e :: f :: others =>
      have a_lt := a.toNat_lt
      have b_lt := b.toNat_lt
      have c_lt := c.toNat_lt
      have d_lt := d.toNat_lt
      have e_lt := e.toNat_lt
      have f_lt := f.toNat_lt
      simp only [base64UrlChars, List.cons.injEq] at same
      have first := base64UrlDigit_inj (by omega) (by omega) same.1
      have second := base64UrlDigit_inj (by omega) (by omega) same.2.1
      have third := base64UrlDigit_inj (by omega) (by omega) same.2.2.1
      have fourth := base64UrlDigit_inj (by omega) (by omega) same.2.2.2.1
      rw [UInt8.toNat_inj.mp (by omega : a.toNat = d.toNat),
        UInt8.toNat_inj.mp (by omega : b.toNat = e.toNat),
        UInt8.toNat_inj.mp (by omega : c.toNat = f.toNat), ih same.2.2.2.2]

theorem base64Url_inj {a b : ByteArray} (same : base64Url a = base64Url b) : a = b := by
  have digits := base64UrlChars_injective (String.ofList_inj.mp same)
  exact ByteArray.ext (Array.toList_inj.mp digits)

/-- Only digits stand in base64, and no digit delimits the parameters of a query. -/
theorem ampersand_not_mem_base64Url (bytes : ByteArray) : '&' ∉ (base64Url bytes).toList := by
  have digit (n : Nat) : '&' ≠ base64UrlDigit n := by
    have within : ∀ n < 64, '&' ≠ base64UrlDigit n := by decide +kernel
    by_cases small : n < 64
    · exact within n small
    · unfold base64UrlDigit
      split_ifs
      all_goals first | omega | decide
  have digits (bytes : List UInt8) : '&' ∉ base64UrlChars bytes := by
    fun_induction base64UrlChars bytes with
    | case1 => exact List.not_mem_nil
    | case2 => simp [digit]
    | case3 => simp [digit]
    | case4 => simp_all
  simpa [base64Url] using digits _

/-! ## Numerals -/

/-- A numeral is written with digits and a minus sign alone. -/
theorem not_mem_toString {c : Char} (no_digit : c.isDigit = false) (no_sign : c ≠ '-') (n : Int) :
    c ∉ (toString n).toList := by
  have digits (m : Nat) : c ∉ m.repr.toList := by
    intro member
    rw [Nat.repr_eq_ofList_toDigits, String.toList_ofList] at member
    have digit := Nat.isDigit_of_mem_toDigits (by decide) (by decide) member
    rw [no_digit] at digit
    cases digit
  rw [Int.toString_eq_repr, Int.repr_eq_if]
  split
  · exact digits _
  · simpa [no_sign] using digits _

end Text

namespace SecretSigner

/-! ## The digested text -/

/-- Secret, host and bucket hold no newline. -/
structure OnLines (signer : SecretSigner) : Prop where
  secret : '\n' ∉ signer.secret.toList
  base : '\n' ∉ signer.base.toList
  bucket : '\n' ∉ signer.bucket.toList

theorem OnLines.create {base bucket secret : String} (secret_line : '\n' ∉ secret.toList)
    (base_line : '\n' ∉ base.toList) (bucket_line : '\n' ∉ bucket.toList) :
    (create base bucket secret).OnLines where
  secret := secret_line
  base := by
    simp only [SecretSigner.create, Text.trimSlashes, Text.stripEnd, String.toList_ofList,
      List.mem_reverse]
    exact fun member => base_line (List.mem_reverse.mp ((List.dropWhile_sublist _).mem member))
  bucket := bucket_line

theorem toList_digestInput (signer : SecretSigner) (host key : String) (expiresAt : Int) :
    (signer.digestInput host key expiresAt).toList =
      signer.secret.toList ++ '\n' :: (host.toList ++ '\n' :: (signer.bucket.toList ++ '\n' ::
        (key.toList ++ '\n' :: (toString expiresAt).toList ++ ['\n']))) := by
  simp [digestInput]

/-- The digested text tells who signs, for which key and until when. -/
theorem digestInput_inj {signer issuer : SecretSigner} (lines : signer.OnLines)
    (other_lines : issuer.OnLines) {key other : String} {expiresAt expiry : Int}
    (same : signer.digestInput signer.base key expiresAt =
      issuer.digestInput issuer.base other expiry) :
    signer = issuer ∧ key = other ∧ expiresAt = expiry := by
  have texts := congrArg String.toList same
  rw [toList_digestInput, toList_digestInput] at texts
  obtain ⟨secrets, texts⟩ := Text.append_sep_inj lines.secret other_lines.secret texts
  obtain ⟨bases, texts⟩ := Text.append_sep_inj lines.base other_lines.base texts
  obtain ⟨buckets, texts⟩ := Text.append_sep_inj lines.bucket other_lines.bucket texts
  -- What is left is the key, which may be anything, and the numeral after its last newline.
  obtain ⟨keys, numerals⟩ := Text.append_last_sep_inj
    (Text.not_mem_toString (by decide) (by decide) _)
    (Text.not_mem_toString (by decide) (by decide) _) (List.append_cancel_right texts)
  have signers : signer = issuer := by
    cases signer
    cases issuer
    simp_all [String.toList_inj]
  have expiries : expiresAt.repr = expiry.repr := String.toList_inj.mp numerals
  exact ⟨signers, String.toList_inj.mp keys, Int.repr_inj.mp expiries⟩

/-! ## What a URL carries -/

/-- The signature that a URL carries under the signer's lead. -/
def signatureIn? (signer : SecretSigner) (url : String) : Option (List Char) :=
  (signer.read? url).bind fun found => found.2.signature

/-- The text that the signer digests when it checks a URL. -/
def checkedInput? (signer : SecretSigner) (url : String) : Option String :=
  (signer.read? url).bind fun found =>
    found.2.expiresAt.map (signer.digestInput signer.base (String.ofList found.1))

theorem Stamp.add_expires (stamp : Stamp) (value : List Char) :
    stamp.add ("X-Expires=".toList ++ value) = { stamp with expiresAt := readExpiry value } := by
  have cut : Text.cutAt '=' ("X-Expires=".toList ++ value) = some ("X-Expires".toList, value) :=
    Text.cutAt_append (by decide : '=' ∉ "X-Expires".toList) value
  rw [Stamp.add, cut]
  exact if_pos rfl

theorem Stamp.add_signature (stamp : Stamp) (value : List Char) :
    stamp.add ("X-Signature=".toList ++ value) = { stamp with signature := some value } := by
  have cut : Text.cutAt '=' ("X-Signature=".toList ++ value) =
      some ("X-Signature".toList, value) :=
    Text.cutAt_append (by decide : '=' ∉ "X-Signature".toList) value
  rw [Stamp.add, cut]
  exact (if_neg (by decide)).trans (if_pos rfl)

/-- Whatever comes before it, the last parameter is the signature that counts. -/
theorem Stamp.signature_ofQuery (query : List Char) {value : List Char} (plain : '&' ∉ value) :
    (ofQuery (query ++ '&' :: ("X-Signature=".toList ++ value))).signature = some value := by
  have pair : '&' ∉ "X-Signature=".toList ++ value := by simpa using plain
  rw [ofQuery, List.splitOn_append_cons_self, List.splitOn_eq_singleton pair, List.foldl_append]
  exact congrArg Stamp.signature (add_signature _ value)

/-- An issued URL carries the signature it was given, for every key. -/
theorem signatureIn?_urlAt (signer : SecretSigner) (key : String) (expiresAt : Int) :
    signer.signatureIn? (signer.urlAt key expiresAt) =
      some (signer.signature signer.base key expiresAt).toList := by
  let front := key.toList ++ "?X-Expires=".toList ++ (toString expiresAt).toList
  let back := '&' :: ("X-Signature=".toList ++ (signer.signature signer.base key expiresAt).toList)
  have written : (signer.urlAt key expiresAt).toList = signer.lead.toList ++ (front ++ back) := by
    simp [urlAt, front, back]
  -- A question mark in the key moves more of the URL into the query, but not its end.
  obtain ⟨read, query, cut⟩ := Text.cutAt_append_of_mem (by simp [front] : '?' ∈ front) back
  rw [signatureIn?, read?, written, Text.dropLead?_append]
  simp only [Option.bind_eq_bind, Option.bind_some, cut, Option.pure_def]
  exact Stamp.signature_ofQuery query (Text.ampersand_not_mem_base64Url _)

/-- A URL is accepted when the signature read from it is the one for the key and
the expiry read from it. -/
theorem verify_eq_true_iff {signer : SecretSigner} {now : Int} {url : String} :
    signer.verify now url = true ↔
      ∃ key expiresAt, signer.read? url = some (key, ⟨some expiresAt,
          some (signer.signature signer.base (String.ofList key) expiresAt).toList⟩) ∧
        now < expiresAt := by
  rw [verify]
  rcases signer.read? url with _ | ⟨key, _ | expiresAt, _ | signature⟩
  · simp
  · simp
  · simp
  · simp
  · simp [← String.toList_inj]

/-! ## Accepted URLs -/

/-- The digested bytes that decide whether a signature issued for `key` until
`expiresAt` is accepted with `url`. -/
def digestedFor (signer issuer : SecretSigner) (url key : String) (expiresAt : Int) :
    Set ByteArray :=
  String.toUTF8 '' {text | signer.checkedInput? url = some text ∨
    text = issuer.digestInput issuer.base key expiresAt}

/-- Unless digests collide, a URL that is accepted with an issued signature is read
as what that signature was issued for: no host, bucket, key or expiry but the one
that was signed is ever accepted with it. -/
theorem signed_urls_unalterable {signer issuer : SecretSigner} (lines : signer.OnLines)
    (issuer_lines : issuer.OnLines) {now issuedAt : Int} {key url issued : String}
    {expiry : Duration} (presigned : issuer.presign issuedAt key expiry = .ok issued)
    (carried : signer.signatureIn? url = issuer.signatureIn? issued)
    (accepted : signer.verify now url = true)
    (collision_free : Set.InjOn Digest.md5
      (signer.digestedFor issuer url key (issuedAt + expiry.milliseconds))) :
    signer.base = issuer.base ∧ signer.bucket = issuer.bucket ∧
      ∃ stamp, signer.read? url = some (key.toList, stamp) ∧
        stamp.expiresAt = some (issuedAt + expiry.milliseconds) := by
  have written : issued = issuer.urlAt key (issuedAt + expiry.milliseconds) := by
    rw [presign] at presigned
    split at presigned
    · exact (Except.ok.inj presigned).symm
    · cases presigned
  obtain ⟨found, expiresAt, read, -⟩ := verify_eq_true_iff.mp accepted
  have checked : signer.checkedInput? url =
      some (signer.digestInput signer.base (String.ofList found) expiresAt) := by
    simp [checkedInput?, read]
  -- The signatures agree, hence the digests, hence the digested texts.
  have signatures : signer.signature signer.base (String.ofList found) expiresAt =
      issuer.signature issuer.base key (issuedAt + expiry.milliseconds) := by
    rw [written, signatureIn?_urlAt, signatureIn?, read] at carried
    exact String.toList_inj.mp (Option.some.inj carried)
  have bytes := collision_free (Set.mem_image_of_mem _ (.inl checked))
    (Set.mem_image_of_mem _ (.inr rfl)) (Text.base64Url_inj signatures)
  obtain ⟨signers, keys, expiries⟩ := digestInput_inj lines issuer_lines
    (String.toByteArray_inj.mp bytes)
  rw [← keys, String.toList_ofList]
  exact ⟨by rw [signers], by rw [signers], _, read, congrArg some expiries⟩

/-- A URL rewritten with further parameters and another spelling of the expiry is
still accepted, for the key and the expiry that were signed. -/
theorem signed_urls_unalterable_repeated_parameters :
    let signer := create "https://m.example/" "media" "s3cret"
    let issuer := create "https://m.example" "media" "s3cret"
    let url := "https://m.example/media/a\nb&c=d" ++
      "?X-Signature=old&X-Expires=+01600&X-Signature=zDuO6sjOHqnlldMYD5qLZQ"
    (∃ issued, issuer.presign 1000 "a\nb&c=d" ⟨600000000⟩ = .ok issued ∧
      signer.signatureIn? url = issuer.signatureIn? issued) ∧
    signer.verify 1000 url = true ∧
    ∃ stamp, signer.read? url = some ("a\nb&c=d".toList, stamp) ∧
      stamp.expiresAt = some 1600 := by
  intro signer issuer url
  have presigned : issuer.presign 1000 "a\nb&c=d" ⟨600000000⟩ =
      .ok (issuer.urlAt "a\nb&c=d" 1600) := rfl
  have carried : signer.signatureIn? url =
      issuer.signatureIn? (issuer.urlAt "a\nb&c=d" 1600) := by
    decide +kernel
  have accepted : signer.verify 1000 url = true := by decide +kernel
  have checked : signer.checkedInput? url =
      some (issuer.digestInput issuer.base "a\nb&c=d" 1600) := by
    decide +kernel
  have collision_free :
      Set.InjOn Digest.md5 (signer.digestedFor issuer url "a\nb&c=d" 1600) := by
    simp [digestedFor, checked, Set.InjOn, eq_comm]
  exact ⟨⟨_, presigned, carried⟩, accepted,
    (signed_urls_unalterable (.create (by decide) (by decide) (by decide))
      (.create (by decide) (by decide) (by decide)) presigned carried accepted
      collision_free).2.2⟩

end SecretSigner

end MediaVault
