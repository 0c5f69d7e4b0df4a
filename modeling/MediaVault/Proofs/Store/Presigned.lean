import MediaVault.Proofs.Delivery.Expiry
import MediaVault.Proofs.Store.Signature
import MediaVault.Time.Timestamp

/-!
# Signed URLs hold until they expire

A signer writes a URL as one flat text and a verifier takes it apart again:
`read?_urlAt` says that it gets back the key, the expiry and the signature, as long as
the key has no question mark and the expiry can be held.  So a URL is accepted until
its expiry and no longer.  With the expiry clamped, no moment on the calendar is too
late for signing.
-/

namespace MediaVault

/-! ## Moments with a date -/

/-- The moment has a date: the calendar has the years from -262144 to 262143, and no
second is longer than a leap second. -/
structure Timestamp.OnCalendar (t : Timestamp) : Prop where
  from_first : -262144 ≤ (CivilDay.ofDays t.days).year
  to_last : (CivilDay.ofDays t.days).year ≤ 262143
  fraction : t.nanoseconds < 2 * Duration.perSecond

/-- Years are counted within eras of 400 years, which begin at the same day. -/
theorem CivilDay.year_ofDays_bounds (days : Int) :
    let era := (days + 719468) / 146097
    era * 400 ≤ (ofDays days).year ∧ (ofDays days).year ≤ era * 400 + 401 := by
  intro era
  have floor : (days + 719468).fdiv 146097 = era := Int.fdiv_eq_ediv_of_nonneg _ (by decide)
  have rest : (days + 719468).fmod 146097 = (days + 719468) % 146097 :=
    Int.fmod_eq_emod_of_nonneg _ (by decide)
  have day_of_era : ((days + 719468) % 146097).toNat < 146097 := by omega
  simp only [ofDays, floor, rest]
  generalize ((days + 719468) % 146097).toNat = day at day_of_era
  split <;> omega

theorem Timestamp.OnCalendar.milliseconds_bounds {t : Timestamp} (dated : t.OnCalendar) :
    -8400000000000000 < t.milliseconds ∧ t.milliseconds < 8400000000000000 := by
  have first := dated.from_first
  have last := dated.to_last
  have fraction := dated.fraction
  have within := CivilDay.year_ofDays_bounds t.days
  have day : t.days = t.seconds / 86400 := Int.fdiv_eq_ediv_of_nonneg _ (by decide)
  simp only [Duration.perSecond] at fraction
  simp only [Timestamp.milliseconds]
  omega

namespace SecretSigner

/-! ## Reading what was written -/

theorem readExpiry_toString {n : Int} (low : -(maxMilliseconds + 1 : Int) ≤ n)
    (high : n ≤ maxMilliseconds) : readExpiry (toString n).toList = some n := by
  rw [readExpiry, Text.readInteger_toString low high]
  rfl

/-- The query of a signed URL, taken apart. -/
theorem Stamp.ofQuery_written {n : Int} (low : -(maxMilliseconds + 1 : Int) ≤ n)
    (high : n ≤ maxMilliseconds) {signature : List Char} (plain : '&' ∉ signature) :
    ofQuery ("X-Expires=".toList ++ (toString n).toList ++
      '&' :: ("X-Signature=".toList ++ signature)) = ⟨some n, some signature⟩ := by
  have numeral : '&' ∉ "X-Expires=".toList ++ (toString n).toList := by
    simpa using Text.not_mem_toString (by decide) (by decide) n
  have pair : '&' ∉ "X-Signature=".toList ++ signature := by simpa using plain
  rw [ofQuery, List.splitOn_append_cons_self, List.splitOn_eq_singleton numeral,
    List.splitOn_eq_singleton pair]
  simp only [List.cons_append, List.nil_append, List.foldl_cons, List.foldl_nil]
  rw [add_expires, add_signature, readExpiry_toString low high]

variable {signer : SecretSigner} {key : String} {expiresAt : Int}

/-- A verifier reads a URL as it was written, unless the key holds a question mark. -/
theorem read?_urlAt (plain : '?' ∉ key.toList) (low : -(maxMilliseconds + 1 : Int) ≤ expiresAt)
    (high : expiresAt ≤ maxMilliseconds) :
    signer.read? (signer.urlAt key expiresAt) = some (key.toList,
      ⟨some expiresAt, some (signer.signature signer.base key expiresAt).toList⟩) := by
  let query := "X-Expires=".toList ++ (toString expiresAt).toList ++
    '&' :: ("X-Signature=".toList ++ (signer.signature signer.base key expiresAt).toList)
  have written : (signer.urlAt key expiresAt).toList =
      signer.lead.toList ++ (key.toList ++ '?' :: query) := by
    simp [urlAt, query]
  rw [read?, written, Text.dropLead?_append]
  simp only [Option.bind_eq_bind, Option.bind_some, Text.cutAt_append plain, Option.pure_def]
  exact congrArg (fun stamp => some (key.toList, stamp))
    (Stamp.ofQuery_written low high (Text.ampersand_not_mem_base64Url _))

theorem verify_urlAt (plain : '?' ∉ key.toList) (low : -(maxMilliseconds + 1 : Int) ≤ expiresAt)
    (high : expiresAt ≤ maxMilliseconds) (now : Int) :
    signer.verify now (signer.urlAt key expiresAt) = true ↔ now < expiresAt := by
  rw [verify_eq_true_iff, read?_urlAt plain low high]
  constructor
  · rintro ⟨found, expiry, same, early⟩
    have stamps := (Prod.mk.inj (Option.some.inj same)).2
    obtain rfl : expiresAt = expiry := Option.some.inj (congrArg Stamp.expiresAt stamps)
    exact early
  · intro early
    exact ⟨key.toList, expiresAt, by rw [String.ofList_toList], early⟩

/-! ## Signing -/

theorem presign_of_le {expiry : Duration} (short : expiry.milliseconds ≤ maxMilliseconds)
    (signer : SecretSigner) (now : Int) (key : String) :
    signer.presign now key expiry = .ok (signer.urlAt key (now + expiry.milliseconds)) :=
  if_pos short

theorem milliseconds_clamp_le (requested : Duration) :
    (Expiry.clamp requested).milliseconds ≤ 604800000 := by
  have bounds := Expiry.clamp_bounds requested
  have week : Expiry.longest.nanoseconds = 604800000 * 1000000 := by decide
  simp only [Duration.milliseconds]
  omega

/-- A URL that is signed for a key without a question mark is accepted by every signer
with the same base, bucket and secret until it expires, to the millisecond, and never
after.  An expiry that was clamped is never out of range, and no moment on the calendar
is so late that the expiry could not be held. -/
theorem signed_urls_hold_until_expiry (base bucket secret key : String) :
    let issuer := create base bucket secret
    (∀ (issuedAt : Int) (expiry : Duration), '?' ∉ key.toList →
      -(maxMilliseconds + 1 : Int) ≤ issuedAt → expiry.milliseconds ≤ maxMilliseconds →
      issuedAt + expiry.milliseconds ≤ maxMilliseconds →
      ∃ url, issuer.presign issuedAt key expiry = .ok url ∧
        ∀ verifier : SecretSigner, verifier.base = Text.trimSlashes base →
          verifier.bucket = bucket → verifier.secret = secret →
          ∀ now, verifier.verify now url = true ↔ now < issuedAt + expiry.milliseconds) ∧
    ∀ (now : Timestamp) (requested : Duration), now.OnCalendar →
      (∃ url, issuer.presign now.milliseconds key (Expiry.clamp requested) = .ok url) ∧
      -(maxMilliseconds + 1 : Int) ≤ now.milliseconds + (Expiry.clamp requested).milliseconds ∧
      now.milliseconds + (Expiry.clamp requested).milliseconds ≤ maxMilliseconds := by
  intro issuer
  constructor
  · intro issuedAt expiry plain low short high
    refine ⟨_, presign_of_le short issuer issuedAt key, ?_⟩
    rintro ⟨_, _, _⟩ rfl rfl rfl now
    exact verify_urlAt plain (by omega) high now
  · intro now requested dated
    have most : maxMilliseconds = 9223372036854775807 := by decide
    have bounds := dated.milliseconds_bounds
    have week := milliseconds_clamp_le requested
    exact ⟨⟨_, presign_of_le (by omega) issuer _ key⟩, by omega, by omega⟩

/-- A URL of not quite two milliseconds, signed before 1970, and one for ever. -/
theorem signed_urls_hold_until_expiry_before_epoch :
    let issuer := create "https://m.example//" "me?dia" "s3cret"
    let verifier := create "https://m.example" "me?dia" "s3cret"
    let key := "a&X-Expires=9"
    '?' ∉ key.toList ∧
    (∃ url, issuer.presign (-5) key ⟨1999999⟩ = .ok url ∧ verifier.verify (-5) url = true ∧
      ¬ verifier.verify (-4) url = true) ∧
    Timestamp.epoch.OnCalendar ∧
    ∃ url, issuer.presign Timestamp.epoch.milliseconds key
      (Expiry.clamp (Duration.ofSeconds 18446744073709551615)) = .ok url := by
  intro issuer verifier key
  have plain : '?' ∉ key.toList := by decide
  have dated : Timestamp.epoch.OnCalendar := ⟨by decide, by decide, by decide⟩
  obtain ⟨holds, in_range⟩ :=
    signed_urls_hold_until_expiry "https://m.example//" "me?dia" "s3cret" key
  obtain ⟨url, signed, accepted⟩ :=
    holds (-5) ⟨1999999⟩ plain (by decide) (by decide) (by decide)
  have until_expiry := accepted verifier (by decide) rfl rfl
  exact ⟨plain, ⟨url, signed, (until_expiry (-5)).mpr (by decide),
    fun late => absurd ((until_expiry (-4)).mp late) (by decide)⟩, dated,
    (in_range _ _ dated).1⟩

end SecretSigner

end MediaVault
