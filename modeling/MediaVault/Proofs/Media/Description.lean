import MediaVault.Assembly
import MediaVault.Proofs.Delivery.Resolution
import MediaVault.Store.Faults

/-!
# Descriptions and delivery URLs

A description is made of two things that know nothing of each other: what the store says of
the object, and the URL that the resolver makes for its key.  To tell them apart, the store
acts here on a state of its own and the signers on another, their clock included.
-/

namespace MediaVault

/-! ## Two states side by side -/

section

variable {σ τ ε α : Type}

/-- Act on the first of two states. -/
def onFirst (action : ExceptT ε (StateM σ) α) : ExceptT ε (StateM (σ × τ)) α :=
  ExceptT.mk fun before =>
    let run := action.run.run before.1
    (run.1, (run.2, before.2))

def onSecond (action : ExceptT ε (StateM τ) α) : ExceptT ε (StateM (σ × τ)) α :=
  ExceptT.mk fun before =>
    let run := action.run.run before.2
    (run.1, (before.1, run.2))

theorem Ends.onFirst {action : ExceptT ε (StateM σ) α} {before after : σ} {out : Except ε α}
    (ended : Ends action before out after) (beside : τ) :
    Ends (onFirst action) (before, beside) out (after, beside) := by
  change ((action.run.run before).1, ((action.run.run before).2, beside)) = _
  rw [show action.run.run before = (out, after) from ended]

theorem Ends.onSecond {action : ExceptT ε (StateM τ) α} {before after : τ} {out : Except ε α}
    (ended : Ends action before out after) (beside : σ) :
    Ends (onSecond action) (beside, before) out (beside, after) := by
  change ((action.run.run before).1, (beside, (action.run.run before).2)) = _
  rw [show action.run.run before = (out, after) from ended]

end

section

variable {σ τ : Type}

def ObjectStore.onFirst (store : ObjectStore (StateM σ)) : ObjectStore (StateM (σ × τ)) where
  bucket := store.bucket
  bucketExists := MediaVault.onFirst store.bucketExists
  createBucket := MediaVault.onFirst store.createBucket
  put key payload options := MediaVault.onFirst (store.put key payload options)
  get key := MediaVault.onFirst (store.get key)
  stat key := MediaVault.onFirst (store.stat key)
  list lead := MediaVault.onFirst (store.list lead)
  delete key := MediaVault.onFirst (store.delete key)

def UrlSigner.onSecond (signer : UrlSigner (StateM τ)) : UrlSigner (StateM (σ × τ)) where
  presign key expiry := MediaVault.onSecond (signer.presign key expiry)

def Resolver.onSecond (resolver : Resolver (StateM τ)) : Resolver (StateM (σ × τ)) where
  cdn := resolver.cdn
  publicSigner := resolver.publicSigner.map (·.onSecond)
  signer := resolver.signer.onSecond

theorem Resolver.Declined.onSecond {publicSigner : Option (UrlSigner (StateM τ))} {key : String}
    {expiresIn : Duration} {before after : τ} {asked : List Consultation}
    (declined : Declined publicSigner key expiresIn before after asked) (beside : σ) :
    Declined (publicSigner.map (·.onSecond)) key expiresIn (beside, before) (beside, after)
      asked := by
  cases declined with
  | absent none_set => exact .absent (by rw [none_set, Option.map_none])
  | failed set ended => exact .failed (by rw [set, Option.map_some]) (ended.onSecond beside)

/-- Where the signers act, the resolver does, and nowhere else. -/
theorem Resolver.resolve_onSecond {resolver : Resolver (StateM τ)} {key : String}
    {expiry : Duration} {before after : τ} {out : Except StorageError DeliveryUrl}
    (resolved : Ends (resolver.resolve key expiry) before out after) (beside : σ) :
    Ends (resolver.onSecond.resolve key expiry) (beside, before) out (beside, after) := by
  refine resolve_ends_iff.mpr ?_
  cases resolve_ends_iff.mp resolved with
  | cdn set => exact .cdn set
  | facing unset set signed =>
    exact .facing unset (by rw [onSecond, set, Option.map_some]) (signed.onSecond beside)
  | internal unset declined signed =>
    exact .internal unset (declined.onSecond beside) (signed.onSecond beside)

/-- A service whose store acts on the first state and whose signers act on the second. -/
def MediaService.beside (store : ObjectStore (StateM σ)) (resolver : Resolver (StateM τ))
    (extract : String → ByteArray → Option ImageAttributes) : MediaService (StateM (σ × τ)) where
  store := store.onFirst
  resolver := resolver.onSecond
  extract := extract

end

/-! ## What a description is made of -/

/-- The URL that was made, else none. -/
def DeliveryUrl.shown : Except StorageError DeliveryUrl → String
  | .ok delivery => delivery.url
  | .error _ => ""

namespace MediaService

variable {σ τ : Type}

/-- A description succeeds as the look-up does; the URL is the one that is delivered from the
state that the look-up leaves. -/
theorem describe_ends {media : MediaService (StateM σ)} {key : String} {expiry : Duration}
    {before between after : σ} {info : ObjectInfo} {delivered : Except StorageError DeliveryUrl}
    (known : Ends (media.stat key) before (.ok info) between)
    (resolved : Ends (media.deliveryUrl key expiry) between delivered after) :
    Ends (media.describe key expiry) before
      (.ok (ObjectMeta.ofInfo info (DeliveryUrl.shown delivered))) after := by
  refine known.bind ((ends_attempt_iff.mpr ⟨_, resolved, rfl⟩).bind ?_)
  cases delivered with
  | ok delivery => exact ends_pure_iff.mpr ⟨rfl, rfl⟩
  | error error => exact ends_pure_iff.mpr ⟨rfl, rfl⟩

variable {store : ObjectStore (StateM σ)} {resolver : Resolver (StateM τ)}
  {extract : String → ByteArray → Option ImageAttributes} {key : String} {expiry : Duration}
  {contents left : σ} {instant later : τ}

theorem deliveryUrl_beside {delivered : Except StorageError DeliveryUrl}
    (resolved : Ends (resolver.resolve key expiry) instant delivered later) (contents : σ) :
    Ends ((beside store resolver extract).deliveryUrl key expiry) (contents, instant) delivered
      (contents, later) :=
  Resolver.resolve_onSecond resolved contents

theorem describe_beside {found : Except StorageError ObjectInfo}
    {delivered : Except StorageError DeliveryUrl}
    (known : Ends (store.stat key) contents found left)
    (resolved : Ends (resolver.resolve key expiry) instant delivered later) :
    ∃ after, Ends ((beside store resolver extract).describe key expiry) (contents, instant)
      (found.map fun info => ObjectMeta.ofInfo info (DeliveryUrl.shown delivered)) after := by
  have stat : Ends ((beside store resolver extract).stat key) (contents, instant) found
      (left, instant) := known.onFirst instant
  cases found with
  | error error => exact ⟨_, ends_bind_iff.mpr (.inl ⟨error, stat, rfl⟩)⟩
  | ok info => exact ⟨_, describe_ends stat (deliveryUrl_beside resolved left)⟩

end MediaService

/-! ## Signers that issue URLs -/

/-- When the signer succeeds, it has issued a URL. -/
def UrlSigner.Issues {τ : Type} (signer : UrlSigner (StateM τ)) : Prop :=
  ∀ key expiry before after, ¬ Ends (signer.presign key expiry) before (.ok "") after

theorem UrlSigner.Issues.withFault {τ : Type} {signer : UrlSigner (StateM τ)}
    (issues : signer.Issues) (fault : Option String) : (signer.withFault fault).Issues := by
  intro key expiry before after ended
  cases fault with
  | none => exact issues key expiry before after ended
  | some reason => cases (ends_throw_iff.mp ended).1

theorem SecretSigner.issues {τ : Type} (signer : SecretSigner) (now : Timestamp) :
    (signer.asUrlSigner now : UrlSigner (StateM τ)).Issues := by
  intro key expiry before after ended
  have signed : signer.presign now.milliseconds key expiry = .ok "" := (Prod.mk.inj ended).1
  rw [presign] at signed
  split at signed
  · simp [urlAt, String.append_eq_empty_iff] at signed
  · cases signed

theorem S3.Signer.issues {τ : Type} (signer : Signer) (now : Timestamp) :
    (signer.asUrlSigner now : UrlSigner (StateM τ)).Issues := by
  intro key expiry before after ended
  have signed : signer.presign now key expiry = .ok "" := (Prod.mk.inj ended).1
  rw [presign] at signed
  split at signed
  · simp [url, String.append_eq_empty_iff] at signed
  · cases signed

namespace Resolver

variable {τ : Type} {resolver : Resolver (StateM τ)} {key : String} {expiry : Duration}
  {instant later : τ}

/-- All signers that the resolver may ask issue URLs. -/
structure Issues (resolver : Resolver (StateM τ)) : Prop where
  facing : ∀ signer, resolver.publicSigner = some signer → signer.Issues
  internal : resolver.signer.Issues

/-- What is delivered is never empty, also from a CDN. -/
theorem Issues.url_ne_empty (issues : resolver.Issues) {delivery : DeliveryUrl}
    (resolved : Ends (resolver.resolve key expiry) instant (.ok delivery) later) :
    delivery.url ≠ "" := by
  generalize answered : Except.ok delivery = out at resolved
  cases resolve_ends_iff.mp resolved with
  | @cdn base set =>
    obtain rfl := Except.ok.inj answered
    simp [String.append_eq_empty_iff]
  | facing unset set signed =>
    obtain rfl := Except.ok.inj answered
    rintro rfl
    exact issues.facing _ set key _ _ _ signed
  | @internal _ _ _ inner unset declined signed =>
    cases inner with
    | error error => cases answered
    | ok url =>
      obtain rfl := Except.ok.inj answered
      rintro rfl
      exact issues.internal key _ _ _ signed

/-- So an empty URL in a description always stands for a failure. -/
theorem Issues.shown_eq_empty_iff (issues : resolver.Issues)
    {made : Except StorageError DeliveryUrl}
    (resolved : Ends (resolver.resolve key expiry) instant made later) :
    DeliveryUrl.shown made = "" ↔ ∃ error, made = .error error := by
  cases made with
  | error error => exact iff_of_true rfl ⟨error, rfl⟩
  | ok delivery => exact iff_of_false (issues.url_ne_empty resolved) nofun

end Resolver

theorem Settings.resolver_issues {τ : Type} {settings : Settings} {secret : String}
    {now : Timestamp} {resolver : Resolver (StateM τ)}
    (assembled : settings.resolver secret now = .ok resolver) : resolver.Issues := by
  have signer_issues (base : String) :
      (settings.signerFor secret now base : UrlSigner (StateM τ)).Issues := by
    rw [signerFor]
    split
    · exact S3.Signer.issues _ now
    · exact SecretSigner.issues _ now
  rw [Settings.resolver] at assembled
  cases origin : settings.publicOrigin with
  | error error => simp [origin, bind, Except.bind] at assembled
  | ok host =>
    rw [origin] at assembled
    obtain rfl := Except.ok.inj assembled
    refine ⟨fun signer set => ?_, signer_issues _⟩
    obtain ⟨base, -, rfl⟩ := Option.map_eq_some_iff.mp set
    exact signer_issues base

end MediaVault
