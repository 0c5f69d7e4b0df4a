import MediaVault.Proofs.Api.Gateway
import MediaVault.Proofs.Store.Observed

/-!
# What the gateway's steps tell the store

The service of a site and the gateway in front of it, over any store under
observation.  Each step that accesses the store has a lemma `…_traced`: what it
tells the store, what is known of its result, and that every refusal is reported
as a failure.
-/

namespace MediaVault

/-! ## The service over an observed store -/

section Observed

variable {σ : Type}

/-- The service of a site over any store; every access is noted. -/
def Site.observedMedia (site : Site) (store : ObjectStore (StateM σ)) :
    MediaService (StateM (σ × List Access)) where
  store := store.observed
  resolver :=
    .create site.cdn (site.publicSigner.map UrlSigner.observed) (UrlSigner.observed site.signer)
  extract := site.extract

/-- The gateway of a site over any store; every access is noted. -/
def Site.observedGateway (site : Site) (store : ObjectStore (StateM σ))
    (judge : String → AccessTarget → Verdict) : Gateway (StateM (σ × List Access)) where
  media := site.observedMedia store
  authorizer := Permission.authorizerOf judge
  maxUploadBytes := site.maxUploadBytes

namespace Site

variable {site : Site} {store : ObjectStore (StateM σ)} {named : Access → Prop} {key : String}

theorem upload_traced {contentType : Option String} {body : List Chunk}
    (may : named (.object key)) :
    Traced named (fun _ => True) (fun _ => True)
      ((site.observedMedia store).upload key contentType body) := by
  rw [MediaService.upload]
  cases MediaService.prepare (site.observedMedia store).extract
      (MediaService.effectiveContentType contentType) body with
  | error reason => exact traced_throw trivial
  | ok handed =>
    refine (traced_noted may).attempt.bind fun outcome _ => ?_
    cases outcome with
    | error source => exact traced_throw trivial
    | ok outcome => exact traced_pure trivial

theorem delete_traced (may : named (.object key)) :
    Traced named (fun _ => True) (fun _ => True) ((site.observedMedia store).delete key) :=
  (traced_noted may).bind fun _ _ => traced_noted may

theorem list_traced {lead : String} (may : named (.listing lead)) :
    Traced named (fun _ => True) (fun _ => True) ((site.observedMedia store).list lead) :=
  (traced_noted may).bind fun _ _ => traced_pure trivial

theorem deliveryUrl_traced {expiry : Duration} (may : named (.object key)) :
    Traced named (fun _ => True) (fun _ => True)
      ((site.observedMedia store).deliveryUrl key expiry) := by
  have internally (wanted : Duration) : Traced named (fun _ => True) (fun _ => True)
      ((site.observedMedia store).resolver.resolveInternally key wanted) :=
    (traced_noted may).bind fun _ _ => traced_pure trivial
  rw [MediaService.deliveryUrl, Resolver.resolve]
  simp only [observedMedia, Resolver.create] at internally ⊢
  cases Resolver.usableCdn site.cdn with
  | some base => exact traced_pure trivial
  | none =>
    cases site.publicSigner with
    | none => exact internally _
    | some sign =>
      refine Traced.recover (traced_noted may) fun outcome => ?_
      cases outcome with
      | ok url => exact traced_pure trivial
      | error error => exact internally _

theorem describe_traced {expiry : Duration} (may : named (.object key)) :
    Traced named (fun _ => True) (fun _ => True)
      ((site.observedMedia store).describe key expiry) := by
  refine (traced_noted may).bind fun info _ => ?_
  refine (deliveryUrl_traced may).attempt.bind fun answer _ => ?_
  cases answer with
  | ok delivery => exact traced_pure trivial
  | error error => exact traced_pure trivial

theorem ready_traced (may : named .bucket) :
    Traced named (fun _ => True) (fun _ => True) (site.observedMedia store).ready := by
  refine (traced_noted may).bind fun found _ => ?_
  cases found with
  | true => exact traced_pure trivial
  | false => exact traced_throw trivial

end Site

end Observed

/-! ## Steps of handlers -/

namespace Gateway

variable {σ : Type} {named : Access → Prop} {judge : String → AccessTarget → Verdict}

theorem storeAction_traced {α : Type} {failure : StorageError → Prop} {result : α → Prop}
    {action : ExceptT StorageError (StateM (σ × List Access)) α}
    (traced : Traced named failure result action) :
    Traced named Refusal.IsFailure result (storeAction action) := by
  refine traced.mapError fun error _ => ?_
  simp only [Refusal.IsFailure, Refusal.toResponse, ApiError.ofStorage]
  split <;> rfl

variable {site : Site} {store : ObjectStore (StateM σ)}

/-- A form is stored under one of the keys that its upload was admitted for. -/
theorem receive_traced {read : Multipart.Reading} {admission : Admission}
    (may : ∀ clientName, named (.object (admission.keyFor clientName))) :
    Traced named Refusal.IsFailure (fun _ => True)
      ((site.observedGateway store judge).receive read admission) := by
  have stored : Traced named Refusal.IsFailure (fun _ => True)
      ((site.observedGateway store judge).storePart admission.keyFor
        (chosen admission.names (read admission.separator admission.names))) := by
    cases offered : chosen admission.names (read admission.separator admission.names) with
    | error error => exact traced_throw (chosen_fails offered)
    | ok selected =>
      refine (Site.upload_traced (may _)).mapError fun error _ => ?_
      cases error <;> rfl
  exact stored.bind fun _ _ => traced_pure trivial

end Gateway

end MediaVault
