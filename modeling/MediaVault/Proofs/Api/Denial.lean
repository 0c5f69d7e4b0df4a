import MediaVault.Proofs.Api.Gateway

/-!
# Refusals say nothing about the store

Two gateways share an authorizer and nothing else.  A caller whom the
authorizer does not grant what the path needs gets the same answer from both,
and neither store is touched: each handler reads the head of the request, then
asks the authorizer, and stops there.
-/

namespace MediaVault

variable {ρ σ τ α β : Type}

/-- An authorizer whose own state lies beside that of a store. -/
def Authorizer.beside (authorizer : Authorizer (StateM ρ)) : Authorizer (StateM (ρ × σ)) :=
  fun caller target state =>
    let answer := (authorizer caller target).run state.1
    (answer.1, (answer.2, state.2))

theorem Authorizer.beside_run {authorizer : Authorizer (StateM ρ)} {caller : String}
    {target : AccessTarget} {asked : ρ} {state : σ} :
    (authorizer.beside caller target).run (asked, state) =
      (((authorizer caller target).run asked).1, ((authorizer caller target).run asked).2, state) :=
  rfl

/-- A service over contents that lie beside another state. -/
def Site.mediaBeside (site : Site) (faults : Faults) (now : Timestamp) :
    MediaService (StateM (ρ × Contents)) :=
  let access {α : Type} (action : StateM Contents α) : StateM (ρ × Contents) α := fun state =>
    let ran := action.run state.2
    (ran.1, (state.1, ran.2))
  let shelf : Shelf (StateM (ρ × Contents)) :=
    { created := access Contents.shelf.created
      markCreated := access Contents.shelf.markCreated
      insert := fun key object => access (Contents.shelf.insert key object)
      lookup? := fun key => access (Contents.shelf.lookup? key)
      remove := fun key => access (Contents.shelf.remove key)
      scan := fun lead => access (Contents.shelf.scan lead) }
  let signer (sign : String → Duration → Except StorageError String) :
      UrlSigner (StateM (ρ × Contents)) :=
    { presign := fun key expiry => ExceptT.mk (pure (sign key expiry)) }
  { store := (MemoryStore.onShelf site.bucket now shelf).withFaults faults
    resolver := .create site.cdn (site.publicSigner.map signer) (signer site.signer)
    extract := site.extract }

/-! ## Handlers that are refused -/

/-- Both actions end with one refusal, over any two stores, and leave the stores
as they were. -/
def RefusedAlike (asked : ρ) (left : ExceptT Refusal (StateM (ρ × σ)) α)
    (right : ExceptT Refusal (StateM (ρ × τ)) α) : Prop :=
  ∃ refusal answered, (∀ s, Ends left (asked, s) (.error refusal) (answered, s)) ∧
    ∀ t, Ends right (asked, t) (.error refusal) (answered, t)

namespace RefusedAlike

variable {asked answered : ρ} {next : α → ExceptT Refusal (StateM (ρ × σ)) β}
  {next' : α → ExceptT Refusal (StateM (ρ × τ)) β}

theorem past {action : ∀ σ : Type, ExceptT Refusal (StateM σ) α} {failure : Refusal → Prop}
    {result : α → Prop} (settled : Settled failure result action)
    (rest : ∀ a, result a → RefusedAlike asked (next a) (next' a)) :
    RefusedAlike asked (action (ρ × σ) >>= next) (action (ρ × τ) >>= next') := by
  obtain ⟨out, results, ends⟩ := settled
  cases out with
  | error refusal =>
    exact ⟨refusal, asked, fun s => ends_bind_iff.mpr (.inl ⟨refusal, ends _ (asked, s), rfl⟩),
      fun t => ends_bind_iff.mpr (.inl ⟨refusal, ends _ (asked, t), rfl⟩)⟩
  | ok a =>
    obtain ⟨refusal, answered, left, right⟩ := rest a results
    exact ⟨refusal, answered,
      fun s => ends_bind_iff.mpr (.inr ⟨a, _, ends _ (asked, s), left s⟩),
      fun t => ends_bind_iff.mpr (.inr ⟨a, _, ends _ (asked, t), right t⟩)⟩

theorem stop {check : ExceptT Refusal (StateM (ρ × σ)) α}
    {check' : ExceptT Refusal (StateM (ρ × τ)) α} {out : Except Refusal α}
    (left : ∀ s, Ends check (asked, s) out (answered, s))
    (right : ∀ t, Ends check' (asked, t) out (answered, t)) (refused : ∀ a, out ≠ .ok a) :
    RefusedAlike asked (check >>= next) (check' >>= next') := by
  cases out with
  | ok a => exact absurd rfl (refused a)
  | error refusal =>
    exact ⟨refusal, answered, fun s => ends_bind_iff.mpr (.inl ⟨refusal, left s, rfl⟩),
      fun t => ends_bind_iff.mpr (.inl ⟨refusal, right t, rfl⟩)⟩

end RefusedAlike

namespace Gateway

/-! ## What a path needs -/

/-- What a caller has to be granted; names are as they stand in the path. -/
inductive Need where
  | session
  | edit (rawPost : String)
  | ownership (rawUser : String)

/-- The need of the routes that are not open to everyone. -/
def need? (method : String) : Route → Option Need
  | .post rawPost =>
    match method with
    | "POST" => some (.edit rawPost)
    | _ => some .session
  | .postFile rawPost _ =>
    match method with
    | "PUT" | "DELETE" => some (.edit rawPost)
    | "HEAD" => some .session
    | _ => none
  | .profile rawUser =>
    match method with
    | "POST" | "PUT" | "DELETE" => some (.ownership rawUser)
    | "HEAD" => some .session
    | _ => none
  | _ => none

/-- The request has a token for which the authorizer grants the need. -/
inductive Grants (authorizer : Authorizer (StateM ρ)) (asked : ρ) (request : Request) :
    Need → Prop where
  | session {caller user : String} (presented : Token.ofRequest? request = some caller)
      (granted : ((authorizer caller .authenticated).run asked).1 =
        .decided { allowed := true, identity := some user }) :
      Grants authorizer asked request .session
  | edit {caller rawPost postId : String} {identity : Option String}
      (presented : Token.ofRequest? request = some caller)
      (decoded : Percent.decodeText? rawPost = some postId)
      (granted : ((authorizer caller (.editPost postId)).run asked).1 =
        .decided { allowed := true, identity := identity }) :
      Grants authorizer asked request (.edit rawPost)
  | ownership {caller rawUser userId : String}
      (presented : Token.ofRequest? request = some caller)
      (decoded : Percent.decodeText? rawUser = some userId)
      (granted : ((authorizer caller .authenticated).run asked).1 =
        .decided { allowed := true, identity := some userId }) :
      Grants authorizer asked request (.ownership rawUser)

section

variable {authorizer : Authorizer (StateM ρ)} {asked : ρ} {request : Request} {caller : String}

theorem postEdit_refusedAlike {rawPost postId : String}
    {next : Unit → ExceptT Refusal (StateM (ρ × σ)) β}
    {next' : Unit → ExceptT Refusal (StateM (ρ × τ)) β}
    (ungranted : ¬ Grants authorizer asked request (.edit rawPost))
    (decoded : Percent.decodeText? rawPost = some postId)
    (presented : Token.ofRequest? request = some caller) :
    RefusedAlike asked (Permission.postEdit authorizer.beside caller postId >>= next)
      (Permission.postEdit authorizer.beside caller postId >>= next') := by
  refine .stop (fun s => Permission.postEdit_ends Authorizer.beside_run)
    (fun t => Permission.postEdit_ends Authorizer.beside_run) fun _ passed => ungranted ?_
  obtain ⟨⟨allowed, identity⟩, verdict, permitted⟩ := Permission.answered_bind_eq_ok_iff.mp passed
  obtain rfl : allowed = true := Permission.permitted_eq_ok_iff.mp permitted
  exact .edit presented decoded verdict

theorem identity_refusedAlike {next : String → ExceptT Refusal (StateM (ρ × σ)) β}
    {next' : String → ExceptT Refusal (StateM (ρ × τ)) β}
    (ungranted : ¬ Grants authorizer asked request .session)
    (presented : Token.ofRequest? request = some caller) :
    RefusedAlike asked (Permission.identity authorizer.beside caller >>= next)
      (Permission.identity authorizer.beside caller >>= next') := by
  refine .stop (fun s => Permission.identity_ends Authorizer.beside_run)
    (fun t => Permission.identity_ends Authorizer.beside_run) fun user passed => ungranted ?_
  obtain ⟨decision, verdict, identified⟩ := Permission.answered_bind_eq_ok_iff.mp passed
  obtain rfl := Permission.identified_eq_ok_iff.mp identified
  exact .session presented verdict

theorem owner_refusedAlike {rawUser userId : String}
    {next : Unit → ExceptT Refusal (StateM (ρ × σ)) β}
    {next' : Unit → ExceptT Refusal (StateM (ρ × τ)) β}
    (ungranted : ¬ Grants authorizer asked request (.ownership rawUser))
    (decoded : Percent.decodeText? rawUser = some userId)
    (presented : Token.ofRequest? request = some caller) :
    RefusedAlike asked (Permission.owner authorizer.beside caller userId >>= next)
      (Permission.owner authorizer.beside caller userId >>= next') := by
  refine .stop (fun s => Permission.owner_ends Authorizer.beside_run)
    (fun t => Permission.owner_ends Authorizer.beside_run) fun _ passed => ungranted ?_
  obtain ⟨decision, verdict, settled⟩ := Permission.answered_bind_eq_ok_iff.mp passed
  cases identified : Permission.identified decision with
  | error refusal => rw [identified] at settled; cases settled
  | ok found =>
    rw [identified] at settled
    obtain rfl := Permission.identified_eq_ok_iff.mp identified
    obtain rfl : found = userId := Permission.permitted_eq_ok_iff.mp settled
    exact .ownership presented decoded verdict

/-! ## Handlers -/

/-- A gateway over any service, the authorizer of which has a state of its own. -/
def sharing (authorizer : Authorizer (StateM ρ)) (media : MediaService (StateM (ρ × σ)))
    (maxUploadBytes : Nat) : Gateway (StateM (ρ × σ)) where
  media := media
  authorizer := authorizer.beside
  maxUploadBytes := maxUploadBytes

variable {left : MediaService (StateM (ρ × σ))} {right : MediaService (StateM (ρ × τ))}
  {limit limit' : Nat} {id id' : Uuid}

theorem uploadPostFile_refusedAlike {rawPost : String}
    (ungranted : ¬ Grants authorizer asked request (.edit rawPost)) :
    RefusedAlike asked ((sharing authorizer left limit).uploadPostFile id request rawPost)
      ((sharing authorizer right limit').uploadPostFile id' request rawPost) := by
  refine .past (pathParam_settled _ _) fun postId decoded => ?_
  refine .past (token_settled _) fun caller presented => ?_
  refine .past (boundary_settled _) fun _ _ => ?_
  refine .past (requireSafe_settled _) fun _ _ => ?_
  exact postEdit_refusedAlike ungranted decoded presented

theorem replacePostFile_refusedAlike {rawPost rawFile : String}
    (ungranted : ¬ Grants authorizer asked request (.edit rawPost)) :
    RefusedAlike asked ((sharing authorizer left limit).replacePostFile request rawPost rawFile)
      ((sharing authorizer right limit').replacePostFile request rawPost rawFile) := by
  refine .past (pathParam_settled _ _) fun postId decoded => ?_
  refine .past (pathParam_settled _ _) fun _ _ => ?_
  refine .past (token_settled _) fun caller presented => ?_
  refine .past (boundary_settled _) fun _ _ => ?_
  refine .past (keyOf_settled _) fun _ _ => ?_
  exact postEdit_refusedAlike ungranted decoded presented

theorem listPostFiles_refusedAlike {rawPost : String}
    (ungranted : ¬ Grants authorizer asked request .session) :
    RefusedAlike asked ((sharing authorizer left limit).listPostFiles request rawPost)
      ((sharing authorizer right limit').listPostFiles request rawPost) := by
  refine .past (pathParam_settled _ _) fun _ _ => ?_
  refine .past (token_settled _) fun caller presented => ?_
  refine .past (requireSafe_settled _) fun _ _ => ?_
  exact identity_refusedAlike ungranted presented

theorem deletePostFile_refusedAlike {rawPost rawFile : String}
    (ungranted : ¬ Grants authorizer asked request (.edit rawPost)) :
    RefusedAlike asked ((sharing authorizer left limit).deletePostFile request rawPost rawFile)
      ((sharing authorizer right limit').deletePostFile request rawPost rawFile) := by
  refine .past (pathParam_settled _ _) fun postId decoded => ?_
  refine .past (pathParam_settled _ _) fun _ _ => ?_
  refine .past (token_settled _) fun caller presented => ?_
  refine .past (keyOf_settled _) fun _ _ => ?_
  exact postEdit_refusedAlike ungranted decoded presented

theorem writeProfile_refusedAlike {status : Nat} {rawUser : String}
    (ungranted : ¬ Grants authorizer asked request (.ownership rawUser)) :
    RefusedAlike asked ((sharing authorizer left limit).writeProfile status request rawUser)
      ((sharing authorizer right limit').writeProfile status request rawUser) := by
  refine .past (pathParam_settled _ _) fun userId decoded => ?_
  refine .past (token_settled _) fun caller presented => ?_
  refine .past (boundary_settled _) fun _ _ => ?_
  refine .past (keyOf_settled _) fun _ _ => ?_
  exact owner_refusedAlike ungranted decoded presented

theorem deleteProfile_refusedAlike {rawUser : String}
    (ungranted : ¬ Grants authorizer asked request (.ownership rawUser)) :
    RefusedAlike asked ((sharing authorizer left limit).deleteProfile request rawUser)
      ((sharing authorizer right limit').deleteProfile request rawUser) := by
  refine .past (pathParam_settled _ _) fun userId decoded => ?_
  refine .past (token_settled _) fun caller presented => ?_
  refine .past (keyOf_settled _) fun _ _ => ?_
  exact owner_refusedAlike ungranted decoded presented

theorem headObject_refusedAlike {target : ∀ σ : Type, ExceptT Refusal (StateM σ) Resource}
    {about : Resource → Prop} (named : Settled Refusal.IsFailure about target)
    (ungranted : ¬ Grants authorizer asked request .session) :
    RefusedAlike asked ((sharing authorizer left limit).headObject request (target _))
      ((sharing authorizer right limit').headObject request (target _)) := by
  refine .past named fun _ _ => ?_
  refine .past (token_settled _) fun caller presented => ?_
  refine .past (keyOf_settled _) fun _ _ => ?_
  exact identity_refusedAlike ungranted presented

theorem handle_refusedAlike {route : Route} {need : Need}
    (needed : need? request.method route = some need)
    (ungranted : ¬ Grants authorizer asked request need) :
    RefusedAlike asked ((sharing authorizer left limit).handle id request route)
      ((sharing authorizer right limit').handle id' request route) := by
  cases route with
  | post rawPost =>
    simp only [handle]
    split
    next method =>
      simp only [need?, method] at needed
      obtain rfl := Option.some.inj needed
      exact uploadPostFile_refusedAlike ungranted
    next other =>
      simp only [need?] at needed
      obtain rfl := Option.some.inj needed
      exact listPostFiles_refusedAlike ungranted
  | postFile rawPost rawFile =>
    simp only [handle]
    split
    next method =>
      simp only [need?, method] at needed
      obtain rfl := Option.some.inj needed
      exact replacePostFile_refusedAlike ungranted
    next method =>
      simp only [need?, method] at needed
      obtain rfl := Option.some.inj needed
      exact deletePostFile_refusedAlike ungranted
    next method =>
      simp only [need?, method] at needed
      obtain rfl := Option.some.inj needed
      exact headObject_refusedAlike (postFile_settled _ _) ungranted
    next => simp_all [need?]
  | profile rawUser =>
    simp only [handle]
    split
    next method =>
      simp only [need?, method] at needed
      obtain rfl := Option.some.inj needed
      exact writeProfile_refusedAlike ungranted
    next method =>
      simp only [need?, method] at needed
      obtain rfl := Option.some.inj needed
      exact writeProfile_refusedAlike ungranted
    next method =>
      simp only [need?, method] at needed
      obtain rfl := Option.some.inj needed
      exact deleteProfile_refusedAlike ungranted
    next method =>
      simp only [need?, method] at needed
      obtain rfl := Option.some.inj needed
      exact headObject_refusedAlike (profileImage_settled _) ungranted
    next => simp_all [need?]
  | _ => cases needed

/-! ## Answers -/

/-- Two gateways may differ in their services, stores and limits: a request
without the grant that its path needs is answered alike by both, and both stores
stay as they are. -/
theorem refusals_say_nothing_about_the_store (authorizer : Authorizer (StateM ρ)) (asked : ρ)
    (left : MediaService (StateM (ρ × σ))) (right : MediaService (StateM (ρ × τ)))
    (limit limit' : Nat) (id id' : Uuid) (request : Request) {route : Route} {need : Need}
    (found : Route.ofPath request.path = some route)
    (needed : need? request.method route = some need)
    (ungranted : ¬ Grants authorizer asked request need) :
    ∃ response answered,
      (∀ s, ((sharing authorizer left limit).respond id request).run (asked, s) =
        (response, answered, s)) ∧
      ∀ t, ((sharing authorizer right limit').respond id' request).run (asked, t) =
        (response, answered, t) := by
  simp only [respond, found]
  split
  next known =>
    obtain ⟨refusal, answered, here, there⟩ := handle_refusedAlike needed ungranted
    refine ⟨finish request.method (settle (.error refusal)), answered, fun s => ?_, fun t => ?_⟩
    · rw [StateT.run_bind, show StateT.run (ExceptT.run _) _ = _ from here s]
      rfl
    · rw [StateT.run_bind, show StateT.run (ExceptT.run _) _ = _ from there t]
      rfl
  next unknown =>
    exact ⟨finish request.method (methodNotAllowed route), asked, fun _ => rfl, fun _ => rfl⟩

end

/-- A user who may not delete another's image cannot find out that there is one. -/
theorem refusals_say_nothing_about_the_store_to_others :
    let site : Site :=
      { bucket := "media", cdn := none, publicSigner := none, signer := fun key _ => .ok key
        extract := fun _ _ => none, maxUploadBytes := 1000 }
    let broken : Faults := fun operation => if operation = .stat then some "down" else none
    let authorizer : Authorizer (StateM Unit) := Permission.authorizerOf fun _ _ =>
      .decided { allowed := true, identity := some "bob" }
    let request : Request :=
      { method := "DELETE", target := "/api/v2/storage/profiles/ada/profile?token=t" }
    let holding := ({ created := true } : Contents).write "profiles/ada/profile" default
    let here := (sharing authorizer (site.mediaBeside (fun _ => none) default) 1000).respond default
      request
    let there := (sharing authorizer (site.mediaBeside broken default) 1000).respond default request
    Route.ofPath request.path = some (.profile "ada") ∧
      need? request.method (.profile "ada") = some (.ownership "ada") ∧
      ¬ Grants authorizer () request (.ownership "ada") ∧
      (here.run ((), holding)).1 = (there.run ((), {})).1 := by
  intro site broken authorizer request holding here there
  have found : Route.ofPath request.path = some (.profile "ada") := by decide +kernel
  have needed : need? request.method (.profile "ada") = some (.ownership "ada") := rfl
  have ungranted : ¬ Grants authorizer () request (.ownership "ada") := by
    intro grants
    cases grants with
    | ownership presented decoded granted =>
      -- The verdict names another user than the path.
      cases granted
      exact absurd decoded (by decide +kernel)
  obtain ⟨response, answered, left, right⟩ := refusals_say_nothing_about_the_store authorizer ()
    (site.mediaBeside (fun _ => none) default) (site.mediaBeside broken default) 1000 1000 default
    default request found needed ungranted
  exact ⟨found, needed, ungranted, (congrArg Prod.fst (left holding)).trans
    (congrArg Prod.fst (right {})).symm⟩

end Gateway

end MediaVault
