import MediaVault.Proofs.Api.Change

/-!
# Writes are authorized

A request changes at most one object, and only under a `Warrant`: the path
names the object, and the authorizer granted the token of this very request
what the path needs.
-/

namespace MediaVault

namespace Gateway

/-- What entitles a request to change the object under a key. -/
inductive Warrant (judge : String → AccessTarget → Verdict) (request : Request) :
    String → Prop where
  | attach (rawPost postId name : String) (method : request.method = "POST")
      (path : request.path = "/api/v2/storage/" ++ "/".intercalate ["posts", rawPost])
      (one_segment : '/' ∉ rawPost.toList) (may : MayEdit judge request rawPost postId)
      (one_name : '/' ∉ name.toList) :
      Warrant judge request ("posts/" ++ postId ++ "/" ++ name)
  | attachment (rawPost rawFile postId fileName : String)
      (method : request.method = "PUT" ∨ request.method = "DELETE")
      (path : request.path = "/api/v2/storage/" ++ "/".intercalate ["posts", rawPost, rawFile])
      (two_segments : '/' ∉ rawPost.toList ∧ '/' ∉ rawFile.toList)
      (may : MayEdit judge request rawPost postId)
      (decoded : Percent.decodeText? rawFile = some fileName) (one_name : '/' ∉ fileName.toList) :
      Warrant judge request ("posts/" ++ postId ++ "/" ++ fileName)
  | profile (rawUser userId : String)
      (method : request.method = "POST" ∨ request.method = "PUT" ∨ request.method = "DELETE")
      (path : request.path = "/api/v2/storage/" ++ "/".intercalate ["profiles", rawUser, "profile"])
      (one_segment : '/' ∉ rawUser.toList) (owner : IsOwner judge request rawUser userId) :
      Warrant judge request ("profiles/" ++ userId ++ "/profile")

/-- What was granted for a route is a warrant for the key. -/
theorem Granted.warrant {judge : String → AccessTarget → Verdict} {id : Uuid} {request : Request}
    {route : Route} {resource : Resource} (granted : Granted judge id request route resource)
    (found : Route.ofPath request.path = some route) : Warrant judge request resource.key := by
  obtain ⟨path, segments⟩ := Route.path_of_ofPath found
  cases granted with
  | attach clientName method may =>
    exact .attach _ _ _ method path (segments _ (by simp [Route.segments])) may
      (FileName.slash_not_mem_fresh id clientName)
  | attachment method may decoded safe =>
    exact .attachment _ _ _ _ method path
      ⟨segments _ (by simp [Route.segments]), segments _ (by simp [Route.segments])⟩ may decoded
      (Segment.slash_not_mem safe)
  | profile method owner =>
    exact .profile _ _ method path (segments _ (by simp [Route.segments])) owner

theorem handleForm_ends {site : Site} {faults : Faults} {now : Timestamp}
    {judge : String → AccessTarget → Verdict} {before after : Contents} {id : Uuid}
    {request : Request} {read : Multipart.Reading} {route : Route} {out : Except Refusal Response}
    (found : Route.ofPath request.path = some route)
    (h : Ends ((site.gateway faults now judge).handleForm id request read route) before out after) :
    after = before ∨ ∃ key, Warrant judge request key ∧ Touched before key after := by
  rcases handleForm_changes h with same | ⟨resource, _, granted, touched, _, _⟩
  · exact .inl same
  · exact .inr ⟨resource.key, granted.warrant found, touched⟩

/-- Whatever a request asks for, however its form is read and whatever the authorizer
answers: if the object under a key changes, the request has a warrant for this key and
changes nothing else. -/
theorem writes_authorized (site : Site) (faults : Faults) (now : Timestamp)
    (judge : String → AccessTarget → Verdict) (id : Uuid) (request : Request)
    (form : Option Multipart.Reading) (before : Contents) (key : String)
    (changed :
      (((site.gateway faults now judge).respondBy id request form).run before).2.objects[key]? ≠
        before.objects[key]?) :
    let after := (((site.gateway faults now judge).respondBy id request form).run before).2
    Warrant judge request key ∧ after.created = before.created ∧
      ∀ other, other ≠ key → after.objects[other]? = before.objects[other]? := by
  intro after
  rcases respondBy_ends (site.gateway faults now judge) id request form before with
    ⟨same, _⟩ | ⟨route, out, found, _, handled, _⟩
  · exact absurd (by rw [same]) changed
  -- At most one key was touched, and a changed key can only be that one.
  rcases handleForm_ends found handled with same | ⟨touchedKey, warrant, touched⟩
  · exact absurd (by rw [same]) changed
  obtain rfl : key = touchedKey :=
    Decidable.byContradiction fun differ => changed (touched.elsewhere differ)
  exact ⟨warrant, touched.created_eq, fun other differ => touched.elsewhere differ⟩

/-- A user who deletes an image of theirs has the warrant. -/
theorem writes_authorized_own_image :
    let site : Site :=
      { bucket := "media", cdn := none, publicSigner := none, signer := fun key _ => .ok key
        extract := fun _ _ => none, maxUploadBytes := 1000 }
    let judge : String → AccessTarget → Verdict := fun caller _ =>
      .decided { allowed := caller = "t", identity := some "ada" }
    let request : Request :=
      { method := "DELETE", target := "/api/v2/storage/profiles/ada/profile?token=t" }
    let before := ({ created := true } : Contents).write "profiles/ada/profile" default
    let after :=
      (((site.gateway (fun _ => none) default judge).respondBy default request none).run before).2
    after.objects["profiles/ada/profile"]? ≠ before.objects["profiles/ada/profile"]? ∧
      Warrant judge request "profiles/ada/profile" := by
  intro site judge request before after
  have gone : after.objects["profiles/ada/profile"]?.isSome = false := by decide +kernel
  have present : before.objects["profiles/ada/profile"]?.isSome = true := by simp [before]
  have changed : after.objects["profiles/ada/profile"]? ≠
      before.objects["profiles/ada/profile"]? := by
    intro same
    rw [same, present] at gone
    cases gone
  exact ⟨changed, (writes_authorized _ _ _ _ _ _ _ _ _ changed).1⟩

end Gateway

end MediaVault
