import MediaVault.Proofs.Access.Endpoint
import MediaVault.Proofs.Access.Permission
import MediaVault.Proofs.Json.Reader

/-!
# The authorization service grants nothing by mistake

What a document states is said without reading it: `Json.Document` and
`States`.  A check passes on a stated decision of a 2xx answer only, whatever
else the service may send, and every other answer has its own status.
-/

namespace MediaVault.RemoteAccess

open Json (Leaf Outline)

variable {σ α : Type}

/-! ## Decisions in documents -/

/-- No member has the name. -/
def Absent (members : List (String × Leaf)) (name : String) : Prop :=
  ∀ member ∈ members, member.1 ≠ name

/-- Exactly one member has the name, and it holds the value. -/
def Only (members : List (String × Leaf)) (name : String) (value : Leaf) : Prop :=
  ∃ before after, members = before ++ (name, value) :: after ∧
    Absent before name ∧ Absent after name

inductive Identifies : Leaf → Option String → Prop where
  | nobody : Identifies .null none
  | user : Identifies (.text identity) (some identity)

/-- The document states the decision. -/
inductive States : Outline → AccessDecision → Prop where
  | anonymous : Only members "allowed" (.bool allowed) → Absent members "identity" →
      States (.object members) ⟨allowed, none⟩
  | members : Only members "allowed" (.bool allowed) → Only members "identity" value →
      Identifies value identity → States (.object members) ⟨allowed, identity⟩
  | single : States (.list [.bool allowed]) ⟨allowed, none⟩
  | pair : Identifies value identity → States (.list [.bool allowed, value]) ⟨allowed, identity⟩

theorem named_eq_nil_iff {members : List (String × Leaf)} {name : String} :
    members.filter (·.1 == name) = [] ↔ Absent members name := by
  simp [Absent, List.filter_eq_nil_iff]

theorem named_eq_singleton_iff {members : List (String × Leaf)} {name label : String}
    {value : Leaf} :
    members.filter (·.1 == name) = [(label, value)] ↔ label = name ∧ Only members name value := by
  rw [List.filter_eq_cons_iff]
  constructor
  · rintro ⟨before, after, rfl, early, here, late⟩
    obtain rfl : label = name := by simpa using here
    exact ⟨rfl, before, after, rfl, by simpa [Absent] using early, named_eq_nil_iff.mp late⟩
  · rintro ⟨rfl, before, after, rfl, early, late⟩
    exact ⟨before, after, rfl, by simpa [Absent] using early, by simp, named_eq_nil_iff.mpr late⟩

theorem readIdentity_eq_some_iff {value : Leaf} {identity : Option String} :
    readIdentity value = some identity ↔ Identifies value identity := by
  constructor
  · intro h
    cases value with
    | null => obtain rfl := Option.some.inj h; exact .nobody
    | text user => obtain rfl := Option.some.inj h; exact .user
    | bool => cases h
    | other => cases h
  · intro h
    cases h <;> rfl

theorem states_of_decisionOf? {document : Outline} {decision : AccessDecision}
    (h : decisionOf? document = some decision) : States document decision := by
  cases document with
  | leaf value => cases h
  | object members =>
    simp only [decisionOf?] at h
    split at h
    next allowed_named identity_named =>
      obtain rfl := Option.some.inj h
      exact .anonymous (named_eq_singleton_iff.mp allowed_named).2
        (named_eq_nil_iff.mp identity_named)
    next allowed_named identity_named =>
      obtain ⟨identity, read, rfl⟩ := Option.map_eq_some_iff.mp h
      exact .members (named_eq_singleton_iff.mp allowed_named).2
        (by obtain ⟨rfl, only⟩ := named_eq_singleton_iff.mp identity_named; exact only)
        (readIdentity_eq_some_iff.mp read)
    next => cases h
  | list items =>
    unfold decisionOf? at h
    split at h
    next => contradiction
    next heq =>
      obtain rfl := Outline.list.inj heq
      obtain rfl := Option.some.inj h
      exact .single
    next heq =>
      obtain rfl := Outline.list.inj heq
      obtain ⟨identity, read, rfl⟩ := Option.map_eq_some_iff.mp h
      exact .pair (readIdentity_eq_some_iff.mp read)
    next => cases h

theorem decisionOf?_of_states {document : Outline} {decision : AccessDecision}
    (h : States document decision) : decisionOf? document = some decision := by
  cases h with
  | anonymous only absent =>
    simp only [decisionOf?, named_eq_singleton_iff.mpr ⟨rfl, only⟩, named_eq_nil_iff.mpr absent]
  | members only named identifies =>
    simp only [decisionOf?, named_eq_singleton_iff.mpr ⟨rfl, only⟩,
      named_eq_singleton_iff.mpr ⟨rfl, named⟩, readIdentity_eq_some_iff.mpr identifies,
      Option.map_some]
  | single => rfl
  | pair identifies =>
    simp only [decisionOf?, readIdentity_eq_some_iff.mpr identifies, Option.map_some]

theorem decisionOf?_eq_some_iff {document : Outline} {decision : AccessDecision} :
    decisionOf? document = some decision ↔ States document decision :=
  ⟨states_of_decisionOf?, decisionOf?_of_states⟩

/-! ## Answers -/

namespace Reply

/-- The status is one of the 2xx. -/
def IsSuccess (reply : Reply) : Prop := 200 ≤ reply.status ∧ reply.status < 300

/-- The body is a document that states the decision. -/
def Holds (reply : Reply) (decision : AccessDecision) : Prop :=
  ∃ document, Json.Document reply.body document ∧ States document decision

theorem IsSuccess.known {reply : Reply} (success : reply.IsSuccess) : reply.status ≠ 401 := by
  obtain ⟨_, small⟩ := success
  omega

theorem holds_iff {reply : Reply} {decision : AccessDecision} :
    reply.Holds decision ↔ (Json.ofBytes? reply.body).bind decisionOf? = some decision := by
  simp only [Holds, Option.bind_eq_some_iff, decisionOf?_eq_some_iff, Json.ofBytes?_eq_some_iff]

theorem Holds.unique {reply : Reply} {left right : AccessDecision} (holds : reply.Holds left)
    (also : reply.Holds right) : left = right :=
  Option.some.inj ((holds_iff.mp holds).symm.trans (holds_iff.mp also))

end Reply

/-- What asking the service brings back and leaves behind.  Nothing is sent to
an address that cannot be used. -/
def exchange (post : Transport (StateM σ)) (base caller : String) (target : AccessTarget)
    (before : σ) : Except TransportError Reply × σ :=
  match addressError? (endpoint base) with
  | some error => (.error error, before)
  | none => (post (endpoint base) (question caller target)).run before

/-- A base with a plain host is asked, and nothing is sent under other schemes than these two. -/
structure Asks (post : Transport (StateM σ)) (base caller : String) (target : AccessTarget)
    (before : σ) : Prop where
  sent : ∀ service : HttpBase, base = service.text →
    exchange post base caller target before =
      (post (endpoint base) (question caller target)).run before
  held : ¬ Url.HasScheme (endpoint base) "http" → ¬ Url.HasScheme (endpoint base) "https" →
    ∃ error, exchange post base caller target before = (.error error, before)

theorem asks (post : Transport (StateM σ)) (base caller : String) (target : AccessTarget)
    (before : σ) : Asks post base caller target before where
  sent service written := by
    rw [exchange, written, service.addressError?_endpoint]
  held plain secure := by
    unfold exchange
    split
    next error _ => exact ⟨error, rfl⟩
    next sendable => exact ((scheme_of_addressError? sendable).elim plain secure).elim

/-- All that an exchange can bring back, with what is made of it. -/
inductive Judged : Except TransportError Reply → Except AccessError AccessDecision → Prop where
  | unreached : Judged (.error error) (.error (.unavailable error.message))
  | unknown : reply.status = 401 → Judged (.ok reply) (.error .invalidCredentials)
  | failure : reply.status ≠ 401 → ¬ reply.IsSuccess →
      Judged (.ok reply) (.error (.unavailable reason))
  | garbled : reply.IsSuccess → (∀ decision, ¬ reply.Holds decision) →
      Judged (.ok reply) (.error (.unavailable reason))
  | decided : reply.IsSuccess → reply.Holds decision → Judged (.ok reply) (.ok decision)

theorem judged (reply : Reply) : Judged (.ok reply) (judge reply) := by
  unfold judge
  split
  next unknown => exact .unknown unknown
  next known =>
    split
    next success =>
      cases read : (Json.ofBytes? reply.body).bind decisionOf? with
      | some decision => exact .decided success (Reply.holds_iff.mpr read)
      | none =>
        refine .garbled success fun decision holds => ?_
        have stated := Reply.holds_iff.mp holds
        rw [read] at stated
        cases stated
    next failure => exact .failure known failure

theorem check_ends (post : Transport (StateM σ)) (base caller : String) (target : AccessTarget)
    (before : σ) :
    ∃ result, Judged (exchange post base caller target before).1 result ∧
      Ends (check post base caller target) before result
        (exchange post base caller target before).2 := by
  unfold exchange check
  cases addressError? (endpoint base) with
  | some error => exact ⟨_, .unreached, rfl⟩
  | none =>
    obtain ⟨arrived, after, sent⟩ : ∃ arrived after,
        (post (endpoint base) (question caller target)).run before = (arrived, after) := ⟨_, _, rfl⟩
    cases arrived with
    | error error =>
      refine ⟨.error (.unavailable error.message), by rw [sent]; exact .unreached, ?_⟩
      simp only [Ends, ExceptT.run_mk, StateT.run_bind, sent]
      rfl
    | ok reply =>
      refine ⟨judge reply, by rw [sent]; exact judged reply, ?_⟩
      simp only [Ends, ExceptT.run_mk, StateT.run_bind, sent]
      rfl

theorem Judged.ok_iff {answer : Except TransportError Reply}
    {result : Except AccessError AccessDecision} (judged : Judged answer result)
    {decision : AccessDecision} :
    result = .ok decision ↔
      ∃ reply, answer = .ok reply ∧ reply.IsSuccess ∧ reply.Holds decision := by
  constructor
  · rintro rfl
    cases judged with
    | decided success holds => exact ⟨_, rfl, success, holds⟩
  · rintro ⟨reply, rfl, success, holds⟩
    cases judged with
    | unknown status => exact absurd status success.known
    | failure _ failure => exact absurd success failure
    | garbled _ garbled => exact absurd holds (garbled decision)
    | decided _ stated => rw [stated.unique holds]

/-! ## Checks -/

/-- With which status an answer is refused.  That of a decision which does not
help the caller is `denial`. -/
inductive Refused (denial : AccessDecision → Nat) : Except TransportError Reply → Nat → Prop where
  | unreached : Refused denial (.error error) 500
  | unknown : reply.status = 401 → Refused denial (.ok reply) 401
  | failure : reply.status ≠ 401 → ¬ reply.IsSuccess → Refused denial (.ok reply) 500
  | garbled : reply.IsSuccess → (∀ decision, ¬ reply.Holds decision) →
      Refused denial (.ok reply) 500
  | denied : reply.IsSuccess → reply.Holds decision →
      Refused denial (.ok reply) (denial decision)

-- The rows exclude one another, so the answer settles the status.
theorem Refused.unique {denial : AccessDecision → Nat} {answer : Except TransportError Reply}
    {status other : Nat} (left : Refused denial answer status)
    (right : Refused denial answer other) : status = other := by
  cases left <;> cases right <;> grind [Reply.IsSuccess.known, Reply.Holds.unique]

/-- A check passes on the decisions of which `grants` holds, stated by a 2xx
answer, and on nothing else. -/
structure FailsClosed (answer : Except TransportError Reply) (grants : AccessDecision → α → Prop)
    (denial : AccessDecision → Nat) (out : Except Refusal α) : Prop where
  granted : ∀ a, out = .ok a ↔ ∃ reply decision, answer = .ok reply ∧ reply.IsSuccess ∧
    reply.Holds decision ∧ grants decision a
  refused : ∀ refusal, out = .error refusal →
    ∃ error, refusal = .error error ∧ Refused denial answer error.status

/-- The status of a check that does not pass is that of the row its answer is in. -/
theorem FailsClosed.status {answer : Except TransportError Reply}
    {grants : AccessDecision → α → Prop} {denial : AccessDecision → Nat}
    {out : Except Refusal α} (closed : FailsClosed answer grants denial out) {status : Nat}
    (row : Refused denial answer status)
    (ungranted : ∀ reply decision a, answer = .ok reply → reply.IsSuccess →
      reply.Holds decision → ¬ grants decision a) :
    ∃ error, out = .error (.error error) ∧ error.status = status := by
  cases out with
  | ok a =>
    obtain ⟨reply, decision, arrived, success, holds, granted⟩ := (closed.granted a).mp rfl
    exact absurd granted (ungranted reply decision a arrived success holds)
  | error refusal =>
    obtain ⟨error, rfl, refused⟩ := closed.refused refusal rfl
    exact ⟨error, rfl, refused.unique row⟩

/-- What a check makes of a decision. -/
structure Settles (grants : AccessDecision → α → Prop) (denial : AccessDecision → Nat)
    (settled : AccessDecision → Except Refusal α) : Prop where
  granted : ∀ decision a, settled decision = .ok a ↔ grants decision a
  denied : ∀ decision refusal, settled decision = .error refusal →
    ∃ error, refusal = .error error ∧ error.status = denial decision

/-- The verdict in the result of asking the service. -/
def verdictOf : Except AccessError AccessDecision → Verdict
  | .ok decision => .decided decision
  | .error error => .failed error

theorem verdictOf_eq_decided_iff {result : Except AccessError AccessDecision}
    {decision : AccessDecision} : verdictOf result = .decided decision ↔ result = .ok decision := by
  cases result <;> simp [verdictOf]

theorem authorizer_run {post : Transport (StateM σ)} {base caller : String} {target : AccessTarget}
    {before after : σ} {result : Except AccessError AccessDecision}
    (h : Ends (check post base caller target) before result after) :
    (authorizer post base caller target).run before = (verdictOf result, after) := by
  simp only [authorizer, StateT.run_bind]
  rw [show (check post base caller target).run.run before = (result, after) from h]
  cases result <;> rfl

theorem failsClosed_of_judged {answer : Except TransportError Reply}
    {result : Except AccessError AccessDecision} {grants : AccessDecision → α → Prop}
    {denial : AccessDecision → Nat} {settled : AccessDecision → Except Refusal α}
    (judged : Judged answer result) (settles : Settles grants denial settled) :
    FailsClosed answer grants denial (Permission.answered (verdictOf result) >>= settled) where
  granted a := by
    simp only [Permission.answered_bind_eq_ok_iff, verdictOf_eq_decided_iff, settles.granted,
      judged.ok_iff]
    constructor
    · rintro ⟨decision, ⟨reply, arrived, success, holds⟩, grants⟩
      exact ⟨reply, decision, arrived, success, holds, grants⟩
    · rintro ⟨reply, decision, arrived, success, holds, grants⟩
      exact ⟨decision, ⟨reply, arrived, success, holds⟩, grants⟩
  refused refusal h := by
    cases judged with
    | unreached => cases h; exact ⟨_, rfl, .unreached⟩
    | unknown status => cases h; exact ⟨_, rfl, .unknown status⟩
    | failure known failure => cases h; exact ⟨_, rfl, .failure known failure⟩
    | garbled success garbled => cases h; exact ⟨_, rfl, .garbled success garbled⟩
    | decided success holds =>
      obtain ⟨error, rfl, status⟩ := settles.denied _ _ h
      exact ⟨error, rfl, status ▸ .denied success holds⟩

theorem permitted_denied {right : Prop} [Decidable right] {refusal : Refusal}
    (h : Permission.permitted right = .error refusal) :
    ∃ error, refusal = .error error ∧ error.status = 403 := by
  unfold Permission.permitted at h
  split at h
  · cases h
  · cases h; exact ⟨_, rfl, rfl⟩

theorem postEdit_settles :
    Settles (fun decision (_ : Unit) => decision.allowed = true) (fun _ => 403)
      fun decision => Permission.permitted decision.allowed where
  granted _ _ := Permission.permitted_eq_ok_iff
  denied _ _ h := permitted_denied h

theorem identity_settles :
    Settles (fun decision user => decision = ⟨true, some user⟩) (fun _ => 401)
      Permission.identified where
  granted _ _ := Permission.identified_eq_ok_iff
  denied decision refusal h := by
    unfold Permission.identified at h
    split at h
    · cases h
    · cases h; exact ⟨_, rfl, rfl⟩

theorem owner_settles {userId : String} :
    Settles (fun decision (_ : Unit) => decision = ⟨true, some userId⟩)
      (fun decision => if decision.allowed ∧ decision.identity.isSome then 403 else 401)
      fun decision => Permission.identified decision >>= fun found =>
        Permission.permitted (found = userId) where
  granted decision _ := by
    cases identified : Permission.identified decision with
    | error refusal =>
      refine ⟨nofun, ?_⟩
      rintro rfl
      cases identified
    | ok found =>
      obtain rfl := Permission.identified_eq_ok_iff.mp identified
      exact Permission.permitted_eq_ok_iff.trans (by simp)
  denied decision refusal h := by
    cases identified : Permission.identified decision with
    | error refusal =>
      rw [identified] at h
      cases h
      obtain ⟨error, rfl, status⟩ := identity_settles.denied _ _ identified
      refine ⟨error, rfl, status.trans (if_neg ?_).symm⟩
      rintro ⟨allowed, present⟩
      obtain ⟨found, named⟩ := Option.isSome_iff_exists.mp present
      have passed := Permission.identified_eq_ok_iff.mpr (show decision = ⟨true, some found⟩ by
        cases decision; simp_all)
      rw [identified] at passed
      cases passed
    | ok found =>
      obtain rfl := Permission.identified_eq_ok_iff.mp identified
      exact permitted_denied h

/-- Whatever the service answers, if anything: every check ends, passes on a
2xx answer with the right decision only, and else reports why. -/
theorem remote_checks_fail_closed (post : Transport (StateM σ)) (base caller : String)
    (before : σ) :
    (∀ target, Asks post base caller target before) ∧
    (∀ postId, ∃ out,
      Ends (Permission.postEdit (authorizer post base) caller postId) before out
        (exchange post base caller (.editPost postId) before).2 ∧
      FailsClosed (exchange post base caller (.editPost postId) before).1
        (fun decision (_ : Unit) => decision.allowed = true) (fun _ => 403) out) ∧
    (∃ out,
      Ends (Permission.identity (authorizer post base) caller) before out
        (exchange post base caller .authenticated before).2 ∧
      FailsClosed (exchange post base caller .authenticated before).1
        (fun decision user => decision = ⟨true, some user⟩) (fun _ => 401) out) ∧
    (∀ userId, ∃ out,
      Ends (Permission.owner (authorizer post base) caller userId) before out
        (exchange post base caller .authenticated before).2 ∧
      FailsClosed (exchange post base caller .authenticated before).1
        (fun decision (_ : Unit) => decision = ⟨true, some userId⟩)
        (fun decision => if decision.allowed ∧ decision.identity.isSome then 403 else 401) out) := by
  refine ⟨fun target => asks post base caller target before, fun postId => ?_, ?_, fun userId => ?_⟩
  · obtain ⟨result, judged, ended⟩ := check_ends post base caller (.editPost postId) before
    exact ⟨_, Permission.postEdit_ends (authorizer_run ended),
      failsClosed_of_judged judged postEdit_settles⟩
  · obtain ⟨result, judged, ended⟩ := check_ends post base caller .authenticated before
    exact ⟨_, Permission.identity_ends (authorizer_run ended),
      failsClosed_of_judged judged identity_settles⟩
  · obtain ⟨result, judged, ended⟩ := check_ends post base caller .authenticated before
    exact ⟨_, Permission.owner_ends (authorizer_run ended),
      failsClosed_of_judged judged owner_settles⟩

/-- What the service answers to the caller that it knows. -/
def aliceReply : Reply where
  status := 200
  body := "\x7b\"allowed\": true, \"identity\": \"alice\"\x7d".toUTF8

/-- A service that knows one token and keeps the addresses at which it was asked. -/
def aliceService : Transport (StateM (List String)) := fun address document asked =>
  let reply : Reply :=
    match document.member? "token" with
    | some (.text "token-alice") => aliceReply
    | _ => ⟨401, .empty⟩
  (.ok reply, asked ++ [address])

theorem aliceHost : HostLabels ["authz".toList] where
  plain label among c inside := by
    obtain rfl := List.mem_singleton.mp among
    have all : "authz".toList.all (fun c => decide (IsLabelChar c)) = true := by decide
    exact of_decide_eq_true (List.all_eq_true.mp all c inside)
  unencoded label among := by
    obtain rfl := List.mem_singleton.mp among
    decide
  settled := .inl ⟨'a', "uthz".toList, rfl, rfl⟩

def aliceBase : HttpBase where
  secure := false
  labels := ["authz".toList]
  port := some 9000
  path := ['/']
  host := aliceHost
  range n given := by obtain rfl := Option.some.inj given; decide
  rooted c first := (Option.some.inj first).symm

theorem aliceReply_holds : aliceReply.Holds ⟨true, some "alice"⟩ :=
  Reply.holds_iff.mpr (by decide +kernel)

/-- The service is asked once for each check.  Its caller may edit and is alice, who is not bob,
and a caller that it does not know is told so. -/
theorem remote_checks_fail_closed_of_alice :
    (let checked := authorizer aliceService "http://authz:9000/"
    let asked := ["http://authz:9000/v1/access"]
    Ends (Permission.postEdit checked "token-alice" "p1") [] (.ok ()) asked ∧
    Ends (Permission.identity checked "token-alice") [] (.ok "alice") asked ∧
    Ends (Permission.owner checked "token-alice" "alice") [] (.ok ()) asked ∧
    (∃ error, Ends (Permission.owner checked "token-alice" "bob") [] (.error (.error error)) asked ∧
      error.status = 403) ∧
    ∃ error, Ends (Permission.identity checked "stranger") [] (.error (.error error)) asked ∧
      error.status = 401) := by
  obtain ⟨asked, edit, identity, owner⟩ :=
    remote_checks_fail_closed aliceService "http://authz:9000/" "token-alice" []
  obtain ⟨askedToo, -, unknown, -⟩ :=
    remote_checks_fail_closed aliceService "http://authz:9000/" "stranger" []
  have granted (target : AccessTarget) :
      exchange aliceService "http://authz:9000/" "token-alice" target [] =
        (.ok aliceReply, ["http://authz:9000/v1/access"]) :=
    ((asked target).sent aliceBase (by decide)).trans (by cases target <;> rfl)
  have rejected : exchange aliceService "http://authz:9000/" "stranger" .authenticated [] =
      (.ok ⟨401, .empty⟩, ["http://authz:9000/v1/access"]) :=
    ((askedToo .authenticated).sent aliceBase (by decide)).trans rfl
  have success : aliceReply.IsSuccess := ⟨by decide, by decide⟩
  simp only [granted] at edit identity owner
  rw [rejected] at unknown
  refine ⟨?_, ?_, ?_, ?_, ?_⟩
  · obtain ⟨out, ended, closed⟩ := edit "p1"
    rwa [(closed.granted ()).mpr ⟨_, _, rfl, success, aliceReply_holds, rfl⟩] at ended
  · obtain ⟨out, ended, closed⟩ := identity
    rwa [(closed.granted "alice").mpr ⟨_, _, rfl, success, aliceReply_holds, rfl⟩] at ended
  · obtain ⟨out, ended, closed⟩ := owner "alice"
    rwa [(closed.granted ()).mpr ⟨_, _, rfl, success, aliceReply_holds, rfl⟩] at ended
  · obtain ⟨out, ended, closed⟩ := owner "bob"
    obtain ⟨error, rfl, status⟩ := closed.status (.denied success aliceReply_holds) (by
      rintro reply decision - arrived - holds rfl
      obtain rfl := Except.ok.inj arrived
      exact absurd (holds.unique aliceReply_holds) (by decide))
    exact ⟨error, ended, status⟩
  · obtain ⟨out, ended, closed⟩ := unknown
    obtain ⟨error, rfl, status⟩ := closed.status (.unknown rfl) (by
      rintro reply decision user arrived success - -
      obtain rfl := Except.ok.inj arrived
      exact success.known rfl)
    exact ⟨error, ended, status⟩

end MediaVault.RemoteAccess
