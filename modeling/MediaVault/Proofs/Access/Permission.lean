import MediaVault.Access.Permission
import MediaVault.Proofs.Run

/-!
# Permission checks never guess

Every check makes a fixed outcome of the one verdict it asks for, and passes on a
clear permission only.  An authorizer may be a function from tokens and targets to
verdicts; to ask it changes nothing.
-/

namespace MediaVault.Permission

variable {σ : Type} {judge : String → AccessTarget → Verdict} {caller : String} {before after : σ}

/-! ## Outcomes -/

section

variable {authorizer : Authorizer (StateM σ)} {target : AccessTarget} {verdict : Verdict}

/-- What becomes of a verdict. -/
def answered : Verdict → Except Refusal AccessDecision
  | .decided decision => .ok decision
  | .failed error => .error (.error (ApiError.ofAccess error))
  | .silent => .error .timedOut

/-- The identity in a decision. -/
def identified : AccessDecision → Except Refusal String
  | { allowed := true, identity := some user } => .ok user
  | _ => .error (.error (ApiError.unauthorized AccessError.invalidCredentials.message))

/-- What becomes of a right that a caller has or lacks. -/
def permitted (right : Prop) [Decidable right] : Except Refusal Unit :=
  if right then .ok () else .error (.error notAllowed)

theorem answered_bind_eq_ok_iff {α : Type} {settled : AccessDecision → Except Refusal α} {a : α} :
    answered verdict >>= settled = .ok a ↔
      ∃ decision, verdict = .decided decision ∧ settled decision = .ok a := by
  constructor
  · intro h
    cases verdict with
    | decided decision => exact ⟨decision, rfl, h⟩
    | failed error => cases h
    | silent => cases h
  · rintro ⟨decision, rfl, h⟩
    exact h

theorem identified_eq_ok_iff {decision : AccessDecision} {user : String} :
    identified decision = .ok user ↔ decision = { allowed := true, identity := some user } := by
  obtain ⟨_ | _, _ | found⟩ := decision <;> simp [identified]

theorem permitted_eq_ok_iff {right : Prop} [Decidable right] {a : Unit} :
    permitted right = .ok a ↔ right := by
  unfold permitted
  split <;> simp_all

theorem ask_ends (asked : (authorizer caller target).run before = (verdict, after)) :
    Ends (ask authorizer caller target) before (answered verdict) after := by
  refine ends_bind_lift_iff.mpr ?_
  change Ends (match ((authorizer caller target).run before).1 with
    | .decided _ => _ | .failed _ => _ | .silent => _) ((authorizer caller target).run before).2 _ _
  rw [asked]
  cases verdict with
  | decided decision => exact ends_pure_iff.mpr ⟨rfl, rfl⟩
  | failed error => exact ends_throw_iff.mpr ⟨rfl, rfl⟩
  | silent => exact ends_throw_iff.mpr ⟨rfl, rfl⟩

theorem permitted_ends {right : Prop} [Decidable right] {state : σ} :
    Ends (if right then pure () else throw (.error notAllowed)) state (permitted right) state := by
  unfold permitted
  split
  · exact ends_pure_iff.mpr ⟨rfl, rfl⟩
  · exact ends_throw_iff.mpr ⟨rfl, rfl⟩

theorem postEdit_ends {postId : String}
    (asked : (authorizer caller (.editPost postId)).run before = (verdict, after)) :
    Ends (postEdit authorizer caller postId) before
      (answered verdict >>= fun decision => permitted decision.allowed) after :=
  (ask_ends asked).bind_settled fun _ => permitted_ends

theorem identity_ends (asked : (authorizer caller .authenticated).run before = (verdict, after)) :
    Ends (identity authorizer caller) before (answered verdict >>= identified) after := by
  refine (ask_ends asked).bind_settled fun decision => ?_
  obtain ⟨allowed, found⟩ := decision
  cases allowed with
  | false => exact ends_throw_iff.mpr ⟨rfl, rfl⟩
  | true =>
    cases found with
    | none => exact ends_throw_iff.mpr ⟨rfl, rfl⟩
    | some user => exact ends_pure_iff.mpr ⟨rfl, rfl⟩

theorem owner_ends {userId : String}
    (asked : (authorizer caller .authenticated).run before = (verdict, after)) :
    Ends (owner authorizer caller userId) before
      (answered verdict >>= fun decision =>
        identified decision >>= fun found => permitted (found = userId)) after := by
  rw [← bind_assoc]
  exact (identity_ends asked).bind_settled fun _ => permitted_ends

theorem owner_answers {userId : String}
    (asked : (authorizer caller .authenticated).run before =
      (.decided { allowed := true, identity := some userId }, after)) :
    Ends (owner authorizer caller userId) before (.ok ()) after := by
  have itself : permitted (userId = userId) = .ok () := permitted_eq_ok_iff.mpr rfl
  have ended : Ends (owner authorizer caller userId) before (permitted (userId = userId)) after :=
    owner_ends asked
  rwa [itself] at ended

end

/-! ## An authorizer that is a function -/

/-- The authorizer that answers by a function. -/
def authorizerOf (judge : String → AccessTarget → Verdict) : Authorizer (StateM σ) :=
  fun caller target => pure (judge caller target)

/-- To ask a function changes nothing. -/
theorem run_authorizerOf {target : AccessTarget} {verdict : Verdict}
    (decided : judge caller target = verdict) (before : σ) :
    (authorizerOf judge caller target).run before = (verdict, before) := by
  rw [← decided]
  rfl

end MediaVault.Permission
