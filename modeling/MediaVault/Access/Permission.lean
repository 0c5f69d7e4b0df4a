import MediaVault.Access.Decision
import MediaVault.Api.Error

/-!
# Permission checks

A check asks the authorizer one question and turns every answer but a clear
permission into a refusal.
-/

namespace MediaVault

/-- Why a request is not answered as asked. -/
inductive Refusal where
  | error (error : ApiError)
  /-- The request cannot be read; the wording goes out as plain text. -/
  | unreadable (status : Nat) (message : String)
  /-- A collaborator never answered, so the request ran out of time. -/
  | timedOut
deriving Repr, DecidableEq

namespace Permission

variable {m : Type → Type} [Monad m]

/-- The authorizer's decision about a token. -/
def ask (authorizer : Authorizer m) (token : String) (target : AccessTarget) :
    ExceptT Refusal m AccessDecision := do
  match ← (authorizer token target : m Verdict) with
  | .decided decision => pure decision
  | .failed error => throw (.error (ApiError.ofAccess error))
  | .silent => throw .timedOut

/-- The caller has no right to do this. -/
def notAllowed : ApiError :=
  ApiError.forbidden "You are not allowed to perform this action"

/-- The identity behind a token.  Denied and anonymous sessions have none. -/
def identity (authorizer : Authorizer m) (token : String) : ExceptT Refusal m String := do
  match ← ask authorizer token .authenticated with
  | { allowed := true, identity := some identity } => pure identity
  | _ => throw (.error (ApiError.unauthorized AccessError.invalidCredentials.message))

/-- The right to change the attachments of a post. -/
def postEdit (authorizer : Authorizer m) (token postId : String) : ExceptT Refusal m Unit := do
  let decision ← ask authorizer token (.editPost postId)
  if decision.allowed then pure () else throw (.error notAllowed)

/-- Only users themselves may change their profile image. -/
def owner (authorizer : Authorizer m) (token userId : String) : ExceptT Refusal m Unit := do
  let found ← identity authorizer token
  if found = userId then pure () else throw (.error notAllowed)

end Permission

end MediaVault
