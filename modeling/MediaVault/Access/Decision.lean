/-!
# Asking who may do what

The service never decides access itself.  It hands a caller's token and the
thing the caller wants to do to an authorizer, which may grant, deny, fail or
stay silent.
-/

namespace MediaVault

/-- What a caller wants to be allowed to do. -/
inductive AccessTarget where
  /-- Any valid identity will do. -/
  | authenticated
  /-- Change the attachments of a post. -/
  | editPost (postId : String)
deriving Repr, DecidableEq

namespace AccessTarget

/-- The name of the kind of target. -/
def kind : AccessTarget → String
  | authenticated => "session"
  | editPost _ => "post_edit"

/-- The identifier of the target, if it has one. -/
def id? : AccessTarget → Option String
  | authenticated => none
  | editPost postId => some postId

end AccessTarget

/-- An authorizer's answer; the identity is the token's owner, if known. -/
structure AccessDecision where
  allowed : Bool
  identity : Option String := none
deriving Repr, DecidableEq

/-- Why an authorizer gave no decision. -/
inductive AccessError where
  | invalidCredentials
  | unavailable (reason : String)
deriving Repr, DecidableEq

namespace AccessError

/-- The wording of an access error. -/
def message : AccessError → String
  | invalidCredentials => "invalid or expired credentials"
  | unavailable reason => "authorization service unavailable: " ++ reason

end AccessError

/-- All that can come of a question to an authorizer. -/
inductive Verdict where
  | decided (decision : AccessDecision)
  | failed (error : AccessError)
  /-- No answer ever comes. -/
  | silent
deriving Repr, DecidableEq

/-- Answers questions about a token. -/
abbrev Authorizer (m : Type → Type) := (token : String) → AccessTarget → m Verdict

namespace Authorizer

/-- Refuses every token; used when no authorization service is configured. -/
def denyAll {m : Type → Type} [Monad m] : Authorizer m :=
  fun _ _ => pure (.failed .invalidCredentials)

end Authorizer

end MediaVault
