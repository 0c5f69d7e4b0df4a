import MediaVault.Store.Basic

/-!
# Runs of actions over a state

The library's actions are generic in their monad.  Over a state they are judged
by how they end: `Ends action before out after`.  An action built by `>>=` is
inverted by `ends_bind_iff`; a step that leaves the state alone is `Quiet`.  If more is
known of its result it is `Checked`, and `Ends.past` walks past it.
-/

namespace MediaVault

variable {σ ε ε₁ α β : Type}

/-- Started in `before`, the action yields `out` and leaves `after`. -/
def Ends (action : ExceptT ε (StateM σ) α) (before : σ) (out : Except ε α) (after : σ) : Prop :=
  action.run.run before = (out, after)

theorem ends_self (action : ExceptT ε (StateM σ) α) (before : σ) :
    Ends action before (action.run.run before).1 (action.run.run before).2 := rfl

/-! ## Building blocks -/

theorem ends_pure_iff {a : α} {before after : σ} {out : Except ε α} :
    Ends (pure a) before out after ↔ out = .ok a ∧ after = before := by
  constructor
  · intro h
    obtain ⟨rfl, rfl⟩ := Prod.mk.inj h
    exact ⟨rfl, rfl⟩
  · rintro ⟨rfl, rfl⟩
    rfl

theorem ends_throw_iff {error : ε} {before after : σ} {out : Except ε α} :
    Ends (throw error) before out after ↔ out = .error error ∧ after = before := by
  constructor
  · intro h
    obtain ⟨rfl, rfl⟩ := Prod.mk.inj h
    exact ⟨rfl, rfl⟩
  · rintro ⟨rfl, rfl⟩
    rfl

theorem run_bind_of_ends {action : ExceptT ε (StateM σ) α} {next : α → ExceptT ε (StateM σ) β}
    {before between : σ} {out : Except ε α} (h : Ends action before out between) :
    (action >>= next).run.run before =
      match out with
      | .ok a => (next a).run.run between
      | .error error => (.error error, between) := by
  simp only [ExceptT.run_bind, StateT.run_bind]
  rw [show action.run.run before = (out, between) from h]
  cases out <;> rfl

/-- A sequence stops at the first failure, else its end is that of the second
action. -/
theorem ends_bind_iff {action : ExceptT ε (StateM σ) α} {next : α → ExceptT ε (StateM σ) β}
    {before after : σ} {out : Except ε β} :
    Ends (action >>= next) before out after ↔
      (∃ error, Ends action before (.error error) after ∧ out = .error error) ∨
        ∃ a between, Ends action before (.ok a) between ∧ Ends (next a) between out after := by
  constructor
  · intro h
    obtain ⟨first, between, ended⟩ : ∃ first between, Ends action before first between :=
      ⟨_, _, ends_self action before⟩
    have whole := (run_bind_of_ends ended).symm.trans h
    cases first with
    | error error =>
      obtain ⟨rfl, rfl⟩ := Prod.mk.inj whole
      exact .inl ⟨error, ended, rfl⟩
    | ok a => exact .inr ⟨a, between, ended, whole⟩
  · rintro (⟨error, ended, rfl⟩ | ⟨a, between, ended, rest⟩)
    · exact run_bind_of_ends ended
    · exact (run_bind_of_ends ended).trans rest

/-- An access to the state is followed by an action on what it found. -/
theorem ends_bind_lift_iff {access : StateM σ α} {next : α → ExceptT ε (StateM σ) β}
    {before after : σ} {out : Except ε β} :
    Ends (ExceptT.lift access >>= next) before out after ↔
      Ends (next (access.run before).1) (access.run before).2 out after := Iff.rfl

theorem Ends.bind {action : ExceptT ε (StateM σ) α} {next : α → ExceptT ε (StateM σ) β} {a : α}
    {before between after : σ} {out : Except ε β} (first : Ends action before (.ok a) between)
    (rest : Ends (next a) between out after) : Ends (action >>= next) before out after :=
  ends_bind_iff.mpr (.inr ⟨a, between, first, rest⟩)

/-- What follows an action may leave the state alone and depend on the result
only; then so does the end of both. -/
theorem Ends.bind_settled {action : ExceptT ε (StateM σ) α} {next : α → ExceptT ε (StateM σ) β}
    {settled : α → Except ε β} {before after : σ} {out : Except ε α}
    (first : Ends action before out after) (rest : ∀ a, Ends (next a) after (settled a) after) :
    Ends (action >>= next) before (out >>= settled) after := by
  cases out with
  | error error => exact ends_bind_iff.mpr (.inl ⟨error, first, rfl⟩)
  | ok a => exact ends_bind_iff.mpr (.inr ⟨a, after, first, rest a⟩)

theorem ends_map_iff {action : ExceptT ε (StateM σ) α} {f : α → β} {before after : σ}
    {out : Except ε β} :
    Ends (action >>= fun a => pure (f a)) before out after ↔
      ∃ inner, Ends action before inner after ∧ out = inner.map f := by
  rw [ends_bind_iff]
  constructor
  · rintro (⟨error, ended, rfl⟩ | ⟨a, between, ended, rest⟩)
    · exact ⟨.error error, ended, rfl⟩
    · obtain ⟨rfl, rfl⟩ := ends_pure_iff.mp rest
      exact ⟨.ok a, ended, rfl⟩
  · rintro ⟨error | a, ended, rfl⟩
    · exact .inl ⟨error, ended, rfl⟩
    · exact .inr ⟨a, after, ended, ends_pure_iff.mpr ⟨rfl, rfl⟩⟩

/-- Rewording the errors of an action changes nothing else about it. -/
theorem ends_mapError_iff {action : ExceptT ε (StateM σ) α} {reword : ε → ε₁} {before after : σ}
    {out : Except ε₁ α} :
    Ends (ExceptT.mk (return (← action.run).mapError reword)) before out after ↔
      ∃ inner, Ends action before inner after ∧ out = inner.mapError reword := by
  constructor
  · intro h
    obtain ⟨rfl, rfl⟩ := Prod.mk.inj h
    exact ⟨_, rfl, rfl⟩
  · rintro ⟨inner, ended, rfl⟩
    change (action.run.run before |>.1.mapError reword, action.run.run before |>.2) = _
    rw [show action.run.run before = (inner, after) from ended]

/-- Run for its result, an action does not fail. -/
theorem ends_attempt_iff {action : ExceptT ε (StateM σ) α} {before after : σ}
    {out : Except ε₁ (Except ε α)} :
    Ends (attempt action) before out after ↔
      ∃ inner, Ends action before inner after ∧ out = .ok inner := by
  constructor
  · intro h
    obtain ⟨rfl, rfl⟩ := Prod.mk.inj h
    exact ⟨_, rfl, rfl⟩
  · rintro ⟨inner, ended, rfl⟩
    change (Except.ok (action.run.run before).1, (action.run.run before).2) = _
    rw [show action.run.run before = (inner, after) from ended]

/-- An action that goes on from the result of its first step, be that a failure. -/
theorem Ends.recover_iff {action : ExceptT ε₁ (StateM σ) α}
    {next : Except ε₁ α → StateM σ (Except ε β)} {before between after : σ} {inner : Except ε₁ α}
    {out : Except ε β} (first : Ends action before inner between) :
    Ends (ExceptT.mk (action.run >>= next)) before out after ↔
      Ends (ExceptT.mk (next inner)) between out after := by
  change (next (action.run.run before).1).run (action.run.run before).2 = _ ↔ _
  rw [show action.run.run before = (inner, between) from first]
  rfl

theorem Ends.recover {action : ExceptT ε₁ (StateM σ) α} {next : Except ε₁ α → StateM σ (Except ε β)}
    {before between after : σ} {inner : Except ε₁ α} {out : Except ε β}
    (first : Ends action before inner between)
    (rest : Ends (ExceptT.mk (next inner)) between out after) :
    Ends (ExceptT.mk (action.run >>= next)) before out after :=
  first.recover_iff.mpr rest

/-! ## Steps that leave the state alone -/

/-- The action never changes the state. -/
def Quiet (action : ExceptT ε (StateM σ) α) : Prop :=
  ∀ before out after, Ends action before out after → after = before

theorem quiet_pure (a : α) : Quiet (pure a : ExceptT ε (StateM σ) α) :=
  fun _ _ _ h => (ends_pure_iff.mp h).2

theorem quiet_throw (error : ε) : Quiet (throw error : ExceptT ε (StateM σ) α) :=
  fun _ _ _ h => (ends_throw_iff.mp h).2

theorem Quiet.bind {action : ExceptT ε (StateM σ) α} {next : α → ExceptT ε (StateM σ) β}
    (first : Quiet action) (rest : ∀ a, Quiet (next a)) : Quiet (action >>= next) := by
  intro before out after h
  rcases ends_bind_iff.mp h with ⟨error, ended, rfl⟩ | ⟨a, between, ended, ended₁⟩
  · exact first _ _ _ ended
  · rw [rest a _ _ _ ended₁, first _ _ _ ended]

theorem Quiet.mapError {action : ExceptT ε (StateM σ) α} (quiet : Quiet action) (reword : ε → ε₁) :
    Quiet (ExceptT.mk (return (← action.run).mapError reword) : ExceptT ε₁ (StateM σ) α) := by
  intro before out after h
  obtain ⟨inner, ended, _⟩ := ends_mapError_iff.mp h
  exact quiet _ _ _ ended

theorem Quiet.attempt {action : ExceptT ε (StateM σ) α} (quiet : Quiet action) :
    Quiet (attempt action : ExceptT ε₁ (StateM σ) (Except ε α)) := by
  intro before out after h
  obtain ⟨inner, ended, _⟩ := ends_attempt_iff.mp h
  exact quiet _ _ _ ended

/-- An action that goes on also after a failure of its first step. -/
theorem Quiet.recover {action : ExceptT ε₁ (StateM σ) α}
    {next : Except ε₁ α → ExceptT ε (StateM σ) β} (first : Quiet action)
    (rest : ∀ result, Quiet (next result)) :
    Quiet (ExceptT.mk (action.run >>= fun result => (next result).run)) := by
  intro before out after h
  -- The run of the whole is that of the second action from where the first one ended.
  have first_kept := first _ _ _ (ends_self action before)
  have rest_kept := rest _ _ _ _ h
  exact rest_kept.trans first_kept

/-! ## Steps that keep an invariant -/

/-- The action preserves what `inv` says of the state. -/
def Keeps (inv : σ → Prop) (action : ExceptT ε (StateM σ) α) : Prop :=
  ∀ before out after, Ends action before out after → inv before → inv after

variable {inv : σ → Prop}

theorem keeps_pure (a : α) : Keeps inv (pure a : ExceptT ε (StateM σ) α) :=
  fun _ _ _ h kept => (ends_pure_iff.mp h).2 ▸ kept

theorem keeps_throw (error : ε) : Keeps inv (throw error : ExceptT ε (StateM σ) α) :=
  fun _ _ _ h kept => (ends_throw_iff.mp h).2 ▸ kept

/-- A step that changes nothing keeps every invariant. -/
theorem Quiet.keeps {action : ExceptT ε (StateM σ) α} (quiet : Quiet action) : Keeps inv action :=
  fun before out after h kept => quiet before out after h ▸ kept

theorem Keeps.bind {action : ExceptT ε (StateM σ) α} {next : α → ExceptT ε (StateM σ) β}
    (first : Keeps inv action) (rest : ∀ a, Keeps inv (next a)) : Keeps inv (action >>= next) := by
  intro before out after h kept
  rcases ends_bind_iff.mp h with ⟨error, ended, rfl⟩ | ⟨a, between, ended, ended₁⟩
  · exact first _ _ _ ended kept
  · exact rest a _ _ _ ended₁ (first _ _ _ ended kept)

theorem Keeps.mapError {action : ExceptT ε (StateM σ) α} (keeps : Keeps inv action)
    (reword : ε → ε₁) :
    Keeps inv (ExceptT.mk (return (← action.run).mapError reword) : ExceptT ε₁ (StateM σ) α) := by
  intro before out after h kept
  obtain ⟨inner, ended, _⟩ := ends_mapError_iff.mp h
  exact keeps _ _ _ ended kept

theorem Keeps.attempt {action : ExceptT ε (StateM σ) α} (keeps : Keeps inv action) :
    Keeps inv (attempt action : ExceptT ε₁ (StateM σ) (Except ε α)) := by
  intro before out after h kept
  obtain ⟨inner, ended, _⟩ := ends_attempt_iff.mp h
  exact keeps _ _ _ ended kept

/-- An action that goes on also after a failure of its first step. -/
theorem Keeps.recover {action : ExceptT ε₁ (StateM σ) α}
    {next : Except ε₁ α → StateM σ (Except ε β)} (first : Keeps inv action)
    (rest : ∀ result, Keeps inv (ExceptT.mk (next result))) :
    Keeps inv (ExceptT.mk (action.run >>= next)) := by
  intro before out after h kept
  exact rest _ _ _ _ h (first _ _ _ (ends_self action before) kept)

/-! ## Steps that fail in known ways -/

variable {failure : ε → Prop}

/-- The errors of the action satisfy `failure`. -/
def FailsWith (failure : ε → Prop) (action : ExceptT ε (StateM σ) α) : Prop :=
  ∀ before error after, Ends action before (.error error) after → failure error

theorem failsWith_pure (a : α) : FailsWith failure (pure a : ExceptT ε (StateM σ) α) := by
  intro before error after h
  obtain ⟨⟨⟩, -⟩ := ends_pure_iff.mp h

theorem failsWith_throw {error : ε} (fails : failure error) :
    FailsWith failure (throw error : ExceptT ε (StateM σ) α) := by
  intro before other after h
  obtain ⟨⟨⟩, -⟩ := ends_throw_iff.mp h
  exact fails

theorem FailsWith.bind {action : ExceptT ε (StateM σ) α} {next : α → ExceptT ε (StateM σ) β}
    (first : FailsWith failure action) (rest : ∀ a, FailsWith failure (next a)) :
    FailsWith failure (action >>= next) := by
  intro before error after h
  rcases ends_bind_iff.mp h with ⟨stopped, ended, same⟩ | ⟨a, between, -, ended⟩
  · obtain rfl := Except.error.inj same
    exact first _ _ _ ended
  · exact rest a _ _ _ ended

theorem failsWith_mapError {action : ExceptT ε₁ (StateM σ) α} {reword : ε₁ → ε}
    (fails : ∀ error, failure (reword error)) :
    FailsWith failure (ExceptT.mk (return (← action.run).mapError reword)) := by
  intro before error after h
  obtain ⟨inner, -, out⟩ := ends_mapError_iff.mp h
  cases inner with
  | error stopped =>
    obtain rfl := Except.error.inj out
    exact fails stopped
  | ok a => cases out

/-! ## Checks -/

/-- An action failed and changed nothing. -/
structure Declined (before : σ) (out : Except ε α) (after : σ) : Prop where
  same : after = before
  failed : ∃ error, out = .error error

variable {result : α → Prop} {result₁ : β → Prop}

/-- The action leaves the state alone; what it yields satisfies `result`, and its
errors satisfy `failure`. -/
def Checked (failure : ε → Prop) (result : α → Prop) (action : ExceptT ε (StateM σ) α) : Prop :=
  ∀ before out after, Ends action before out after → after = before ∧
    match out with
    | .ok a => result a
    | .error error => failure error

theorem checked_pure {a : α} (fine : result a) :
    Checked failure result (pure a : ExceptT ε (StateM σ) α) := by
  intro before out after h
  obtain ⟨rfl, rfl⟩ := ends_pure_iff.mp h
  exact ⟨rfl, fine⟩

theorem Checked.bind {action : ExceptT ε (StateM σ) α} {next : α → ExceptT ε (StateM σ) β}
    (first : Checked failure result action)
    (rest : ∀ a, result a → Checked failure result₁ (next a)) :
    Checked failure result₁ (action >>= next) := by
  intro before out after h
  rcases ends_bind_iff.mp h with ⟨error, ended, rfl⟩ | ⟨a, between, ended, ended₁⟩
  · exact first _ _ _ ended
  · obtain ⟨rfl, known⟩ := first _ _ _ ended
    exact rest a known _ _ _ ended₁

theorem Checked.quiet {action : ExceptT ε (StateM σ) α} (checked : Checked failure result action) :
    Quiet action :=
  fun before out after h => (checked before out after h).1

theorem Checked.fails {action : ExceptT ε (StateM σ) α} (checked : Checked failure result action) :
    FailsWith failure action :=
  fun before _ after h => (checked before _ after h).2

/-- A sequence that begins with a check either stops there or goes on from the same
state, with what the check found. -/
theorem Ends.past {action : ExceptT ε (StateM σ) α} {next : α → ExceptT ε (StateM σ) β}
    {before after : σ} {out : Except ε β} (h : Ends (action >>= next) before out after)
    (checked : Checked failure result action) :
    Declined before out after ∨ ∃ a, result a ∧ Ends (next a) before out after := by
  rcases ends_bind_iff.mp h with ⟨error, ended, rfl⟩ | ⟨a, between, ended, rest⟩
  · exact .inl ⟨(checked _ _ _ ended).1, error, rfl⟩
  · obtain ⟨rfl, known⟩ := checked _ _ _ ended
    exact .inr ⟨a, known, rest⟩

/-! ## Checks that do not depend on the state -/

/-- Over all states the action is the same check, with the same end. -/
def Settled (failure : ε → Prop) (result : α → Prop)
    (action : ∀ σ : Type, ExceptT ε (StateM σ) α) : Prop :=
  ∃ out : Except ε α,
    (match out with
      | .ok a => result a
      | .error error => failure error) ∧
    ∀ (σ : Type) (state : σ), Ends (action σ) state out state

theorem settled_pure {a : α} (fine : result a) :
    Settled failure result (fun _ => (pure a : ExceptT ε (StateM _) α)) :=
  ⟨.ok a, fine, fun _ _ => ends_pure_iff.mpr ⟨rfl, rfl⟩⟩

theorem settled_throw {error : ε} (fails : failure error) :
    Settled failure result (fun _ => (throw error : ExceptT ε (StateM _) α)) :=
  ⟨.error error, fails, fun _ _ => ends_throw_iff.mpr ⟨rfl, rfl⟩⟩

theorem Settled.bind {action : ∀ σ : Type, ExceptT ε (StateM σ) α}
    {next : ∀ σ : Type, α → ExceptT ε (StateM σ) β} (first : Settled failure result action)
    (rest : ∀ a, result a → Settled failure result₁ fun σ => next σ a) :
    Settled failure result₁ fun σ => action σ >>= next σ := by
  obtain ⟨out, finds, ends⟩ := first
  cases out with
  | error error =>
    exact ⟨.error error, finds, fun σ state =>
      ends_bind_iff.mpr (.inl ⟨error, ends σ state, rfl⟩)⟩
  | ok a =>
    obtain ⟨out, results, ends_rest⟩ := rest a finds
    exact ⟨out, results, fun σ state => (ends σ state).bind (ends_rest σ state)⟩

theorem Settled.checked {action : ∀ σ : Type, ExceptT ε (StateM σ) α} {σ : Type}
    (settled : Settled failure result action) : Checked failure result (action σ) := by
  obtain ⟨out, finds, ends⟩ := settled
  intro before other after h
  obtain ⟨rfl, rfl⟩ := Prod.mk.inj ((ends σ before).symm.trans h)
  exact ⟨rfl, finds⟩

theorem Settled.quiet {action : ∀ σ : Type, ExceptT ε (StateM σ) α} {σ : Type}
    (settled : Settled failure result action) : Quiet (action σ) :=
  settled.checked.quiet

end MediaVault
