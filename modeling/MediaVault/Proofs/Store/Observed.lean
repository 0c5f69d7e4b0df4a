import MediaVault.Media.Service
import MediaVault.Proofs.Run

/-!
# Stores under observation

A store keeps its own state, whatever that is, and beside it a log of what every
access names.  `Traced` bounds what an action adds to the log and what is known
of its result; it is closed under the ways in which actions are combined, so the
accesses of a handler are read off its steps.
-/

namespace MediaVault

/-- What an access to the store names. -/
inductive Access where
  | bucket
  /-- All keys that start with the given text. -/
  | listing (lead : String)
  | object (key : String)
deriving DecidableEq

section Observing

variable {σ ε ε₁ α β : Type}

/-- Act on the state and note what was named. -/
def noted (access : Access) (action : ExceptT ε (StateM σ) α) :
    ExceptT ε (StateM (σ × List Access)) α :=
  ExceptT.mk fun before =>
    let run := action.run.run before.1
    (run.1, (run.2, before.2 ++ [access]))

/-- The store with a log of its accesses. -/
def ObjectStore.observed (store : ObjectStore (StateM σ)) :
    ObjectStore (StateM (σ × List Access)) where
  bucket := store.bucket
  bucketExists := noted .bucket store.bucketExists
  createBucket := noted .bucket store.createBucket
  put key payload options := noted (.object key) (store.put key payload options)
  get key := noted (.object key) (store.get key)
  stat key := noted (.object key) (store.stat key)
  list lead := noted (.listing lead) (store.list lead)
  delete key := noted (.object key) (store.delete key)

/-- The signer that answers by a function, with a log of the keys it signs. -/
def UrlSigner.observed (sign : String → Duration → Except StorageError String) :
    UrlSigner (StateM (σ × List Access)) where
  presign key expiry := noted (.object key) (ExceptT.mk (pure (sign key expiry)))

/-! ## What an action adds to the log -/

/-- The action notes only what satisfies `named`; what it yields satisfies
`result`, and its errors satisfy `failure`. -/
def Traced (named : Access → Prop) (failure : ε → Prop) (result : α → Prop)
    (action : ExceptT ε (StateM (σ × List Access)) α) : Prop :=
  ∀ before out after, Ends action before out after →
    (∃ accesses, after.2 = before.2 ++ accesses ∧ ∀ access ∈ accesses, named access) ∧
      match out with
      | .ok a => result a
      | .error error => failure error

variable {named : Access → Prop} {failure : ε → Prop} {failure₁ : ε₁ → Prop} {result : α → Prop}
  {result₁ : β → Prop} {action : ExceptT ε (StateM (σ × List Access)) α}

theorem traced_pure {a : α} (fine : result a) :
    Traced named failure result (pure a : ExceptT ε (StateM (σ × List Access)) α) := by
  intro before out after h
  obtain ⟨rfl, rfl⟩ := ends_pure_iff.mp h
  exact ⟨⟨[], by simp⟩, fine⟩

theorem traced_throw {error : ε} (fails : failure error) :
    Traced named failure result (throw error : ExceptT ε (StateM (σ × List Access)) α) := by
  intro before out after h
  obtain ⟨rfl, rfl⟩ := ends_throw_iff.mp h
  exact ⟨⟨[], by simp⟩, fails⟩

/-- A check accesses nothing. -/
theorem Checked.traced (checked : Checked failure result action) :
    Traced named failure result action := by
  intro before out after h
  obtain ⟨rfl, known⟩ := checked _ _ _ h
  exact ⟨⟨[], by simp⟩, known⟩

theorem Settled.traced {action : ∀ σ : Type, ExceptT ε (StateM σ) α}
    (settled : Settled failure result action) :
    Traced named failure result (action (σ × List Access)) :=
  settled.checked.traced

theorem traced_noted {access : Access} {inner : ExceptT ε (StateM σ) α} (may : named access) :
    Traced named (fun _ => True) (fun _ => True) (noted access inner) := by
  intro before out after h
  obtain ⟨rfl, rfl⟩ := Prod.mk.inj h
  refine ⟨⟨[access], rfl, by simpa using may⟩, ?_⟩
  split <;> trivial

theorem Traced.bind {next : α → ExceptT ε (StateM (σ × List Access)) β}
    (first : Traced named failure result action)
    (rest : ∀ a, result a → Traced named failure result₁ (next a)) :
    Traced named failure result₁ (action >>= next) := by
  intro before out after h
  rcases ends_bind_iff.mp h with ⟨error, ended, rfl⟩ | ⟨a, between, ended, ended₁⟩
  · exact first _ _ _ ended
  · obtain ⟨⟨accesses, log, may⟩, known⟩ := first _ _ _ ended
    obtain ⟨⟨accesses₁, log₁, may₁⟩, known₁⟩ := rest a known _ _ _ ended₁
    refine ⟨⟨accesses ++ accesses₁, by rw [log₁, log, List.append_assoc], ?_⟩, known₁⟩
    intro access member
    rcases List.mem_append.mp member with member | member
    · exact may access member
    · exact may₁ access member

theorem Traced.mapError {reword : ε → ε₁} (traced : Traced named failure result action)
    (fails : ∀ error, failure error → failure₁ (reword error)) :
    Traced named failure₁ result (ExceptT.mk (return (← action.run).mapError reword) :
      ExceptT ε₁ (StateM (σ × List Access)) α) := by
  intro before out after h
  obtain ⟨inner, ended, rfl⟩ := ends_mapError_iff.mp h
  obtain ⟨log, known⟩ := traced _ _ _ ended
  cases inner with
  | error error => exact ⟨log, fails error known⟩
  | ok a => exact ⟨log, known⟩

theorem Traced.attempt (traced : Traced named failure result action) :
    Traced named failure₁ (fun _ => True) (attempt action :
      ExceptT ε₁ (StateM (σ × List Access)) (Except ε α)) := by
  intro before out after h
  obtain ⟨inner, ended, rfl⟩ := ends_attempt_iff.mp h
  exact ⟨(traced _ _ _ ended).1, trivial⟩

/-- An action that goes on also after a failure of its first step. -/
theorem Traced.recover {first : ExceptT ε₁ (StateM (σ × List Access)) α}
    {next : Except ε₁ α → ExceptT ε (StateM (σ × List Access)) β}
    (begun : Traced named failure₁ result first)
    (rest : ∀ out, Traced named failure result₁ (next out)) :
    Traced named failure result₁ (ExceptT.mk (first.run >>= fun out => (next out).run)) := by
  have whole : Traced named failure result₁ (MediaVault.attempt first >>= next) :=
    begun.attempt.bind fun out _ => rest out
  exact whole

end Observing

end MediaVault
