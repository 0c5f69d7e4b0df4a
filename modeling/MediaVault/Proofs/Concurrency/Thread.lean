import MediaVault.Store.Memory

/-!
# Threads over shared contents

The store in memory reaches its contents through the accesses of a `Shelf`
only.  A thread is a program that makes one such access at a time and goes on
with the answer; what it does between two accesses is its own business and
needs no step.
-/

namespace MediaVault

/-- One atomic access to the contents. -/
inductive Call where
  | created
  | markCreated
  | insert (key : String) (object : StoredObject)
  | lookup (key : String)
  | remove (key : String)
  | scan (lead : String)

namespace Call

/-- What an access yields. -/
@[reducible]
def Answer : Call → Type
  | created => Bool
  | markCreated => Unit
  | insert _ _ => Unit
  | lookup _ => Option StoredObject
  | remove _ => Unit
  | scan _ => List StoredObject

/-- The access as the sequential store makes it. -/
def run : (call : Call) → StateM Contents call.Answer
  | created => Contents.shelf.created
  | markCreated => Contents.shelf.markCreated
  | insert key object => Contents.shelf.insert key object
  | lookup key => Contents.shelf.lookup? key
  | remove key => Contents.shelf.remove key
  | scan lead => Contents.shelf.scan lead

/-- The key that an access writes, and what lies there afterwards. -/
def write? : Call → Option (String × Option StoredObject)
  | insert key object => some (key, some object)
  | remove key => some (key, none)
  | _ => none

end Call

/-- An access that was made, and its answer. -/
structure Moment where
  call : Call
  answer : call.Answer

/-- A program that makes one access at a time. -/
inductive Thread (α : Type) where
  | done (value : α)
  | ask (call : Call) (next : call.Answer → Thread α)

namespace Thread

variable {α β : Type}

protected def bind : Thread α → (α → Thread β) → Thread β
  | done value, next => next value
  | ask call rest, next => ask call fun answer => (rest answer).bind next

instance : Monad Thread where
  pure := done
  bind := Thread.bind

/-- Each access is one step of a thread. -/
def shelf : Shelf Thread where
  created := ask .created done
  markCreated := ask .markCreated done
  insert key object := ask (.insert key object) done
  lookup? key := ask (.lookup key) done
  remove key := ask (.remove key) done
  scan lead := ask (.scan lead) done

/-- After the accesses `made`, the thread stands at `rest`. -/
inductive Path (start : Thread α) : List Moment → Thread α → Prop where
  | start : Path start [] start
  | step {made : List Moment} {call : Call} {next : call.Answer → Thread α}
      (before : Path start made (ask call next)) (answer : call.Answer) :
      Path start (made ++ [⟨call, answer⟩]) (next answer)

theorem Path.done_inv {value : α} {made : List Moment} {rest : Thread α}
    (path : Path (done value) made rest) : made = [] ∧ rest = done value := by
  induction path with
  | start => exact ⟨rfl, rfl⟩
  | step _ _ ih => cases ih.2

/-- A thread makes its first access before all others. -/
theorem Path.ask_inv {call : Call} {next : call.Answer → Thread α} {made : List Moment}
    {rest : Thread α} (path : Path (ask call next) made rest) :
    (made = [] ∧ rest = ask call next) ∨
      ∃ answer others, made = ⟨call, answer⟩ :: others ∧ Path (next answer) others rest := by
  induction path with
  | start => exact .inl ⟨rfl, rfl⟩
  | step before answer ih =>
    rcases ih with ⟨rfl, same⟩ | ⟨first, others, rfl, later⟩
    · obtain ⟨rfl, same⟩ := Thread.ask.inj same
      obtain rfl := eq_of_heq same
      exact .inr ⟨answer, [], rfl, .start⟩
    · exact .inr ⟨first, _, rfl, .step later answer⟩

end Thread

end MediaVault
