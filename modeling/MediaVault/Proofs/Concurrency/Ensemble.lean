import Mathlib.Data.List.Induction
import Mathlib.Logic.Function.Basic
import MediaVault.Proofs.Concurrency.Thread
import MediaVault.Proofs.Store.Memory

/-!
# Ensembles of threads

Any number of threads share contents; a schedule says whose turn it is.  The
log keeps every access with its maker and its answer, and everything that is
later said about a run is said about its log.
-/

namespace MediaVault

/-- Threads, the contents that they share, and the accesses made so far. -/
structure Ensemble (ι α : Type) where
  contents : Contents
  threads : ι → Thread α
  log : List (ι × Moment) := []

variable {ι α : Type}

/-- The contents after some accesses. -/
def Contents.after (before : Contents) (log : List (ι × Moment)) : Contents :=
  log.foldl (fun contents entry => (entry.2.call.run.run contents).2) before

/-- The writes among some accesses: keys, and what lay there afterwards. -/
def writes (log : List (ι × Moment)) : List (String × Option StoredObject) :=
  log.filterMap fun entry => entry.2.call.write?

/-- The object last inserted under a key, unless it was removed since. -/
def lastWritten (before : Contents) (log : List (ι × Moment)) (key : String) :
    Option StoredObject :=
  match ((writes log).filter fun write => write.1 = key).getLast? with
  | some write => write.2
  | none => before.objects[key]?

theorem writes_append (log more : List (ι × Moment)) :
    writes (log ++ more) = writes log ++ writes more :=
  List.filterMap_append

theorem Contents.after_append (before : Contents) (log more : List (ι × Moment)) :
    before.after (log ++ more) = (before.after log).after more :=
  List.foldl_append

theorem Call.created_run (call : Call) (contents : Contents) (created : contents.created = true) :
    (call.run.run contents).2.created = true := by
  cases call with
  | markCreated => rfl
  | _ => exact created

theorem Call.objects_run (call : Call) (contents : Contents) (key : String) :
    (call.run.run contents).2.objects[key]? =
      match call.write? with
      | some write => if write.1 = key then write.2 else contents.objects[key]?
      | none => contents.objects[key]? := by
  cases call with
  | insert other object => exact contents.getElem?_write other key object
  | remove other => exact contents.getElem?_drop other key
  | _ => rfl

theorem Contents.created_after {before : Contents} (created : before.created = true)
    (log : List (ι × Moment)) : (before.after log).created = true := by
  induction log generalizing before with
  | nil => exact created
  | cons entry log ih => exact ih (entry.2.call.created_run before created)

theorem Contents.objects_after_of_unwritten (before : Contents) {log : List (ι × Moment)}
    (unwritten : ∀ entry ∈ log, entry.2.call.write? = none) :
    (before.after log).objects = before.objects := by
  induction log generalizing before with
  | nil => rfl
  | cons entry log ih =>
    have kept : (entry.2.call.run.run before).2.objects = before.objects := by
      have unwritten_here := unwritten entry List.mem_cons_self
      cases call : entry.2.call with
      | insert key object => rw [call] at unwritten_here; cases unwritten_here
      | remove key => rw [call] at unwritten_here; cases unwritten_here
      | _ => rfl
    exact (ih _ fun other member => unwritten other (List.mem_cons_of_mem _ member)).trans kept

theorem lastWritten_concat (before : Contents) (log : List (ι × Moment)) (entry : ι × Moment)
    (key : String) :
    lastWritten before (log ++ [entry]) key =
      match entry.2.call.write? with
      | some write => if write.1 = key then write.2 else lastWritten before log key
      | none => lastWritten before log key := by
  simp only [lastWritten, writes_append, List.filter_append]
  cases written : entry.2.call.write? with
  | none => simp [writes, written]
  | some write =>
    by_cases same : write.1 = key
    · simp [writes, written, same]
    · simp [writes, written, same]

/-- What lies under a key is what was last written there. -/
theorem Contents.objects_after (before : Contents) (log : List (ι × Moment)) (key : String) :
    (before.after log).objects[key]? = lastWritten before log key := by
  induction log using List.reverseRecOn with
  | nil => rfl
  | append_singleton log entry ih =>
    rw [Contents.after_append, lastWritten_concat, ← ih]
    exact entry.2.call.objects_run (before.after log) key

theorem mem_writes_iff {log : List (ι × Moment)} {write : String × Option StoredObject} :
    write ∈ writes log ↔ ∃ client moment, (client, moment) ∈ log ∧
      moment.call.write? = some write := by
  simp only [writes, List.mem_filterMap, Prod.exists]

/-- All writes of a key may have left the same there. -/
theorem lastWritten_eq_of_mem {before : Contents} {log : List (ι × Moment)} {key : String}
    {left : Option StoredObject} (written : (key, left) ∈ writes log)
    (alike : ∀ write ∈ writes log, write.1 = key → write.2 = left) :
    lastWritten before log key = left := by
  rw [lastWritten]
  split
  next write last =>
    have member := List.mem_filter.mp (List.mem_of_getLast? last)
    exact alike write member.1 (by simpa using member.2)
  next none_written =>
    have empty := List.getLast?_eq_none_iff.mp none_written
    have member : (key, left) ∈ (writes log).filter fun write => write.1 = key :=
      List.mem_filter.mpr ⟨written, by simp⟩
    rw [empty] at member
    cases member

theorem mem_writes_of_lastWritten {before : Contents} {log : List (ι × Moment)} {key : String}
    {object : StoredObject} (left : lastWritten before log key = some object) :
    before.objects[key]? = some object ∨ (key, some object) ∈ writes log := by
  rw [lastWritten] at left
  split at left
  next write last =>
    have member := List.mem_filter.mp (List.mem_of_getLast? last)
    obtain ⟨named, after⟩ := write
    obtain rfl : named = key := by simpa using member.2
    exact .inr (left ▸ member.1)
  next => exact .inl left

namespace Ensemble

variable [DecidableEq ι]

/-- One thread makes its next access; a thread that is done does nothing. -/
def step (ensemble : Ensemble ι α) (client : ι) : Ensemble ι α :=
  match ensemble.threads client with
  | .done _ => ensemble
  | .ask call next =>
    let ran := call.run.run ensemble.contents
    { contents := ran.2
      threads := Function.update ensemble.threads client (next ran.1)
      log := ensemble.log ++ [(client, ⟨call, ran.1⟩)] }

theorem step_of_done {ensemble : Ensemble ι α} {client : ι} {value : α}
    (finished : ensemble.threads client = .done value) : ensemble.step client = ensemble := by
  rw [step, finished]

theorem step_of_ask {ensemble : Ensemble ι α} {client : ι} {call : Call}
    {next : call.Answer → Thread α} (asks : ensemble.threads client = .ask call next) :
    ensemble.step client =
      { contents := (call.run.run ensemble.contents).2
        threads := Function.update ensemble.threads client
          (next (call.run.run ensemble.contents).1)
        log := ensemble.log ++ [(client, ⟨call, (call.run.run ensemble.contents).1⟩)] } := by
  rw [step, asks]

/-- The threads take turns. -/
def run (ensemble : Ensemble ι α) (schedule : List ι) : Ensemble ι α :=
  schedule.foldl step ensemble

/-- The accesses of one thread. -/
def momentsOf (client : ι) (log : List (ι × Moment)) : List Moment :=
  (log.filter fun entry => entry.1 = client).map (·.2)

theorem mem_momentsOf_iff {client : ι} {log : List (ι × Moment)} {moment : Moment} :
    moment ∈ momentsOf client log ↔ (client, moment) ∈ log := by
  simp [momentsOf]

theorem momentsOf_concat (client : ι) (log : List (ι × Moment)) (entry : ι × Moment) :
    momentsOf client (log ++ [entry]) =
      if entry.1 = client then momentsOf client log ++ [entry.2] else momentsOf client log := by
  by_cases own : entry.1 = client
  · simp [momentsOf, own]
  · simp [momentsOf, own]

/-- The log accounts for the contents, for every answer and for where every
thread stands. -/
structure Recorded (before : Contents) (programs : ι → Thread α) (ensemble : Ensemble ι α) :
    Prop where
  contents_eq : ensemble.contents = before.after ensemble.log
  answers : ∀ early entry late, ensemble.log = early ++ entry :: late →
    entry.2.answer = (entry.2.call.run.run (before.after early)).1
  paths : ∀ client, (programs client).Path (momentsOf client ensemble.log) (ensemble.threads client)

variable {before : Contents} {programs : ι → Thread α} {ensemble : Ensemble ι α}

theorem Recorded.step (recorded : Recorded before programs ensemble) (client : ι) :
    Recorded before programs (ensemble.step client) := by
  cases asks : ensemble.threads client with
  | done value => exact (step_of_done asks).symm ▸ recorded
  | ask call next =>
    rw [step_of_ask asks]
    refine ⟨?_, ?_, fun other => ?_⟩
    · simp only [Contents.after_append, ← recorded.contents_eq]
      rfl
    · intro early entry late split
      -- The new access comes last, so an entry is this one or an earlier one.
      rcases List.eq_nil_or_concat late with rfl | ⟨others, last, rfl⟩
      · obtain ⟨rfl, same⟩ := List.append_inj' split rfl
        obtain rfl := (List.cons.inj same).1
        rw [recorded.contents_eq]
      · rw [List.concat_eq_append, ← List.cons_append, ← List.append_assoc] at split
        exact recorded.answers _ _ _ (List.append_inj' split rfl).1
    · simp only [momentsOf_concat]
      by_cases own : client = other
      · subst own
        have stands := recorded.paths client
        rw [asks] at stands
        rw [if_pos rfl, Function.update_self]
        exact .step stands _
      · rw [if_neg own, Function.update_of_ne (Ne.symm own)]
        exact recorded.paths other

theorem Recorded.run (recorded : Recorded before programs ensemble) (schedule : List ι) :
    Recorded before programs (ensemble.run schedule) := by
  induction schedule generalizing ensemble with
  | nil => exact recorded
  | cons client schedule ih => exact ih (recorded.step client)

theorem recorded_start (before : Contents) (programs : ι → Thread α) :
    Recorded before programs { contents := before, threads := programs } where
  contents_eq := rfl
  answers early entry late split := by simp at split
  paths _ := .start

/-- Every access was answered by the contents of its moment. -/
theorem Recorded.answered (recorded : Recorded before programs ensemble) {client : ι}
    {moment : Moment} (made : moment ∈ momentsOf client ensemble.log) :
    ∃ early late, ensemble.log = early ++ (client, moment) :: late ∧
      moment.answer = (moment.call.run.run (before.after early)).1 := by
  obtain ⟨early, late, split⟩ := List.append_of_mem (mem_momentsOf_iff.mp made)
  exact ⟨early, late, split, recorded.answers _ _ _ split⟩

/-- Every turn of a thread that is not done is a moment. -/
theorem step_moments (ensemble : Ensemble ι α) (client other : ι) :
    (∃ value, (ensemble.step client).threads other = .done value) ∨
      (momentsOf other (ensemble.step client).log).length =
        (momentsOf other ensemble.log).length + if client = other then 1 else 0 := by
  cases asks : ensemble.threads client with
  | done value =>
    rw [step_of_done asks]
    by_cases own : client = other
    · exact .inl ⟨value, own ▸ asks⟩
    · exact .inr (by rw [if_neg own]; rfl)
  | ask call next =>
    right
    rw [step_of_ask asks]
    simp only [momentsOf_concat]
    split
    · rw [List.length_append]
      rfl
    · rfl

theorem step_done {client other : ι} {value : α} (finished : ensemble.threads other = .done value) :
    (ensemble.step client).threads other = .done value := by
  cases asks : ensemble.threads client with
  | done value => exact (step_of_done asks).symm ▸ finished
  | ask call next =>
    have differ : other ≠ client := by
      rintro rfl
      rw [finished] at asks
      cases asks
    rw [step_of_ask asks]
    exact (Function.update_of_ne differ _ _).trans finished

theorem run_moments (ensemble : Ensemble ι α) (schedule : List ι) (client : ι) :
    (∃ value, (ensemble.run schedule).threads client = .done value) ∨
      (momentsOf client (ensemble.run schedule).log).length =
        (momentsOf client ensemble.log).length + schedule.count client := by
  induction schedule using List.reverseRecOn with
  | nil => exact .inr rfl
  | append_singleton schedule last ih =>
    have ran : ensemble.run (schedule ++ [last]) = (ensemble.run schedule).step last :=
      List.foldl_append
    rw [ran]
    rcases ih with ⟨value, finished⟩ | counted
    · exact .inl ⟨value, step_done finished⟩
    · rcases step_moments (ensemble.run schedule) last client with finished | taken
      · exact .inl finished
      · right
        rw [taken, counted, List.count_append, List.count_singleton]
        by_cases own : last = client <;> simp [own, Nat.add_assoc]

theorem run_append (ensemble : Ensemble ι α) (early late : List ι) :
    ensemble.run (early ++ late) = (ensemble.run early).run late :=
  List.foldl_append

/-- Nothing is ever taken from the log. -/
theorem log_grows (ensemble : Ensemble ι α) (schedule : List ι) :
    ∃ more, (ensemble.run schedule).log = ensemble.log ++ more := by
  induction schedule generalizing ensemble with
  | nil => exact ⟨[], (List.append_nil _).symm⟩
  | cons client schedule ih =>
    obtain ⟨more, grown⟩ := ih (ensemble.step client)
    have ran : ensemble.run (client :: schedule) = (ensemble.step client).run schedule := rfl
    rw [ran, grown]
    cases asks : ensemble.threads client with
    | done value => exact ⟨more, by rw [step_of_done asks]⟩
    | ask call next => exact ⟨_, by rw [step_of_ask asks, List.append_assoc]⟩

/-- A thread whose turn never came has made no access. -/
theorem momentsOf_run_of_notMem {client : ι} {schedule : List ι} (idle : client ∉ schedule)
    (ensemble : Ensemble ι α) :
    momentsOf client (ensemble.run schedule).log = momentsOf client ensemble.log := by
  induction schedule generalizing ensemble with
  | nil => rfl
  | cons turn schedule ih =>
    have differ : turn ≠ client := fun same => idle (same ▸ List.mem_cons_self)
    have idle_later : client ∉ schedule := fun later => idle (List.mem_cons_of_mem _ later)
    refine (ih idle_later _).trans ?_
    cases asks : ensemble.threads turn with
    | done value => rw [step_of_done asks]
    | ask call next =>
      rw [step_of_ask asks]
      exact (momentsOf_concat _ _ _).trans (if_neg differ)

end Ensemble

end MediaVault
