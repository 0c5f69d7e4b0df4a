import Mathlib.Data.List.Induction
import Mathlib.Logic.Function.Basic
import MediaVault.Proofs.S3.Exchange

/-!
# Fleets of instances

Any number of instances talk to one service.  An instance is a program that sends
one call at a time; a schedule says whose call comes next.  The service sees every
exchange of the whole fleet, and the log also keeps whose it was.
-/

namespace MediaVault.S3

/-- A program that sends one call at a time. -/
inductive Program (α : Type) where
  | done (value : α)
  | ask (call : Call) (next : Except CallError call.Reply → Program α)

namespace Program

variable {α β : Type}

protected def bind : Program α → (α → Program β) → Program β
  | done value, next => next value
  | ask call rest, next => ask call fun answer => (rest answer).bind next

theorem done_bind (value : α) (next : α → Program β) :
    (done value).bind next = next value := rfl

instance : Monad Program where
  pure := done
  bind := Program.bind

/-- Each call is one step of a program. -/
def client (region bucket : String) : Client Program where
  region := region
  bucket := bucket
  send call := ExceptT.mk (ask call done)

end Program

/-- The programs of all instances, and the exchanges made so far. -/
structure Fleet (ι α : Type) where
  programs : ι → Program α
  log : List (ι × Exchange) := []

namespace Fleet

variable {ι α : Type} [DecidableEq ι] {service : Service} {fleet : Fleet ι α} {client other : ι}

/-- The exchanges of one instance. -/
def exchangesOf (client : ι) (log : List (ι × Exchange)) : List Exchange :=
  (log.filter fun entry => entry.1 = client).map (·.2)

theorem mem_exchangesOf_iff {log : List (ι × Exchange)} {exchange : Exchange} :
    exchange ∈ exchangesOf client log ↔ (client, exchange) ∈ log := by
  simp [exchangesOf]

theorem exchangesOf_concat (client : ι) (log : List (ι × Exchange)) (entry : ι × Exchange) :
    exchangesOf client (log ++ [entry]) =
      if entry.1 = client then exchangesOf client log ++ [entry.2] else exchangesOf client log := by
  by_cases own : entry.1 = client
  · simp [exchangesOf, own]
  · simp [exchangesOf, own]

/-- One instance sends its next call; an instance that is done does nothing. -/
def step (service : Service) (fleet : Fleet ι α) (client : ι) : Fleet ι α :=
  match fleet.programs client with
  | .done _ => fleet
  | .ask call next =>
    let answer := service (fleet.log.map (·.2)) call
    { programs := Function.update fleet.programs client (next answer)
      log := fleet.log ++ [(client, ⟨call, answer⟩)] }

theorem step_of_done {value : α} (finished : fleet.programs client = .done value) :
    fleet.step service client = fleet := by
  rw [step, finished]

theorem step_of_ask {call : Call} {next : Except CallError call.Reply → Program α}
    (asks : fleet.programs client = .ask call next) :
    fleet.step service client =
      { programs := Function.update fleet.programs client
          (next (service (fleet.log.map (·.2)) call))
        log := fleet.log ++ [(client, ⟨call, service (fleet.log.map (·.2)) call⟩)] } := by
  rw [step, asks]

/-- The instances take turns. -/
def run (service : Service) (fleet : Fleet ι α) (schedule : List ι) : Fleet ι α :=
  schedule.foldl (step service) fleet

theorem run_append (fleet : Fleet ι α) (early late : List ι) :
    fleet.run service (early ++ late) = (fleet.run service early).run service late :=
  List.foldl_append

/-- What every exchange preserves is preserved by a run. -/
theorem run_keeps (inv : Fleet ι α → Prop)
    (kept : ∀ (fleet : Fleet ι α) (client : ι) (call : Call)
      (next : Except CallError call.Reply → Program α), fleet.programs client = .ask call next →
      inv fleet → inv (fleet.step service client))
    (begun : inv fleet) (schedule : List ι) : inv (fleet.run service schedule) := by
  induction schedule generalizing fleet with
  | nil => exact begun
  | cons client schedule ih =>
    cases asks : fleet.programs client with
    | done value => exact ih ((step_of_done asks).symm ▸ begun)
    | ask call next => exact ih (kept fleet client call next asks begun)

theorem log_grows (service : Service) (fleet : Fleet ι α) (schedule : List ι) :
    ∃ more, (fleet.run service schedule).log = fleet.log ++ more := by
  refine run_keeps (fun later => ∃ more, later.log = fleet.log ++ more) ?_ ⟨[], by simp⟩
    schedule
  rintro later client call next asks ⟨more, grown⟩
  exact ⟨more ++ [_], by rw [step_of_ask asks, grown, List.append_assoc]⟩

theorem run_done {value : α} (finished : fleet.programs client = .done value) (schedule : List ι) :
    (fleet.run service schedule).programs client = .done value := by
  refine run_keeps (fun later => later.programs client = .done value) ?_ finished schedule
  intro later other call next asks finished
  have differ : client ≠ other := by
    rintro rfl
    rw [finished] at asks
    cases asks
  rw [step_of_ask asks]
  exact (Function.update_of_ne differ _ _).trans finished

/-- Every exchange was answered by the service after all earlier ones. -/
def Answered (service : Service) (log : List (ι × Exchange)) : Prop :=
  ∀ early entry late, log = early ++ entry :: late →
    entry.2.answer = service (early.map (·.2)) entry.2.call

theorem Answered.of_mem {log : List (ι × Exchange)} (answered : Answered service log)
    {exchange : Exchange} (made : exchange ∈ exchangesOf client log) :
    ∃ early late, log = early ++ (client, exchange) :: late ∧
      exchange.answer = service (early.map (·.2)) exchange.call := by
  obtain ⟨early, late, split⟩ := List.append_of_mem (mem_exchangesOf_iff.mp made)
  exact ⟨early, late, split, answered _ _ _ split⟩

theorem Answered.step (answered : Answered service fleet.log) (client : ι) :
    Answered service (fleet.step service client).log := by
  cases asks : fleet.programs client with
  | done value => exact (step_of_done asks).symm ▸ answered
  | ask call next =>
    rw [step_of_ask asks]
    intro early entry late split
    -- The new exchange comes last, so an entry is this one or an earlier one.
    rcases List.eq_nil_or_concat late with rfl | ⟨others, last, rfl⟩
    · obtain ⟨rfl, same⟩ := List.append_inj' split rfl
      obtain rfl := (List.cons.inj same).1
      rfl
    · rw [List.concat_eq_append, ← List.cons_append, ← List.append_assoc] at split
      exact answered _ _ _ (List.append_inj' split rfl).1

theorem Answered.run (answered : Answered service fleet.log) (schedule : List ι) :
    Answered service (fleet.run service schedule).log :=
  run_keeps (fun later => Answered service later.log)
    (fun _ client _ _ _ answered => answered.step client) answered schedule

/-- Every turn of an instance that is not done is an exchange. -/
theorem step_turn (fleet : Fleet ι α) (client other : ι) :
    (∃ value, (fleet.step service client).programs other = .done value) ∨
      (exchangesOf other (fleet.step service client).log).length =
        (exchangesOf other fleet.log).length + if client = other then 1 else 0 := by
  cases asks : fleet.programs client with
  | done value =>
    rw [step_of_done asks]
    by_cases own : client = other
    · exact .inl ⟨value, own ▸ asks⟩
    · exact .inr (by rw [if_neg own]; rfl)
  | ask call next =>
    right
    rw [step_of_ask asks]
    simp only [exchangesOf_concat]
    split
    · rw [List.length_append]
      rfl
    · rfl

theorem run_turns (service : Service) (fleet : Fleet ι α) (schedule : List ι) (client : ι) :
    (∃ value, (fleet.run service schedule).programs client = .done value) ∨
      (exchangesOf client (fleet.run service schedule).log).length =
        (exchangesOf client fleet.log).length + schedule.count client := by
  induction schedule using List.reverseRecOn with
  | nil => exact .inr rfl
  | append_singleton schedule last ih =>
    rw [run_append]
    rcases ih with ⟨value, finished⟩ | counted
    · exact .inl ⟨value, run_done finished [last]⟩
    · rcases step_turn (fleet.run service schedule) last client with finished | taken
      · exact .inl finished
      · right
        refine taken.trans ?_
        rw [counted, List.count_append, List.count_singleton]
        by_cases own : last = client <;> simp [own, Nat.add_assoc]

theorem exchangesOf_run_of_notMem {schedule : List ι} (idle : client ∉ schedule)
    (fleet : Fleet ι α) :
    exchangesOf client (fleet.run service schedule).log = exchangesOf client fleet.log := by
  induction schedule generalizing fleet with
  | nil => rfl
  | cons turn schedule ih =>
    have differ : turn ≠ client := fun same => idle (same ▸ List.mem_cons_self)
    have idle_later : client ∉ schedule := fun later => idle (List.mem_cons_of_mem _ later)
    refine (ih idle_later _).trans ?_
    cases asks : fleet.programs turn with
    | done value => rw [step_of_done asks]
    | ask call next =>
      rw [step_of_ask asks]
      exact (exchangesOf_concat _ _ _).trans (if_neg differ)

end Fleet

end MediaVault.S3
