import MediaVault.Proofs.Concurrency.Ensemble
import MediaVault.Proofs.Concurrency.Fleet
import MediaVault.S3.Store

/-!
# Provisioning the bucket from many instances

Whether the bucket exists and its creation are two calls, so any number of
instances may see it missing and race to create it.  `Bootstrap` and `Provision`
list where one of them can be after its own calls; what it was told about the
bucket stays true, as nobody takes the bucket away.
-/

namespace MediaVault

namespace S3

/-! ## A service that hosts the bucket -/

/-- The exchange made the bucket. -/
def Exchange.creates : Exchange → Bool
  | ⟨.createBucket _, .ok _⟩ => true
  | _ => false

/-- The bucket exists after some exchanges. -/
def bucketStands (initially : Bool) (log : List Exchange) : Bool :=
  initially || log.any Exchange.creates

theorem bucketStands_append {initially : Bool} {log : List Exchange}
    (standing : bucketStands initially log = true) (more : List Exchange) :
    bucketStands initially (log ++ more) = true := by
  rw [bucketStands, List.any_append, ← Bool.or_assoc]
  exact Bool.or_eq_true_iff.mpr (.inl standing)

/-- The service tells truly whether the bucket exists, creates it when it is missing
and says that it is taken when it is not. -/
structure Service.Hosts (service : Service) (initially : Bool) : Prop where
  head_standing : ∀ log, bucketStands initially log = true → service log .headBucket = .ok ()
  head_missing : ∀ log, bucketStands initially log = false →
    ∃ code text, service log .headBucket = .error (.refused 404 code text)
  create_missing : ∀ log location, bucketStands initially log = false →
    service log (.createBucket location) = .ok ()
  create_standing : ∀ log location, bucketStands initially log = true →
    ∃ status code text, service log (.createBucket location) =
        .error (.refused status (some code) text) ∧
      (code = "BucketAlreadyOwnedByYou" ∨ code = "BucketAlreadyExists")

variable {service : Service} {initially : Bool} {log : List Exchange}

theorem Service.Hosts.stands_of_head_ok (hosts : service.Hosts initially)
    (found : service log .headBucket = .ok ()) : bucketStands initially log = true := by
  cases standing : bucketStands initially log with
  | true => rfl
  | false =>
    obtain ⟨code, text, missing⟩ := hosts.head_missing log standing
    rw [missing] at found
    cases found

theorem Service.Hosts.missing_of_head_error (hosts : service.Hosts initially) {error : CallError}
    (failed : service log .headBucket = .error error) :
    error.isMissing "NotFound" = true ∧ bucketStands initially log = false := by
  cases standing : bucketStands initially log with
  | true =>
    rw [hosts.head_standing log standing] at failed
    cases failed
  | false =>
    obtain ⟨code, text, missing⟩ := hosts.head_missing log standing
    rw [missing] at failed
    cases failed
    exact ⟨CallError.isMissing_notFound .., rfl⟩

/-- What the answer to a creation comes to. -/
def settled (bucket : String) : Except CallError Unit → Except StorageError Unit
  | .ok _ => .ok ()
  | .error error =>
    if error.isBucketTaken then .ok () else .error (.backend "create bucket" bucket error.text)

/-- Whoever wins the race, the bucket is there after the call, and the call is taken
for a success. -/
theorem Service.Hosts.stands_of_create (hosts : service.Hosts initially) (log : List Exchange)
    (bucket : String) (location : Option String) :
    settled bucket (service log (.createBucket location)) = .ok () ∧
      bucketStands initially
        (log ++ [⟨.createBucket location, service log (.createBucket location)⟩]) = true := by
  cases standing : bucketStands initially log with
  | true =>
    obtain ⟨status, code, text, answer, rfl | rfl⟩ := hosts.create_standing log location standing
    · exact ⟨by rw [answer]; rfl, bucketStands_append standing _⟩
    · exact ⟨by rw [answer]; rfl, bucketStands_append standing _⟩
  | false =>
    rw [hosts.create_missing log location standing]
    exact ⟨rfl, by simp [bucketStands, Exchange.creates]⟩

theorem Service.Hosts.missing_of_creates (hosts : service.Hosts initially) {call : Call}
    (creates : Exchange.creates ⟨call, service log call⟩ = true) :
    bucketStands initially log = false := by
  cases standing : bucketStands initially log with
  | false => rfl
  | true =>
    cases call with
    | createBucket location =>
      obtain ⟨status, code, text, answer, _⟩ := hosts.create_standing log location standing
      rw [answer] at creates
      cases creates
    | _ => cases creates

/-! ## One instance -/

/-- What an instance runs. -/
def ensure (region bucket : String) (pages : Nat) : Program (Except StorageError Unit) :=
  (store (Program.client region bucket) pages).ensureBucket.run

/-- What an instance that found the bucket missing goes on with. -/
def creation (region bucket : String) : Program (Except StorageError Unit) :=
  (Store.createBucket (Program.client region bucket)).run

theorem ensure_eq (region bucket : String) (pages : Nat) :
    ensure region bucket pages = .ask .headBucket fun answer =>
      match answer with
      | .ok _ => .done (.ok ())
      | .error error =>
        if error.isMissing "NotFound" then creation region bucket
        else .done (.error (.backend "head bucket" bucket error.text)) := by
  refine congrArg (Program.ask .headBucket) (funext fun answer => ?_)
  cases answer with
  | ok reply => rfl
  | error error =>
    simp only [Program.done_bind]
    split_ifs with absent
    · rfl
    · rfl

theorem creation_eq (region bucket : String) :
    creation region bucket = .ask (.createBucket (Store.locationOf region)) fun answer =>
      .done (settled bucket answer) := by
  refine congrArg (Program.ask (.createBucket (Store.locationOf region))) (funext fun answer => ?_)
  cases answer with
  | ok reply => rfl
  | error error =>
    simp only [Program.done_bind, settled]
    split_ifs with taken
    · rfl
    · rfl

/-- Where an instance can be after its own exchanges. -/
inductive Bootstrap (region bucket : String) (pages : Nat) :
    List Exchange → Program (Except StorageError Unit) → Prop where
  | fresh : Bootstrap region bucket pages [] (ensure region bucket pages)
  | present : Bootstrap region bucket pages [⟨.headBucket, .ok ()⟩] (.done (.ok ()))
  | unsure {error : CallError} (other : error.isMissing "NotFound" = false) :
      Bootstrap region bucket pages [⟨.headBucket, .error error⟩]
        (.done (.error (.backend "head bucket" bucket error.text)))
  | missing {error : CallError} (absent : error.isMissing "NotFound" = true) :
      Bootstrap region bucket pages [⟨.headBucket, .error error⟩] (creation region bucket)
  | tried {error : CallError} (absent : error.isMissing "NotFound" = true)
      (answer : Except CallError Unit) :
      Bootstrap region bucket pages
        [⟨.headBucket, .error error⟩, ⟨.createBucket (Store.locationOf region), answer⟩]
        (.done (settled bucket answer))

variable {region bucket : String} {pages : Nat} {made : List Exchange}
  {rest : Program (Except StorageError Unit)}

theorem Bootstrap.step {call : Call}
    {next : Except CallError call.Reply → Program (Except StorageError Unit)}
    (reached : Bootstrap region bucket pages made rest) (asks : rest = .ask call next)
    (answer : Except CallError call.Reply) :
    Bootstrap region bucket pages (made ++ [⟨call, answer⟩]) (next answer) := by
  cases reached with
  | fresh =>
    rw [ensure_eq] at asks
    obtain ⟨rfl, same⟩ := Program.ask.inj asks
    obtain rfl := eq_of_heq same
    cases answer with
    | ok reply => exact .present
    | error error =>
      dsimp only
      split_ifs with absent
      · exact .missing absent
      · exact .unsure (Bool.eq_false_iff.mpr absent)
  | present => cases asks
  | unsure other => cases asks
  | missing absent =>
    rw [creation_eq] at asks
    obtain ⟨rfl, same⟩ := Program.ask.inj asks
    obtain rfl := eq_of_heq same
    exact .tried absent answer
  | tried absent answer => cases asks

/-- Two calls are enough. -/
theorem Bootstrap.length_le (reached : Bootstrap region bucket pages made rest) :
    made.length ≤ 1 ∨ made.length ≤ 2 ∧ ∃ value, rest = .done value := by
  cases reached with
  | fresh => exact .inl (Nat.zero_le 1)
  | present => exact .inl (Nat.le_refl 1)
  | unsure other => exact .inl (Nat.le_refl 1)
  | missing absent => exact .inl (Nat.le_refl 1)
  | tried absent answer => exact .inr ⟨Nat.le_refl 2, _, rfl⟩

/-! ## The fleet -/

namespace Fleet

variable {ι : Type}

/-- The instances before their first call. -/
def idle (regions : ι → String) (bucket : String) (pages : Nat) :
    Fleet ι (Except StorageError Unit) where
  programs client := ensure (regions client) bucket pages

variable [DecidableEq ι] {regions : ι → String}

theorem bootstrap_of_run (service : Service) (regions : ι → String) (bucket : String) (pages : Nat)
    (schedule : List ι) (client : ι) :
    Bootstrap (regions client) bucket pages
      (exchangesOf client ((idle regions bucket pages).run service schedule).log)
      (((idle regions bucket pages).run service schedule).programs client) := by
  refine run_keeps (fun fleet => Bootstrap (regions client) bucket pages
    (exchangesOf client fleet.log) (fleet.programs client)) ?_ .fresh schedule
  intro fleet turn call next asks reached
  -- Only the instance whose turn it is moves on; the exchanges of the others stay the same.
  rw [step_of_ask asks]
  simp only [exchangesOf_concat]
  by_cases own : turn = client
  · subst own
    rw [if_pos rfl, Function.update_self]
    exact reached.step asks _
  · rw [if_neg own, Function.update_of_ne (Ne.symm own)]
    exact reached

theorem answered_of_run (service : Service) (regions : ι → String) (bucket : String) (pages : Nat)
    (schedule : List ι) :
    Answered service ((idle regions bucket pages).run service schedule).log :=
  Answered.run (fun _ _ _ split => by simp [idle] at split) schedule

/-- The bucket exists after the exchanges of a fleet. -/
def Hosted (initially : Bool) (log : List (ι × Exchange)) : Prop :=
  bucketStands initially (log.map (·.2)) = true

omit [DecidableEq ι] in
theorem Hosted.mono {early late : List (ι × Exchange)} (hosted : Hosted initially early) :
    Hosted initially (early ++ late) := by
  rw [Hosted, List.map_append]
  exact bucketStands_append hosted _

theorem done_of_two_turns (service : Service) (regions : ι → String) (bucket : String)
    (pages : Nat) {schedule : List ι} {client : ι} (turns : 2 ≤ schedule.count client) :
    ∃ value, ((idle regions bucket pages).run service schedule).programs client = .done value := by
  have reached := bootstrap_of_run service regions bucket pages schedule client
  rcases run_turns service (idle regions bucket pages) schedule client with
    finished | counted
  · exact finished
  · rcases reached.length_le with short | ⟨-, finished⟩
    · have begun : exchangesOf client (idle regions bucket pages).log = [] := rfl
      rw [begun, List.length_nil] at counted
      omega
    · exact finished

/-- An instance that is done has succeeded, and the bucket is there. -/
theorem Answered.hosted_of_done {log : List (ι × Exchange)} (answered : Answered service log)
    (hosts : service.Hosts initially) {client : ι} {value : Except StorageError Unit}
    (reached : Bootstrap region bucket pages (exchangesOf client log) (.done value)) :
    value = .ok () ∧ Hosted initially log := by
  generalize own : exchangesOf client log = made at reached
  -- The last exchange of the instance was answered after some part of the log, and what stood
  -- after that part stands at the end.
  cases reached with
  | present =>
    obtain ⟨early, late, rfl, found⟩ := answered.of_mem (own ▸ List.mem_cons_self)
    exact ⟨rfl, Hosted.mono (hosts.stands_of_head_ok found.symm)⟩
  | unsure other =>
    obtain ⟨early, late, rfl, failed⟩ := answered.of_mem (own ▸ List.mem_cons_self)
    rw [(hosts.missing_of_head_error failed.symm).1] at other
    cases other
  | tried absent answer =>
    obtain ⟨early, late, rfl, told⟩ :=
      answered.of_mem (own ▸ List.mem_cons_of_mem _ List.mem_cons_self)
    obtain rfl : answer = service (early.map (·.2)) (.createBucket (Store.locationOf region)) :=
      told
    obtain ⟨success, standing⟩ :=
      hosts.stands_of_create (early.map (·.2)) bucket (Store.locationOf region)
    refine ⟨success, ?_⟩
    rw [← List.singleton_append, ← List.append_assoc]
    exact Hosted.mono (by simpa [Hosted] using standing)

/-- However many instances try, one creation at most is carried out, and none where the
bucket was there to begin with. -/
theorem creations_le (hosts : service.Hosts initially) (regions : ι → String) (bucket : String)
    (pages : Nat) (schedule : List ι) :
    (((idle regions bucket pages).run service schedule).log.map (·.2)).countP Exchange.creates ≤
      if initially then 0 else 1 := by
  refine run_keeps (fun fleet =>
    (fleet.log.map (·.2)).countP Exchange.creates ≤ if initially then 0 else 1) ?_
    (Nat.zero_le _) schedule
  intro fleet client call next asks few
  rw [step_of_ask asks, List.map_append, List.countP_append]
  by_cases creates : Exchange.creates ⟨call, service (fleet.log.map (·.2)) call⟩ = true
  · -- Where the bucket is missing nobody has created it so far.
    have missing := hosts.missing_of_creates creates
    obtain ⟨rfl, uncreated⟩ := Bool.or_eq_false_iff.mp missing
    have none_yet : (fleet.log.map (·.2)).countP Exchange.creates = 0 :=
      List.countP_eq_zero.mpr (List.any_eq_false.mp uncreated)
    simp [none_yet, creates]
  · simpa [creates] using few

omit [DecidableEq ι] in
theorem creates_eq_false_of_hosted (hosts : service.Hosts initially)
    {old more : List (ι × Exchange)} (answered : Answered service (old ++ more))
    (hosted : Hosted initially old) : ∀ entry ∈ more, entry.2.creates = false := by
  intro entry recent
  obtain ⟨front, back, rfl⟩ := List.append_of_mem recent
  rw [← List.append_assoc] at answered
  have told := answered _ _ _ rfl
  refine Bool.eq_false_iff.mpr fun creates => ?_
  have exchange : entry.2 = ⟨entry.2.call, service ((old ++ front).map (·.2)) entry.2.call⟩ := by
    rw [← told]
  rw [exchange] at creates
  have missing := hosts.missing_of_creates creates
  have standing : bucketStands initially ((old ++ front).map (·.2)) = true := hosted.mono
  rw [standing] at missing
  cases missing

/-- An instance whose first turn comes when the bucket is there finds it. -/
theorem head_ok_of_hosted (hosts : service.Hosts initially) {early : List ι} {client : ι}
    (idle_early : client ∉ early)
    (hosted : Hosted initially ((idle regions bucket pages).run service early).log)
    (late : List ι) (answer : Except CallError Unit)
    (made : ⟨.headBucket, answer⟩ ∈
      exchangesOf client ((idle regions bucket pages).run service (early ++ late)).log) :
    answer = .ok () := by
  obtain ⟨more, grown⟩ := log_grows service
    ((idle regions bucket pages).run service early) late
  have unheard : exchangesOf client ((idle regions bucket pages).run service early).log = [] :=
    exchangesOf_run_of_notMem idle_early _
  have answered := answered_of_run service regions bucket pages (early ++ late)
  rw [run_append, grown] at made answered
  -- Its exchanges are among those made since.
  have recent : (client, ⟨.headBucket, answer⟩) ∈ more := by
    refine (List.mem_append.mp (mem_exchangesOf_iff.mp made)).resolve_left fun older => ?_
    rw [← mem_exchangesOf_iff, unheard] at older
    cases older
  obtain ⟨front, back, rfl⟩ := List.append_of_mem recent
  rw [← List.append_assoc] at answered
  have told : answer = service (_ : List Exchange) .headBucket := answered _ _ _ rfl
  exact told.trans (hosts.head_standing _ hosted.mono)

/-- So it ends at once and creates nothing. -/
theorem ends_at_once (hosts : service.Hosts initially) {early late : List ι} {client : ι}
    (idle_early : client ∉ early)
    (hosted : Hosted initially ((idle regions bucket pages).run service early).log) :
    (∀ exchange, (client, exchange) ∈ ((idle regions bucket pages).run service (early ++ late)).log →
        exchange.call = .headBucket) ∧
      (client ∈ late →
        ((idle regions bucket pages).run service (early ++ late)).programs client =
          .done (.ok ())) := by
  have found := head_ok_of_hosted hosts idle_early hosted late
  have reached := bootstrap_of_run service regions bucket pages (early ++ late) client
  have turns := run_turns service (idle regions bucket pages) (early ++ late) client
  simp only [← mem_exchangesOf_iff]
  generalize exchangesOf client ((idle regions bucket pages).run service (early ++ late)).log =
    made at *
  generalize ((idle regions bucket pages).run service (early ++ late)).programs client =
    rest at *
  cases reached with
  | fresh =>
    refine ⟨fun _ made => absurd made List.not_mem_nil, fun turn => ?_⟩
    have turned := List.count_pos_iff.mpr (List.mem_append_right early turn)
    rcases turns with ⟨value, finished⟩ | counted
    · rw [ensure_eq] at finished
      cases finished
    · rw [List.length_nil] at counted
      omega
  | present => simp
  | unsure other => cases found _ List.mem_cons_self
  | missing absent => cases found _ List.mem_cons_self
  | tried absent answer => cases found _ List.mem_cons_self

/-- Whatever the service is, an instance that could not find out about the bucket
reports so and creates nothing. -/
theorem reports_of_head_error {schedule : List ι} {client : ι} {error : CallError}
    (other : error.isMissing "NotFound" = false)
    (failed : (client, ⟨.headBucket, .error error⟩) ∈
      ((idle regions bucket pages).run service schedule).log) :
    ((idle regions bucket pages).run service schedule).programs client =
        .done (.error (.backend "head bucket" bucket error.text)) ∧
      ∀ exchange, (client, exchange) ∈ ((idle regions bucket pages).run service schedule).log →
        exchange.call = .headBucket := by
  have reached := bootstrap_of_run service regions bucket pages schedule client
  simp only [← mem_exchangesOf_iff] at failed ⊢
  generalize exchangesOf client ((idle regions bucket pages).run service schedule).log =
    made at *
  generalize ((idle regions bucket pages).run service schedule).programs client = rest at *
  cases reached with
  | fresh => cases failed
  | present => simp at failed
  -- After any other failure the instance is done; the remaining ways begin with a 404.
  | unsure _ =>
    obtain rfl : error = _ := by simpa using failed
    simp
  | missing absent =>
    obtain rfl : error = _ := by simpa using failed
    rw [absent] at other
    cases other
  | tried absent answer =>
    obtain rfl : error = _ := by simpa using failed
    rw [absent] at other
    cases other

end Fleet

end S3

/-! ## Instances over one memory -/

/-- What an instance runs over shared contents. -/
def provision (bucket : String) (now : Timestamp) : Thread (Except StorageError Unit) :=
  (MemoryStore.onShelf bucket now Thread.shelf).ensureBucket.run

/-- Where such an instance can be after its own accesses. -/
inductive Provision (bucket : String) (now : Timestamp) :
    List Moment → Thread (Except StorageError Unit) → Prop where
  | fresh : Provision bucket now [] (provision bucket now)
  | present : Provision bucket now [⟨.created, true⟩] (.done (.ok ()))
  | missing : Provision bucket now [⟨.created, false⟩] (.ask .markCreated fun _ => .done (.ok ()))
  | marked : Provision bucket now [⟨.created, false⟩, ⟨.markCreated, ()⟩] (.done (.ok ()))

variable {bucket : String} {now : Timestamp} {made : List Moment}
  {rest : Thread (Except StorageError Unit)}

theorem provision_of_path (path : (provision bucket now).Path made rest) :
    Provision bucket now made rest := by
  rcases path.ask_inv with ⟨rfl, rfl⟩ | ⟨answer, others, rfl, later⟩
  · exact .fresh
  cases answer with
  | true =>
    obtain ⟨rfl, rfl⟩ := later.done_inv
    exact .present
  | false =>
    rcases later.ask_inv with ⟨rfl, rfl⟩ | ⟨_, others, rfl, ended⟩
    · exact .missing
    · obtain ⟨rfl, rfl⟩ := ended.done_inv
      exact .marked

namespace Ensemble

variable {ι : Type}

/-- The instances before their first access. -/
def unprovisioned (before : Contents) (bucket : String) (clocks : ι → Timestamp) :
    Ensemble ι (Except StorageError Unit) where
  contents := before
  threads client := provision bucket (clocks client)

/-- How often some accesses made the bucket exist that did not exist before. -/
def creations (before : Contents) : List (ι × Moment) → Nat
  | [] => 0
  | entry :: log =>
    let next := (entry.2.call.run.run before).2
    (if next.created && !before.created then 1 else 0) + creations next log

theorem creations_le (before : Contents) (log : List (ι × Moment)) :
    creations before log ≤ if before.created then 0 else 1 := by
  induction log generalizing before with
  | nil => exact Nat.zero_le _
  | cons entry log ih =>
    have later := ih (entry.2.call.run.run before).2
    rw [creations]
    cases standing : before.created with
    | true =>
      rw [entry.2.call.created_run before standing] at later ⊢
      simpa using later
    | false =>
      cases made : (entry.2.call.run.run before).2.created <;> simp_all

variable [DecidableEq ι] {before : Contents} {clocks : ι → Timestamp}

theorem recorded_of_run (before : Contents) (bucket : String) (clocks : ι → Timestamp)
    (schedule : List ι) :
    Recorded before (fun client => provision bucket (clocks client))
      ((unprovisioned before bucket clocks).run schedule) :=
  (recorded_start before _).run schedule

theorem provision_of_run (before : Contents) (bucket : String) (clocks : ι → Timestamp)
    (schedule : List ι) (client : ι) :
    Provision bucket (clocks client)
      (momentsOf client ((unprovisioned before bucket clocks).run schedule).log)
      (((unprovisioned before bucket clocks).run schedule).threads client) :=
  provision_of_path ((recorded_of_run before bucket clocks schedule).paths client)

theorem provisioned_of_two_turns (before : Contents) (bucket : String) (clocks : ι → Timestamp)
    {schedule : List ι} {client : ι} (turns : 2 ≤ schedule.count client) :
    ∃ value,
      ((unprovisioned before bucket clocks).run schedule).threads client = .done value := by
  have reached := provision_of_run before bucket clocks schedule client
  rcases run_moments (unprovisioned before bucket clocks) schedule client with finished | counted
  · exact finished
  · generalize momentsOf client ((unprovisioned before bucket clocks).run schedule).log =
      made at *
    generalize ((unprovisioned before bucket clocks).run schedule).threads client = rest at *
    have begun : momentsOf client (unprovisioned before bucket clocks).log = [] := rfl
    rw [begun, List.length_nil, Nat.zero_add] at counted
    cases reached with
    | fresh => exact absurd (counted ▸ turns) (by decide)
    | present => exact ⟨_, rfl⟩
    | missing => exact absurd (counted ▸ turns) (by decide)
    | marked => exact ⟨_, rfl⟩

theorem created_of_done {schedule : List ι} {client : ι} {value : Except StorageError Unit}
    (finished : ((unprovisioned before bucket clocks).run schedule).threads client =
      .done value) :
    value = .ok () ∧ ((unprovisioned before bucket clocks).run schedule).contents.created := by
  have recorded := recorded_of_run before bucket clocks schedule
  have reached := provision_of_run before bucket clocks schedule client
  rw [finished] at reached
  rw [recorded.contents_eq]
  generalize own : momentsOf client ((unprovisioned before bucket clocks).run schedule).log =
    made at reached
  cases reached with
  | present =>
    obtain ⟨early, late, split, found⟩ := recorded.answered (own ▸ List.mem_cons_self)
    rw [split, Contents.after_append]
    exact ⟨rfl, Contents.created_after found.symm _⟩
  | marked =>
    obtain ⟨early, late, split, -⟩ :=
      recorded.answered (own ▸ List.mem_cons_of_mem _ List.mem_cons_self)
    rw [split, Contents.after_append]
    exact ⟨rfl, Contents.created_after rfl late⟩

theorem created_of_run {early : List ι}
    (standing : ((unprovisioned before bucket clocks).run early).contents.created = true)
    (late : List ι) :
    ((unprovisioned before bucket clocks).run (early ++ late)).contents.created = true := by
  obtain ⟨more, grown⟩ := log_grows ((unprovisioned before bucket clocks).run early) late
  rw [(recorded_of_run before bucket clocks early).contents_eq] at standing
  rw [(recorded_of_run before bucket clocks (early ++ late)).contents_eq, run_append, grown,
    Contents.after_append]
  exact Contents.created_after standing more

theorem objects_of_run (before : Contents) (bucket : String) (clocks : ι → Timestamp)
    (schedule : List ι) :
    ((unprovisioned before bucket clocks).run schedule).contents.objects = before.objects := by
  have unwritten : ∀ entry ∈ ((unprovisioned before bucket clocks).run schedule).log,
      entry.2.call.write? = none := by
    rintro ⟨client, moment⟩ made
    have reached := provision_of_run before bucket clocks schedule client
    rw [← mem_momentsOf_iff] at made
    generalize momentsOf client ((unprovisioned before bucket clocks).run schedule).log =
      moments at *
    generalize ((unprovisioned before bucket clocks).run schedule).threads client = rest at *
    cases reached with
    | fresh => cases made
    | present => obtain rfl := List.mem_singleton.mp made; rfl
    | missing => obtain rfl := List.mem_singleton.mp made; rfl
    | marked =>
      rcases List.mem_cons.mp made with rfl | last
      · rfl
      · obtain rfl := List.mem_singleton.mp last
        rfl
  rw [(recorded_of_run before bucket clocks schedule).contents_eq]
  exact Contents.objects_after_of_unwritten before unwritten

/-- Once the bucket is there, that is all that has happened. -/
theorem contents_of_created {schedule : List ι}
    (standing : ((unprovisioned before bucket clocks).run schedule).contents.created = true) :
    ((unprovisioned before bucket clocks).run schedule).contents =
      { before with created := true } := by
  have objects := objects_of_run before bucket clocks schedule
  generalize ((unprovisioned before bucket clocks).run schedule).contents = contents at *
  rw [← standing, ← objects]

theorem found_of_created {early : List ι} {client : ι} (idle_early : client ∉ early)
    (standing : ((unprovisioned before bucket clocks).run early).contents.created = true)
    (late : List ι) (answer : Bool)
    (made : ⟨.created, answer⟩ ∈
      momentsOf client ((unprovisioned before bucket clocks).run (early ++ late)).log) :
    answer = true := by
  obtain ⟨more, grown⟩ := log_grows ((unprovisioned before bucket clocks).run early) late
  have unheard : momentsOf client ((unprovisioned before bucket clocks).run early).log = [] :=
    momentsOf_run_of_notMem idle_early _
  have recorded := recorded_of_run before bucket clocks (early ++ late)
  have answered := recorded.answers
  rw [(recorded_of_run before bucket clocks early).contents_eq] at standing
  rw [run_append, grown] at made answered
  -- Its accesses are among those made since.
  have recent : (client, ⟨.created, answer⟩) ∈ more := by
    refine (List.mem_append.mp (mem_momentsOf_iff.mp made)).resolve_left fun older => ?_
    rw [← mem_momentsOf_iff, unheard] at older
    cases older
  obtain ⟨front, back, rfl⟩ := List.append_of_mem recent
  rw [← List.append_assoc] at answered
  have told := answered _ _ _ rfl
  rw [Contents.after_append] at told
  exact told.trans (Contents.created_after standing front)

theorem provisioned_at_once {early late : List ι} {client : ι} (idle_early : client ∉ early)
    (standing : ((unprovisioned before bucket clocks).run early).contents.created = true) :
    (∀ moment,
        (client, moment) ∈ ((unprovisioned before bucket clocks).run (early ++ late)).log →
        moment.call = .created) ∧
      (client ∈ late →
        ((unprovisioned before bucket clocks).run (early ++ late)).threads client =
          .done (.ok ())) := by
  have found := found_of_created idle_early standing late
  have reached := provision_of_run before bucket clocks (early ++ late) client
  have turns := run_moments (unprovisioned before bucket clocks) (early ++ late) client
  simp only [← mem_momentsOf_iff]
  generalize momentsOf client ((unprovisioned before bucket clocks).run (early ++ late)).log =
    made at *
  generalize ((unprovisioned before bucket clocks).run (early ++ late)).threads client =
    rest at *
  cases reached with
  | fresh =>
    refine ⟨fun _ made => absurd made List.not_mem_nil, fun turn => ?_⟩
    have turned := List.count_pos_iff.mpr (List.mem_append_right early turn)
    rcases turns with ⟨value, finished⟩ | counted
    · cases finished
    · rw [List.length_nil] at counted
      omega
  | present => simp
  | missing => cases found _ List.mem_cons_self
  | marked => cases found _ List.mem_cons_self

end Ensemble

/-! ## Any number of instances -/

/-- Whoever is first, every instance that provisions the bucket succeeds within two
calls, the bucket is there from the first success on, and it is created once at most.
An instance that starts after that, as one that is run again does, only looks.  One
that is told anything but that the bucket is missing says so and creates nothing. -/
theorem concurrent_bootstraps_settle {ι : Type} [DecidableEq ι] (bucket : String) :
    (∀ (service : S3.Service) (initially : Bool), service.Hosts initially →
      ∀ (regions : ι → String) (pages : Nat) (early late : List ι),
      let between := (S3.Fleet.idle regions bucket pages).run service early
      let after := (S3.Fleet.idle regions bucket pages).run service (early ++ late)
      (∀ client value, after.programs client = .done value → value = .ok ()) ∧
      (∀ client, 2 ≤ (early ++ late).count client → ∃ value, after.programs client = .done value) ∧
      (after.log.map (·.2)).countP S3.Exchange.creates ≤ (if initially then 0 else 1) ∧
      ∀ first value, between.programs first = .done value →
        S3.Fleet.Hosted initially between.log ∧
        (∃ more, after.log = between.log ++ more ∧ ∀ entry ∈ more, entry.2.creates = false) ∧
        ∀ again ∉ early,
          (∀ exchange, (again, exchange) ∈ after.log → exchange.call = .headBucket) ∧
          (again ∈ late → after.programs again = .done (.ok ()))) ∧
    (∀ (service : S3.Service) (regions : ι → String) (pages : Nat) (schedule : List ι)
      (client : ι) (error : S3.CallError), error.isMissing "NotFound" = false →
      let after := (S3.Fleet.idle regions bucket pages).run service schedule
      (client, ⟨.headBucket, .error error⟩) ∈ after.log →
      after.programs client = .done (.error (.backend "head bucket" bucket error.text)) ∧
        ∀ exchange, (client, exchange) ∈ after.log → exchange.call = .headBucket) ∧
    ∀ (before : Contents) (clocks : ι → Timestamp) (early late : List ι),
      let between := (Ensemble.unprovisioned before bucket clocks).run early
      let after := (Ensemble.unprovisioned before bucket clocks).run (early ++ late)
      (∀ client value, after.threads client = .done value → value = .ok ()) ∧
      (∀ client, 2 ≤ (early ++ late).count client → ∃ value, after.threads client = .done value) ∧
      Ensemble.creations before after.log ≤ (if before.created then 0 else 1) ∧
      ∀ first value, between.threads first = .done value →
        between.contents = { before with created := true } ∧
        after.contents = between.contents ∧
        ∀ again ∉ early,
          (∀ moment, (again, moment) ∈ after.log → moment.call = .created) ∧
          (again ∈ late → after.threads again = .done (.ok ())) := by
  refine ⟨?_, ?_, ?_⟩
  · intro service initially hosts regions pages early late between after
    have settled {schedule : List ι} {client : ι} {value : Except StorageError Unit}
        (finished : ((S3.Fleet.idle regions bucket pages).run service schedule).programs client =
          .done value) :=
      (S3.Fleet.answered_of_run service regions bucket pages schedule).hosted_of_done hosts
        (finished ▸ S3.Fleet.bootstrap_of_run service regions bucket pages schedule client)
    refine ⟨fun _ _ finished => (settled finished).1,
      fun _ turns => S3.Fleet.done_of_two_turns service regions bucket pages turns,
      S3.Fleet.creations_le hosts regions bucket pages _, fun first value finished => ?_⟩
    have hosted := (settled finished).2
    obtain ⟨more, grown⟩ := S3.Fleet.log_grows service between late
    have whole : after.log = between.log ++ more := by
      rw [← grown, ← S3.Fleet.run_append]
    have answered := S3.Fleet.answered_of_run service regions bucket pages (early ++ late)
    exact ⟨hosted,
      ⟨more, whole, S3.Fleet.creates_eq_false_of_hosted hosts (whole ▸ answered) hosted⟩,
      fun again idle_early => S3.Fleet.ends_at_once hosts idle_early hosted⟩
  · intro service regions pages schedule client error other after failed
    exact S3.Fleet.reports_of_head_error other failed
  · intro before clocks early late between after
    refine ⟨fun _ _ finished => (Ensemble.created_of_done finished).1,
      fun _ turns => Ensemble.provisioned_of_two_turns before bucket clocks turns,
      Ensemble.creations_le before after.log, fun first value finished => ?_⟩
    have standing := (Ensemble.created_of_done finished).2
    have made := Ensemble.contents_of_created standing
    have kept := Ensemble.contents_of_created (Ensemble.created_of_run standing late)
    exact ⟨made, kept.trans made.symm,
      fun again idle_early => Ensemble.provisioned_at_once idle_early standing⟩

/-- Two instances that both see the bucket missing, and a third that comes later. -/
theorem concurrent_bootstraps_settle_race :
    let service : S3.Service := fun earlier call =>
      match call with
      | .headBucket =>
        if S3.bucketStands false earlier then .ok ()
        else .error (.refused 404 (some "NotFound") "no such bucket")
      | .createBucket _ =>
        if S3.bucketStands false earlier then
          .error (.refused 409 (some "BucketAlreadyOwnedByYou") "taken")
        else .ok ()
      | _ => .error (.undeliverable "not asked for")
    let after := (S3.Fleet.idle (fun _ => "eu-central-1") "media" 1).run service [0, 1, 1, 0, 2]
    service.Hosts false ∧
    after.programs 0 = .done (.ok ()) ∧ after.programs 1 = .done (.ok ()) ∧
    after.programs 2 = .done (.ok ()) ∧
    (after.log.map (·.2)).countP S3.Exchange.creates ≤ 1 := by
  intro service after
  have hosts : service.Hosts false :=
    { head_standing := fun log standing => if_pos standing
      head_missing := fun log missing => ⟨_, _, if_neg (Bool.eq_false_iff.mp missing)⟩
      create_missing := fun log _ missing => if_neg (Bool.eq_false_iff.mp missing)
      create_standing := fun log _ standing => ⟨_, _, _, if_pos standing, .inl rfl⟩ }
  obtain ⟨success, ended, once, later⟩ :=
    (concurrent_bootstraps_settle (ι := Nat) "media").1 service false hosts
      (fun _ => "eu-central-1") 1 [0, 1, 1, 0] [2]
  obtain ⟨value, done_first⟩ := ended 0 (by decide)
  obtain ⟨other, done_second⟩ := ended 1 (by decide)
  obtain ⟨-, -, third⟩ := later 0 (.ok ()) rfl
  exact ⟨hosts, done_first.trans (congrArg _ (success 0 value done_first)),
    done_second.trans (congrArg _ (success 1 other done_second)),
    (third 2 (by decide)).2 (by decide), once⟩

end MediaVault
