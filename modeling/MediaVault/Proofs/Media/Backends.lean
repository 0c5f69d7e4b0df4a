import MediaVault.Proofs.Media.Agreement
import MediaVault.Proofs.S3.Reference

/-!
# The backends agree

Over runs of any length: from an empty bucket on, the service comes to the same
with every operation, whether its store is in memory or a remote service that
behaves as a bucket.  A listing takes a page per key at most, and a key takes an
upload, so a run needs no more pages than it has operations.
-/

namespace MediaVault

namespace Site

theorem size_perform_le (site : Site) (now : Timestamp) (operation : Operation)
    (contents : Contents) :
    (((site.media (fun _ => none) now).perform operation).run contents).2.objects.size ≤
      contents.objects.size + 1 := by
  have effect := site.perform_effect ⟨now, fun _ => none, operation⟩ contents
  rw [perform] at effect
  generalize ((site.media (fun _ => none) now).perform operation).run contents = run at effect
  obtain ⟨report, after⟩ := run
  cases effect with
  | stored now faults key contentType body bytes read => exact Std.TreeMap.size_insert_le
  | deleted now faults key =>
    exact Nat.le_succ_of_le (Std.TreeMap.size_erase_le)
  | kept record idle => exact Nat.le_succ _

/-- The runs of both services agree from states that are alike. -/
theorem runs_agree (site : Site) {service : S3.Service} (behaves : service.Behaves)
    (region : String) {maxPages : Nat} (events : List (Timestamp × Operation))
    (filled : ∀ event ∈ events, event.2.key? ≠ some "") {log : List S3.Exchange}
    {contents : Contents} (alike : Alike service log contents)
    (room : contents.objects.size + events.length ≤ maxPages) :
    List.Forall₂ Report.Agrees
      ((events.mapM fun event =>
        (site.remote service region maxPages).perform event.2).run log).1
      ((events.mapM fun event =>
        (site.media (fun _ => none) event.1).perform event.2).run contents).1 := by
  -- With each operation one key more may need a page, and one operation fewer is left.
  induction events generalizing log contents with
  | nil => exact .nil
  | cons event events ih =>
    rw [List.length_cons] at room
    obtain ⟨agrees, alike⟩ := site.perform_agrees behaves region event.1 alike event.2
      (filled event List.mem_cons_self) (by omega : contents.objects.size < maxPages)
    have grown := site.size_perform_le event.1 event.2 contents
    have others := ih (fun other member => filled other (List.mem_cons_of_mem _ member)) alike
      (by omega)
    rw [List.mapM_cons, List.mapM_cons]
    exact .cons agrees others

/-- Over a remote service that behaves as a bucket, and over the store in memory,
every run of operations from an empty bucket comes to the same, step by step. -/
theorem backends_agree (site : Site) (service : S3.Service) (behaves : service.Behaves)
    (region : String) (maxPages : Nat) (events : List (Timestamp × Operation))
    (filled : ∀ event ∈ events, event.2.key? ≠ some "") (enough : events.length ≤ maxPages) :
    List.Forall₂ Report.Agrees
      ((events.mapM fun event =>
        (site.remote service region maxPages).perform event.2).run []).1
      ((events.mapM fun event =>
        (site.media (fun _ => none) event.1).perform event.2).run { created := true }).1 := by
  refine site.runs_agree behaves region events filled (alike_nil service) ?_
  have empty : ({ created := true } : Contents).objects.size = 0 := rfl
  omega

/-- A picture is stored, a broken stream is not, and both keys are asked about. -/
theorem backends_agree_on_broken_stream :
    let site : Site :=
      { bucket := "media", cdn := none, publicSigner := none, signer := fun key _ => .ok key
        extract := fun _ bytes => some ⟨"hash", bytes.size.toUInt32, 1⟩, maxUploadBytes := 1000 }
    let broken : List Chunk :=
      [.data ⟨Array.replicate (8 * 1024 * 1024) 0⟩, .failed "connection reset"]
    let operations : List Operation :=
      [.upload "posts/1/a.png" (some "image/png") [.data ⟨#[1]⟩, .data ⟨#[2]⟩],
        .upload "posts/1/b.mp4" (some "video/mp4") broken, .stat "posts/1/a.png",
        .open "posts/1/b.mp4", .list "posts/1/", .delete "posts/1/a.png",
        .delete "posts/1/a.png"]
    let events := operations.map fun operation => ((default : Timestamp), operation)
    S3.Service.reference.Behaves ∧ (∀ event ∈ events, event.2.key? ≠ some "") ∧
      events.length ≤ 7 ∧
      List.Forall₂ Report.Agrees
        ((events.mapM fun event =>
          (site.remote S3.Service.reference "us-east-1" 7).perform event.2).run []).1
        ((events.mapM fun event =>
          (site.media (fun _ => none) event.1).perform event.2).run { created := true }).1 := by
  intro site broken operations events
  have filled : ∀ event ∈ events, event.2.key? ≠ some "" := by
    simp [events, operations, Operation.key?]
  have enough : events.length ≤ 7 := by simp [events, operations]
  exact ⟨S3.Service.reference_behaves, filled, enough,
    backends_agree site _ S3.Service.reference_behaves "us-east-1" 7 events filled enough⟩

end Site

end MediaVault
