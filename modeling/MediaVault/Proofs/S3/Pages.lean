import Mathlib.Data.List.Forall2
import Mathlib.Data.Nat.Find
import MediaVault.Media.Service
import MediaVault.Proofs.S3.Exchange

/-!
# Listings, page by page

A listing asks for one page after another and gets one answer after another.
`PageAnswers` is any sequence of answers, and `Gives` ties a service to one: it says
nothing about other calls, or about tokens that no page handed out.  The answers
alone decide which calls are made and what the listing yields; where the number of
pages is limited, a limit that is not reached makes no difference.
-/

namespace MediaVault.S3

/-- The entry of an object as a store lists it. -/
structure ListEntry.Becomes (entry : ListEntry) (summary : ObjectSummary) : Prop where
  key : entry.key = some summary.key
  size : summary.size = entry.size.getD 0
  etag : summary.etag = (entry.etag.map unquoteEtag).getD ""
  lastModified : summary.lastModified = entry.lastModified.getD Timestamp.epoch

/-- What the calls of a listing are answered, one after another. -/
abbrev PageAnswers := Nat → Except CallError ListPage

namespace PageAnswers

variable (answers : PageAnswers)

/-- The answer is a page that is cut short and hands out a token. -/
def GoesOn (n : Nat) : Prop :=
  ∃ page next, answers n = .ok page ∧ page.truncated = true ∧ page.nextToken = some next

/-- The first answer after which no page is left to ask for. -/
structure EndsAt (last : Nat) : Prop where
  stops : ¬ answers.GoesOn last
  goes_on : ∀ n < last, answers.GoesOn n

/-- The token of the answer before; the first call has none. -/
def token : Nat → Option String
  | 0 => none
  | n + 1 => (answers n).toOption.bind (·.nextToken)

/-- The first calls of a listing with their answers. -/
def exchanges (lead : String) (calls : Nat) : List Exchange :=
  (List.range calls).map fun n => ⟨.listObjects lead (answers.token n), answers n⟩

/-- What stands on the page of an answer; a failed call brings none. -/
def shown (n : Nat) : List ListEntry :=
  ((answers n).toOption.map (·.entries)).getD []

/-- What stands on so many pages, one after another. -/
def entries (first pages : Nat) : List ListEntry :=
  (List.range' first pages).flatMap answers.shown

/-- What a listing yields when the call with the number `last` is its last one. -/
def Yields (lead : String) (last : Nat) (out : Except StorageError (List ObjectSummary)) : Prop :=
  match answers last with
  | .error error => out = .error (.backend "list" lead error.text)
  | .ok _ => ∃ summaries, out = .ok summaries ∧
      List.Forall₂ ListEntry.Becomes
        ((answers.entries 0 (last + 1)).filter fun entry => entry.key.isSome) summaries

theorem exists_endsAt {n : Nat} (stops : ¬ answers.GoesOn n) : ∃ last ≤ n, answers.EndsAt last := by
  classical
  have some_stop : ∃ n, ¬ answers.GoesOn n := ⟨n, stops⟩
  refine ⟨Nat.find some_stop, Nat.find_min' some_stop stops, Nat.find_spec some_stop, ?_⟩
  intro i before
  exact not_not.mp (Nat.find_min some_stop before)

theorem exchanges_succ (lead : String) (n : Nat) :
    answers.exchanges lead (n + 1) =
      answers.exchanges lead n ++ [⟨.listObjects lead (answers.token n), answers n⟩] := by
  simp [exchanges, List.range_succ]

theorem entries_succ (first pages : Nat) :
    answers.entries first (pages + 1) =
      answers.shown first ++ answers.entries (first + 1) pages := by
  simp [entries, List.range'_succ]

end PageAnswers

/-- Asked for page after page from `log` on, the service gives these answers. -/
def Service.Gives (service : Service) (log : List Exchange) (lead : String)
    (answers : PageAnswers) : Prop :=
  ∀ n, service (log ++ answers.exchanges lead n) (.listObjects lead (answers.token n)) = answers n

namespace Store

theorem becomes_summaries (entries : List ListEntry) :
    List.Forall₂ ListEntry.Becomes (entries.filter fun entry => entry.key.isSome)
      (entries.filterMap summaryOf?) := by
  induction entries with
  | nil => exact .nil
  | cons entry entries ih =>
    cases keyed : entry.key with
    | none => simpa [summaryOf?, keyed] using ih
    | some key =>
      simp only [List.filter_cons, keyed, List.filterMap_cons, summaryOf?]
      exact .cons ⟨keyed, rfl, rfl, rfl⟩ ih

end Store

namespace PageAnswers

/-- What is listed from the call with the number `first` on, when so many calls follow. -/
def outcome (answers : PageAnswers) (lead : String) (first more : Nat) :
    Except StorageError (List ObjectSummary) :=
  match answers (first + more) with
  | .error error => .error (.backend "list" lead error.text)
  | .ok _ => .ok ((answers.entries first (more + 1)).filterMap Store.summaryOf?)

variable (answers : PageAnswers) (lead : String)

theorem outcome_succ (first more : Nat) :
    answers.outcome lead first (more + 1) = (answers.outcome lead (first + 1) more).map
      fun rest => (answers.shown first).filterMap Store.summaryOf? ++ rest := by
  have shift : first + (more + 1) = first + 1 + more := by omega
  simp only [outcome, shift]
  cases answers (first + 1 + more) with
  | error error => rfl
  | ok page => simp [entries_succ answers first (more + 1), Except.map]

theorem yields_outcome (last : Nat) : answers.Yields lead last (answers.outcome lead 0 last) := by
  simp only [Yields, outcome, Nat.zero_add]
  cases answers last with
  | error error => rfl
  | ok page => exact ⟨_, rfl, Store.becomes_summaries _⟩

end PageAnswers

namespace Store

variable {service : Service} {lead : String} {log : List Exchange} {answers : PageAnswers}
  (region bucket : String)

/-! ## One page -/

theorem request_page_ends (gives : service.Gives log lead answers) (n : Nat) :
    Ends (request (service.client region bucket) "list" lead
        (.listObjects lead (answers.token n)) : ExceptT StorageError _ ListPage)
      (log ++ answers.exchanges lead n)
      ((answers n).mapError fun error => .backend "list" lead error.text)
      (log ++ answers.exchanges lead (n + 1)) := by
  apply ends_mapError_iff.mpr
  refine ⟨answers n, ?_, rfl⟩
  rw [answers.exchanges_succ, ← List.append_assoc]
  change (service _ _, _ ++ [Exchange.mk _ (service _ _)]) = _
  rw [gives n]

/-- A page after which nothing is asked for yields its own entries. -/
theorem listPages_stops (gives : service.Gives log lead answers) {n : Nat}
    (stops : ¬ answers.GoesOn n) (pages : Nat) :
    Ends (listPages (service.client region bucket) lead (pages + 1) (answers.token n))
      (log ++ answers.exchanges lead n) (answers.outcome lead n 0)
      (log ++ answers.exchanges lead (n + 1)) := by
  have asked := request_page_ends region bucket gives n
  cases answered : answers n with
  | error error =>
    rw [answered] at asked
    have failed : answers.outcome lead n 0 = .error (.backend "list" lead error.text) := by
      simp [PageAnswers.outcome, answered]
    rw [failed]
    exact ends_bind_iff.mpr (.inl ⟨_, asked, rfl⟩)
  | ok page =>
    rw [answered] at asked
    have listed : answers.outcome lead n 0 = .ok (page.entries.filterMap summaryOf?) := by
      simp [PageAnswers.outcome, PageAnswers.entries, PageAnswers.shown, answered, Except.toOption]
    rw [listed]
    apply Ends.bind asked
    -- Were it cut short with a token, the listing would go on.
    split
    next next truncated handed => exact absurd ⟨page, next, answered, truncated, handed⟩ stops
    next => exact ends_pure_iff.mpr ⟨rfl, rfl⟩

/-- A page that is cut short is followed by what the listing yields from its token
on, be that entries or an error. -/
theorem listPages_goes_on (gives : service.Gives log lead answers) {n pages : Nat}
    (goes_on : answers.GoesOn n) {out : Except StorageError (List ObjectSummary)}
    {after : List Exchange}
    (rest : Ends (listPages (service.client region bucket) lead pages (answers.token (n + 1)))
      (log ++ answers.exchanges lead (n + 1)) out after) :
    Ends (listPages (service.client region bucket) lead (pages + 1) (answers.token n))
      (log ++ answers.exchanges lead n)
      (out.map fun more => (answers.shown n).filterMap summaryOf? ++ more) after := by
  obtain ⟨page, next, answered, truncated, handed⟩ := goes_on
  have asked := request_page_ends region bucket gives n
  have token : answers.token (n + 1) = some next := by
    simp [PageAnswers.token, answered, Except.toOption, handed]
  have shown : answers.shown n = page.entries := by
    simp [PageAnswers.shown, answered, Except.toOption]
  rw [token] at rest
  rw [answered] at asked
  rw [shown]
  apply Ends.bind asked
  simp only [truncated, handed]
  exact ends_map_iff.mpr ⟨out, rest, rfl⟩

/-! ## All pages -/

/-- The listing from the call with the number `first` up to its last one. -/
theorem listPages_ends (gives : service.Gives log lead answers) (first : Nat) {more pages : Nat}
    (goes_on : ∀ i < more, answers.GoesOn (first + i)) (stops : ¬ answers.GoesOn (first + more))
    (room : more < pages) :
    Ends (listPages (service.client region bucket) lead pages (answers.token first))
      (log ++ answers.exchanges lead first) (answers.outcome lead first more)
      (log ++ answers.exchanges lead (first + more + 1)) := by
  -- On the number of pages that are still to come.
  induction more generalizing first pages with
  | zero =>
    obtain ⟨pages, rfl⟩ := Nat.exists_eq_add_one.mpr room
    exact listPages_stops region bucket gives stops pages
  | succ more ih =>
    obtain ⟨pages, rfl⟩ := Nat.exists_eq_add_one.mpr (Nat.zero_lt_of_lt room)
    have shift (i : Nat) : first + (i + 1) = first + 1 + i := by omega
    rw [shift] at stops ⊢
    rw [answers.outcome_succ]
    apply listPages_goes_on region bucket gives (goes_on 0 (by omega))
    apply ih _ _ stops (by omega)
    intro i before
    exact shift i ▸ goes_on (i + 1) (by omega)

/-- As long as every answer goes on, the listing ends at its limit and yields
nothing of what it has seen. -/
theorem listPages_ends_at_limit (gives : service.Gives log lead answers) (first : Nat)
    {pages : Nat} (goes_on : ∀ i < pages, answers.GoesOn (first + i)) :
    Ends (listPages (service.client region bucket) lead pages (answers.token first))
      (log ++ answers.exchanges lead first)
      (.error (.backend "list" lead "the listing does not end"))
      (log ++ answers.exchanges lead (first + pages)) := by
  induction pages generalizing first with
  | zero => exact ends_throw_iff.mpr ⟨rfl, rfl⟩
  | succ pages ih =>
    have shift (i : Nat) : first + (i + 1) = first + 1 + i := by omega
    rw [shift]
    have rest := ih (first + 1) fun i before => shift i ▸ goes_on (i + 1) (by omega)
    exact listPages_goes_on region bucket gives (goes_on 0 (by omega)) rest

/-- The answers decide everything about a listing.  The first call has no token, every
other one that of the answer before it, and a call follows exactly when the answer is
cut short and has a token; so once an answer does not go on, the listing has ended.  It
yields the entries of all its pages that have a key, in order, or the failure of its
last call.  A limit on the pages shows only where no answer below it ends the listing.
From what is listed the service takes away what is stored at the lead itself. -/
theorem listing_follows_pages (gives : service.Gives log lead answers)
    (resolver : Resolver (StateM (List Exchange)))
    (extract : String → ByteArray → Option ImageAttributes) :
    let media (maxPages : Nat) : MediaService (StateM (List Exchange)) :=
      { store := store (service.client region bucket) maxPages, resolver, extract }
    (∀ n, ¬ answers.GoesOn n → ∃ last ≤ n, answers.EndsAt last) ∧
    (∀ last, answers.EndsAt last → ∃ out, answers.Yields lead last out ∧
      ∀ maxPages > last,
        Ends ((media maxPages).store.list lead) log out
          (log ++ answers.exchanges lead (last + 1)) ∧
        Ends ((media maxPages).list lead) log
          (out.map fun summaries =>
            (summaries.filter fun s => s.key ≠ lead).map ListedFile.ofSummary)
          (log ++ answers.exchanges lead (last + 1))) ∧
    ∀ maxPages, (∀ n < maxPages, answers.GoesOn n) →
      Ends ((media maxPages).store.list lead) log
        (.error (.backend "list" lead "the listing does not end"))
        (log ++ answers.exchanges lead maxPages) := by
  intro media
  have begin_empty : log ++ answers.exchanges lead 0 = log := List.append_nil log
  refine ⟨fun n => answers.exists_endsAt, fun last ended => ?_, fun maxPages goes_on => ?_⟩
  · refine ⟨answers.outcome lead 0 last, answers.yields_outcome lead last, fun maxPages room => ?_⟩
    have listed : Ends ((media maxPages).store.list lead) log (answers.outcome lead 0 last)
        (log ++ answers.exchanges lead (last + 1)) := by
      have from_first := listPages_ends region bucket gives 0
        (fun i before => (Nat.zero_add i).symm ▸ ended.goes_on i before)
        ((Nat.zero_add last).symm ▸ ended.stops) room
      rwa [begin_empty, Nat.zero_add] at from_first
    refine ⟨listed, ends_map_iff.mpr ⟨_, listed, ?_⟩⟩
    simp only [bne, beq_eq_decide, decide_not, ne_eq]
  · have from_first := listPages_ends_at_limit region bucket gives 0
      fun i before => (Nat.zero_add i).symm ▸ goes_on i before
    rwa [begin_empty, Nat.zero_add] at from_first

/-- Three pages, one of them empty, with a folder marker and an entry without a key;
the last one hands out a token but is not cut short. -/
theorem listing_follows_pages_past_empty_page :
    let answers : PageAnswers := fun
      | 0 => .ok { truncated := true, nextToken := some "t1", entries :=
          [{ key := some "posts/p1/" }, {}, { key := some "posts/p1/a", etag := some "\"e1\"" }] }
      | 1 => .ok { truncated := true, nextToken := some "t2" }
      | 2 => .ok { nextToken := some "t3", entries := [{ key := some "posts/p1/b" }] }
      | _ => .error (.undeliverable "down")
    let service : Service := fun earlier call =>
      match call with
      | .listObjects _ _ => answers earlier.length
      | _ => .error (.undeliverable "down")
    let signer : UrlSigner (StateM (List Exchange)) := { presign := fun key _ => pure key }
    let media : MediaService (StateM (List Exchange)) :=
      { store := store (service.client "us-east-1" "media") 3
        resolver := .create none none signer, extract := fun _ _ => none }
    service.Gives [] "posts/p1/" answers ∧ answers.EndsAt 2 ∧
      ∃ files, Ends (media.list "posts/p1/") [] (.ok files)
          [⟨.listObjects "posts/p1/" none, answers 0⟩,
            ⟨.listObjects "posts/p1/" (some "t1"), answers 1⟩,
            ⟨.listObjects "posts/p1/" (some "t2"), answers 2⟩] ∧
        files.map (fun file => (file.object, file.etag)) =
          [("posts/p1/a", "e1"), ("posts/p1/b", "")] := by
  intro answers service signer media
  have gives : service.Gives [] "posts/p1/" answers := by
    intro n
    change answers (_ ++ answers.exchanges "posts/p1/" n).length = answers n
    simp [PageAnswers.exchanges]
  have ended : answers.EndsAt 2 := by
    constructor
    · rintro ⟨page, next, ⟨⟩, truncated, _⟩
      cases truncated
    · intro n before
      match n, before with
      | 0, _ => exact ⟨_, _, rfl, rfl, rfl⟩
      | 1, _ => exact ⟨_, _, rfl, rfl, rfl⟩
  obtain ⟨out, ⟨summaries, rfl, told⟩, made⟩ :=
    (listing_follows_pages "us-east-1" "media" gives media.resolver media.extract).2.1 2 ended
  refine ⟨gives, ended, _, (made 3 (by decide)).2, ?_⟩
  have unquoted : unquoteEtag "\"e1\"" = "e1" := by decide
  rcases told with _ | ⟨marker, _ | ⟨first, _ | ⟨second, ⟨⟩⟩⟩⟩
  have marker_key := Option.some.inj marker.key
  have first_key := Option.some.inj first.key
  have second_key := Option.some.inj second.key
  simp [← marker_key, ← first_key, ← second_key, ListedFile.ofSummary, first.etag, second.etag,
    unquoted]

end Store

end MediaVault.S3
