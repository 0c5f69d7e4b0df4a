import MediaVault.Http.Multipart

/-!
# The part that is selected

A form is passed over until a part belongs to one of the wanted fields.  `streams` lists all
its parts in body order, and `select_of_offers` and `select_of_unoffered` say what selecting
comes to in terms of that list: the first part counts that belongs, whatever stands before and
behind it.
-/

namespace MediaVault.Multipart

/-- The part says that it belongs to one of these fields. -/
def PartHead.BelongsTo (names : List String) (head : PartHead) : Prop :=
  ∃ name ∈ names, head.name = some name

theorem PartHead.isNamed_iff {names : List String} {head : PartHead} :
    head.isNamed names = true ↔ head.BelongsTo names := by
  rw [isNamed, BelongsTo]
  cases head.name with
  | none => simp
  | some name => simp

namespace Parts

/-- All parts in body order.  One that breaks off is the last, and its content fails. -/
def streams : Parts → List Selected
  | .finished => []
  | .malformed _ => []
  | .broken head => [⟨head, [.failed brokenPart]⟩]
  | .part head content rest => ⟨head, [.data content]⟩ :: rest.streams

/-- What is wrong with a form all of whose parts are passed over. -/
def verdict : Parts → Option FormError
  | .finished => none
  | .malformed error => some error
  | .broken head => some (.incompletePart head.name)
  | .part _ _ rest => rest.verdict

/-- This is the first part of the form that belongs to one of the fields. -/
def Offers (names : List String) (parts : Parts) (stream : Selected) : Prop :=
  ∃ earlier later, parts.streams = earlier ++ stream :: later ∧ stream.head.BelongsTo names ∧
    ∀ other ∈ earlier, ¬ other.head.BelongsTo names

variable {names : List String} {parts : Parts}

theorem select_eq (names : List String) (parts : Parts) :
    parts.select names =
      match parts.streams.find? fun stream => stream.head.isNamed names with
      | some stream => .ok (some stream)
      | none =>
        match parts.verdict with
        | some error => .error error
        | none => .ok none := by
  induction parts with
  | finished => rfl
  | malformed error => rfl
  | broken head =>
    rw [select, streams]
    cases named : head.isNamed names with
    | true => simp [named]
    | false => simp [named, verdict]
  | part head content rest ih =>
    rw [select, streams]
    cases named : head.isNamed names with
    | true => simp [named]
    | false => simpa [named, verdict] using ih

theorem select_of_offers {stream : Selected} (offers : parts.Offers names stream) :
    parts.select names = .ok (some stream) := by
  obtain ⟨earlier, later, written, belongs, passed⟩ := offers
  have first : (parts.streams.find? fun stream => stream.head.isNamed names) = some stream := by
    refine List.find?_eq_some_iff_append.mpr ⟨PartHead.isNamed_iff.mpr belongs, earlier, later,
      written, fun other member => ?_⟩
    rw [Bool.not_eq_true', ← Bool.not_eq_true, PartHead.isNamed_iff]
    exact passed other member
  rw [select_eq, first]

theorem select_of_unoffered (passed : ∀ stream ∈ parts.streams, ¬ stream.head.BelongsTo names) :
    parts.select names =
      match parts.verdict with
      | some error => .error error
      | none => .ok none := by
  have none_belongs : (parts.streams.find? fun stream => stream.head.isNamed names) = none := by
    refine List.find?_eq_none.mpr fun stream member => ?_
    rw [PartHead.isNamed_iff]
    exact passed stream member
  rw [select_eq, none_belongs]

theorem offers_of_mem {stream : Selected} (member : stream ∈ parts.streams)
    (belongs : stream.head.BelongsTo names) : ∃ first, parts.Offers names first := by
  cases found : parts.streams.find? fun stream => stream.head.isNamed names with
  | none => exact absurd (PartHead.isNamed_iff.mpr belongs) (List.find?_eq_none.mp found _ member)
  | some first =>
    obtain ⟨named, earlier, later, written, passed⟩ := List.find?_eq_some_iff_append.mp found
    refine ⟨first, earlier, later, written, PartHead.isNamed_iff.mp named, ?_⟩
    intro other before taken
    simpa [PartHead.isNamed_iff.mpr taken] using passed other before

end Parts

end MediaVault.Multipart
