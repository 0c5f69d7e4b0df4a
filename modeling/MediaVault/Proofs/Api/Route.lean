import MediaVault.Api.Route
import MediaVault.Proofs.Http.Percent

/-!
# Paths of routes

`path_of_ofPath` reads a route backwards: a path that leads to it is the one
written out in `Route.path`, and none of the names in it spans a slash.
-/

namespace MediaVault

theorem Text.not_mem_of_mem_splitOn {sep : Char} {s piece : List Char}
    (member : piece ∈ s.splitOn sep) : sep ∉ piece := by
  induction s generalizing piece with
  | nil =>
    rw [List.splitOn_nil] at member
    simp [List.mem_singleton.mp member]
  | cons c s ih =>
    rw [List.splitOn_cons_eq_if_modifyHead] at member
    split at member
    next same =>
      rcases List.mem_cons.mp member with rfl | member
      · simp
      · exact ih member
    next differ =>
      obtain ⟨first, others, split⟩ := List.exists_cons_of_ne_nil (List.splitOn_ne_nil sep s)
      rw [split, List.modifyHead_cons] at member
      rcases List.mem_cons.mp member with rfl | member
      · have absent := ih (split ▸ List.mem_cons_self)
        have not_first : sep ≠ c := fun same => differ (beq_iff_eq.mpr same.symm)
        simp [not_first, absent]
      · exact ih (split ▸ List.mem_cons_of_mem first member)

namespace Route

/-- The segments of a path under the base path. -/
def segments : Route → List String
  | .liveness | .readiness => []
  | .post postId => ["posts", postId]
  | .postFile postId fileName => ["posts", postId, fileName]
  | .postFileMeta postId fileName => ["posts", postId, fileName, "meta"]
  | .postFileUrl postId fileName => ["posts", postId, fileName, "url"]
  | .profile userId => ["profiles", userId, "profile"]
  | .profileMeta userId => ["profiles", userId, "profile", "meta"]
  | .profileUrl userId => ["profiles", userId, "profile", "url"]

/-- The path of a route. -/
def path : Route → String
  | .liveness => "/healthz"
  | .readiness => "/readyz"
  | route => "/api/v2/storage/" ++ "/".intercalate route.segments

theorem segments_of_ofSegments {names : List String} {route : Route}
    (found : ofSegments names = some route) :
    names = route.segments ∧ route.path = "/api/v2/storage/" ++ "/".intercalate route.segments := by
  -- One case for each shape of segments; two shapes may not end in an empty name.
  unfold ofSegments at found
  split at found <;> (try split at found) <;> cases found <;> exact ⟨rfl, rfl⟩

theorem path_of_ofPath {text : String} {route : Route} (found : ofPath text = some route) :
    text = route.path ∧ ∀ segment ∈ route.segments, '/' ∉ segment.toList := by
  rw [ofPath] at found
  split at found
  next live =>
    obtain rfl := Option.some.inj found
    exact ⟨live, by simp [segments]⟩
  split at found
  next ready =>
    obtain rfl := Option.some.inj found
    exact ⟨ready, by simp [segments]⟩
  obtain ⟨rest, dropped, shaped⟩ := Option.bind_eq_some_iff.mp found
  obtain ⟨split, written⟩ := segments_of_ofSegments shaped
  have unmapped : (rest.splitOn '/').map (String.toList ∘ String.ofList) = rest.splitOn '/' := by
    simp [Function.comp_def]
  constructor
  · refine String.toList_inj.mp ?_
    rw [written, ← split, Text.eq_append_of_dropLead? dropped, String.toList_append,
      String.toList_intercalate, List.map_map, unmapped]
    exact congrArg (base ++ ·) (List.intercalate_splitOn '/').symm
  · intro segment member
    obtain ⟨piece, among, rfl⟩ := List.mem_map.mp (split ▸ member)
    simpa using Text.not_mem_of_mem_splitOn among

/-- Names without slashes are found again in the path, if the last one is not empty. -/
theorem ofPath_storagePath {names : List String} {route : Route}
    (shaped : ofSegments names = some route) (slash_free : ∀ name ∈ names, '/' ∉ name.toList) :
    ofPath ("/api/v2/storage/" ++ "/".intercalate names) = some route := by
  have written : ("/api/v2/storage/" ++ "/".intercalate names).toList =
      base ++ ['/'].intercalate (names.map String.toList) := by
    rw [String.toList_append, String.toList_intercalate]
    rfl
  have differs (text : String) (other : ¬ base <+: text.toList) :
      "/api/v2/storage/" ++ "/".intercalate names ≠ text := by
    rintro rfl
    exact other (written ▸ List.prefix_append _ _)
  have filled : names ≠ [] := by
    rintro rfl
    cases shaped
  have split : (['/'].intercalate (names.map String.toList)).splitOn '/' =
      names.map String.toList := by
    refine List.splitOn_intercalate '/' ?_ (by simpa using filled)
    intro piece member
    obtain ⟨name, among, rfl⟩ := List.mem_map.mp member
    exact slash_free name among
  rw [ofPath, if_neg (differs _ (by decide)), if_neg (differs _ (by decide)), written,
    Text.dropLead?_append, Option.bind_some, split, List.map_map]
  simpa [Function.comp_def] using shaped

end Route

end MediaVault
