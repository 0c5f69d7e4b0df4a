import MediaVault.Proofs.Api.Answers

/-!
# Where a caller's token comes from

The first `Authorization` header decides: if it is readable and holds a token, that is the
caller's, and the target is not looked at.  Any other header counts for nothing, and the query has
to name the token, once and not blank.  `Presented` and `Queried` say this of the request as it
arrives, in bytes and entries; the main statement is that extraction follows them.
-/

namespace MediaVault

/-- A value is read as text when its bytes are printable ASCII or tabs. -/
theorem HeaderValue.text?_eq_some_iff {value : ByteArray} {text : String} :
    text? value = some text ↔
      (∀ b ∈ Bytes.list value, b = 0x09 ∨ 0x20 ≤ b ∧ b < 0x7F) ∧
        Bytes.list value = Text.utf8 text := by
  have readable : (Bytes.list value).all isReadable = true ↔
      ∀ b ∈ Bytes.list value, b = 0x09 ∨ 0x20 ≤ b ∧ b < 0x7F := by
    simp [isReadable]
  have ascii {b : UInt8} (printable : b = 0x09 ∨ 0x20 ≤ b ∧ b < 0x7F) : b < 0x80 := by
    simp only [UInt8.lt_iff_toNat_lt, UInt8.le_iff_toNat_le, ← UInt8.toNat_inj] at printable ⊢
    have tab : (0x09 : UInt8).toNat = 9 := rfl
    have delete : (0x7F : UInt8).toNat = 127 := rfl
    have limit : (0x80 : UInt8).toNat = 128 := rfl
    omega
  -- Below 0x80 a byte is the encoding of the character that it is read as.
  have bytes (printable : ∀ b ∈ Bytes.list value, b = 0x09 ∨ 0x20 ≤ b ∧ b < 0x7F) :
      Text.utf8 (String.ofList ((Bytes.list value).map fun b => Char.ofNat b.toNat)) =
        Bytes.list value := by
    rw [Text.utf8_eq_flatMap, String.toList_ofList, List.flatMap_map]
    have single : (Bytes.list value).flatMap (fun b => String.utf8EncodeChar (Char.ofNat b.toNat)) =
        (Bytes.list value).flatMap fun b => [b] :=
      List.flatMap_congr fun b member => Percent.utf8EncodeChar_ofNat (ascii (printable b member))
    rw [single, List.flatMap_singleton']
  simp only [text?]
  by_cases printable : ∀ b ∈ Bytes.list value, b = 0x09 ∨ 0x20 ≤ b ∧ b < 0x7F
  · rw [if_pos (readable.mpr printable), Option.some.injEq, and_iff_right printable]
    constructor
    · rintro rfl
      exact (bytes printable).symm
    · intro written
      rw [← Text.utf8_inj, bytes printable, written]
  · rw [if_neg (mt readable.mp printable)]
    simp [printable]

namespace Token

variable {request : Request} {token : String}

/-! ## Requests as they arrive -/

/-- The first `Authorization` header of the request has this value. -/
def Presents (request : Request) (value : ByteArray) : Prop :=
  ∃ before name after, request.headers = before ++ (name, value) :: after ∧
    Text.lower name = "authorization" ∧ ∀ header ∈ before, Text.lower header.1 ≠ "authorization"

/-- The value is printable ASCII and tabs: a scheme and, trimmed, the token. -/
structure Carries (value : ByteArray) (token : String) : Prop where
  printable : ∀ b ∈ Bytes.list value, b = 0x09 ∨ 0x20 ≤ b ∧ b < 0x7F
  schemed : ∃ scheme rest : String, (scheme = "Bearer " ∨ scheme = "bearer ") ∧
    Bytes.list value = Text.utf8 (scheme ++ rest) ∧ Text.TrimsTo rest token
  filled : token ≠ ""

/-- The first `Authorization` header of the request carries this token. -/
def Presented (request : Request) (token : String) : Prop :=
  ∃ value, Presents request value ∧ Carries value token

/-- Among the decoded parameters of the query there is one `token`, and its value is not blank. -/
def Queried (request : Request) (token : String) : Prop :=
  ∃ query before after, request.query? = some query ∧
    Query.pairs query = before ++ ("token", token) :: after ∧
    (∀ pair ∈ before ++ after, pair.1 ≠ "token") ∧ ∃ c ∈ token.toList, Text.isBlank c = false

/-! ## The header -/

theorem header?_eq_some_iff {value : ByteArray} :
    request.header? "authorization" = some value ↔ Presents request value := by
  have lowered : Text.lower "authorization" = "authorization" := by decide
  rw [Request.header?, Text.find?_sameIgnoringCase_eq_some_iff, lowered, Presents]

theorem ofHeaderText?_eq_some_iff {text : String} :
    ofHeaderText? text = some token ↔
      (∃ scheme rest : String, (scheme = "Bearer " ∨ scheme = "bearer ") ∧ text = scheme ++ rest ∧
        Text.TrimsTo rest token) ∧ token ≠ "" := by
  simp only [ofHeaderText?, Option.bind_eq_some_iff, Text.nonBlank_trim_eq_some_iff,
    Option.or_eq_some_iff, Text.stripLead?_eq_some_iff]
  constructor
  · rintro ⟨rest, upper | ⟨-, lower⟩, trimmed, filled⟩
    · exact ⟨⟨"Bearer ", rest, .inl rfl, upper, trimmed⟩, filled⟩
    · exact ⟨⟨"bearer ", rest, .inr rfl, lower, trimmed⟩, filled⟩
  · -- The capital scheme is tried first; it does not match the other one.
    rintro ⟨⟨_, rest, rfl | rfl, rfl, trimmed⟩, filled⟩
    · exact ⟨rest, .inl rfl, trimmed, filled⟩
    · refine ⟨rest, .inr ⟨?_, rfl⟩, trimmed, filled⟩
      simp [Text.stripLead?, Text.dropLead?]

theorem carries_iff {value : ByteArray} :
    (HeaderValue.text? value).bind ofHeaderText? = some token ↔ Carries value token := by
  simp only [Option.bind_eq_some_iff, HeaderValue.text?_eq_some_iff, ofHeaderText?_eq_some_iff]
  constructor
  · rintro ⟨_, ⟨printable, written⟩, ⟨scheme, rest, named, rfl, trimmed⟩, filled⟩
    exact ⟨printable, ⟨scheme, rest, named, written, trimmed⟩, filled⟩
  · rintro ⟨printable, ⟨scheme, rest, named, written, trimmed⟩, filled⟩
    exact ⟨_, ⟨printable, written⟩, ⟨scheme, rest, named, rfl, trimmed⟩, filled⟩

theorem ofHeaders?_eq_some_iff : ofHeaders? request = some token ↔ Presented request token := by
  have steps : ofHeaders? request = (request.header? "authorization").bind fun value =>
      (HeaderValue.text? value).bind ofHeaderText? := rfl
  rw [steps, Option.bind_eq_some_iff]
  simp only [header?_eq_some_iff, carries_iff, Presented]

/-! ## The query -/

theorem param_eq_ok_some_iff {name value : String} {query : Option String} :
    Query.param name query = .ok (some value) ↔
      ∃ before after, Query.pairs (query.getD "") = before ++ (name, value) :: after ∧
        ∀ pair ∈ before ++ after, pair.1 ≠ name := by
  have single : Query.param name query = .ok (some value) ↔
      (Query.pairs (query.getD "")).filter (·.1 == name) = [(name, value)] := by
    rw [Query.param]
    split
    next none_named => simp [none_named]
    next pair one_named =>
      have named : pair ∈ (Query.pairs (query.getD "")).filter (·.1 == name) := by simp [one_named]
      have same : pair.1 = name := by simpa using (List.mem_filter.mp named).2
      simp [one_named, Prod.ext_iff, same]
    next _ several => exact iff_of_false nofun (several (name, value))
  rw [single, List.filter_eq_cons_iff]
  simp only [List.filter_eq_nil_iff, beq_iff_eq, true_and, List.mem_append]
  constructor
  · rintro ⟨before, after, listed, earlier, later⟩
    exact ⟨before, after, listed, fun pair member => member.elim (earlier pair) (later pair)⟩
  · rintro ⟨before, after, listed, other⟩
    exact ⟨before, after, listed, fun pair member => other pair (.inl member),
      fun pair member => other pair (.inr member)⟩

theorem ofQuery?_eq_some_iff : ofQuery? request.query? = some token ↔ Queried request token := by
  have read : ofQuery? request.query? = some token ↔
      Query.param "token" request.query? = .ok (some token) ∧
        ∃ c ∈ token.toList, Text.isBlank c = false := by
    rw [ofQuery?]
    split
    next value found =>
      rw [Text.nonBlank_eq_some_iff, found, Except.ok.injEq, Option.some.injEq]
      constructor
      · rintro ⟨rfl, inked⟩
        exact ⟨rfl, inked⟩
      · rintro ⟨rfl, inked⟩
        exact ⟨rfl, inked⟩
    next unread =>
      refine iff_of_false nofun ?_
      rintro ⟨found, -⟩
      exact unread token found
  rw [read, param_eq_ok_some_iff]
  constructor
  · rintro ⟨⟨before, after, listed, other⟩, inked⟩
    cases asked : request.query? with
    | none =>
      -- Without a query it is read as an empty one, and that names nothing.
      rw [asked, Option.getD_none, show Query.pairs "" = [] by decide +kernel] at listed
      simp at listed
    | some query =>
      rw [asked, Option.getD_some] at listed
      exact ⟨query, before, after, asked, listed, other, inked⟩
  · rintro ⟨query, before, after, asked, listed, other, inked⟩
    rw [asked]
    exact ⟨⟨before, after, listed, other⟩, inked⟩

/-! ## Both -/

theorem ofRequest?_of_presented (presented : Presented request token) :
    ofRequest? request = some token := by
  rw [ofRequest?, ofHeaders?_eq_some_iff.mpr presented, Option.some_or]

/-- Without a usable header only the query counts. -/
theorem ofRequest?_of_unpresented (unusable : ¬ ∃ token, Presented request token) :
    ofRequest? request = ofQuery? request.query? := by
  have no_header : ofHeaders? request = none := by
    simpa only [Option.eq_none_iff_forall_ne_some, ne_eq, ofHeaders?_eq_some_iff, not_exists]
      using unusable
  rw [ofRequest?, no_header, Option.none_or]

theorem not_presented_of_absent
    (absent : ∀ header ∈ request.headers, Text.lower header.1 ≠ "authorization") :
    ¬ ∃ token, Presented request token := by
  rintro ⟨token, value, ⟨before, name, after, listed, same, -⟩, -⟩
  exact absent (name, value) (by simp [listed]) same

theorem Presented.inked (presented : Presented request token) :
    ∃ c ∈ token.toList, Text.isBlank c = false := by
  obtain ⟨value, -, carried⟩ := presented
  obtain ⟨scheme, rest, -, -, trimmed⟩ := carried.schemed
  obtain ⟨-, inked⟩ := Text.nonBlank_eq_some_iff.mp
    (Text.nonBlank_trim_eq_some_iff.mpr ⟨trimmed, carried.filled⟩)
  rwa [Text.trim_eq_iff.mpr trimmed] at inked

theorem inked_of_ofRequest? (extracted : ofRequest? request = some token) :
    ∃ c ∈ token.toList, Text.isBlank c = false := by
  by_cases usable : ∃ other, Presented request other
  · obtain ⟨other, presented⟩ := usable
    rw [ofRequest?_of_presented presented, Option.some.injEq] at extracted
    exact extracted ▸ presented.inked
  · rw [ofRequest?_of_unpresented usable, ofQuery?_eq_some_iff] at extracted
    obtain ⟨_, _, _, _, _, _, inked⟩ := extracted
    exact inked

/-- The first `Authorization` header decides whenever it carries a token, whatever the target is.
Else the query's one token counts if it is not blank, and without it the answer is 401; no such
header changes anything.  A token is never blank. -/
theorem token_extracted {σ : Type} (request : Request) (state : σ) :
    (∀ token, Presented request token → ∀ target : String,
      Ends (Gateway.token { request with target := target }) state (.ok token) state) ∧
    ((¬ ∃ token, Presented request token) →
      (∀ token, Queried request token → Ends (Gateway.token request) state (.ok token) state) ∧
      ((¬ ∃ token, Queried request token) → ∃ refusal,
        Ends (Gateway.token request) state (.error refusal) state ∧
          refusal.toResponse.status = 401) ∧
      ∀ headers : List RawHeader, (∀ header ∈ headers, Text.lower header.1 ≠ "authorization") →
        ∀ out after, Ends (Gateway.token { request with headers := headers }) state out after ↔
          Ends (Gateway.token request) state out after) ∧
    ∀ token after, Ends (Gateway.token request) state (.ok token) after →
      ∃ c ∈ token.toList, Text.isBlank c = false := by
  refine ⟨fun token presented target => ?_, fun unusable => ⟨fun token queried => ?_,
    fun unqueried => ?_, fun headers absent out after => ?_⟩, fun token after ended => ?_⟩
  · -- The target is no part of what a request presents.
    have same : Presented { request with target := target } token := presented
    exact Gateway.token_answers (ofRequest?_of_presented same)
  · apply Gateway.token_answers
    rw [ofRequest?_of_unpresented unusable, ofQuery?_eq_some_iff.mpr queried]
  · have missing : ofRequest? request = none := by
      rw [ofRequest?_of_unpresented unusable]
      simpa only [Option.eq_none_iff_forall_ne_some, ne_eq, ofQuery?_eq_some_iff, not_exists]
        using unqueried
    refine ⟨.error (ApiError.unauthorized "missing credentials"), ?_, rfl⟩
    rw [Gateway.token, missing]
    exact ends_throw_iff.mpr ⟨rfl, rfl⟩
  · have alone : ¬ ∃ token, Presented { request with headers := headers } token :=
      not_presented_of_absent absent
    rw [Gateway.token, Gateway.token, ofRequest?_of_unpresented alone,
      ofRequest?_of_unpresented unusable]
    rfl
  · exact inked_of_ofRequest? ((Gateway.token_settled _).checked _ _ _ ended).2

/-- A usable header beside another token in the query, an unusable one, which may as well be left
out, and two tokens in the query. -/
theorem token_extracted_past_basic_scheme :
    let usable : Request :=
      { method := "GET", target := "/x?token=query"
        headers := [("Authorization", "Bearer \ta ".toUTF8), ("authorization", "Bearer b".toUTF8)] }
    let unusable : Request :=
      { method := "GET", target := "/x?tok%65n=q+1"
        headers := [("Authorization", "Basic a".toUTF8)] }
    let twice : Request :=
      { method := "GET", target := "/x?token=a&token=b", headers := [] }
    Presented usable "a" ∧ Ends (Gateway.token usable) () (.ok "a") () ∧
      (¬ ∃ token, Presented unusable token) ∧ Queried unusable "q 1" ∧
      Ends (Gateway.token unusable) () (.ok "q 1") () ∧
      Ends (Gateway.token { unusable with headers := [] }) () (.ok "q 1") () ∧
      (∃ c ∈ "q 1".toList, Text.isBlank c = false) ∧
      (¬ ∃ token, Presented twice token) ∧ (¬ ∃ token, Queried twice token) ∧
      ∃ refusal, Ends (Gateway.token twice) () (.error refusal) () ∧
        refusal.toResponse.status = 401 := by
  intro usable unusable twice
  have presented : Presented usable "a" := ofHeaders?_eq_some_iff.mp (by decide +kernel)
  have refused : ¬ ∃ token, Presented unusable token := by
    simp only [← ofHeaders?_eq_some_iff, ← Option.ne_none_iff_exists']
    decide +kernel
  have queried : Queried unusable "q 1" := ofQuery?_eq_some_iff.mp (by decide +kernel)
  have bare : ¬ ∃ token, Presented twice token := not_presented_of_absent nofun
  have repeated : ¬ ∃ token, Queried twice token := by
    simp only [← ofQuery?_eq_some_iff, ← Option.ne_none_iff_exists']
    decide +kernel
  obtain ⟨first, -, -⟩ := token_extracted usable ()
  obtain ⟨-, second, inked⟩ := token_extracted unusable ()
  obtain ⟨-, third, -⟩ := token_extracted twice ()
  obtain ⟨queries, -, ignores⟩ := second refused
  have found : Ends (Gateway.token unusable) () (.ok "q 1") () := queries "q 1" queried
  exact ⟨presented, first "a" presented "/x?token=query", refused, queried, found,
    (ignores [] nofun _ _).mpr found, inked _ _ found, bare, repeated, (third bare).2.1 repeated⟩

end Token

end MediaVault
