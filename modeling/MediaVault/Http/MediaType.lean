import MediaVault.Text.Letters

/-!
# Media types

A media type is `type/subtype` followed by parameters.  The written form is
kept, but type, subtype, parameter names and the value of `charset` are put
into lower case, and a parameter list without parameters is cut off.
-/

namespace MediaVault

/-- A media type in its normal form. -/
structure MediaType where
  /-- The written form. -/
  text : String
  type : String
  /-- The subtype without its suffix after the last plus sign. -/
  subtype : String
  params : List (String × String)
deriving Repr, DecidableEq, Inhabited

namespace MediaType

/-- The characters of names and of unquoted values. -/
def isToken (c : Char) : Bool :=
  c.isAlphanum || "!#$%&'+-.^_`|~".toList.contains c

/-- The characters of quoted values. -/
def isQuotable (c : Char) : Bool :=
  31 < c.toNat && c.toNat != 127

/-- Values of `charset` ignore letter case. -/
def normalValue (name value : List Char) : List Char :=
  if name = "charset".toList then Text.lowerChars value else value

/-- The end of a quoted value: blanks, then a semicolon or the end.  Gives the
text that was passed over and the rest after a semicolon. -/
def afterQuote : List Char → Option (List Char × List Char)
  | [] => some ([], [])
  | ';' :: rest => some ([';'], rest)
  | ' ' :: rest => (afterQuote rest).map fun r => (' ' :: r.1, r.2)
  | _ :: _ => none

theorem length_afterQuote {s passed rest : List Char} (h : afterQuote s = some (passed, rest)) :
    rest.length ≤ s.length := by
  fun_induction afterQuote s generalizing passed rest with
  | case1 => simp_all
  | case2 => simp_all
  | case3 s ih =>
    obtain ⟨⟨p, r⟩, hr, heq⟩ := Option.map_eq_some_iff.1 h
    have := ih hr
    simp only [Prod.mk.injEq] at heq
    obtain ⟨-, rfl⟩ := heq
    simp only [List.length_cons]
    omega
  | case4 => simp at h

/-- One parameter: its name, its value, its written form and the rest. -/
structure Param where
  name : List Char
  value : List Char
  written : List Char
  rest : List Char

/-- A value without quotes. -/
def bareValue? (name s : List Char) : Option Param :=
  let value := s.takeWhile isToken
  let written := Text.lowerChars name ++ '=' :: normalValue (Text.lowerChars name) value
  match s.dropWhile isToken with
  | [] => some ⟨Text.lowerChars name, value, written, []⟩
  | ';' :: rest =>
    if value.isEmpty then none
    else some ⟨Text.lowerChars name, value, written ++ [';'], rest⟩
  | _ :: _ => none

/-- A value after its opening quote.  A quote that follows at once belongs to
the value. -/
def quotedValue? (name s : List Char) : Option Param :=
  let lead := s.take 1
  let value := lead ++ (s.drop 1).takeWhile fun c => c != '"'
  if value.isEmpty || !value.all isQuotable then none
  else
    match (s.drop 1).dropWhile fun c => c != '"' with
    | [] => none
    | _ :: after =>
      (afterQuote after).map fun passed =>
        ⟨Text.lowerChars name, value,
          Text.lowerChars name ++ '=' :: '"' :: normalValue (Text.lowerChars name) value ++
            '"' :: passed.1,
          passed.2⟩

/-- A name, an equals sign and a value. -/
def param? (s : List Char) : Option Param :=
  let name := s.takeWhile isToken
  match s.dropWhile isToken with
  | '=' :: rest =>
    if name.isEmpty then none
    else
      match rest with
      | '"' :: quoted => quotedValue? name quoted
      | _ => bareValue? name rest
  | _ => none

theorem length_dropWhile_le_length {α : Type} (p : α → Bool) (s : List α) :
    (s.dropWhile p).length ≤ s.length :=
  (List.dropWhile_sublist p).length_le

theorem length_bareValue? {name s : List Char} {p : Param} (h : bareValue? name s = some p) :
    p.rest.length ≤ s.length := by
  have hle := length_dropWhile_le_length isToken s
  simp only [bareValue?] at h
  split at h
  · simp only [Option.some.injEq] at h
    subst h
    simp
  next rest hr =>
    split at h
    · simp at h
    · simp only [Option.some.injEq] at h
      subst h
      rw [hr] at hle
      simp only [List.length_cons] at hle
      simp only
      omega
  · simp at h

theorem length_quotedValue? {name s : List Char} {p : Param}
    (h : quotedValue? name s = some p) : p.rest.length ≤ s.length := by
  have hle := length_dropWhile_le_length (fun c => c != '"') (s.drop 1)
  simp only [quotedValue?] at h
  split at h
  · simp at h
  · split at h
    · simp at h
    next after hr =>
      obtain ⟨⟨passed, rest⟩, hq, rfl⟩ := Option.map_eq_some_iff.1 h
      have := length_afterQuote hq
      rw [hr] at hle
      simp only [List.length_cons, List.length_drop] at hle
      simp only
      omega

theorem length_param? {s : List Char} {p : Param} (h : param? s = some p) :
    p.rest.length < s.length := by
  have hle := length_dropWhile_le_length isToken s
  simp only [param?] at h
  split at h
  next rest hr =>
    rw [hr] at hle
    simp only [List.length_cons] at hle
    split at h
    · simp at h
    · split at h
      next quoted =>
        have := length_quotedValue? h
        simp only [List.length_cons] at hle
        omega
      next =>
        have := length_bareValue? h
        omega
  · simp at h

/-- The parameters and their written form; spaces may stand before each. -/
def params? (s : List Char) : Option (List (List Char × List Char) × List Char) :=
  match s with
  | [] => some ([], [])
  | ' ' :: rest => (params? rest).map fun r => (r.1, ' ' :: r.2)
  | c :: rest =>
    match found : param? (c :: rest) with
    | none => none
    | some p =>
      have : p.rest.length < rest.length + 1 := length_param? found
      (params? p.rest).map fun r => ((p.name, p.value) :: r.1, p.written ++ r.2)
termination_by s.length

/-- The subtype up to its last plus sign, if something precedes that. -/
def withoutSuffix (subtype : List Char) : List Char :=
  match Text.cutAt '+' subtype.reverse with
  | some (_, before) => if before.isEmpty then subtype else before.reverse
  | none => subtype

/-- A media type whose type and subtype were read. -/
def build (type subtype : List Char) (params : List (List Char × List Char))
    (tail : List Char) : MediaType :=
  let type := Text.lowerChars type
  let subtype := Text.lowerChars subtype
  { text := String.ofList (type ++ '/' :: subtype ++ tail)
    type := String.ofList type
    subtype := String.ofList (withoutSuffix subtype)
    params := params.map fun p => (String.ofList p.1, String.ofList p.2) }

/-- Read a media type. -/
def parse? (s : String) : Option MediaType :=
  if s = "*/*" then some (build ['*'] ['*'] [] [])
  else
    let chars := s.toList
    let type := chars.takeWhile isToken
    match chars.dropWhile isToken with
    | '/' :: rest =>
      let subtype := rest.takeWhile isToken
      if type.isEmpty then none
      else
        match rest.dropWhile isToken with
        | [] => some (build type subtype [] [])
        | ';' :: tail =>
          if subtype.isEmpty then none
          else
            (params? tail).map fun r =>
              if r.1.isEmpty then build type subtype [] []
              else build type subtype r.1 (';' :: r.2)
        | _ :: _ => none
    | _ => none

/-- The value of the first parameter with this name. -/
def param (t : MediaType) (name : String) : Option String :=
  (t.params.find? (·.1 == name)).map (·.2)

end MediaType

end MediaVault
