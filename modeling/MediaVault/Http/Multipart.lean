import MediaVault.Http.Disposition
import MediaVault.Http.MediaType
import MediaVault.Http.Message
import MediaVault.Payload
import MediaVault.Text.Blank
import MediaVault.Text.Quoted

/-!
# Multipart forms

The body of an upload is a sequence of parts between delimiter lines.  It is
read from front to back into a list that ends with the closing delimiter, with
a part that breaks off, or with the reason why no further part starts.
-/

namespace MediaVault.Multipart

/-- Why reading a form failed. -/
inductive FormError where
  | tooLarge
  | unreadable
  /-- The body ends before the closing delimiter. -/
  | incomplete
  | badHeaders
  /-- A part that was passed over breaks off. -/
  | incompletePart (name : Option String)
deriving Repr, DecidableEq

namespace FormError

/-- The wording of a form error. -/
def message : FormError → String
  | tooLarge => "Request payload is too large"
  | unreadable => "failed to read stream"
  | incomplete => "incomplete multipart stream"
  | badHeaders => "failed to read headers"
  | incompletePart name =>
    "field " ++ Text.quoteForDisplay (name.getD "<unknown>") ++ " received with incomplete data"

end FormError

/-- Reported while a selected part is read and the body breaks off. -/
def brokenPart : String := "Error parsing `multipart/form-data` request"

/-- What a part says about itself. -/
structure PartHead where
  name : Option String
  fileName : Option String
  contentType : Option String
deriving Repr, DecidableEq

/-- The parts of a form in body order. -/
inductive Parts where
  /-- The closing delimiter was reached. -/
  | finished
  | malformed (error : FormError)
  /-- The delimiter after this part is missing. -/
  | broken (head : PartHead)
  | part (head : PartHead) (content : ByteArray) (rest : Parts)

/-! ## Header lines -/

/-- A byte of a header name. -/
def isNameByte (b : UInt8) : Bool :=
  b < 0x80 && (let c := Char.ofNat b.toNat; c.isAlphanum || "!#$%&'*+-.^_`|~".toList.contains c)

/-- A byte of a header value. -/
def isValueByte (b : UInt8) : Bool :=
  b == 0x09 || (0x20 ≤ b && b != 0x7F)

/-- A space or a tab. -/
def isPadding (b : UInt8) : Bool :=
  b == 0x20 || b == 0x09

/-- The rest after a line end. -/
def lineEnd? : List UInt8 → Option (List UInt8)
  | 0x0D :: 0x0A :: rest => some rest
  | 0x0A :: rest => some rest
  | _ => none

/-- The value without padding at its end. -/
def trimValue (value : List UInt8) : List UInt8 :=
  (value.reverse.dropWhile isPadding).reverse

/-- Read header lines up to the empty one; `room` more may come. -/
def headerLines : (room : Nat) → List UInt8 → Option (List (String × List UInt8))
  | room, block =>
    match lineEnd? block with
    | some _ => some []
    | none =>
      match room with
      | 0 => none
      | room + 1 =>
        let name := block.takeWhile isNameByte
        match block.dropWhile isNameByte with
        | 0x3A :: rest =>
          if name.isEmpty then none
          else
            let padded := rest.dropWhile isPadding
            match lineEnd? (padded.dropWhile isValueByte) with
            | none => none
            | some next =>
              let line := (Text.lower (String.ofList (name.map fun b => Char.ofNat b.toNat)),
                trimValue (padded.takeWhile isValueByte))
              (headerLines room next).map (line :: ·)
        | _ => none

/-- Most headers that a part may have. -/
def maxHeaders : Nat := 32

/-- The last header with this name. -/
def lastHeader? (lines : List (String × List UInt8)) (name : String) : Option (List UInt8) :=
  (lines.reverse.find? (·.1 == name)).map (·.2)

/-- The normal form of a readable content type. -/
def contentTypeOf (value : List UInt8) : Option String :=
  (HeaderValue.text? value.toByteArray).bind fun text =>
    (MediaType.parse? text).map (·.text)

/-- What the header lines say about their part. -/
def headOf (lines : List (String × List UInt8)) : PartHead :=
  let disposition := lastHeader? lines "content-disposition"
  { name := disposition.bind (Disposition.attribute? "name")
    fileName := disposition.bind (Disposition.attribute? "filename")
    contentType := (lastHeader? lines "content-type").bind contentTypeOf }

/-! ## Delimiters -/

/-- What follows a delimiter. -/
inductive AfterDelimiter where
  | closed
  /-- A part begins at this place. -/
  | opens (place : Nat)
  | broken

/-- The place of the first byte, from `place` on, that is no padding; `left`
bytes remain. -/
def skipPadding (body : ByteArray) (place : Nat) : (left : Nat) → Nat
  | 0 => place
  | left + 1 =>
    if h : place < body.size then
      if isPadding body[place] then skipPadding body (place + 1) left else place
    else place

theorem le_skipPadding (body : ByteArray) (place left : Nat) :
    place ≤ skipPadding body place left := by
  fun_induction skipPadding body place left <;> omega

/-- Read what follows a delimiter that ends at `place`. -/
def afterDelimiter (body : ByteArray) (place : Nat) : AfterDelimiter :=
  if body.size < place + 2 then .broken
  else if Bytes.isAt body (Bytes.ofText "--") place then .closed
  else
    let next := skipPadding body place (body.size - place)
    if Bytes.isAt body (Bytes.ofText "\r\n") next then .opens (next + 2) else .broken

theorem lt_of_afterDelimiter {body : ByteArray} {place next : Nat}
    (h : afterDelimiter body place = .opens next) : place < next := by
  simp only [afterDelimiter] at h
  split at h
  · simp at h
  · split at h
    · simp at h
    · split at h
      · simp only [AfterDelimiter.opens.injEq] at h
        have := le_skipPadding body place (body.size - place)
        omega
      · simp at h

/-- Read parts, the first of which begins after a delimiter that ends at
`place`. -/
def partsFrom (delimiter body : ByteArray) (place : Nat) : Parts :=
  match opened : afterDelimiter body place with
  | .closed => .finished
  | .broken => .malformed .incomplete
  | .opens start =>
    have _start_gt : place < start := lt_of_afterDelimiter opened
    match found : Bytes.find? body (Bytes.ofText "\r\n\r\n") start with
    | none => .malformed .incomplete
    | some stop =>
      have _stop_ge : start ≤ stop := Bytes.le_of_find? found
      match headerLines maxHeaders (Bytes.list (Bytes.slice body start (stop + 4))) with
      | none => .malformed .badHeaders
      | some lines =>
        match ended : Bytes.find? body (Bytes.ofText "\r\n" ++ delimiter) (stop + 4) with
        | none => .broken (headOf lines)
        | some finish =>
          have _finish_ge : stop + 4 ≤ finish := Bytes.le_of_find? ended
          if _inside : finish + 2 + delimiter.size ≤ body.size then
            .part (headOf lines) (Bytes.slice body (stop + 4) finish)
              (partsFrom delimiter body (finish + 2 + delimiter.size))
          else .malformed .incomplete
termination_by body.size - place

/-- The parts of a body; whatever precedes the first delimiter is skipped. -/
def parts (boundary : String) (body : ByteArray) : Parts :=
  let delimiter := Bytes.ofText ("--" ++ boundary)
  match Bytes.find? body delimiter 0 with
  | none => .malformed .incomplete
  | some place => partsFrom delimiter body (place + delimiter.size)

/-- The parts of a request body of at most `limit` bytes.  A body that is too
long or breaks off has none. -/
def ofBody (limit : Nat) (boundary : String) (body : RequestBody) : Parts :=
  if limit < body.bytes.size then .malformed .tooLarge
  else if body.failure.isSome then .malformed .unreadable
  else parts boundary body.bytes

/-! ## Choosing a part -/

/-- A part with its content as a stream, which may break off. -/
structure Selected where
  head : PartHead
  content : List Chunk

/-- The part belongs to one of these fields. -/
def PartHead.isNamed (names : List String) (head : PartHead) : Bool :=
  match head.name with
  | some name => names.contains name
  | none => false

/-- The first part that belongs to one of these fields. -/
def Parts.select (names : List String) : Parts → Except FormError (Option Selected)
  | .finished => .ok none
  | .malformed error => .error error
  | .broken head =>
    if head.isNamed names then .ok (some ⟨head, [.failed brokenPart]⟩)
    else .error (.incompletePart head.name)
  | .part head content rest =>
    if head.isNamed names then .ok (some ⟨head, [.data content]⟩) else rest.select names

/-- The boundary that a request declares. -/
def boundary? (request : Request) : Option String := do
  let value ← request.header? "content-type"
  let text ← HeaderValue.text? value
  let mediaType ← MediaType.parse? text
  if mediaType.type = "multipart" ∧ mediaType.subtype = "form-data" then
    mediaType.param "boundary"
  else none

end MediaVault.Multipart
