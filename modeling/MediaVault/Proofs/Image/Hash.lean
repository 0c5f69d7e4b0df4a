import MediaVault.Image.Decoder
import MediaVault.Proofs.Text

/-!
# Placeholder hashes as texts

Whatever the arithmetic of a hash comes to, its characters are digits of base
83.  None of them is a control character, so a hash may stand in a header.
-/

namespace MediaVault

namespace Base83

theorem digit_mem (n : Nat) : digit n ∈ alphabet := List.get_mem _ _

theorem mem_alphabet_of_mem_numeral {value length : Nat} {c : Char}
    (member : c ∈ numeral value length) : c ∈ alphabet := by
  induction length generalizing value with
  | zero => cases member
  | succ length ih =>
    rcases List.mem_append.mp member with upper | lowest
    · exact ih upper
    · exact List.mem_singleton.mp lowest ▸ digit_mem value

theorem printable_of_mem_alphabet {c : Char} (member : c ∈ alphabet) :
    0x21 ≤ c.toNat ∧ c.toNat ≤ 0x7E := by
  have printable : (alphabet.all fun c => 0x21 ≤ c.toNat ∧ c.toNat ≤ 0x7E) = true := by
    decide +kernel
  simpa using List.all_eq_true.mp printable c member

theorem not_control_of_mem_alphabet {c : Char} (member : c ∈ alphabet) :
    Text.isAsciiControl c = false := by
  have range := printable_of_mem_alphabet member
  simp only [Text.isAsciiControl, Bool.or_eq_false_iff, decide_eq_false_iff_not,
    beq_eq_false_iff_ne]
  omega

end Base83

namespace Blurhash

/-! ## The fields of a hash -/

section

variable {α : Type} {flag level mean : Nat} {waves : List α} {value : α → Nat}

theorem mem_alphabet_of_mem_fields {c : Char}
    (member : c ∈ Base83.numeral flag 1 ++ Base83.numeral level 1 ++ Base83.numeral mean 4 ++
      waves.flatMap fun wave => Base83.numeral (value wave) 2) : c ∈ Base83.alphabet := by
  simp only [List.mem_append, List.mem_flatMap] at member
  rcases member with ((grid | scale) | colour) | ⟨wave, _, levels⟩
  · exact Base83.mem_alphabet_of_mem_numeral grid
  · exact Base83.mem_alphabet_of_mem_numeral scale
  · exact Base83.mem_alphabet_of_mem_numeral colour
  · exact Base83.mem_alphabet_of_mem_numeral levels

/-- Every wave adds two characters to the first six. -/
theorem length_fields :
    (Base83.numeral flag 1 ++ Base83.numeral level 1 ++ Base83.numeral mean 4 ++
      waves.flatMap fun wave => Base83.numeral (value wave) 2).length = 6 + 2 * waves.length := by
  simp only [List.length_append, List.length_flatMap, Base83.length_numeral, List.map_const',
    List.sum_replicate_nat]
  omega

end

theorem length_positions (cx cy : Nat) : (positions cx cy).length = cx * cy - 1 := by
  simp [positions, List.length_flatMap, Nat.mul_comm]

theorem mem_alphabet_of_mem_chars {image : Raster} {cx cy : Nat} {c : Char}
    (member : c ∈ chars image cx cy) : c ∈ Base83.alphabet :=
  mem_alphabet_of_mem_fields member

/-- Every grid position but the first adds two characters to the first six. -/
theorem length_chars (image : Raster) {cx cy : Nat} (filled : 0 < cx * cy) :
    (chars image cx cy).length = 4 + 2 * (cx * cy) := by
  rw [chars, length_fields, List.length_map, length_positions]
  omega

/-- A text of base-83 digits, of the length that the grid calls for. -/
theorem of_ofRaster? {cx cy : Nat} {image : Raster} {hash : String}
    (made : ofRaster? cx cy image = some hash) :
    hash.toList.length = 4 + 2 * (cx * cy) ∧ ∀ c ∈ hash.toList, c ∈ Base83.alphabet := by
  rw [ofRaster?] at made
  split at made
  next fits =>
    obtain rfl := Option.some.inj made
    rw [String.toList_ofList]
    exact ⟨length_chars image (Nat.mul_pos fits.1 fits.2.2.1),
      fun c member => mem_alphabet_of_mem_chars member⟩
  next => cases made

end Blurhash

namespace ImageAttributes

/-- The attributes that come of decoding by `decode`, whatever it does. -/
def decodedBy (decode : String → ByteArray → Option Raster) (contentType : String)
    (bytes : ByteArray) : Option ImageAttributes :=
  (decode contentType bytes).bind ofRaster?

theorem extract?_eq_decodedBy :
    extract? = decodedBy fun contentType bytes =>
      (ImageFormat.choose? contentType bytes).bind fun format => format.decode? bytes := by
  funext contentType bytes
  exact (Option.bind_assoc _ _ _).symm

theorem presentable_of_decodedBy {decode : String → ByteArray → Option Raster}
    {contentType : String} {bytes : ByteArray} {attributes : ImageAttributes}
    (derived : decodedBy decode contentType bytes = some attributes) :
    HeaderValue.Presentable attributes.blurhash := by
  obtain ⟨image, _, made⟩ := Option.bind_eq_some_iff.mp derived
  obtain ⟨hash, hashed, rfl⟩ := Option.map_eq_some_iff.mp made
  obtain ⟨length, digits⟩ := Blurhash.of_ofRaster? hashed
  refine ⟨?_, HeaderValue.ofText?_eq_some_iff.mpr ⟨rfl, fun c member => .inr ?_⟩⟩
  · rintro rfl
    cases length
  · exact Base83.not_control_of_mem_alphabet (digits c member)

end ImageAttributes

end MediaVault
