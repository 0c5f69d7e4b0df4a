import MediaVault.Proofs.Image.SinglePass

/-!
# The format of placeholder hashes

What a hash looks like depends on the grid only: its length, its alphabet and its first character
(`IsHash`).  The arithmetic has no part in that, so it is left open here.  In single precision the
run over flat tables yields what `encode` yields (`encodeInOnePass_single`).
-/

namespace MediaVault

namespace Blurhash

/-! ## Single precision -/

/-- The arithmetic of `encode`. -/
def single : Arithmetic Float32 Factor where
  zero := ⟨0.0, 0.0, 0.0⟩
  one := 1.0
  light := light
  wave i p n := (pi * ofNat i * ofNat p / ofNat n).cos
  add sum across down r g b :=
    ⟨sum.r + across * down * r, sum.g + across * down * g, sum.b + across * down * b⟩
  weigh first pixels sum :=
    let weight := (if first then 1.0 else 2.0) * (1.0 / ofNat pixels)
    ⟨sum.r * weight, sum.g * weight, sum.b * weight⟩
  mean := encodeMean
  level waves := quantiseLargest (largestMagnitude waves)
  scale level := (level.toFloat32 + 1.0) / 166.0
  quantise := encodeWave

variable {image : Raster} {i j y : Nat}

theorem byte_eq {k : Nat} (bound : k < image.rgb.size) :
    Arithmetic.byte image k = image.rgb[k] := by
  have inside : k < image.rgb.data.toList.length := bound
  rw [Arithmetic.byte, List.getD_eq_getElem?_getD, List.getElem?_eq_getElem inside,
    Option.getD_some]
  rfl

/-- The last pixels of a row are added in their order. -/
theorem addRow_eq_foldl (line : y < image.height) (left : Nat) (fits : left ≤ image.width)
    (sum : Factor) :
    addRow image (wave i image.width) (wave j image.height)[y] y line left fits sum.r sum.g sum.b =
      (List.range' (image.width - left) left).foldl (single.addTo image i j y) sum := by
  induction left generalizing sum with
  | zero => rfl
  | succ left ih =>
    have column : image.width - (left + 1) < image.width := by omega
    have next : image.width - (left + 1) + 1 = image.width - left := by omega
    have last : (y * image.width + (image.width - (left + 1))) * 3 + 2 < image.rgb.size := by
      rw [image.size_rgb]
      exact pixel_in_bounds column line
    rw [List.range'_succ, List.foldl_cons, next, ← ih (Nat.le_of_succ_le fits), addRow]
    simp only [Arithmetic.addTo, single, wave, Vector.getElem_ofFn, byte_eq last,
      byte_eq (Nat.lt_of_succ_lt last), byte_eq (Nat.lt_of_succ_lt (Nat.lt_of_succ_lt last))]

/-- The last rows are added in their order. -/
theorem addRows_eq_foldl (left : Nat) (fits : left ≤ image.height) (sum : Factor) :
    addRows image (wave i image.width) (wave j image.height) left fits sum =
      (List.range' (image.height - left) left).foldl
        (fun sum y => (List.range image.width).foldl (single.addTo image i j y) sum) sum := by
  induction left generalizing sum with
  | zero => rfl
  | succ left ih =>
    have next : image.height - (left + 1) + 1 = image.height - left := by omega
    have row := addRow_eq_foldl (i := i) (j := j) (y := image.height - (left + 1)) (by omega)
      image.width (Nat.le_refl _) sum
    rw [Nat.sub_self, ← List.range_eq_range'] at row
    rw [List.range'_succ, List.foldl_cons, next, ← ih (Nat.le_of_succ_le fits), addRows, row]

theorem coefficient_single (image : Raster) (i j : Nat) :
    single.coefficient image i j = coefficient image i j := by
  have sum := @addRows_eq_foldl image i j image.height (Nat.le_refl _) ⟨0.0, 0.0, 0.0⟩
  rw [Nat.sub_self, ← List.range_eq_range'] at sum
  simp only [Arithmetic.coefficient, Arithmetic.rowsTo, coefficient, sum, single,
    decide_eq_true_eq]

theorem chars_single (image : Raster) (cx cy : Nat) :
    single.chars cx cy image = chars image cx cy := by
  simp only [Arithmetic.chars, chars, coefficient_single]
  rfl

theorem encode_eq_dite (cx cy width height : Nat) (rgb : ByteArray) :
    encode cx cy width height rgb =
      if fits : Encodable cx cy width height rgb then
        some (String.ofList (chars ⟨width, height, rgb, fits.size⟩ cx cy)) else none := by
  by_cases fits : Encodable cx cy width height rgb
  · rw [dif_pos fits, encode, Raster.ofRgb?, dif_pos fits.size]
    exact if_pos ⟨fits.across.1, fits.across.2, fits.down.1, fits.down.2, fits.columns, fits.rows⟩
  · rw [dif_neg fits, encode, Raster.ofRgb?]
    split
    next size =>
      refine if_neg fun ⟨least, most, least_down, most_down, columns, rows⟩ => ?_
      exact fits ⟨⟨least, most⟩, ⟨least_down, most_down⟩, columns, rows, size⟩
    next => rfl

theorem encodeInOnePass_single (cx cy width height : Nat) (rgb : ByteArray) :
    single.encodeInOnePass cx cy width height rgb = .ok (encode cx cy width height rgb) := by
  rw [Arithmetic.encodeInOnePass_eq, encode_eq_dite]
  simp only [chars_single]

/-! ## The format -/

/-- The grid that a first character stands for. -/
def gridOf? (c : Char) : Option (Nat × Nat) :=
  (Base83.alphabet.idxOf? c).map fun flag => (flag % 9 + 1, flag / 9 + 1)

/-- What a hash on a grid of `cx` by `cy` waves looks like.  The first character alone tells the
grid. -/
structure IsHash (cx cy : Nat) (hash : String) : Prop where
  length : hash.length = 4 + 2 * cx * cy
  letters : ∀ c ∈ hash.toList, c ∈ Base83.alphabet
  printable : ∀ c ∈ hash.toList, 0x21 ≤ c.toNat ∧ c.toNat ≤ 0x7E
  sendable : HeaderValue.ofText? hash = some hash
  grid : hash.toList.head?.bind gridOf? = some (cx, cy)

theorem gridOf?_digit {cx cy : Nat} (across : 1 ≤ cx ∧ cx ≤ 9) (down : 1 ≤ cy ∧ cy ≤ 9) :
    gridOf? (Base83.digit ((cx - 1) + (cy - 1) * 9)) = some (cx, cy) := by
  have small : (cx - 1) + (cy - 1) * 9 < 83 := by omega
  rw [gridOf?, Base83.idxOf?_digit, Nat.mod_eq_of_lt small, Option.map_some, Option.some.injEq,
    Prod.mk.injEq]
  omega

section

variable {Number Sums : Type} (a : Arithmetic Number Sums) {cx cy : Nat}

theorem length_arithmetic_chars (image : Raster) (filled : 0 < cx * cy) :
    (a.chars cx cy image).length = 4 + 2 * (cx * cy) := by
  rw [Arithmetic.chars, length_fields, List.length_map, length_positions]
  omega

theorem isHash_chars (image : Raster) (across : 1 ≤ cx ∧ cx ≤ 9) (down : 1 ≤ cy ∧ cy ≤ 9) :
    IsHash cx cy (String.ofList (a.chars cx cy image)) := by
  have letters : ∀ c ∈ (String.ofList (a.chars cx cy image)).toList, c ∈ Base83.alphabet := by
    rw [String.toList_ofList]
    exact fun c member => mem_alphabet_of_mem_fields member
  refine ⟨?_, letters, fun c member => Base83.printable_of_mem_alphabet (letters c member), ?_, ?_⟩
  · rw [String.length_ofList, length_arithmetic_chars a image (Nat.mul_pos across.1 down.1),
      Nat.mul_assoc]
  · exact HeaderValue.ofText?_eq_some_iff.mpr
      ⟨rfl, fun c member => .inr (Base83.not_control_of_mem_alphabet (letters c member))⟩
  · rw [String.toList_ofList]
    exact gridOf?_digit across down

end

/-- The hash of a decoded upload is on the grid of 4 by 3 waves. -/
theorem isHash_of_decodedBy {decode : String → ByteArray → Option Raster} {contentType : String}
    {bytes : ByteArray} {attributes : ImageAttributes}
    (derived : ImageAttributes.decodedBy decode contentType bytes = some attributes) :
    IsHash 4 3 attributes.blurhash := by
  obtain ⟨image, _, made⟩ := Option.bind_eq_some_iff.mp derived
  obtain ⟨hash, hashed, rfl⟩ := Option.map_eq_some_iff.mp made
  rw [ImageAttributes.grid, ofRaster?] at hashed
  split at hashed
  next =>
    obtain rfl := Option.some.inj hashed
    rw [← chars_single]
    exact isHash_chars single image (by decide) (by decide)
  next => cases hashed

/-- The grid of 4 by 3 waves makes 28 characters, the first of which is an `L`. -/
theorem IsHash.four_by_three {hash : String} (format : IsHash 4 3 hash) :
    hash.length = 28 ∧ hash.toList.head? = some 'L' := by
  refine ⟨format.length, ?_⟩
  obtain ⟨c, first, grid⟩ := Option.bind_eq_some_iff.mp format.grid
  obtain ⟨flag, place, here⟩ := Option.map_eq_some_iff.mp grid
  obtain ⟨-, rfl⟩ := Base83.idxOf?_eq_some_iff.mp place
  have value : flag = 21 := by
    rw [Prod.mk.injEq] at here
    omega
  rw [first, value]
  decide +kernel

/-- Whatever the arithmetic: no run over the pixels and tables steps outside them, a hash is made
exactly of what is `Encodable`, and it has the format of its grid.  In single precision that run
yields the hash of `encode`, so the same holds of `encode`, and of the hash of every image that a
decoder makes of an upload. -/
theorem hashes_well_formed {Number Sums : Type} (a : Arithmetic Number Sums)
    (cx cy width height : Nat) (rgb : ByteArray) :
    (∃ made : Option String, a.encodeInOnePass cx cy width height rgb = .ok made ∧
      (made.isSome = true ↔ Encodable cx cy width height rgb) ∧
      ∀ hash, made = some hash → IsHash cx cy hash) ∧
    single.encodeInOnePass cx cy width height rgb = .ok (encode cx cy width height rgb) ∧
    ((encode cx cy width height rgb).isSome = true ↔ Encodable cx cy width height rgb) ∧
    (∀ hash, encode cx cy width height rgb = some hash → IsHash cx cy hash) ∧
    (∀ decode contentType bytes attributes,
      ImageAttributes.decodedBy decode contentType bytes = some attributes →
        IsHash 4 3 attributes.blurhash ∧ attributes.blurhash.length = 28 ∧
          attributes.blurhash.toList.head? = some 'L') ∧
    ∀ contentType bytes attributes,
      ImageAttributes.extract? contentType bytes = some attributes →
        IsHash 4 3 attributes.blurhash ∧ attributes.blurhash.length = 28 ∧
          attributes.blurhash.toList.head? = some 'L' := by
  have run {Number Sums : Type} (a : Arithmetic Number Sums) :
      ∃ made : Option String, a.encodeInOnePass cx cy width height rgb = .ok made ∧
        (made.isSome = true ↔ Encodable cx cy width height rgb) ∧
        ∀ hash, made = some hash → IsHash cx cy hash := by
    refine ⟨_, a.encodeInOnePass_eq cx cy width height rgb, ?_, fun hash made => ?_⟩
    · split
      next fits => exact iff_of_true rfl fits
      next unfit => exact iff_of_false Bool.false_ne_true unfit
    · split at made
      next fits =>
        obtain rfl := Option.some.inj made
        exact isHash_chars a _ fits.across fits.down
      next => cases made
  have extracted decode contentType bytes attributes
      (derived : ImageAttributes.decodedBy decode contentType bytes = some attributes) :
      IsHash 4 3 attributes.blurhash ∧ attributes.blurhash.length = 28 ∧
        attributes.blurhash.toList.head? = some 'L' :=
    ⟨isHash_of_decodedBy derived, (isHash_of_decodedBy derived).four_by_three⟩
  -- In single precision the run is `encode`, so `encode` inherits what holds of every run.
  obtain ⟨made, yields, exists_iff, format⟩ := run single
  obtain rfl := Except.ok.inj (yields.symm.trans (encodeInOnePass_single cx cy width height rgb))
  refine ⟨run a, yields, exists_iff, format, extracted,
    fun contentType bytes attributes derived => ?_⟩
  rw [ImageAttributes.extract?_eq_decodedBy] at derived
  exact extracted _ contentType bytes attributes derived

/-- A red pixel has a hash on the grid of 4 by 3 waves; on a grid of 10 waves it has none. -/
theorem hashes_well_formed_of_red_pixel :
    let red : ByteArray := ⟨#[200, 40, 90]⟩
    (∃ hash, encode 4 3 1 1 red = some hash ∧ hash.length = 28 ∧ hash.toList.head? = some 'L') ∧
      encode 10 3 1 1 red = none := by
  intro red
  obtain ⟨-, -, exists_iff, format, -⟩ := hashes_well_formed single 4 3 1 1 red
  obtain ⟨hash, made⟩ := Option.isSome_iff_exists.mp (exists_iff.mpr (by decide))
  obtain ⟨-, -, exists_iff_on_ten, -⟩ := hashes_well_formed single 10 3 1 1 red
  refine ⟨⟨hash, made, (format hash made).four_by_three⟩, ?_⟩
  rw [← Option.not_isSome_iff_eq_none, exists_iff_on_ten]
  decide

end Blurhash

end MediaVault
