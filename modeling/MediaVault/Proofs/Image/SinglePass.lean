import MediaVault.Proofs.Image.Numerals

/-!
# Placeholder hashes in one pass over the pixels

The coefficients of a hash can be computed one after the other, or all at once: the waves are
tabulated first, and every pixel is added to every sum.  Tables and sums are flat lists that are
indexed by hand, so here every index is checked, and a run that steps outside a list breaks off
(`encodeInOnePass`).  `encodeInOnePass_eq` says that no run does and what a run yields.

Nothing is assumed of the arithmetic; `Arithmetic` only names the places where it comes in.
-/

namespace MediaVault

/-! ## Flat tables and loops over them -/

section Flat

variable {α σ ε : Type}

/-- The part of a list between two indices, which have to be in bounds. -/
def slice (entries : List α) (start stop : Nat) : Except Breach (List α) :=
  if start ≤ stop ∧ stop ≤ entries.length then .ok ((entries.take stop).drop start)
  else .error (.outOfBounds stop entries.length)

theorem slice_eq_ok {entries : List α} {start stop : Nat} (ordered : start ≤ stop)
    (bound : stop ≤ entries.length) :
    slice entries start stop = .ok ((entries.take stop).drop start) :=
  if_pos ⟨ordered, bound⟩

theorem getElem?_drop_take {entries : List α} {start stop k : Nat} (inside : start + k < stop) :
    ((entries.take stop).drop start)[k]? = entries[start + k]? := by
  rw [List.getElem?_drop, List.getElem?_take_of_lt inside]

/-- The values of `f` on `m` rows of `n` places, row after row. -/
def flat (m n : Nat) (f : Nat → Nat → α) : List α :=
  (List.range m).flatMap fun j => (List.range n).map fun i => f j i

variable {m n : Nat} {f g : Nat → Nat → α}

theorem flat_succ : flat (m + 1) n f = flat m n f ++ (List.range n).map fun i => f m i := by
  rw [flat, List.range_succ, List.flatMap_append, List.flatMap_singleton]
  rfl

@[simp] theorem length_flat : (flat m n f).length = m * n := by
  simp [flat, List.length_flatMap]

theorem index_lt {j i : Nat} (row : j < m) (place : i < n) : j * n + i < m * n := by
  calc j * n + i < (j + 1) * n := by
        rw [Nat.succ_mul]
        exact Nat.add_lt_add_left place _
    _ ≤ m * n := Nat.mul_le_mul_right n row

theorem index_inj {j i j' i' : Nat} (place : i < n) (place' : i' < n)
    (same : j * n + i = j' * n + i') : j = j' ∧ i = i' := by
  have positive : 0 < n := Nat.zero_lt_of_lt place
  have rows := congrArg (· / n) same
  have places := congrArg (· % n) same
  simp only [Nat.mul_comm _ n, Nat.mul_add_div positive, Nat.div_eq_of_lt, Nat.mul_add_mod,
    Nat.mod_eq_of_lt, place, place', Nat.add_zero] at rows places
  exact ⟨rows, places⟩

theorem getElem?_flat {j i : Nat} (row : j < m) (place : i < n) :
    (flat m n f)[j * n + i]? = some (f j i) := by
  induction m with
  | zero => cases row
  | succ m ih =>
    rw [flat_succ]
    rcases Nat.lt_succ_iff_lt_or_eq.mp row with earlier | rfl
    · rw [List.getElem?_append_left (by simpa using index_lt earlier place)]
      exact ih earlier
    · rw [List.getElem?_append_right (by simp), length_flat, Nat.add_sub_cancel_left]
      simp [place]

/-- A list of the right length with these values at all indices of places. -/
theorem eq_flat {entries : List α} (length : entries.length = m * n)
    (values : ∀ j < m, ∀ i < n, entries[j * n + i]? = some (f j i)) : entries = flat m n f := by
  refine List.ext_getElem? fun k => ?_
  by_cases bound : k < m * n
  · have positive : 0 < n := Nat.pos_of_mul_pos_left (Nat.zero_lt_of_lt bound)
    have row : k / n < m := Nat.div_lt_of_lt_mul (Nat.mul_comm m n ▸ bound)
    have place : k % n < n := Nat.mod_lt k positive
    have index : k / n * n + k % n = k := Nat.div_add_mod' k n
    rw [← index, values _ row _ place, getElem?_flat row place]
  · rw [List.getElem?_eq_none (by omega), List.getElem?_eq_none (by simpa using bound)]

theorem flat_congr (same : ∀ j < m, ∀ i < n, f j i = g j i) : flat m n f = flat m n g :=
  eq_flat length_flat fun j row i place => by rw [getElem?_flat row place, same j row i place]

theorem set_flat {j i : Nat} (row : j < m) (place : i < n) (value : α) :
    (flat m n f).set (j * n + i) value =
      flat m n fun j' i' => if j' = j ∧ i' = i then value else f j' i' := by
  refine eq_flat (by simp) fun j' row' i' place' => ?_
  by_cases here : j' = j ∧ i' = i
  · obtain ⟨rfl, rfl⟩ := here
    rw [List.getElem?_set_self (by simpa using index_lt row place), if_pos ⟨rfl, rfl⟩]
  · have apart : j * n + i ≠ j' * n + i' := fun same => by
      obtain ⟨rfl, rfl⟩ := index_inj place place' same
      exact here ⟨rfl, rfl⟩
    rw [List.getElem?_set_ne apart, getElem?_flat row' place', if_neg here]

/-- A loop whose turns lead from each state to the next. -/
theorem foldlM_range_eq {turn : σ → Nat → Except ε σ} (state : Nat → σ)
    (turns : ∀ k < n, turn (state k) k = .ok (state (k + 1))) :
    (List.range n).foldlM turn (state 0) = .ok (state n) := by
  induction n with
  | zero => rfl
  | succ n ih =>
    rw [List.range_succ, List.foldlM_append, ih fun k earlier => turns k (Nat.lt_succ_of_lt earlier)]
    change (turn (state n) n >>= pure) = _
    rw [bind_pure, turns n (Nat.lt_succ_self n)]

end Flat

namespace Blurhash

/-! ## The encoder -/

/-- The places where arithmetic enters a hash: numbers, sums of three channels, and what is
computed of them. -/
structure Arithmetic (Number Sums : Type) where
  zero : Sums
  one : Number
  /-- Linear light of a byte. -/
  light : UInt8 → Number
  /-- Point `p` of `n` on the wave of `i` half periods. -/
  wave : (i p n : Nat) → Number
  /-- Add a pixel, given by its two waves and three channels, to a sum. -/
  add : Sums → (across down r g b : Number) → Sums
  /-- A sum over so many pixels as a coefficient; the first one is weighed differently. -/
  weigh : (first : Bool) → (pixels : Nat) → Sums → Sums
  mean : Sums → UInt32
  /-- The level of the largest of some coefficients. -/
  level : List Sums → UInt32
  /-- The magnitude that a level stands for. -/
  scale : UInt32 → Number
  quantise : Sums → (largest : Number) → UInt32

/-- A grid of 1 to 9 by 1 to 9 waves and as many pixels as the dimensions call for. -/
structure Encodable (cx cy width height : Nat) (rgb : ByteArray) : Prop where
  across : 1 ≤ cx ∧ cx ≤ 9
  down : 1 ≤ cy ∧ cy ≤ 9
  columns : 0 < width
  rows : 0 < height
  size : rgb.size = width * height * 3

instance (cx cy width height : Nat) (rgb : ByteArray) :
    Decidable (Encodable cx cy width height rgb) :=
  decidable_of_iff ((1 ≤ cx ∧ cx ≤ 9) ∧ (1 ≤ cy ∧ cy ≤ 9) ∧ 0 < width ∧ 0 < height ∧
      rgb.size = width * height * 3)
    ⟨fun ⟨across, down, columns, rows, size⟩ => ⟨across, down, columns, rows, size⟩,
      fun ⟨across, down, columns, rows, size⟩ => ⟨across, down, columns, rows, size⟩⟩

namespace Arithmetic

variable {Number Sums : Type} (a : Arithmetic Number Sums) (cx cy width height : Nat)

def lightTable : List Number := (List.range 256).map fun v => a.light (UInt8.ofNat v)

/-- The first waves at `n` points each, wave after wave. -/
def waveTable (waves n : Nat) : List Number := flat waves n fun i p => a.wave i p n

/-- Add a pixel to the sum for wave `i` across and a wave down. -/
def addAcross (x j : Nat) (down r g b : Number) (sums : List Sums) (i : Nat) :
    Except Breach (List Sums) := do
  let across ← fetch (a.waveTable cx width) (i * width + x)
  let sum ← fetch sums (j * cx + i)
  pure (sums.set (j * cx + i) (a.add sum across down r g b))

/-- Add a pixel to all sums for wave `j` down. -/
def addDown (y x : Nat) (r g b : Number) (sums : List Sums) (j : Nat) :
    Except Breach (List Sums) := do
  let down ← fetch (a.waveTable cy height) (j * height + y)
  (List.range cx).foldlM (a.addAcross cx width x j down r g b) sums

/-- Add pixel `x` of row `y` to all sums. -/
def addPixel (row : List UInt8) (y : Nat) (sums : List Sums) (x : Nat) :
    Except Breach (List Sums) := do
  let pixel ← slice row (x * 3) (x * 3 + 3)
  let r ← fetch a.lightTable (← fetch pixel 0).toNat
  let g ← fetch a.lightTable (← fetch pixel 1).toNat
  let b ← fetch a.lightTable (← fetch pixel 2).toNat
  (List.range cy).foldlM (a.addDown cx cy width height y x r g b) sums

/-- Add row `y` to all sums. -/
def addRow (pixels : List UInt8) (sums : List Sums) (y : Nat) : Except Breach (List Sums) := do
  let row ← slice pixels (y * width * 3) ((y + 1) * width * 3)
  (List.range width).foldlM (a.addPixel cx cy width height row y) sums

/-- The sums over all pixels. -/
def sumUp (pixels : List UInt8) : Except Breach (List Sums) :=
  (List.range height).foldlM (a.addRow cx cy width height pixels)
    (List.replicate (cy * cx) a.zero)

/-- The coefficients for sums over so many pixels. -/
def weighAll (pixels : Nat) (sums : List Sums) : List Sums :=
  sums.mapIdx fun index sum => a.weigh (index == 0) pixels sum

/-- Write the coefficients. -/
def write (coefficients : List Sums) : Except Breach (List Char) := do
  let first ← fetch coefficients 0
  let waves ← slice coefficients 1 coefficients.length
  let level := if waves.isEmpty then 0 else a.level waves
  let largest := if waves.isEmpty then a.one else a.scale level
  let text ← Base83.pushByPowers [] (UInt32.ofNat ((cx - 1) + (cy - 1) * 9)) 1
  let text ← Base83.pushByPowers text level 1
  let text ← Base83.pushByPowers text (a.mean first) 4
  waves.foldlM (fun text wave => Base83.pushByPowers text (a.quantise wave largest) 2) text

/-- The hash of packed pixels; there is none for what is not `Encodable`. -/
def encodeInOnePass (rgb : ByteArray) : Except Breach (Option String) :=
  if Encodable cx cy width height rgb then do
    let sums ← a.sumUp cx cy width height rgb.data.toList
    let text ← a.write cx cy (a.weighAll (width * height) sums)
    pure (some (String.ofList text))
  else .ok none

/-! ## What a run yields -/

def byte (image : Raster) (k : Nat) : UInt8 := image.rgb.data.toList.getD k 0

/-- The sum for wave `i` across and `j` down, with pixel `x` of row `y` added. -/
def addTo (image : Raster) (i j y : Nat) (sum : Sums) (x : Nat) : Sums :=
  let at0 := (y * image.width + x) * 3
  a.add sum (a.wave i x image.width) (a.wave j y image.height) (a.light (byte image at0))
    (a.light (byte image (at0 + 1))) (a.light (byte image (at0 + 2)))

/-- The sum of the first rows. -/
def rowsTo (image : Raster) (i j rows : Nat) : Sums :=
  (List.range rows).foldl
    (fun sum y => (List.range image.width).foldl (a.addTo image i j y) sum) a.zero

/-- The coefficient for wave `i` across and `j` down. -/
def coefficient (image : Raster) (i j : Nat) : Sums :=
  a.weigh (decide (i = 0 ∧ j = 0)) (image.width * image.height)
    (a.rowsTo image i j image.height)

/-- The level of the largest coefficient, and the magnitude that it stands for; 0 and 1
without any waves. -/
def scaleOf (waves : List Sums) : UInt32 × Number :=
  if waves.isEmpty then (0, a.one) else (a.level waves, a.scale (a.level waves))

def chars (image : Raster) : List Char :=
  let waves := (positions cx cy).map fun p => a.coefficient image p.1 p.2
  let scale := a.scaleOf waves
  Base83.numeral ((cx - 1) + (cy - 1) * 9) 1 ++ Base83.numeral scale.1.toNat 1 ++
    Base83.numeral (a.mean (a.coefficient image 0 0)).toNat 4 ++
    waves.flatMap fun wave => Base83.numeral (a.quantise wave scale.2).toNat 2

variable {a cx cy}

theorem fetch_light (v : UInt8) : fetch a.lightTable v.toNat = .ok (a.light v) := by
  refine fetch_eq_ok ?_
  rw [lightTable, List.getElem?_map, List.getElem?_range v.toNat_lt]
  simp

theorem fetch_wave {waves n i p : Nat} (listed : i < waves) (point : p < n) :
    fetch (a.waveTable waves n) (i * n + p) = .ok (a.wave i p n) :=
  fetch_eq_ok (getElem?_flat listed point)

theorem length_pixels (image : Raster) :
    image.rgb.data.toList.length = image.width * image.height * 3 :=
  image.size_rgb

def row (image : Raster) (y : Nat) : List UInt8 :=
  (image.rgb.data.toList.take ((y + 1) * image.width * 3)).drop (y * image.width * 3)

theorem row_end_le {image : Raster} {y : Nat} (line : y < image.height) :
    (y + 1) * image.width * 3 ≤ image.rgb.data.toList.length := by
  rw [length_pixels, Nat.mul_comm image.width]
  exact Nat.mul_le_mul_right 3 (Nat.mul_le_mul_right _ line)

theorem slice_row {image : Raster} {y : Nat} (line : y < image.height) :
    slice image.rgb.data.toList (y * image.width * 3) ((y + 1) * image.width * 3) =
      .ok (row image y) :=
  slice_eq_ok (Nat.mul_le_mul_right 3 (Nat.mul_le_mul_right _ (Nat.le_succ y))) (row_end_le line)

theorem length_row {image : Raster} {y : Nat} (line : y < image.height) :
    (row image y).length = image.width * 3 := by
  rw [row, List.length_drop, List.length_take, Nat.min_eq_left (row_end_le line), Nat.succ_mul]
  omega

/-- Every byte of a pixel lies in the pixel's part of its row. -/
theorem fetch_byte {image : Raster} {x y k : Nat} (column : x < image.width)
    (line : y < image.height) (channel : k < 3) :
    fetch (((row image y).take (x * 3 + 3)).drop (x * 3)) k =
      .ok (byte image ((y * image.width + x) * 3 + k)) := by
  have inside_row : y * image.width * 3 + (x * 3 + k) < (y + 1) * image.width * 3 := by
    rw [Nat.succ_mul]
    omega
  have index : y * image.width * 3 + (x * 3 + k) = (y * image.width + x) * 3 + k := by omega
  have bound : (y * image.width + x) * 3 + k < image.rgb.data.toList.length :=
    index ▸ Nat.lt_of_lt_of_le inside_row (row_end_le line)
  refine fetch_eq_ok ?_
  rw [row, getElem?_drop_take (by omega), getElem?_drop_take inside_row, index, byte,
    List.getD_eq_getElem?_getD, List.getElem?_eq_getElem bound, Option.getD_some]

theorem addAcross_eq {width x i j : Nat} (sum : Nat → Nat → Sums) (down r g b : Number)
    (column : x < width) (listed : j < cy) (across : i < cx) :
    a.addAcross cx width x j down r g b (flat cy cx sum) i =
      .ok (flat cy cx fun j' i' =>
        if j' = j ∧ i' = i then a.add (sum j i) (a.wave i x width) down r g b else sum j' i') := by
  rw [addAcross, fetch_wave across column, ok_bind, fetch_eq_ok (getElem?_flat listed across),
    ok_bind, set_flat listed across]
  rfl

theorem addDown_eq {width height x y j : Nat} (sum : Nat → Nat → Sums) (r g b : Number)
    (column : x < width) (line : y < height) (listed : j < cy) :
    a.addDown cx cy width height y x r g b (flat cy cx sum) j =
      .ok (flat cy cx fun j' i =>
        if j' = j then a.add (sum j i) (a.wave i x width) (a.wave j y height) r g b
        else sum j' i) := by
  -- After `i` waves across, exactly the sums of these have been added to.
  let upTo (i : Nat) : List Sums := flat cy cx fun j' i' =>
    if j' = j ∧ i' < i then a.add (sum j i') (a.wave i' x width) (a.wave j y height) r g b
    else sum j' i'
  have start : flat cy cx sum = upTo 0 := flat_congr fun j' _ i' _ => by simp
  have finish : upTo cx = flat cy cx fun j' i =>
      if j' = j then a.add (sum j i) (a.wave i x width) (a.wave j y height) r g b
      else sum j' i := flat_congr fun j' _ i' place => by simp [place]
  rw [addDown, fetch_wave listed line, ok_bind, start, ← finish]
  refine foldlM_range_eq upTo fun i across => ?_
  refine (addAcross_eq _ _ r g b column listed across).trans (congrArg Except.ok ?_)
  refine flat_congr fun j' _ i' _ => ?_
  by_cases here : j' = j ∧ i' = i
  · obtain ⟨rfl, rfl⟩ := here
    simp
  · have unmoved : (j' = j ∧ i' < i + 1) ↔ j' = j ∧ i' < i := by omega
    simp only [if_neg here, unmoved]

/-- One pixel is added to every sum, and to none of them twice. -/
theorem addPixel_eq {image : Raster} {x y : Nat} (column : x < image.width)
    (line : y < image.height) (sum : Nat → Nat → Sums) :
    a.addPixel cx cy image.width image.height (row image y) y (flat cy cx sum) x =
      .ok (flat cy cx fun j i => a.addTo image i j y (sum j i) x) := by
  have pixel : slice (row image y) (x * 3) (x * 3 + 3) =
      .ok (((row image y).take (x * 3 + 3)).drop (x * 3)) := by
    refine slice_eq_ok (Nat.le_add_right _ _) ?_
    rw [length_row line]
    omega
  -- After `j` waves down, the pixel has been added to all sums of these.
  let upTo (j : Nat) : List Sums := flat cy cx fun j' i =>
    if j' < j then a.addTo image i j' y (sum j' i) x else sum j' i
  have start : flat cy cx sum = upTo 0 := flat_congr fun j _ i _ => by simp
  have finish : upTo cy = flat cy cx fun j i => a.addTo image i j y (sum j i) x :=
    flat_congr fun j listed i _ => by simp [listed]
  simp only [addPixel, pixel, ok_bind, fetch_byte column line (by decide : 0 < 3),
    fetch_byte column line (by decide : 1 < 3), fetch_byte column line (by decide : 2 < 3),
    fetch_light]
  rw [start, ← finish]
  refine foldlM_range_eq upTo fun j listed => ?_
  refine (addDown_eq _ _ _ _ column line listed).trans (congrArg Except.ok ?_)
  refine flat_congr fun j' _ i _ => ?_
  by_cases here : j' = j
  · subst here
    simp [addTo]
  · have unmoved : j' < j + 1 ↔ j' < j := by omega
    simp only [if_neg here, unmoved]

theorem addRow_eq {image : Raster} {y : Nat} (line : y < image.height)
    (sum : Nat → Nat → Sums) :
    a.addRow cx cy image.width image.height image.rgb.data.toList (flat cy cx sum) y =
      .ok (flat cy cx fun j i =>
        (List.range image.width).foldl (a.addTo image i j y) (sum j i)) := by
  rw [addRow, slice_row line, ok_bind]
  refine foldlM_range_eq (fun x => flat cy cx fun j i =>
    (List.range x).foldl (a.addTo image i j y) (sum j i)) fun x column => ?_
  rw [addPixel_eq column line]
  simp only [List.range_succ, List.foldl_append, List.foldl_cons, List.foldl_nil]

theorem sumUp_eq (image : Raster) :
    a.sumUp cx cy image.width image.height image.rgb.data.toList =
      .ok (flat cy cx fun j i => a.rowsTo image i j image.height) := by
  have start : List.replicate (cy * cx) a.zero = flat cy cx fun j i => a.rowsTo image i j 0 :=
    eq_flat (by simp) fun j listed i across => by
      rw [List.getElem?_replicate_of_lt (index_lt listed across)]
      rfl
  rw [sumUp, start]
  refine foldlM_range_eq (fun y => flat cy cx fun j i => a.rowsTo image i j y) fun y line => ?_
  rw [addRow_eq line]
  simp only [rowsTo, List.range_succ, List.foldl_append, List.foldl_cons, List.foldl_nil]

theorem weighAll_eq (image : Raster) :
    a.weighAll (image.width * image.height) (flat cy cx fun j i => a.rowsTo image i j image.height) =
      flat cy cx fun j i => a.coefficient image i j := by
  refine eq_flat (by simp [weighAll]) fun j listed i across => ?_
  -- Index 0 is the place of the constant wave and of no other.
  have first : (j * cx + i == 0) = decide (i = 0 ∧ j = 0) := by
    rw [beq_eq_decide, decide_eq_decide]
    have positive : cx ≠ 0 := Nat.ne_zero_of_lt across
    simp [positive, and_comm]
  rw [weighAll, List.getElem?_mapIdx, getElem?_flat listed across, Option.map_some, first,
    coefficient]

theorem writeWaves_eq (waves : List Sums) (largest : Number) (text : List Char) :
    waves.foldlM (fun text wave => Base83.pushByPowers text (a.quantise wave largest) 2) text =
      .ok (text ++ waves.flatMap fun wave => Base83.numeral (a.quantise wave largest).toNat 2) := by
  induction waves generalizing text with
  | nil => simp [pure, Except.pure]
  | cons wave waves ih =>
    rw [List.foldlM_cons, Base83.pushByPowers_eq text _ (by decide), ok_bind, ih, Base83.push,
      List.flatMap_cons, List.append_assoc]

theorem write_eq {image : Raster} (across : 1 ≤ cx ∧ cx ≤ 9) (down : 1 ≤ cy ∧ cy ≤ 9) :
    a.write cx cy (flat cy cx fun j i => a.coefficient image i j) =
      .ok (a.chars cx cy image) := by
  have first : fetch (flat cy cx fun j i => a.coefficient image i j) 0 =
      .ok (a.coefficient image 0 0) := by
    have place := getElem?_flat (f := fun j i => a.coefficient image i j) down.1 across.1
    rw [Nat.zero_mul] at place
    exact fetch_eq_ok place
  have filled : 1 ≤ cy * cx := Nat.mul_pos down.1 across.1
  -- What follows the first coefficient is the coefficients of the other positions, in order.
  have waves : slice (flat cy cx fun j i => a.coefficient image i j) 1
      (flat cy cx fun j i => a.coefficient image i j).length =
        .ok ((positions cx cy).map fun p => a.coefficient image p.1 p.2) := by
    rw [slice_eq_ok (by simpa using filled) (Nat.le_refl _), List.take_length, List.drop_one,
      positions, List.map_tail]
    simp only [flat, List.map_flatMap, List.map_map]
    rfl
  have flag : (UInt32.ofNat ((cx - 1) + (cy - 1) * 9)).toNat = (cx - 1) + (cy - 1) * 9 :=
    UInt32.toNat_ofNat_of_lt' (by change _ < 4294967296; omega)
  simp only [write, first, waves, ok_bind, Base83.pushByPowers_eq _ _ (by decide : 1 ≤ 6),
    Base83.pushByPowers_eq _ _ (by decide : 4 ≤ 6), writeWaves_eq, flag, chars, scaleOf,
    Base83.push, List.nil_append]
  split
  · rfl
  · rfl

/-- No run breaks off: every index is in bounds and no power overflows. -/
theorem encodeInOnePass_eq (a : Arithmetic Number Sums) (cx cy width height : Nat)
    (rgb : ByteArray) :
    a.encodeInOnePass cx cy width height rgb =
      .ok (if fits : Encodable cx cy width height rgb then
        some (String.ofList (a.chars cx cy ⟨width, height, rgb, fits.size⟩)) else none) := by
  rw [encodeInOnePass]
  by_cases fits : Encodable cx cy width height rgb
  · let image : Raster := ⟨width, height, rgb, fits.size⟩
    have sums : a.sumUp cx cy width height rgb.data.toList =
        .ok (flat cy cx fun j i => a.rowsTo image i j height) := sumUp_eq image
    have weighed : a.weighAll (width * height) (flat cy cx fun j i => a.rowsTo image i j height) =
        flat cy cx fun j i => a.coefficient image i j := weighAll_eq image
    rw [if_pos fits, dif_pos fits, sums, ok_bind, weighed, write_eq fits.across fits.down]
    rfl
  · rw [if_neg fits, dif_neg fits]

end Arithmetic

end Blurhash

end MediaVault
