/-!
# Cosine blocks

A block of 8 by 8 samples is stored as the weights of 64 cosine waves.  They
are turned back in fixed point, first along every column and then along every
row.  The constants are the cosines in units of 1/4096.
-/

namespace MediaVault.Jpeg

/-- Eight numbers of a row or a column. -/
structure Eight where
  a : Int
  b : Int
  c : Int
  d : Int
  e : Int
  f : Int
  g : Int
  h : Int
deriving Repr, DecidableEq, Inhabited

/-- The sum of eight waves, in units of 1/4096; `bias` is added and `shift` bits
are dropped. -/
def Eight.sumWaves (s : Eight) (bias : Int) (shift : Nat) : Eight :=
  -- waves with an even number of half periods
  let turn := (s.c + s.g) * 2217
  let low := turn - s.g * 7567
  let high := turn + s.c * 3135
  let plus := (s.a + s.e) * 4096 + bias
  let minus := (s.a - s.e) * 4096 + bias
  let x0 := plus + high
  let x3 := plus - high
  let x1 := minus + low
  let x2 := minus - low
  -- waves with an odd number
  let both := (s.h + s.d + s.f + s.b) * 4816
  let p1 := both - (s.h + s.b) * 3685
  let p2 := both - (s.f + s.d) * 10497
  let p3 := (s.h + s.d) * 8034
  let p4 := (s.f + s.b) * 1597
  let t3 := s.b * 6149 + p1 - p4
  let t2 := s.d * 12586 + p2 - p3
  let t1 := s.f * 8410 + p2 - p4
  let t0 := s.h * 1223 + p1 - p3
  ⟨(x0 + t3) >>> shift, (x1 + t2) >>> shift, (x2 + t1) >>> shift, (x3 + t0) >>> shift,
    (x3 - t0) >>> shift, (x2 - t1) >>> shift, (x1 - t2) >>> shift, (x0 - t3) >>> shift⟩

/-- A number moved into the range of a byte. -/
def toByte (v : Int) : UInt8 :=
  UInt8.ofNat (min v.toNat 255)

/-- The numbers of column `x` of a block. -/
def column (block : Array Int) (x : Nat) : Eight :=
  let weight (y : Nat) : Int := block.getD (8 * y + x) 0
  ⟨weight 0, weight 1, weight 2, weight 3, weight 4, weight 5, weight 6, weight 7⟩

/-- The number at a place of eight. -/
def Eight.get (s : Eight) : Nat → Int
  | 0 => s.a
  | 1 => s.b
  | 2 => s.c
  | 3 => s.d
  | 4 => s.e
  | 5 => s.f
  | 6 => s.g
  | _ => s.h

/-- The bytes of a row. -/
def Eight.pushBytes (s : Eight) (out : ByteArray) : ByteArray :=
  let out := (((out.push (toByte s.a)).push (toByte s.b)).push (toByte s.c)).push (toByte s.d)
  (((out.push (toByte s.e)).push (toByte s.f)).push (toByte s.g)).push (toByte s.h)

/-- The 64 samples of a block.  Columns keep two bits more than the weights;
samples are centred on 128. -/
def samples (block : Array Int) : ByteArray :=
  let columns := (List.range 8).map fun x => (column block x).sumWaves 512 10
  match columns with
  | [a, b, c, d, e, f, g, h] =>
    (List.range 8).foldl
      (fun out y =>
        let row : Eight :=
          ⟨a.get y, b.get y, c.get y, d.get y, e.get y, f.get y, g.get y, h.get y⟩
        (row.sumWaves (65536 + 128 * 131072) 17).pushBytes out)
      (ByteArray.emptyWithCapacity 64)
  | _ => ByteArray.empty

end MediaVault.Jpeg
