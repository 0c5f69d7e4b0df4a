import MediaVault.Access.Remote
import MediaVault.Proofs.Url.Host

/-!
# Addresses that can be asked

The endpoint below a base URL is posted to if the base is an HTTP address with a plain host,
whatever its path: `HttpBase.addressError?_endpoint`.  Under another scheme nothing is posted.
-/

namespace MediaVault

/-! ## Base URLs -/

/-- An HTTP address with a plain host and any path. -/
structure HttpBase where
  secure : Bool
  labels : List (List Char)
  port : Option Nat
  path : List Char
  host : HostLabels labels
  range : ∀ n ∈ port, n ≤ 65535
  rooted : ∀ c ∈ path.head?, c = '/'

namespace HttpBase

def scheme (base : HttpBase) : String := if base.secure then "https" else "http"

/-- The port with its colon. -/
def portText (base : HttpBase) : List Char :=
  base.port.elim [] fun n => ':' :: Nat.toDigits 10 n

def authority (base : HttpBase) : List Char := hostOf base.labels ++ base.portText

/-- All before the path. -/
def origin (base : HttpBase) : List Char := base.scheme.toList ++ "://".toList ++ base.authority

def text (base : HttpBase) : String := String.ofList (base.origin ++ base.path)

theorem scheme_cases (base : HttpBase) : base.scheme = "http" ∨ base.scheme = "https" := by
  unfold scheme
  split
  · exact .inr rfl
  · exact .inl rfl

theorem isSpecial_scheme (base : HttpBase) : Url.isSpecial base.scheme = true := by
  rcases base.scheme_cases with h | h <;> rw [h] <;> rfl

theorem authority_char (base : HttpBase) {c : Char} (member : c ∈ base.authority) :
    IsHostChar c ∨ c = ':' := by
  rcases List.mem_append.mp member with member | member
  · exact .inl (base.host.isHostChar c member)
  · unfold portText at member
    cases given : base.port with
    | none => simp [given] at member
    | some n =>
      rw [given] at member
      rcases List.mem_cons.mp member with rfl | member
      · exact .inr rfl
      · have digit := Nat.isDigit_of_mem_toDigits (by decide) (by decide) member
        exact .inl (.inl (.inl (by simp [Char.isAlphanum, digit])))

theorem cutHost_append {host : List Char} (plain : ∀ c ∈ host, IsHostChar c) (rest : List Char) :
    Url.cutHost false (host ++ rest) =
      (host ++ (Url.cutHost false rest).1, (Url.cutHost false rest).2) := by
  induction host with
  | nil => rfl
  | cons c host ih =>
    have delimits := (plain c List.mem_cons_self).spec.2.2.1
    have colon : c ≠ ':' := fun h => delimits (h ▸ by decide)
    have opening : c ≠ '[' := fun h => delimits (h ▸ by decide)
    have closing : c ≠ ']' := fun h => delimits (h ▸ by decide)
    rw [List.cons_append, Url.cutHost]
    simp only [colon, opening, closing, decide_false, Bool.false_and, Bool.false_eq_true, if_false,
      ih fun d member => plain d (List.mem_cons_of_mem c member)]
    rfl

theorem cutHost_authority (base : HttpBase) :
    Url.cutHost false base.authority =
      (hostOf base.labels, base.port.map fun n => Nat.toDigits 10 n) := by
  rw [authority, cutHost_append base.host.isHostChar, portText]
  cases base.port with
  | none => simp [Url.cutHost]
  | some n => simp [Url.cutHost]

theorem readPort_eq (base : HttpBase) :
    Url.readPort ((base.port.map fun n => Nat.toDigits 10 n).getD []) = .ok base.port := by
  cases given : base.port with
  | none => rfl
  | some n =>
    have digital : ∀ c ∈ Nat.toDigits 10 n, c.isDigit = true := fun c member =>
      Nat.isDigit_of_mem_toDigits (by decide) (by decide) member
    have whole : (Nat.toDigits 10 n).takeWhile (· != '\\') = Nat.toDigits 10 n :=
      List.takeWhile_eq_self_iff.mpr fun c member => bne_iff_ne.mpr fun slash => by
        cases (slash ▸ digital c member : ('\\' : Char).isDigit = true)
    have value : Nat.ofDigitChars 10 (Nat.toDigits 10 n) 0 = n := Nat.ofDigitChars_ten_toDigits
    have read : Text.appendDigits 65535 .tooLarge 0 (Nat.toDigits 10 n) = .ok n := by
      rw [Text.appendDigits_eq_ok digital 0 (value.symm ▸ base.range n given), value]
    simp only [Url.readPort, Option.map_some, Option.getD_some, whole, read, List.isEmpty_iff,
      Nat.toDigits_ne_nil, if_false]

theorem ofAuthority_eq (base : HttpBase) :
    ∃ host port, Url.ofAuthority base.scheme base.authority =
      .ok { scheme := base.scheme, host := some host, port := port } := by
  obtain ⟨host, read, filled⟩ := base.host.specialHost_hostOf
  have userless : Url.afterUserInfo base.authority = base.authority := by
    change Text.lastPiece (· == '@') ([] ++ base.authority) = base.authority
    refine Text.lastPiece_append (by simp) fun c member => beq_false_of_ne ?_
    rintro rfl
    rcases base.authority_char member with plain | colon
    · exact absurd plain (by decide)
    · cases colon
  have named : host.toList.isEmpty = false := by
    simpa [List.isEmpty_eq_false_iff] using filled
  have written : (hostOf base.labels).isEmpty = false := by
    simpa [List.isEmpty_eq_false_iff] using base.host.hostOf_ne_nil
  refine ⟨host, if base.port = Url.defaultPort? base.scheme then none else base.port, ?_⟩
  unfold Url.ofAuthority
  simp only [userless, base.isSpecial_scheme, cutHost_authority, written, read, Bool.and_false,
    Bool.false_eq_true, if_false, if_true, bind, Except.bind, named, Bool.false_and, readPort_eq]
  rfl

theorem origin_visible (base : HttpBase) : ∀ c ∈ base.origin, 0x20 < c.toNat := by
  intro c member
  have visible {s : List Char} (all : s.all (fun c => decide (0x20 < c.toNat)) = true)
      (member : c ∈ s) : 0x20 < c.toNat :=
    of_decide_eq_true (List.all_eq_true.mp all c member)
  rw [origin, List.mem_append, List.mem_append] at member
  rcases member with (member | member) | member
  · rcases base.scheme_cases with h | h <;> rw [h] at member <;> exact visible (by decide) member
  · exact visible (s := "://".toList) (by decide) member
  · rcases base.authority_char member with plain | rfl
    · exact plain.spec.1
    · decide

theorem authority_ne_nil (base : HttpBase) : base.authority ≠ [] :=
  List.append_ne_nil_of_left_ne_nil base.host.hostOf_ne_nil _

theorem origin_ne_nil (base : HttpBase) : base.origin ≠ [] :=
  List.append_ne_nil_of_right_ne_nil _ base.authority_ne_nil

theorem not_endsAuthority (base : HttpBase) {c : Char} (member : c ∈ base.authority) :
    Url.endsAuthority true c = false := by
  have delimits {c : Char} (plain : IsHostChar c) : Url.endsAuthority true c = false := by
    have outside := plain.spec.2.2.1
    simp only [Url.endsAuthority, Bool.or_eq_false_iff, Bool.true_and, beq_eq_false_iff_ne]
    refine ⟨⟨⟨?_, ?_⟩, ?_⟩, ?_⟩ <;> rintro rfl <;> exact outside (by decide)
  rcases base.authority_char member with plain | rfl
  · exact delimits plain
  · decide

theorem isSlash_of_endsAuthority {c : Char} (inside : Url.endsAuthority true c = false) :
    Url.isSlash c = false := by
  simp only [Url.endsAuthority, Url.isSlash, Bool.or_eq_false_iff, Bool.true_and] at inside ⊢
  exact ⟨inside.1.1.1, inside.2⟩

theorem clean_eq (base : HttpBase) {tail : List Char}
    (ends : ∀ c ∈ ('/' :: tail).getLast?, 0x20 < c.toNat) :
    ∃ kept, Url.clean (base.origin ++ '/' :: tail) = base.origin ++ '/' :: kept := by
  have whole : Text.stripBoth (fun c => c.toNat ≤ 0x20) (base.origin ++ '/' :: tail) =
      base.origin ++ '/' :: tail := by
    refine Text.stripBoth_eq_iff.mpr
      ⟨[], [], by simp, by simp, by simp, fun c first => ?_, fun c last => ?_⟩
    · rw [List.head?_append_of_ne_nil _ base.origin_ne_nil] at first
      exact decide_eq_false (Nat.not_le.mpr (base.origin_visible c (List.mem_of_head? first)))
    · rw [List.getLast?_append_of_ne_nil _ (List.cons_ne_nil _ _)] at last
      exact decide_eq_false (Nat.not_le.mpr (ends c last))
  have visible : base.origin.filter (fun c => c != '\t' && c != '\n' && c != '\r') =
      base.origin := by
    refine List.filter_eq_self.mpr fun c member => ?_
    have large := base.origin_visible c member
    simp only [Bool.and_eq_true, bne_iff_ne]
    refine ⟨⟨?_, ?_⟩, ?_⟩ <;> rintro rfl <;> exact absurd large (by decide)
  refine ⟨tail.filter fun c => c != '\t' && c != '\n' && c != '\r', ?_⟩
  rw [Url.clean, whole, List.filter_append, visible]
  rfl

theorem parse_eq (base : HttpBase) {tail : List Char}
    (ends : ∀ c ∈ ('/' :: tail).getLast?, 0x20 < c.toNat) :
    ∃ host port, Url.parse (base.origin ++ '/' :: tail) =
      .ok { scheme := base.scheme, host := some host, port := port } := by
  obtain ⟨kept, cleaned⟩ := base.clean_eq ends
  obtain ⟨host, port, read⟩ := base.ofAuthority_eq
  refine ⟨host, port, ?_⟩
  rw [Url.parse, cleaned]
  have split : Url.splitScheme? (base.origin ++ '/' :: kept) =
      some (base.scheme, '/' :: '/' :: (base.authority ++ '/' :: kept)) := by
    rw [origin, List.append_assoc, List.append_assoc]
    rcases base.scheme_cases with h | h <;> rw [h] <;> rfl
  have begins : ('/' :: '/' :: (base.authority ++ '/' :: kept)).dropWhile Url.isSlash =
      base.authority ++ '/' :: kept := by
    change (['/', '/'] ++ (base.authority ++ '/' :: kept)).dropWhile Url.isSlash = _
    refine Text.dropWhile_append_exact (by simp [Url.isSlash]) fun c first => ?_
    rw [List.head?_append_of_ne_nil _ base.authority_ne_nil] at first
    exact isSlash_of_endsAuthority (base.not_endsAuthority (List.mem_of_head? first))
  have taken : (base.authority ++ '/' :: kept).takeWhile (fun c => !Url.endsAuthority true c) =
      base.authority := by
    rw [List.takeWhile_append_of_pos fun c member => by rw [base.not_endsAuthority member]; rfl]
    exact List.append_nil _
  rw [split]
  simp only
  have remote : base.scheme ≠ "file" := by
    rcases base.scheme_cases with h | h <;> rw [h] <;> decide
  rw [if_neg remote, if_pos base.isSpecial_scheme, begins, taken, read]

theorem endpoint_eq (base : HttpBase) :
    ∃ tail, (RemoteAccess.endpoint base.text).toList = base.origin ++ '/' :: tail ∧
      ('/' :: tail).getLast? = some 's' := by
  -- Only slashes of the path are trimmed away, as host and port end in none.
  obtain ⟨kept, trimmed, rooted⟩ : ∃ kept,
      Text.stripEnd (· == '/') (base.origin ++ base.path) = base.origin ++ kept ∧
        ∀ c ∈ kept.head?, c = '/' := by
    obtain ⟨back, whole, slashes, -⟩ :=
      Text.exists_append_stripEnd (· == '/') (base.origin ++ base.path)
    rcases List.append_eq_append_iff.mp whole with ⟨kept, stripped, path⟩ | ⟨surplus, cut, behind⟩
    · refine ⟨kept, stripped, fun c first => base.rooted c ?_⟩
      rw [path, List.head?_append, Option.mem_def.mp first]
      rfl
    · have unslashed : surplus = [] := by
        rcases List.eq_nil_or_concat surplus with rfl | ⟨inner, c, rfl⟩
        · rfl
        · have slash : c = '/' := by simpa using slashes c (by simp [behind])
          have last : base.authority.getLast? = some c := by
            rw [← List.getLast?_append_of_ne_nil (base.scheme.toList ++ "://".toList)
              base.authority_ne_nil, ← origin, cut]
            simp
          have plain := base.not_endsAuthority (List.mem_of_getLast? last)
          rw [slash] at plain
          cases plain
      rw [unslashed, List.append_nil] at cut
      exact ⟨[], by rw [← cut, List.append_nil], nofun⟩
  have written : (RemoteAccess.endpoint base.text).toList =
      base.origin ++ (kept ++ "/v1/access".toList) := by
    simp only [RemoteAccess.endpoint, Text.trimSlashes, text, String.toList_append,
      String.toList_ofList, trimmed, List.append_assoc]
  cases kept with
  | nil => exact ⟨"v1/access".toList, written, rfl⟩
  | cons c kept =>
    obtain rfl := rooted c rfl
    refine ⟨kept ++ "/v1/access".toList, written, ?_⟩
    rw [← List.cons_append, List.getLast?_append]
    rfl

theorem addressError?_endpoint (base : HttpBase) :
    RemoteAccess.addressError? (RemoteAccess.endpoint base.text) = none := by
  obtain ⟨tail, written, last⟩ := base.endpoint_eq
  obtain ⟨host, port, parsed⟩ := base.parse_eq fun c ends => by
    obtain rfl := Option.some.inj (last.symm.trans ends)
    decide
  rw [RemoteAccess.addressError?, written, parsed]
  exact if_pos ⟨rfl, base.scheme_cases⟩

end HttpBase

/-! ## Schemes -/

namespace Url

theorem ofFile_scheme {rest : List Char} {url : Url} (h : ofFile rest = .ok url) :
    url.scheme = "file" := by
  unfold ofFile at h
  simp only [pure, Except.pure, bind, Except.bind] at h
  split at h
  · split at h
    · split at h
      · cases h; rfl
      · split at h
        · cases h
        · cases h; rfl
    · cases h; rfl
  · cases h; rfl

theorem ofAuthority_scheme {scheme : String} {authority : List Char} {url : Url}
    (h : ofAuthority scheme authority = .ok url) : url.scheme = scheme := by
  unfold ofAuthority at h
  simp only [pure, Except.pure, bind, Except.bind, throw, throwThe, MonadExceptOf.throw] at h
  repeat' split at h
  all_goals first | cases h; rfl | cases h

/-- The scheme that an address begins with, in letters of either case. -/
def HasScheme (address scheme : String) : Prop :=
  ∃ written rest, clean address.toList = written ++ ':' :: rest ∧
    Text.lowerChars written = scheme.toList

theorem parse_scheme {address : String} {url : Url} (h : parse address.toList = .ok url) :
    HasScheme address url.scheme := by
  obtain ⟨scheme, rest, found, rfl⟩ : ∃ scheme rest,
      splitScheme? (clean address.toList) = some (scheme, rest) ∧ url.scheme = scheme := by
    unfold parse at h
    split at h
    next => cases h
    next scheme rest found =>
      refine ⟨scheme, rest, found, ?_⟩
      split_ifs at h with file
      · exact (ofFile_scheme h).trans file.symm
      · exact ofAuthority_scheme h
      · split at h
        · exact ofAuthority_scheme h
        · cases h; rfl
  unfold splitScheme? at found
  split at found
  next => cases found
  next =>
    split_ifs at found
    split at found
    next rest' heq =>
      refine ⟨(clean address.toList).takeWhile isSchemeChar, rest', ?_, ?_⟩
      · rw [← heq, List.takeWhile_append_dropWhile]
      · rw [← (Prod.mk.inj (Option.some.inj found)).1, String.toList_ofList]
    next => cases found

end Url

/-- An address is posted to under these two schemes only. -/
theorem RemoteAccess.scheme_of_addressError? {address : String} (h : addressError? address = none) :
    Url.HasScheme address "http" ∨ Url.HasScheme address "https" := by
  unfold addressError? at h
  split at h
  next => cases h
  next url parsed =>
    split_ifs at h with web
    have named := Url.parse_scheme parsed
    rcases web.2 with scheme | scheme
    · exact .inl (scheme ▸ named)
    · exact .inr (scheme ▸ named)

end MediaVault
