import MediaVault.Proofs.Delivery.Expiry
import MediaVault.Proofs.Run
import MediaVault.Proofs.Text

/-!
# Where delivery URLs come from

A resolver has up to three sources and takes the first that works.  Here its signers
are any that keep a state of their own, and beside that state stands a log of what each
was asked for.  The main statement tells the source from the CDN setting and the answers
of the signers, and that one expiry is reported and handed to every signer asked.
-/

namespace MediaVault

/-! ## Signers that are watched -/

/-- What a signer was asked for. -/
structure Consultation where
  source : UrlSource
  key : String
  expiresIn : Duration

section

variable {σ : Type}

/-- The signer with a log of what it is asked for. -/
def UrlSigner.consulted (signer : UrlSigner (StateM σ)) (source : UrlSource) :
    UrlSigner (StateM (σ × List Consultation)) where
  presign key expiresIn := ExceptT.mk fun before =>
    let run := (signer.presign key expiresIn).run.run before.1
    (run.1, (run.2, before.2 ++ [⟨source, key, expiresIn⟩]))

theorem UrlSigner.consulted_ends {signer : UrlSigner (StateM σ)} {key : String}
    {expiresIn : Duration} {before after : σ} {out : Except StorageError String}
    (ended : Ends (signer.presign key expiresIn) before out after) (source : UrlSource)
    (asked : List Consultation) :
    Ends ((signer.consulted source).presign key expiresIn) (before, asked) out
      (after, asked ++ [⟨source, key, expiresIn⟩]) := by
  change (((signer.presign key expiresIn).run.run before).1,
    (((signer.presign key expiresIn).run.run before).2, _)) = _
  rw [show (signer.presign key expiresIn).run.run before = (out, after) from ended]

end

/-! ## CDN settings -/

namespace Resolver

/-- What is left of a setting when the blanks around it are cut off, and then the
slashes at its end. -/
def CutTo (setting base : String) : Prop :=
  ∃ front slashes back : List Char,
    setting.toList = front ++ (base.toList ++ slashes) ++ back ∧
    ((∀ c ∈ front, Text.isBlank c = true) ∧ (∀ c ∈ back, Text.isBlank c = true) ∧
      (∀ c ∈ (base.toList ++ slashes).head?, Text.isBlank c = false) ∧
      ∀ c ∈ (base.toList ++ slashes).getLast?, Text.isBlank c = false) ∧
    (∀ c ∈ slashes, c = '/') ∧ ∀ c ∈ base.toList.getLast?, c ≠ '/'

/-- The CDN is set to a base that can be used. -/
def Serves (cdn : Option String) (base : String) : Prop :=
  ∃ setting, cdn = some setting ∧ CutTo setting base ∧ base ≠ ""

theorem cutTo_iff {setting base : String} :
    CutTo setting base ↔ Text.trimSlashes (Text.trim setting) = base := by
  rw [Text.trimSlashes, Text.trim, String.toList_ofList]
  constructor
  · rintro ⟨front, slashes, back, written, ⟨before, behind, first, last⟩, all_slashes, cut⟩
    have trimmed : Text.trimChars setting.toList = base.toList ++ slashes :=
      written ▸ Text.stripBoth_append before behind first last
    rw [trimmed, Text.stripEnd_append (by simpa using all_slashes) (by simpa using cut),
      String.ofList_toList]
  · rintro rfl
    obtain ⟨front, back, written, before, behind, first, last⟩ :=
      Text.exists_append_stripBoth Text.isBlank setting.toList
    obtain ⟨slashes, trimmed, all_slashes, cut⟩ :=
      Text.exists_append_stripEnd (· == '/') (Text.trimChars setting.toList)
    rw [← Text.trimChars, trimmed] at written first last
    refine ⟨front, slashes, back, ?_, ⟨before, behind, ?_, ?_⟩, by simpa using all_slashes, ?_⟩
    all_goals rw [String.toList_ofList]
    · exact written
    · exact first
    · exact last
    · simpa using cut

theorem usableCdn_eq_some_iff {cdn : Option String} {base : String} :
    usableCdn cdn = some base ↔ Serves cdn base := by
  have filled : (!base.toList.isEmpty) = true ↔ base ≠ "" := by simp
  simp only [usableCdn, Option.filter_eq_some_iff, Option.map_eq_some_iff, filled, Serves,
    cutTo_iff]
  constructor
  · rintro ⟨⟨setting, rfl, cut⟩, some_text⟩
    exact ⟨setting, rfl, cut, some_text⟩
  · rintro ⟨setting, rfl, cut, some_text⟩
    exact ⟨⟨setting, rfl, cut⟩, some_text⟩

theorem usableCdn_eq_none_iff {cdn : Option String} :
    usableCdn cdn = none ↔ ¬ ∃ base, Serves cdn base := by
  simp only [← usableCdn_eq_some_iff, Option.eq_none_iff_forall_ne_some, not_exists, ne_eq]

/-! ## Taking the first source that works -/

variable {σ : Type}

/-- The resolver whose signers are watched. -/
def watched (cdn : Option String) (publicSigner : Option (UrlSigner (StateM σ)))
    (signer : UrlSigner (StateM σ)) : Resolver (StateM (σ × List Consultation)) :=
  create cdn (publicSigner.map (·.consulted .publicSigner)) (signer.consulted .signer)

/-- There is no public signer, or it fails: where that leaves the state, and what it was
asked for. -/
inductive Declined (publicSigner : Option (UrlSigner (StateM σ))) (key : String)
    (expiresIn : Duration) (before : σ) : σ → List Consultation → Prop where
  | absent (none_set : publicSigner = none) : Declined publicSigner key expiresIn before before []
  | failed {signer : UrlSigner (StateM σ)} {error : StorageError} {after : σ}
      (set : publicSigner = some signer)
      (ended : Ends (signer.presign key expiresIn) before (.error error) after) :
      Declined publicSigner key expiresIn before after [⟨.publicSigner, key, expiresIn⟩]

/-- All that resolving can come to. -/
inductive Resolves (resolver : Resolver (StateM σ)) (key : String) (expiresIn : Duration)
    (before : σ) : Except StorageError DeliveryUrl → σ → Prop where
  | cdn {base : String} (set : resolver.cdn = some base) :
      Resolves resolver key expiresIn before
        (.ok { url := base ++ "/" ++ key, source := .cdn, expiresIn := expiresIn }) before
  | facing {signer : UrlSigner (StateM σ)} {url : String} {after : σ}
      (unset : resolver.cdn = none) (set : resolver.publicSigner = some signer)
      (signed : Ends (signer.presign key expiresIn) before (.ok url) after) :
      Resolves resolver key expiresIn before
        (.ok { url := url, source := .publicSigner, expiresIn := expiresIn }) after
  | internal {between after : σ} {asked : List Consultation} {inner : Except StorageError String}
      (unset : resolver.cdn = none)
      (declined : Declined resolver.publicSigner key expiresIn before between asked)
      (signed : Ends (resolver.signer.presign key expiresIn) between inner after) :
      Resolves resolver key expiresIn before
        (inner.map fun url => { url := url, source := .signer, expiresIn := expiresIn }) after

theorem resolve_ends_iff {resolver : Resolver (StateM σ)} {key : String} {requested : Duration}
    {before after : σ} {out : Except StorageError DeliveryUrl} :
    Ends (resolver.resolve key requested) before out after ↔
      Resolves resolver key (Expiry.clamp requested) before out after := by
  obtain ⟨cdn, publicSigner, signer⟩ := resolver
  constructor
  · intro resolved
    rcases cdn with _ | base
    · rcases publicSigner with _ | facing
      · obtain ⟨inner, signed, rfl⟩ := ends_map_iff.mp resolved
        exact .internal rfl (.absent rfl) signed
      · obtain ⟨answer, between, ended⟩ : ∃ answer between,
            Ends (facing.presign key (Expiry.clamp requested)) before answer between :=
          ⟨_, _, ends_self _ before⟩
        have rest := ended.recover_iff.mp resolved
        cases answer with
        | ok url =>
          obtain ⟨rfl, rfl⟩ := ends_pure_iff.mp rest
          exact .facing rfl rfl ended
        | error refused =>
          obtain ⟨inner, signed, rfl⟩ := ends_map_iff.mp rest
          exact .internal rfl (.failed rfl ended) signed
    · obtain ⟨rfl, rfl⟩ := ends_pure_iff.mp resolved
      exact .cdn rfl
  · intro resolves
    cases resolves with
    | cdn set =>
      cases set
      exact ends_pure_iff.mpr ⟨rfl, rfl⟩
    | facing unset set signed =>
      cases unset
      cases set
      exact signed.recover rfl
    | internal unset declined signed =>
      cases unset
      have internally : Ends (resolveInternally ⟨none, publicSigner, signer⟩ key
          (Expiry.clamp requested)) _ _ _ := ends_map_iff.mpr ⟨_, signed, rfl⟩
      cases declined with
      | absent none_set =>
        cases none_set
        exact internally
      | failed set refused =>
        cases set
        exact refused.recover internally

variable {cdn : Option String} {publicSigner : Option (UrlSigner (StateM σ))}
  {signer : UrlSigner (StateM σ)} {key : String} {requested : Duration} {before after : σ}

theorem resolve_of_serves {base : String} (serves : Serves cdn base) :
    Ends ((watched cdn publicSigner signer).resolve key requested) (before, [])
      (.ok { url := base ++ "/" ++ key, source := .cdn, expiresIn := Expiry.clamp requested })
      (before, []) :=
  resolve_ends_iff.mpr (.cdn (usableCdn_eq_some_iff.mpr serves))

theorem resolve_of_signed (signer : UrlSigner (StateM σ)) (unserved : usableCdn cdn = none)
    {facing : UrlSigner (StateM σ)} {url : String}
    (ended : Ends (facing.presign key (Expiry.clamp requested)) before (.ok url) after) :
    Ends ((watched cdn (some facing) signer).resolve key requested) (before, [])
      (.ok { url := url, source := .publicSigner, expiresIn := Expiry.clamp requested })
      (after, [⟨.publicSigner, key, Expiry.clamp requested⟩]) :=
  resolve_ends_iff.mpr (.facing unserved rfl (UrlSigner.consulted_ends ended .publicSigner []))

theorem Declined.consulted {expiresIn : Duration} {asked : List Consultation}
    (declined : Declined publicSigner key expiresIn before after asked) :
    Declined (publicSigner.map (·.consulted .publicSigner)) key expiresIn (before, [])
      (after, asked) asked := by
  cases declined with
  | absent none_set => exact .absent (by rw [none_set, Option.map_none])
  | failed set ended =>
    exact .failed (by rw [set, Option.map_some])
      (UrlSigner.consulted_ends ended .publicSigner [])

theorem resolve_of_declined (unserved : usableCdn cdn = none) {between : σ}
    {asked : List Consultation}
    (declined : Declined publicSigner key (Expiry.clamp requested) before between asked)
    {out : Except StorageError String}
    (ended : Ends (signer.presign key (Expiry.clamp requested)) between out after) :
    Ends ((watched cdn publicSigner signer).resolve key requested) (before, [])
      (out.map fun url =>
        { url := url, source := .signer, expiresIn := Expiry.clamp requested })
      (after, asked ++ [⟨.signer, key, Expiry.clamp requested⟩]) :=
  resolve_ends_iff.mpr
    (.internal unserved declined.consulted (UrlSigner.consulted_ends ended .signer asked))

/-- Whatever the signers do, one of three things happens. -/
theorem resolve_cases (cdn : Option String) (publicSigner : Option (UrlSigner (StateM σ)))
    (key : String) (expiresIn : Duration) (before : σ) :
    (∃ base, Serves cdn base) ∨ (¬ ∃ base, Serves cdn base) ∧
      ((∃ facing url after, publicSigner = some facing ∧
          Ends (facing.presign key expiresIn) before (.ok url) after) ∨
        ∃ between asked, Declined publicSigner key expiresIn before between asked) := by
  by_cases serves : ∃ base, Serves cdn base
  · exact .inl serves
  refine .inr ⟨serves, ?_⟩
  cases publicSigner with
  | none => exact .inr ⟨before, [], .absent rfl⟩
  | some facing =>
    have ended := ends_self (facing.presign key expiresIn) before
    cases answer : ((facing.presign key expiresIn).run.run before).1 with
    | ok url => exact .inl ⟨facing, url, _, rfl, answer ▸ ended⟩
    | error error => exact .inr ⟨_, _, .failed rfl (answer ▸ ended)⟩

/-- Only the internal signer makes resolving fail, when its turn comes. -/
theorem resolve_fails_iff {error : StorageError} :
    (∃ after, Ends ((watched cdn publicSigner signer).resolve key requested) (before, [])
        (.error error) after) ↔
      (¬ ∃ base, Serves cdn base) ∧ ∃ between asked after,
        Declined publicSigner key (Expiry.clamp requested) before between asked ∧
        Ends (signer.presign key (Expiry.clamp requested)) between (.error error) after := by
  constructor
  · rintro ⟨after, failed⟩
    -- With a CDN or a public signer that works, the outcome would be no error.
    rcases resolve_cases cdn publicSigner key (Expiry.clamp requested) before with
      ⟨base, serves⟩ | ⟨unserved, ⟨facing, url, _, rfl, ended⟩ | ⟨between, asked, declined⟩⟩
    · cases (Prod.mk.inj ((resolve_of_serves serves).symm.trans failed)).1
    · have signed := resolve_of_signed signer (usableCdn_eq_none_iff.mpr unserved) ended
      cases (Prod.mk.inj (signed.symm.trans failed)).1
    · have ended := ends_self (signer.presign key (Expiry.clamp requested)) between
      have resolved := resolve_of_declined (usableCdn_eq_none_iff.mpr unserved) declined ended
      cases answer : ((signer.presign key (Expiry.clamp requested)).run.run between).1 with
      | ok url =>
        rw [answer] at resolved
        cases (Prod.mk.inj (resolved.symm.trans failed)).1
      | error refused =>
        rw [answer] at ended resolved
        obtain rfl := Except.error.inj (Prod.mk.inj (resolved.symm.trans failed)).1
        exact ⟨unserved, between, asked, _, declined, ended⟩
  · rintro ⟨unserved, between, asked, after, declined, ended⟩
    exact ⟨_, resolve_of_declined (usableCdn_eq_none_iff.mpr unserved) declined ended⟩

/-- The CDN serves when its base, trimmed, is not empty, and then no signer is asked.
Else the public signer is asked, if there is one, and where that fails the internal
signer decides.  So resolving fails exactly with an error of the internal signer.  One
expiry between nothing and a week, the requested one when that fits, is reported and
handed to every signer that is asked. -/
theorem delivery_resolved (cdn : Option String) (publicSigner : Option (UrlSigner (StateM σ)))
    (signer : UrlSigner (StateM σ)) (key : String) (requested : Duration) (before : σ) :
    let resolver := watched cdn publicSigner signer
    ∃ expiresIn : Duration,
      (0 < expiresIn.nanoseconds ∧
        expiresIn.nanoseconds ≤ (Duration.ofSeconds 604800).nanoseconds ∧
        (0 < requested.nanoseconds →
          requested.nanoseconds ≤ (Duration.ofSeconds 604800).nanoseconds →
          expiresIn = requested) ∧
        (requested.nanoseconds = 0 → expiresIn = Duration.ofSeconds 600)) ∧
      (∀ base, Serves cdn base →
        Ends (resolver.resolve key requested) (before, [])
          (.ok { url := base ++ "/" ++ key, source := .cdn, expiresIn := expiresIn })
          (before, [])) ∧
      ((¬ ∃ base, Serves cdn base) →
        (∀ facing url after, publicSigner = some facing →
          Ends (facing.presign key expiresIn) before (.ok url) after →
          Ends (resolver.resolve key requested) (before, [])
            (.ok { url := url, source := .publicSigner, expiresIn := expiresIn })
            (after, [⟨.publicSigner, key, expiresIn⟩])) ∧
        (∀ between asked out after, Declined publicSigner key expiresIn before between asked →
          Ends (signer.presign key expiresIn) between out after →
          Ends (resolver.resolve key requested) (before, [])
            (out.map fun url => { url := url, source := .signer, expiresIn := expiresIn })
            (after, asked ++ [⟨.signer, key, expiresIn⟩]))) ∧
      ∀ error, (∃ after, Ends (resolver.resolve key requested) (before, []) (.error error) after) ↔
        (¬ ∃ base, Serves cdn base) ∧ ∃ between asked after,
          Declined publicSigner key expiresIn before between asked ∧
          Ends (signer.presign key expiresIn) between (.error error) after := by
  intro resolver
  have bounds := Expiry.clamp_bounds requested
  refine ⟨Expiry.clamp requested, ⟨bounds.1, bounds.2, Expiry.clamp_of_le, fun zero => ?_⟩,
    fun base => resolve_of_serves, fun unserved => ⟨?_, ?_⟩, fun error => resolve_fails_iff⟩
  · obtain rfl : requested = ⟨0⟩ := congrArg Duration.mk zero
    rfl
  · rintro facing url after rfl ended
    exact resolve_of_signed signer (usableCdn_eq_none_iff.mpr unserved) ended
  · intro between asked out after declined ended
    exact resolve_of_declined (usableCdn_eq_none_iff.mpr unserved) declined ended

/-- A CDN of blanks and slashes, a public signer that fails after it has counted, and no
expiry asked for. -/
theorem delivery_resolved_by_second_signer :
    let facing : UrlSigner (StateM Nat) :=
      { presign := fun key _ => do
          modify (· + 1)
          throw (.presign key "no credentials") }
    let signer : UrlSigner (StateM Nat) :=
      { presign := fun key _ => return key ++ "?n=" ++ toString (← get) }
    let resolver := watched (some " // ") (some facing) signer
    let expiresIn := Duration.ofSeconds 600
    (¬ ∃ base, Serves (some " // ") base) ∧
      Ends (resolver.resolve "k" ⟨0⟩) (0, [])
        (.ok { url := "k?n=1", source := .signer, expiresIn := expiresIn })
        (1, [⟨.publicSigner, "k", expiresIn⟩, ⟨.signer, "k", expiresIn⟩]) := by
  intro facing signer resolver expiresIn
  have unserved : ¬ ∃ base, Serves (some " // ") base := usableCdn_eq_none_iff.mp (by decide)
  obtain ⟨clamped, ⟨-, -, -, standard⟩, -, unserved_ends, -⟩ :=
    delivery_resolved (some " // ") (some facing) signer "k" ⟨0⟩ 0
  obtain rfl := standard rfl
  have refused :
      Ends (facing.presign "k" expiresIn) 0 (.error (.presign "k" "no credentials")) 1 := rfl
  have declined : Declined (some facing) "k" expiresIn 0 1 [⟨.publicSigner, "k", expiresIn⟩] :=
    .failed rfl refused
  have signed : Ends (signer.presign "k" expiresIn) 1 (.ok "k?n=1") 1 := by
    have numeral : toString 1 = "1" := by decide
    change (Except.ok ("k" ++ "?n=" ++ toString 1), 1) = _
    rw [numeral]
    rfl
  exact ⟨unserved, (unserved_ends unserved).2 _ _ _ _ declined signed⟩

end Resolver

end MediaVault
