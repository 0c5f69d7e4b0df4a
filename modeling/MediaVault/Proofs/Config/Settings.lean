import MediaVault.Config.Settings
import MediaVault.Proofs.Text

/-!
# Where settings come from

A setting is its value on the command line, else what its environment variable holds, else the
default.  Thirteen settings follow this rule with three kinds of values and readers; here they are
one family over `OptionName`, so that `Yields` says the rule once and for all of them.
-/

namespace MediaVault

/-- The value of a setting, of whatever kind. -/
inductive SettingValue where
  | text (value : String)
  | number (value : Nat)
  | backend (value : Backend)
deriving DecidableEq

namespace OptionName

/-- What the name of the setting's environment variable ends in. -/
def suffix : OptionName → String
  | host => "HOST"
  | port => "PORT"
  | backend => "BACKEND"
  | bucket => "BUCKET"
  | endpoint => "S3_ENDPOINT"
  | region => "S3_REGION"
  | accessKey => "S3_ACCESS_KEY"
  | secretKey => "S3_SECRET_KEY"
  | cdnUrl => "CDN_URL"
  | publicBaseUrl => "PUBLIC_BASE_URL"
  | authzUrl => "AUTHZ_URL"
  | maxUploadBytes => "MAX_UPLOAD_BYTES"
  | requestTimeoutSecs => "REQUEST_TIMEOUT_SECS"

/-- Trimmed, the text is a numeral for a number up to `most`. -/
def ReadsNumber (most : Nat) (text : String) (value : SettingValue) : Prop :=
  ∃ numeral n, Text.TrimsTo text numeral ∧ Text.Denotes numeral.toList n ∧ n ≤ most ∧
    value = .number n

/-- Trimmed, the text names a backend in some letter case. -/
def ReadsBackend (text : String) (value : SettingValue) : Prop :=
  ∃ name, Text.TrimsTo text name ∧
    (Text.lower name = "s3" ∧ value = .backend .s3 ∨
      Text.lower name = "memory" ∧ value = .backend .memory)

/-- How the text of the setting's variable is read: as it is, but for four settings. -/
def Reads : OptionName → String → SettingValue → Prop
  | port => ReadsNumber 65535
  | maxUploadBytes => ReadsNumber 18446744073709551615
  | requestTimeoutSecs => ReadsNumber 18446744073709551615
  | backend => ReadsBackend
  | _ => fun text value => value = .text text

end OptionName

/-- The value of a setting on the command line; a blank URL counts as none. -/
def Arguments.given? (a : Arguments) : OptionName → Option SettingValue
  | .host => a.host.map .text
  | .port => a.port.map .number
  | .backend => a.backend.map .backend
  | .bucket => a.bucket.map .text
  | .endpoint => a.endpoint.map .text
  | .region => a.region.map .text
  | .accessKey => a.accessKey.map .text
  | .secretKey => a.secretKey.map .text
  | .cdnUrl => (a.cdnUrl.bind Text.nonBlank).map .text
  | .publicBaseUrl => (a.publicBaseUrl.bind Text.nonBlank).map .text
  | .authzUrl => (a.authzUrl.bind Text.nonBlank).map .text
  | .maxUploadBytes => a.maxUploadBytes.map .number
  | .requestTimeoutSecs => a.requestTimeoutSecs.map .number

namespace Settings

/-- The value of a setting; the URLs may be unset. -/
def value? (s : Settings) : OptionName → Option SettingValue
  | .host => some (.text s.host)
  | .port => some (.number s.port)
  | .backend => some (.backend s.backend)
  | .bucket => some (.text s.bucket)
  | .endpoint => some (.text s.endpoint)
  | .region => some (.text s.region)
  | .accessKey => some (.text s.accessKey)
  | .secretKey => some (.text s.secretKey)
  | .cdnUrl => s.cdnUrl.map .text
  | .publicBaseUrl => s.publicBaseUrl.map .text
  | .authzUrl => s.authzUrl.map .text
  | .maxUploadBytes => some (.number s.maxUploadBytes)
  | .requestTimeoutSecs => some (.number s.requestTimeoutSecs)

/-! ## One setting -/

/-- A variable is set to this text, which is not blank. -/
def Holds (environment : Environment) (suffix text : String) : Prop :=
  environment (Environment.nameOf suffix) = some text ∧ ∃ c ∈ text.toList, Text.isBlank c = false

/-- What a setting is: its argument, else what its variable is read as, else the default. -/
inductive Settled (argument : Option SettingValue) (environment : Environment) (suffix : String)
    (reads : String → SettingValue → Prop) (fallback : Option SettingValue) :
    Option SettingValue → Prop where
  | given {value : SettingValue} (present : argument = some value) :
      Settled argument environment suffix reads fallback (some value)
  | held {text : String} {value : SettingValue} (absent : argument = none)
      (holds : Holds environment suffix text) (read : reads text value) :
      Settled argument environment suffix reads fallback (some value)
  | standard (absent : argument = none) (unset : ¬ ∃ text, Holds environment suffix text) :
      Settled argument environment suffix reads fallback fallback

/-- There is no argument, and the variable holds something that cannot be read. -/
def Malformed (argument : Option SettingValue) (environment : Environment) (suffix : String)
    (reads : String → SettingValue → Prop) : Prop :=
  argument = none ∧ ∃ text, Holds environment suffix text ∧ ¬ ∃ value, reads text value

theorem settled_iff {argument fallback value : Option SettingValue} {environment : Environment}
    {suffix : String} {reads : String → SettingValue → Prop} :
    Settled argument environment suffix reads fallback value ↔
      (∃ given, argument = some given ∧ value = some given) ∨
        argument = none ∧
          ((∃ text read, Holds environment suffix text ∧ reads text read ∧ value = some read) ∨
            (¬ ∃ text, Holds environment suffix text) ∧ value = fallback) := by
  constructor
  · intro settled
    cases settled with
    | given present => exact .inl ⟨_, present, rfl⟩
    | held absent holds read => exact .inr ⟨absent, .inl ⟨_, _, holds, read, rfl⟩⟩
    | standard absent unset => exact .inr ⟨absent, .inr ⟨unset, rfl⟩⟩
  · rintro (⟨value, present, rfl⟩ | ⟨absent, ⟨text, value, holds, read, rfl⟩ | ⟨unset, rfl⟩⟩)
    · exact .given present
    · exact .held absent holds read
    · exact .standard absent unset

theorem setting?_eq_some_iff {environment : Environment} {suffix text : String} :
    environment.setting? suffix = some text ↔ Holds environment suffix text := by
  rw [Environment.setting?, Option.bind_eq_some_iff]
  simp only [Text.nonBlank_eq_some_iff, Holds]
  constructor
  · rintro ⟨_, held, rfl, inked⟩
    exact ⟨held, inked⟩
  · rintro ⟨held, inked⟩
    exact ⟨text, held, rfl, inked⟩

theorem setting?_eq_none_iff {environment : Environment} {suffix : String} :
    environment.setting? suffix = none ↔ ¬ ∃ text, Holds environment suffix text := by
  simp only [← setting?_eq_some_iff, Option.eq_none_iff_forall_ne_some, not_exists, ne_eq]

/-- One variable settles one setting: no other is looked at. -/
theorem Settled.unique {argument fallback value another : Option SettingValue}
    {environment other : Environment} {suffix : String} {reads : String → SettingValue → Prop}
    (settled : Settled argument environment suffix reads fallback value)
    (settled_too : Settled argument other suffix reads fallback another)
    (same : other (Environment.nameOf suffix) = environment (Environment.nameOf suffix))
    (functional : ∀ text v w, reads text v → reads text w → v = w) : another = value := by
  have holds {text : String} : Holds other suffix text ↔ Holds environment suffix text := by
    rw [Holds, same, Holds]
  cases settled with
  | given present =>
    cases settled_too with
    | given present_too => exact present_too.symm.trans present
    | held absent _ _ => cases absent.symm.trans present
    | standard absent _ => cases absent.symm.trans present
  | held absent here read =>
    cases settled_too with
    | given present => cases absent.symm.trans present
    -- Both hold the same text, and it is read in one way only.
    | held _ there read_too =>
      obtain rfl := Option.some.inj ((holds.mp there).1.symm.trans here.1)
      rw [functional _ _ _ read_too read]
    | standard _ unset => exact absurd ⟨_, holds.mpr here⟩ unset
  | standard absent unset =>
    cases settled_too with
    | given present => cases absent.symm.trans present
    | held _ there _ => exact absurd ⟨_, holds.mp there⟩ unset
    | standard _ _ => rfl

theorem Settled.not_malformed {argument fallback value : Option SettingValue}
    {environment : Environment} {suffix : String} {reads : String → SettingValue → Prop}
    (settled : Settled argument environment suffix reads fallback value) :
    ¬ Malformed argument environment suffix reads := by
  rintro ⟨absent, text, there, unread⟩
  cases settled with
  | given present => cases absent.symm.trans present
  | held _ here read =>
    obtain rfl := Option.some.inj (there.1.symm.trans here.1)
    exact unread ⟨_, read⟩
  | standard _ unset => exact unset ⟨text, there⟩

/-- A reader of trimmed texts reads what it should, and its values are told apart. -/
structure Implements {α : Type} (reader : String → Except String α) (wrap : α → SettingValue)
    (reads : String → SettingValue → Prop) : Prop where
  injective : Function.Injective wrap
  reads_iff : ∀ text value, reads text value ↔ ∃ a, reader (Text.trim text) = .ok a ∧ value = wrap a

theorem Implements.functional {α : Type} {reader : String → Except String α}
    {wrap : α → SettingValue} {reads : String → SettingValue → Prop}
    (implements : Implements reader wrap reads) (text : String) (v w : SettingValue)
    (read : reads text v) (read_too : reads text w) : v = w := by
  obtain ⟨_, ended, rfl⟩ := (implements.reads_iff text v).mp read
  obtain ⟨_, ended_too, rfl⟩ := (implements.reads_iff text w).mp read_too
  rw [Except.ok.inj (ended.symm.trans ended_too)]

section

variable {α : Type} {reader : String → Except String α} {wrap : α → SettingValue}
  {reads : String → SettingValue → Prop} (implements : Implements reader wrap reads)
  {argument : Option α} {environment : Environment} {suffix : String} {fallback a : α}

include implements

theorem pick_ok_iff :
    pick argument (environment.read suffix reader) fallback = .ok a ↔
      Settled (argument.map wrap) environment suffix reads (some (wrap fallback))
        (some (wrap a)) := by
  rw [settled_iff]
  cases argument with
  | some given => simp [pick, implements.injective.eq_iff, eq_comm]
  | none =>
    simp only [pick, Environment.read, ← setting?_eq_some_iff, implements.reads_iff]
    cases held : environment.setting? suffix with
    | none => simp [Except.map, implements.injective.eq_iff, eq_comm]
    | some text =>
      cases read : reader (Text.trim text) with
      | error reason => simp [Except.map, read]
      | ok b => simp [Except.map, read, implements.injective.eq_iff, eq_comm]

theorem pick_fails_iff :
    (∃ error, pick argument (environment.read suffix reader) fallback = .error error) ↔
      Malformed (argument.map wrap) environment suffix reads := by
  cases argument with
  | some given => simp [pick, Malformed]
  | none =>
    simp only [pick, Environment.read, Malformed, ← setting?_eq_some_iff, implements.reads_iff]
    cases held : environment.setting? suffix with
    | none => simp [Except.map]
    | some text =>
      cases read : reader (Text.trim text) with
      | error reason => simp [Except.map, read]
      | ok b => simp [Except.map, read]

end

/-- Texts are taken as they are. -/
theorem url_settled (argument : Option String) (environment : Environment) (suffix : String) :
    Settled (argument.map .text) environment suffix (fun text value => value = .text text) none
      ((argument.or (environment.setting? suffix)).map .text) := by
  rw [settled_iff]
  cases argument with
  | some given => simp
  | none =>
    simp only [← setting?_eq_some_iff]
    cases environment.setting? suffix <;> simp

theorem text_settled (argument : Option String) (environment : Environment)
    (suffix fallback : String) :
    Settled (argument.map .text) environment suffix (fun text value => value = .text text)
      (some (.text fallback))
      (some (.text ((argument.or (environment.setting? suffix)).getD fallback))) := by
  rw [settled_iff]
  cases argument with
  | some given => simp
  | none =>
    simp only [← setting?_eq_some_iff]
    cases environment.setting? suffix <;> simp

/-! ## The readers -/

theorem number_implements (most : Nat) :
    Implements (number most) .number (OptionName.ReadsNumber most) where
  injective := fun n k same => by injection same
  reads_iff := by
    intro text value
    have read {n : Nat} : number most (Text.trim text) = .ok n ↔
        Text.Denotes (Text.trim text).toList n ∧ n ≤ most := by
      rw [← Text.readNatural_eq_ok_iff, number]
      cases Text.readNatural most (Text.trim text).toList <;> simp [Except.mapError]
    simp only [OptionName.ReadsNumber, read]
    constructor
    · rintro ⟨numeral, n, trimmed, denoted, fits, rfl⟩
      exact ⟨n, ⟨(Text.trim_eq_iff.mpr trimmed).symm ▸ denoted, fits⟩, rfl⟩
    · rintro ⟨n, ⟨denoted, fits⟩, rfl⟩
      exact ⟨_, n, Text.trim_eq_iff.mp rfl, denoted, fits, rfl⟩

theorem ofArgument?_eq_some_iff {name : String} {backend : Backend} :
    Backend.ofArgument? name = some backend ↔
      name = "s3" ∧ backend = .s3 ∨ name = "memory" ∧ backend = .memory := by
  by_cases s3 : name = "s3"
  · simp [s3, Backend.ofArgument?, eq_comm]
  by_cases memory : name = "memory"
  · simp [memory, Backend.ofArgument?, eq_comm]
  · simp [s3, memory, Backend.ofArgument?]

theorem backendName_implements :
    Implements backendName .backend OptionName.ReadsBackend where
  injective := fun one other same => by injection same
  reads_iff := by
    intro text value
    have read {backend : Backend} : backendName (Text.trim text) = .ok backend ↔
        Backend.ofArgument? (Text.lower (Text.trim text)) = some backend := by
      simp only [backendName, Text.trim_trim]
      cases Backend.ofArgument? (Text.lower (Text.trim text)) <;> simp
    simp only [OptionName.ReadsBackend, read, ofArgument?_eq_some_iff]
    constructor
    · rintro ⟨name, trimmed, named⟩
      obtain rfl := Text.trim_eq_iff.mpr trimmed
      rcases named with ⟨s3, rfl⟩ | ⟨memory, rfl⟩
      · exact ⟨.s3, .inl ⟨s3, rfl⟩, rfl⟩
      · exact ⟨.memory, .inr ⟨memory, rfl⟩, rfl⟩
    · rintro ⟨backend, ⟨s3, rfl⟩ | ⟨memory, rfl⟩, rfl⟩
      · exact ⟨_, Text.trim_eq_iff.mp rfl, .inl ⟨s3, rfl⟩⟩
      · exact ⟨_, Text.trim_eq_iff.mp rfl, .inr ⟨memory, rfl⟩⟩

theorem reads_functional (o : OptionName) :
    ∀ text v w, o.Reads text v → o.Reads text w → v = w := by
  have verbatim : ∀ (text : String) (v w : SettingValue), v = .text text → w = .text text → v = w :=
    fun _ _ _ read read_too => read.trans read_too.symm
  cases o with
  | port => exact (number_implements _).functional
  | maxUploadBytes => exact (number_implements _).functional
  | requestTimeoutSecs => exact (number_implements _).functional
  | backend => exact backendName_implements.functional
  | _ => exact verbatim

/-! ## All settings -/

variable {a : Arguments} {environment : Environment} {s : Settings}

/-- A setting has this value, by the rule. -/
def Yields (a : Arguments) (environment : Environment) (o : OptionName) :
    Option SettingValue → Prop :=
  Settled (a.given? o) environment o.suffix o.Reads (({} : Settings).value? o)

/-- A setting has no argument, and its variable cannot be read. -/
def Fails (a : Arguments) (environment : Environment) (o : OptionName) : Prop :=
  Malformed (a.given? o) environment o.suffix o.Reads

theorem bind_eq_ok_iff {ε α β : Type} {action : Except ε α} {next : α → Except ε β} {b : β} :
    action >>= next = .ok b ↔ ∃ value, action = .ok value ∧ next value = .ok b := by
  cases action with
  | error error => exact ⟨nofun, nofun⟩
  | ok value => simp [bind, Except.bind]

theorem bind_eq_error_iff {ε α β : Type} {action : Except ε α} {next : α → Except ε β} {error : ε} :
    action >>= next = .error error ↔
      action = .error error ∨ ∃ value, action = .ok value ∧ next value = .error error := by
  cases action with
  | error reason => simp [bind, Except.bind]
  | ok value => simp [bind, Except.bind]

/-- Settings are positive where they have to be, and each is what the rule yields. -/
theorem yields_of_merge (merged : merge a environment = .ok s) :
    s.requestTimeoutSecs ≠ 0 ∧ ∀ o, Yields a environment o (s.value? o) := by
  rw [merge] at merged
  -- The four settings that are parsed come first, one bind for each.
  obtain ⟨port, picked_port, merged⟩ := bind_eq_ok_iff.mp merged
  obtain ⟨backend, picked_backend, merged⟩ := bind_eq_ok_iff.mp merged
  obtain ⟨maxUploadBytes, picked_bytes, merged⟩ := bind_eq_ok_iff.mp merged
  obtain ⟨requestTimeoutSecs, picked_secs, merged⟩ := bind_eq_ok_iff.mp merged
  split at merged
  next => cases merged
  next positive =>
    obtain rfl := Except.ok.inj merged
    refine ⟨positive, fun o => ?_⟩
    cases o with
    | port => exact (pick_ok_iff (number_implements _)).mp picked_port
    | backend => exact (pick_ok_iff backendName_implements).mp picked_backend
    | maxUploadBytes => exact (pick_ok_iff (number_implements _)).mp picked_bytes
    | requestTimeoutSecs => exact (pick_ok_iff (number_implements _)).mp picked_secs
    | cdnUrl => exact url_settled _ _ _
    | publicBaseUrl => exact url_settled _ _ _
    | authzUrl => exact url_settled _ _ _
    | _ => exact text_settled _ _ _ _

theorem merge_fails_iff :
    (∃ error, merge a environment = .error error) ↔
      (∃ o ∈ [OptionName.port, .backend, .maxUploadBytes, .requestTimeoutSecs],
        Fails a environment o) ∨
      Yields a environment .requestTimeoutSecs (some (.number 0)) := by
  constructor
  · rintro ⟨error, failed⟩
    rw [merge] at failed
    rcases bind_eq_error_iff.mp failed with failed | ⟨port, -, failed⟩
    · exact .inl ⟨.port, by simp, (pick_fails_iff (number_implements _)).mp ⟨error, failed⟩⟩
    rcases bind_eq_error_iff.mp failed with failed | ⟨backend, -, failed⟩
    · exact .inl ⟨.backend, by simp, (pick_fails_iff backendName_implements).mp ⟨error, failed⟩⟩
    rcases bind_eq_error_iff.mp failed with failed | ⟨maxUploadBytes, -, failed⟩
    · exact .inl ⟨.maxUploadBytes, by simp,
        (pick_fails_iff (number_implements _)).mp ⟨error, failed⟩⟩
    rcases bind_eq_error_iff.mp failed with failed | ⟨requestTimeoutSecs, picked, failed⟩
    · exact .inl ⟨.requestTimeoutSecs, by simp,
        (pick_fails_iff (number_implements _)).mp ⟨error, failed⟩⟩
    split at failed
    next zero => exact .inr ((pick_ok_iff (number_implements _)).mp (zero ▸ picked))
    next => cases failed
  · intro refused
    cases merged : merge a environment with
    | error error => exact ⟨error, rfl⟩
    | ok s =>
      obtain ⟨positive, yields⟩ := yields_of_merge merged
      -- The settings that came out would contradict either reason.
      rcases refused with ⟨o, -, fails⟩ | zero
      · exact absurd fails (yields o).not_malformed
      · have shown := zero.unique (yields .requestTimeoutSecs) rfl (reads_functional _)
        exact absurd (by simpa [value?] using shown) positive

/-! ## Variables without influence -/

theorem pick_congr {α : Type} {argument : Option α} {fallback : α}
    {one other : Except SettingsError (Option α)} (same : argument = none → one = other) :
    pick argument one fallback = pick argument other fallback := by
  cases argument with
  | some given => rfl
  | none => rw [same rfl]

theorem or_congr {argument one other : Option String} (same : argument = none → one = other) :
    argument.or one = argument.or other := by
  cases argument with
  | some given => rfl
  | none => rw [same rfl]

/-- Only the variables of settings without an argument are looked at. -/
theorem merge_congr {other : Environment}
    (same : ∀ o, a.given? o = none →
      other (Environment.nameOf o.suffix) = environment (Environment.nameOf o.suffix)) :
    merge a other = merge a environment := by
  have setting (o : OptionName) (absent : a.given? o = none) :
      other.setting? o.suffix = environment.setting? o.suffix := by
    rw [Environment.setting?, same o absent, Environment.setting?]
  -- A setting enters `merge` either as a text or through a reader.
  have text (o : OptionName) (suffix : String) (named : o.suffix = suffix)
      (argument : Option String) (given : a.given? o = argument.map .text) :
      argument.or (other.setting? suffix) = argument.or (environment.setting? suffix) :=
    or_congr fun absent => named ▸ setting o (by rw [given, absent, Option.map_none])
  have typed {α : Type} (o : OptionName) (suffix : String) (named : o.suffix = suffix)
      (argument : Option α) (wrap : α → SettingValue) (given : a.given? o = argument.map wrap)
      (reader : String → Except String α) (fallback : α) :
      pick argument (other.read suffix reader) fallback =
        pick argument (environment.read suffix reader) fallback := by
    refine pick_congr fun absent => ?_
    rw [Environment.read, ← named, setting o (by rw [given, absent, Option.map_none]),
      Environment.read]
  simp only [merge, typed .port "PORT" rfl a.port .number rfl,
    typed .backend "BACKEND" rfl a.backend .backend rfl,
    typed .maxUploadBytes "MAX_UPLOAD_BYTES" rfl a.maxUploadBytes .number rfl,
    typed .requestTimeoutSecs "REQUEST_TIMEOUT_SECS" rfl a.requestTimeoutSecs .number rfl,
    text .host "HOST" rfl a.host rfl, text .bucket "BUCKET" rfl a.bucket rfl,
    text .endpoint "S3_ENDPOINT" rfl a.endpoint rfl, text .region "S3_REGION" rfl a.region rfl,
    text .accessKey "S3_ACCESS_KEY" rfl a.accessKey rfl,
    text .secretKey "S3_SECRET_KEY" rfl a.secretKey rfl,
    text .cdnUrl "CDN_URL" rfl (a.cdnUrl.bind Text.nonBlank) rfl,
    text .publicBaseUrl "PUBLIC_BASE_URL" rfl (a.publicBaseUrl.bind Text.nonBlank) rfl,
    text .authzUrl "AUTHZ_URL" rfl (a.authzUrl.bind Text.nonBlank) rfl]

/-- There are no settings exactly if one of the four values that are parsed has no argument and a
malformed variable, or if the timeout comes to zero.  Otherwise each of the thirteen settings is
what the rule yields.  The variable of a setting that has an argument influences nothing at all,
and any other variable no setting but its own. -/
theorem settings_merged (a : Arguments) (environment : Environment) :
    ((∃ error, merge a environment = .error error) ↔
      (∃ o ∈ [OptionName.port, .backend, .maxUploadBytes, .requestTimeoutSecs],
        Fails a environment o) ∨
      Yields a environment .requestTimeoutSecs (some (.number 0))) ∧
    (∀ s, merge a environment = .ok s → ∀ o, Yields a environment o (s.value? o)) ∧
    (∀ o ∈ [OptionName.cdnUrl, .publicBaseUrl, .authzUrl], ({} : Settings).value? o = none) ∧
    (∀ other : Environment,
      (∀ o, a.given? o = none →
        other (Environment.nameOf o.suffix) = environment (Environment.nameOf o.suffix)) →
      merge a other = merge a environment) ∧
    ∀ (other : Environment) (s t : Settings), merge a environment = .ok s →
      merge a other = .ok t → ∀ o : OptionName,
        other (Environment.nameOf o.suffix) = environment (Environment.nameOf o.suffix) →
        t.value? o = s.value? o := by
  refine ⟨merge_fails_iff, fun s merged => (yields_of_merge merged).2, ?_,
    fun other => merge_congr, fun other s t merged merged_too o same => ?_⟩
  · simp [value?]
  · have settled := (yields_of_merge merged).2 o
    have settled_too := (yields_of_merge merged_too).2 o
    exact settled.unique settled_too same (reads_functional o)

/-- A malformed port in the environment is fatal, unless the command line gives one: then it could
as well be another.  The name of the bucket changes the bucket alone. -/
theorem settings_merged_past_malformed_port :
    let environment : Environment := fun name =>
      if name = "MEDIA_GATEWAY_PORT" then some "http"
      else if name = "MEDIA_GATEWAY_BACKEND" then some " Memory\t"
      else if name = "MEDIA_GATEWAY_CDN_URL" then some "https://cdn"
      else none
    let other : Environment := fun name =>
      if name = "MEDIA_GATEWAY_PORT" then some "65536" else environment name
    let renamed : Environment := fun name =>
      if name = "MEDIA_GATEWAY_BUCKET" then some "photos" else environment name
    let a : Arguments := { port := some 9000, cdnUrl := some " " }
    let s : Settings := { port := 9000, backend := .memory, cdnUrl := some "https://cdn" }
    (∃ error, merge {} environment = .error error) ∧ merge a environment = .ok s ∧
      Yields a environment .backend (some (.backend .memory)) ∧ merge a other = .ok s ∧
      ∃ t, merge a renamed = .ok t ∧ t.bucket = "photos" ∧ t.value? .cdnUrl = s.value? .cdnUrl := by
  intro environment other renamed a s
  have refused : pick none (environment.read "PORT" (number Arguments.maxPort)) 8081 =
      .error (.malformed "MEDIA_GATEWAY_PORT" "http" "invalid digit found in string") := by
    decide +kernel
  have malformed : Fails {} environment .port :=
    (pick_fails_iff (number_implements _)).mp ⟨_, refused⟩
  have merged : merge a environment = .ok s := by decide +kernel
  have same : ∀ o, a.given? o = none →
      other (Environment.nameOf o.suffix) = environment (Environment.nameOf o.suffix) := by
    intro o absent
    cases o with
    | port => cases absent
    | _ => decide +kernel
  have merged_too : merge a renamed = .ok { s with bucket := "photos" } := by decide +kernel
  obtain ⟨fails, -⟩ := settings_merged {} environment
  obtain ⟨-, yields, -, alike, apart⟩ := settings_merged a environment
  exact ⟨fails.mpr (.inl ⟨.port, by simp, malformed⟩), merged, yields s merged .backend,
    (alike other same).trans merged, _, merged_too, rfl,
    apart renamed s _ merged merged_too .cdnUrl (by decide +kernel)⟩

end Settings

end MediaVault
