import SyncLedger.Proofs.Json.Layer
import SyncLedger.Proofs.Json.ReadBack
import SyncLedger.Settings.Load

/-!
# The settings of a file

A `Setting` has a place of its own in a file: an entry of one of three tables. None of them can be
given as an object. So two files give the same settings if the entries of their tables are alike,
and what a file gives for a setting depends on its entry alone, as long as its table is one.
-/

namespace SyncLedger

open Decode Json

/-- What a file can say, in one place for each. -/
inductive Setting where
  | pollInterval
  | callTimeout
  | shutdownGrace
  | processRateLimitedMessages
  | failSyncOnDestinationTimeout
  | overrides
  | metricsUrl
  | exportInterval
deriving DecidableEq

namespace Setting

/-- The table that the setting is an entry of. -/
def table : Setting → String
  | pollInterval => "destination_timeout"
  | callTimeout => "destination_timeout"
  | shutdownGrace => "destination_timeout"
  | processRateLimitedMessages => "feature_flags"
  | failSyncOnDestinationTimeout => "feature_flags"
  | overrides => "feature_flags"
  | metricsUrl => "opentelemetry"
  | exportInterval => "opentelemetry"

abbrev Value : Setting → Type
  | pollInterval => Duration
  | callTimeout => Duration
  | shutdownGrace => Duration
  | processRateLimitedMessages => Option Bool
  | failSyncOnDestinationTimeout => Option Bool
  | overrides => List FlagOverride
  | metricsUrl => Option String
  | exportInterval => Option Duration

/-- How the setting is read. -/
def field : (s : Setting) → Decode.Field s.Value
  | pollInterval => secondsOr "poll_interval_secs" TimeoutSettings.standard.pollInterval
  | callTimeout => secondsOr "timeout_secs" TimeoutSettings.standard.timeout
  | shutdownGrace => secondsOr "shutdown_grace_secs" TimeoutSettings.standard.shutdownGrace
  | processRateLimitedMessages => optional "process_rate_limited_messages" bool
  | failSyncOnDestinationTimeout => optional "fail_sync_on_destination_timeout" bool
  | overrides => defaulted "overrides" (list (FlagOverride.decode .settings)) []
  | metricsUrl => nullable "metrics_url" string
  | exportInterval => optional "metrics_export_interval_secs" seconds

/-- The key of the entry. -/
def key (s : Setting) : String := s.field.name

/-- What a file says. -/
def value : (s : Setting) → SettingsFile → s.Value
  | pollInterval, f => f.destinationTimeout.pollInterval
  | callTimeout, f => f.destinationTimeout.timeout
  | shutdownGrace, f => f.destinationTimeout.shutdownGrace
  | processRateLimitedMessages, f => f.featureFlags.processRateLimitedMessages
  | failSyncOnDestinationTimeout, f => f.featureFlags.failSyncOnDestinationTimeout
  | overrides, f => f.featureFlags.overrides
  | metricsUrl, f => f.telemetry.bind TelemetrySettings.metricsUrl
  | exportInterval, f => f.telemetry.bind TelemetrySettings.exportInterval

theorem eq_of_key {s t : Setting} (h : s.key = t.key) : s = t := by
  cases s <;> cases t <;> first
    | rfl
    | exact absurd h (by decide +kernel)

theorem decode_obj_ne_ok (s : Setting) (fs : List (String × Json)) (a : s.Value) :
    s.field.decode (.obj fs) ≠ .ok a := by
  cases s with
  | pollInterval | callTimeout | shutdownGrace => exact nofun
  | processRateLimitedMessages | failSyncOnDestinationTimeout | overrides => exact nofun
  | metricsUrl | exportInterval => exact nofun

end Setting

/-! ## Readers that see no difference -/

namespace Decode

variable {α β : Type} {o p : List (String × Json)}

/-- The fields are read alike from two objects. -/
def Fields.Agree (fs : Fields α) (o p : List (String × Json)) : Prop :=
  ∀ a, fs.Reads o a ↔ fs.Reads p a

/-- The field is read alike from two objects. -/
def Field.Agree (f : Field α) (o p : List (String × Json)) : Prop :=
  ∀ a, f.Reads o a ↔ f.Reads p a

theorem agree_nothing (a : α) : (nothing a).Agree o p := fun _ => Iff.rfl

theorem Fields.reads_and_iff {fs : Fields (α → β)} {f : Field α} {b : β} :
    (fs.and f).Reads o b ↔ ∃ g a, fs.Reads o g ∧ f.Reads o a ∧ g a = b :=
  Fields.ofObject_and_eq_ok_iff

theorem Fields.Agree.and {fs : Fields (α → β)} {f : Field α} (hfs : fs.Agree o p)
    (hf : f.Agree o p) : (fs.and f).Agree o p := by
  intro b
  rw [Fields.reads_and_iff, Fields.reads_and_iff]
  simp only [hfs _, hf _]

theorem reads_nothing_iff {a b : α} : (nothing a).Reads o b ↔ a = b := by
  simp [Fields.Reads, nothing]

theorem record_obj_eq_ok_iff {d : Dialect} {what : String} {fs : Fields α} {a : α} :
    record d what fs (.obj o) = .ok a ↔ fs.Reads o a :=
  ofMembers_eq_ok_iff

theorem option_record_obj_eq_ok_iff {d : Dialect} {what : String} {fs : Fields α}
    {x : Option α} :
    option (record d what fs) (.obj o) = .ok x ↔ ∃ a, fs.Reads o a ∧ some a = x := by
  have hrecord (a : α) : record d what fs (.obj o) = .ok a ↔ fs.Reads o a :=
    record_obj_eq_ok_iff
  simp only [← hrecord]
  rw [option_of_ne_null _ Json.noConfusion]
  cases record d what fs (.obj o) with
  | error e => simp [Except.map]
  | ok a => simp [Except.map]

theorem Field.agree_of_alike {f : Field α} (hobj : ∀ fs a, f.decode (.obj fs) ≠ .ok a)
    (h : Option.Rel Alike (field? f.name o) (field? f.name p)) : f.Agree o p := by
  intro a
  rw [Field.Reads, Field.Reads, Field.inObject_eq_ok_iff, Field.inObject_eq_ok_iff]
  generalize field? f.name o = x at h
  generalize field? f.name p = y at h
  cases h with
  | none => rfl
  | some h =>
      rcases h with rfl | ⟨fs, gs, rfl, rfl⟩
      · rfl
      · simp [hobj]

/-- The name stands for the same, or for two tables with entries that are alike. -/
def SameTable (name : String) (o p : List (String × Json)) : Prop :=
  field? name o = field? name p ∨ ∃ fs gs, field? name o = some (.obj fs) ∧
    field? name p = some (.obj gs) ∧ ∀ key, Option.Rel Alike (field? key fs) (field? key gs)

theorem Field.agree_of_sameTable {f : Field α}
    (hdecode : ∀ fs gs, (∀ key, Option.Rel Alike (field? key fs) (field? key gs)) →
      ∀ a, f.decode (.obj fs) = .ok a ↔ f.decode (.obj gs) = .ok a)
    (h : SameTable f.name o p) : f.Agree o p := by
  intro a
  rw [Field.Reads, Field.Reads, Field.inObject_eq_ok_iff, Field.inObject_eq_ok_iff]
  rcases h with h | ⟨fs, gs, ho, hp, hkeys⟩
  · rw [h]
  · rw [ho, hp]
    simp [hdecode fs gs hkeys a]

/-- The fields are read alike from tables with entries that are alike. -/
def Fields.Indifferent (fs : Fields α) : Prop :=
  ∀ o p, (∀ key, Option.Rel Alike (field? key o) (field? key p)) → fs.Agree o p

theorem agree_defaulted_record {d : Dialect} {name what : String} {fs : Fields α} {value : α}
    (hfs : fs.Indifferent) (h : SameTable name o p) :
    (defaulted name (record d what fs) value).Agree o p := by
  refine Field.agree_of_sameTable (fun o p hkeys a => ?_) h
  change record d what fs (.obj o) = .ok a ↔ record d what fs (.obj p) = .ok a
  rw [record_obj_eq_ok_iff, record_obj_eq_ok_iff]
  exact hfs o p hkeys a

theorem agree_nullable_record {d : Dialect} {name what : String} {fs : Fields α}
    (hfs : fs.Indifferent) (h : SameTable name o p) :
    (nullable name (record d what fs)).Agree o p := by
  refine Field.agree_of_sameTable (fun o p hkeys x => ?_) h
  have hagree := hfs o p hkeys
  change option (record d what fs) (.obj o) = .ok x ↔ option (record d what fs) (.obj p) = .ok x
  rw [option_record_obj_eq_ok_iff, option_record_obj_eq_ok_iff]
  simp only [hagree _]

/-- What a table says that is read as a record, or is not there. -/
theorem reads_table {d : Dialect} {name what : String} {fs : Fields α} {a value : α}
    (hempty : fs.Reads [] value) (htable : IsTable name o)
    (h : (defaulted name (record d what fs) value).Reads o a) : fs.Reads (Json.table name o) a := by
  rw [Field.Reads, Field.inObject_eq_ok_iff] at h
  rcases htable.cases with hnone | hsome
  · rcases h with ⟨j, hj, -⟩ | ⟨-, ha⟩
    · cases hnone.symm.trans hj
    · obtain rfl := Option.some.inj ha
      rw [table_of_none hnone]
      exact hempty
  · rcases h with ⟨j, hj, ha⟩ | ⟨hnone, -⟩
    · obtain rfl := Option.some.inj (hsome.symm.trans hj)
      have hrecord : record d what fs (.obj (Json.table name o)) = .ok a := ha
      exact record_obj_eq_ok_iff.mp hrecord
    · cases hsome.symm.trans hnone

/-- What a table says that is read as a record, if it is there. -/
theorem reads_table_or_nil {d : Dialect} {name what : String} {fs : Fields α} {x : Option α}
    (htable : IsTable name o) (h : (nullable name (record d what fs)).Reads o x) :
    x = none ∧ Json.table name o = [] ∨ ∃ a, x = some a ∧ fs.Reads (Json.table name o) a := by
  rw [Field.Reads, Field.inObject_eq_ok_iff] at h
  rcases htable.cases with hnone | hsome
  · rcases h with ⟨j, hj, -⟩ | ⟨-, hx⟩
    · cases hnone.symm.trans hj
    · exact .inl ⟨(Option.some.inj hx).symm, table_of_none hnone⟩
  · rcases h with ⟨j, hj, hx⟩ | ⟨hnone, -⟩
    · obtain rfl := Option.some.inj (hsome.symm.trans hj)
      have hoption : option (record d what fs) (.obj (Json.table name o)) = .ok x := hx
      obtain ⟨a, ha, rfl⟩ := option_record_obj_eq_ok_iff.mp hoption
      exact .inr ⟨a, rfl, ha⟩
    · cases hsome.symm.trans hnone

theorem Field.Reads.unique {f : Field α} {a b : α} (ha : f.Reads o a) (hb : f.Reads p b)
    (h : field? f.name o = field? f.name p) : a = b := by
  rw [Field.Reads, Field.inObject] at ha hb
  rw [h] at ha
  exact Except.ok.inj (ha.symm.trans hb)

end Decode

/-! ## The three tables -/

namespace SettingsFile

/-- The fields of the table about the supervision of destinations. -/
def timeoutFields : Fields TimeoutSettings :=
  (nothing TimeoutSettings.mk).and Setting.pollInterval.field
    |>.and Setting.callTimeout.field
    |>.and Setting.shutdownGrace.field

/-- The fields of the table about flags. -/
def flagFields : Fields FlagSettings :=
  (nothing FlagSettings.mk).and Setting.processRateLimitedMessages.field
    |>.and Setting.failSyncOnDestinationTimeout.field
    |>.and Setting.overrides.field

/-- The fields of the table about telemetry. -/
def telemetryFields : Fields TelemetrySettings :=
  (nothing TelemetrySettings.mk).and Setting.metricsUrl.field
    |>.and Setting.exportInterval.field

def timeoutTable : Decode.Field TimeoutSettings :=
  defaulted "destination_timeout" (record .settings "DestinationTimeoutConfig" timeoutFields)
    TimeoutSettings.standard

def flagTable : Decode.Field FlagSettings :=
  defaulted "feature_flags" (record .settings "FeatureFlagsConfig" flagFields) FlagSettings.empty

def telemetryTable : Decode.Field (Option TelemetrySettings) :=
  nullable "opentelemetry" (record .settings "OpenTelemetryConfig" telemetryFields)

/-- The settings are those of the three tables. -/
def fields : Fields SettingsFile :=
  (nothing SettingsFile.mk).and timeoutTable |>.and flagTable |>.and telemetryTable

variable {o p : List (String × Json)} {f g : SettingsFile}

theorem decode_eq_ok_iff : decode .settings (.obj o) = .ok f ↔ fields.Reads o f :=
  record_obj_eq_ok_iff

theorem reads_iff : fields.Reads o f ↔ timeoutTable.Reads o f.destinationTimeout ∧
    flagTable.Reads o f.featureFlags ∧ telemetryTable.Reads o f.telemetry := by
  simp only [fields, Fields.reads_and_iff, reads_nothing_iff]
  constructor
  · rintro ⟨_, telemetry, ⟨_, flags, ⟨_, timeout, rfl, htimeout, rfl⟩, hflags, rfl⟩,
      htelemetry, rfl⟩
    exact ⟨htimeout, hflags, htelemetry⟩
  · rintro ⟨htimeout, hflags, htelemetry⟩
    exact ⟨_, _, ⟨_, _, ⟨_, _, rfl, htimeout, rfl⟩, hflags, rfl⟩, htelemetry, rfl⟩

theorem agree_setting (s : Setting)
    (h : ∀ key, Option.Rel Alike (field? key o) (field? key p)) : s.field.Agree o p :=
  Field.agree_of_alike s.decode_obj_ne_ok (h s.key)

theorem timeoutFields_indifferent : timeoutFields.Indifferent := fun _ _ h =>
  (((agree_nothing _).and (agree_setting .pollInterval h)).and (agree_setting .callTimeout h)).and
    (agree_setting .shutdownGrace h)

theorem flagFields_indifferent : flagFields.Indifferent := fun _ _ h =>
  (((agree_nothing _).and (agree_setting .processRateLimitedMessages h)).and
    (agree_setting .failSyncOnDestinationTimeout h)).and (agree_setting .overrides h)

theorem telemetryFields_indifferent : telemetryFields.Indifferent := fun _ _ h =>
  ((agree_nothing _).and (agree_setting .metricsUrl h)).and (agree_setting .exportInterval h)

/-- The same settings are read from two objects whose tables have entries that are alike. -/
theorem decode_eq_ok_congr (h : ∀ name, SameTable name o p) :
    decode .settings (.obj o) = .ok f ↔ decode .settings (.obj p) = .ok f := by
  have htimeout : timeoutTable.Agree o p := agree_defaulted_record timeoutFields_indifferent (h _)
  have hflags : flagTable.Agree o p := agree_defaulted_record flagFields_indifferent (h _)
  have htelemetry : telemetryTable.Agree o p :=
    agree_nullable_record telemetryFields_indifferent (h _)
  rw [decode_eq_ok_iff, decode_eq_ok_iff]
  exact (((agree_nothing _).and htimeout).and hflags).and htelemetry f

/-! ## One setting -/

theorem reads_timeoutFields_iff {t : TimeoutSettings} : timeoutFields.Reads o t ↔
    Setting.pollInterval.field.Reads o t.pollInterval ∧
      Setting.callTimeout.field.Reads o t.timeout ∧
      Setting.shutdownGrace.field.Reads o t.shutdownGrace := by
  simp only [timeoutFields, Fields.reads_and_iff, reads_nothing_iff]
  constructor
  · rintro ⟨_, grace, ⟨_, timeout, ⟨_, interval, rfl, hinterval, rfl⟩, htimeout, rfl⟩, hgrace, rfl⟩
    exact ⟨hinterval, htimeout, hgrace⟩
  · rintro ⟨hinterval, htimeout, hgrace⟩
    exact ⟨_, _, ⟨_, _, ⟨_, _, rfl, hinterval, rfl⟩, htimeout, rfl⟩, hgrace, rfl⟩

theorem reads_flagFields_iff {t : FlagSettings} : flagFields.Reads o t ↔
    Setting.processRateLimitedMessages.field.Reads o t.processRateLimitedMessages ∧
      Setting.failSyncOnDestinationTimeout.field.Reads o t.failSyncOnDestinationTimeout ∧
      Setting.overrides.field.Reads o t.overrides := by
  simp only [flagFields, Fields.reads_and_iff, reads_nothing_iff]
  constructor
  · rintro ⟨_, overrides, ⟨_, failing, ⟨_, processing, rfl, hprocessing, rfl⟩, hfailing, rfl⟩,
      hoverrides, rfl⟩
    exact ⟨hprocessing, hfailing, hoverrides⟩
  · rintro ⟨hprocessing, hfailing, hoverrides⟩
    exact ⟨_, _, ⟨_, _, ⟨_, _, rfl, hprocessing, rfl⟩, hfailing, rfl⟩, hoverrides, rfl⟩

theorem reads_telemetryFields_iff {t : TelemetrySettings} : telemetryFields.Reads o t ↔
    Setting.metricsUrl.field.Reads o t.metricsUrl ∧
      Setting.exportInterval.field.Reads o t.exportInterval := by
  simp only [telemetryFields, Fields.reads_and_iff, reads_nothing_iff]
  constructor
  · rintro ⟨_, interval, ⟨_, url, rfl, hurl, rfl⟩, hinterval, rfl⟩
    exact ⟨hurl, hinterval⟩
  · rintro ⟨hurl, hinterval⟩
    exact ⟨_, _, ⟨_, _, rfl, hurl, rfl⟩, hinterval, rfl⟩

/-- What is read for a setting is what its entry says. -/
theorem reads_value (h : fields.Reads o f) (s : Setting) (htable : IsTable s.table o) :
    s.field.Reads (Json.table s.table o) (s.value f) := by
  obtain ⟨htimeout, hflags, htelemetry⟩ := reads_iff.mp h
  cases s with
  | pollInterval => exact (reads_timeoutFields_iff.mp (reads_table rfl htable htimeout)).1
  | callTimeout => exact (reads_timeoutFields_iff.mp (reads_table rfl htable htimeout)).2.1
  | shutdownGrace => exact (reads_timeoutFields_iff.mp (reads_table rfl htable htimeout)).2.2
  | processRateLimitedMessages =>
      exact (reads_flagFields_iff.mp (reads_table rfl htable hflags)).1
  | failSyncOnDestinationTimeout =>
      exact (reads_flagFields_iff.mp (reads_table rfl htable hflags)).2.1
  | overrides => exact (reads_flagFields_iff.mp (reads_table rfl htable hflags)).2.2
  | metricsUrl =>
      rw [Setting.value]
      rcases reads_table_or_nil htable htelemetry with ⟨hnone, hnil⟩ | ⟨t, hsome, ht⟩
      · rw [hnone, hnil]
        rfl
      · rw [hsome]
        exact (reads_telemetryFields_iff.mp ht).1
  | exportInterval =>
      rw [Setting.value]
      rcases reads_table_or_nil htable htelemetry with ⟨hnone, hnil⟩ | ⟨t, hsome, ht⟩
      · rw [hnone, hnil]
        rfl
      · rw [hsome]
        exact (reads_telemetryFields_iff.mp ht).2

/-- What is read for a setting depends on its table alone. -/
theorem value_eq_of_field? (hf : fields.Reads o f) (hg : fields.Reads p g) {s : Setting}
    (h : field? s.table o = field? s.table p) : s.value f = s.value g := by
  obtain ⟨htimeout, hflags, htelemetry⟩ := reads_iff.mp hf
  obtain ⟨htimeout', hflags', htelemetry'⟩ := reads_iff.mp hg
  cases s with
  | pollInterval | callTimeout | shutdownGrace =>
      have heq := htimeout.unique htimeout' h
      simp only [Setting.value, heq]
  | processRateLimitedMessages | failSyncOnDestinationTimeout | overrides =>
      have heq := hflags.unique hflags' h
      simp only [Setting.value, heq]
  | metricsUrl | exportInterval =>
      have heq := htelemetry.unique htelemetry' h
      simp only [Setting.value, heq]

/-- If its table is one, what is read for a setting depends on its entry alone. -/
theorem value_eq_of_valueAt? (hf : fields.Reads o f) (hg : fields.Reads p g) {s : Setting}
    (ho : IsTable s.table o) (hp : IsTable s.table p)
    (h : valueAt? s.table s.key o = valueAt? s.table s.key p) : s.value f = s.value g :=
  (reads_value hf s ho).unique (reads_value hg s hp) h

end SettingsFile

end SyncLedger
