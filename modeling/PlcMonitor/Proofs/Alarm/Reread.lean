import Mathlib.Data.List.ReduceOption
import PlcMonitor.Alarm.Rule
import PlcMonitor.Proofs.Document.Json
import PlcMonitor.Proofs.Document.Record
import PlcMonitor.Proofs.Time.OfDay

/-! Rules written and read again. A rule that was read is in a canonical form, its comparison named
as it will be read and its times on a clock, and so it is read again as it is. -/
namespace PlcMonitor
open Read (Gives Only)

namespace Comparison

theorem raw_of_ofName {raw kept : String} (h : ofName raw = .unsupported kept) : kept = raw := by
  unfold ofName at h
  split at h <;> cases h
  rfl

/-- A text that is not supported is kept, so it is no more supported when it is read again. -/
@[simp] theorem ofName_name_ofName (raw : String) : ofName (ofName raw).name = ofName raw := by
  cases h : ofName raw with
  | unsupported kept =>
    obtain rfl := raw_of_ofName h
    exact h
  | above | below | outsideRange | insideRange => rfl

end Comparison

namespace Schedule

/-- Each end of the window is on a clock. -/
def OnClock (schedule : Schedule) : Prop :=
  (∀ time ∈ schedule.start, time.OnClock) ∧ ∀ time ∈ schedule.finish, time.OnClock

theorem only_readTime (node : Node) :
    Only (fun time? : Option TimeOfDay => ∀ time ∈ time?, time.OnClock) (readTime node) := by
  refine .after fun raw? => ?_
  cases raw? with
  | none => exact .pure nofun
  | some raw =>
    dsimp only
    split
    case isTrue => exact .pure nofun
    case isFalse =>
      split
      next time parsed =>
        refine .pure fun _ own => ?_
        cases own
        exact .of_parse? parsed
      next => exact .throw _

theorem reads_time {time? : Option TimeOfDay} (h : ∀ time ∈ time?, time.OnClock) (depth : Nat) :
    readTime.Reads depth (Document.optional (fun time => .text time.write) time?) time? := by
  have written : Document.optional (fun time => .text time.write) time? =
      Document.optional .text (time?.map TimeOfDay.write) := by
    cases time? <;> rfl
  rw [written]
  refine Gives.bind (Reader.reads_optional nofun Reader.reads_text _) ?_
  cases time? with
  | none => exact .pure none
  | some time =>
    simp only [Option.map_some, TimeOfDay.trimmed_write, TimeOfDay.write_ne_nil, if_false,
      TimeOfDay.parse?_write (h time rfl)]
    exact .pure (some time)

theorem only_ofNode (node : Node) : Only OnClock (ofNode node) := by
  refine .after fun record => .after fun enabled => ?_
  have ends {field : Field UnreadableTime (Option TimeOfDay)} (reads : field.read = readTime)
      (absent : field.default? = some none) :
      Only (fun time? : Option TimeOfDay => ∀ time ∈ time?, time.OnClock) (record.get field) := by
    refine Record.only_get (fun node => reads ▸ only_readTime node) (fun time? own => ?_) record
    cases absent.symm.trans own
    exact nofun
  refine .bind (ends rfl rfl) fun start onStart => ?_
  refine .bind (ends rfl rfl) fun finish onFinish => .after fun timezone => ?_
  exact .pure ⟨onStart, onFinish⟩

def parts (schedule : Schedule) : List (Record.Part UnreadableTime) :=
  [⟨enabledField, .bool schedule.enabled, schedule.enabled⟩,
   ⟨startField, Document.optional (fun time => .text time.write) schedule.start, schedule.start⟩,
   ⟨finishField, Document.optional (fun time => .text time.write) schedule.finish, schedule.finish⟩,
   ⟨timezoneField, Document.optional .text schedule.timezone, schedule.timezone⟩]

theorem reads_toDocument {schedule : Schedule} (h : schedule.OnClock) :
    ofNode.Reads 1 schedule.toDocument schedule := by
  have distinct : (schedule.parts.map (·.name)).Nodup := by
    change ["enabled", "start", "end", "timezone"].Nodup
    decide
  have each : ∀ part ∈ schedule.parts, part.Reads 0 := by
    simp only [parts, List.forall_mem_cons]
    exact ⟨Reader.reads_bool _, reads_time h.1 0, reads_time h.2 0,
      Reader.reads_optional nofun Reader.reads_text _, nofun⟩
  obtain ⟨enabled, start, finish, timezone, -⟩ :=
    by simpa only [parts, List.forall_mem_cons] using Record.gives_get distinct each
  exact (Record.gives_ofNode distinct each).bind <|
    enabled.bind <| start.bind <| finish.bind <| timezone.bind <| .pure _

theorem inJson_toDocument (schedule : Schedule) :
    schedule.toDocument.inJson = schedule.toDocument := by
  have time (x : Option TimeOfDay) :
      (Document.optional (fun time => .text time.write) x).inJson = _ :=
    Document.inJson_optional (fun _ => rfl) x
  have zone (x : Option String) : (Document.optional .text x).inJson = _ :=
    Document.inJson_optional (fun _ => rfl) x
  simp only [toDocument, Document.inJson_record, List.map_cons, List.map_nil, Document.inJson,
    time, zone]

end Schedule

namespace Limits
variable {α : Type}

def numbers (limits : Limits α) : List α :=
  [limits.warning, limits.alarm, limits.warningLow, limits.warningHigh, limits.alarmLow,
    limits.alarmHigh].reduceOption

def filter (p : α → Bool) (limits : Limits α) : Limits α where
  warningEnabled := limits.warningEnabled
  warning := limits.warning.filter p
  alarm := limits.alarm.filter p
  warningLow := limits.warningLow.filter p
  warningHigh := limits.warningHigh.filter p
  alarmLow := limits.alarmLow.filter p
  alarmHigh := limits.alarmHigh.filter p

theorem filter_eq_self_iff {p : α → Bool} {limits : Limits α} :
    limits.filter p = limits ↔ ∀ x ∈ limits.numbers, p x = true := by
  have alone (x? : Option α) : x?.filter p = x? ↔ ∀ x, some x = x? → p x = true := by
    cases x? <;> simp [Option.filter]
  obtain ⟨enabled, warning, alarm, warningLow, warningHigh, alarmLow, alarmHigh⟩ := limits
  simp only [filter, numbers, mk.injEq, true_and, List.reduceOption_mem_iff, List.mem_cons,
    List.not_mem_nil, or_false, alone, or_imp, forall_and]

end Limits

namespace AlarmRule

/-- What reading sees to: the comparison is named as it will be read, and the schedule is on a
clock. -/
structure Canonical (rule : AlarmRule) : Prop where
  comparison : Comparison.ofName rule.comparison.name = rule.comparison
  schedule : rule.schedule.OnClock

theorem only_ofNode (node : Node) : Only Canonical (ofNode node) := by
  -- of the fourteen fields only two are looked at
  refine .after fun record => .after fun id => .after fun name => .after fun tag => ?_
  refine .after fun enabled => .after fun severity => ?_
  have compares : Only (fun comparison => Comparison.ofName comparison.name = comparison)
      (record.get comparisonField) := by
    refine Record.only_get (fun node => ?_) (fun _ default => ?_) record
    · exact .after fun raw => .pure (Comparison.ofName_name_ofName raw)
    · obtain rfl := Option.some.inj default
      rfl
  refine .bind compares fun comparison stable => .after fun warningEnabled => ?_
  refine .after fun warning => .after fun alarm => .after fun warningLow => ?_
  refine .after fun warningHigh => .after fun alarmLow => .after fun alarmHigh => ?_
  have scheduled : Only Schedule.OnClock (record.get scheduleField) := by
    refine Record.only_get Schedule.only_ofNode (fun _ default => ?_) record
    obtain rfl := Option.some.inj default
    exact ⟨nofun, nofun⟩
  exact .bind scheduled fun schedule onClock => .pure ⟨stable, onClock⟩

def parts (rule : AlarmRule) : List (Record.Part UnreadableTime) :=
  let limit (name : String) (x : Option Float) : Record.Part UnreadableTime :=
    ⟨limitField name, Document.optional .float x, x⟩
  [⟨textField "id", .text rule.id, rule.id⟩, ⟨textField "name", .text rule.name, rule.name⟩,
   ⟨textField "tag", .text rule.tag, rule.tag⟩,
   ⟨flagField "enabled" true, .bool rule.enabled, rule.enabled⟩,
   ⟨severityField, .text rule.severity.name, rule.severity⟩,
   ⟨comparisonField, .text rule.comparison.name, rule.comparison⟩,
   ⟨flagField "warning_enabled" false, .bool rule.limits.warningEnabled,
    rule.limits.warningEnabled⟩,
   limit "warning_threshold" rule.limits.warning, limit "alarm_threshold" rule.limits.alarm,
   limit "warning_low" rule.limits.warningLow, limit "warning_high" rule.limits.warningHigh,
   limit "alarm_low" rule.limits.alarmLow, limit "alarm_high" rule.limits.alarmHigh,
   ⟨scheduleField, rule.schedule.toDocument, rule.schedule⟩]

theorem reads_comparison {comparison : Comparison}
    (stable : Comparison.ofName comparison.name = comparison) (depth : Nat) :
    comparisonField.read.Reads depth (.text comparison.name) comparison := by
  refine Gives.bind (Reader.reads_text comparison.name) ?_
  rw [stable]
  exact .pure comparison

theorem reads_toDocument {rule : AlarmRule} (h : rule.Canonical) :
    ofNode.Reads 2 rule.toDocument rule := by
  have distinct : (rule.parts.map (·.name)).Nodup := by
    change ["id", "name", "tag", "enabled", "severity", "comparison", "warning_enabled",
      "warning_threshold", "alarm_threshold", "warning_low", "warning_high", "alarm_low",
      "alarm_high", "schedule"].Nodup
    decide
  have limit (name : String) (x : Option Float) :
      (limitField name).read.Reads 1 (.optional .float x) x :=
    Reader.reads_optional nofun Reader.reads_float x
  have each : ∀ part ∈ rule.parts, part.Reads 1 := by
    simp only [parts, List.forall_mem_cons]
    exact ⟨Reader.reads_text _, Reader.reads_text _, Reader.reads_text _, Reader.reads_bool _,
      Reader.reads_choice (Severity.ofName?_name _), reads_comparison h.comparison 1,
      Reader.reads_bool _, limit _ _, limit _ _, limit _ _, limit _ _, limit _ _, limit _ _,
      Schedule.reads_toDocument h.schedule, nofun⟩
  obtain ⟨id, name, tag, enabled, severity, comparison, warningEnabled, warning, alarm, warningLow,
      warningHigh, alarmLow, alarmHigh, schedule, -⟩ :=
    by simpa only [parts, List.forall_mem_cons] using Record.gives_get distinct each
  exact (Record.gives_ofNode distinct each).bind <| id.bind <| name.bind <| tag.bind <|
    enabled.bind <| severity.bind <| comparison.bind <| warningEnabled.bind <| warning.bind <|
    alarm.bind <| warningLow.bind <| warningHigh.bind <| alarmLow.bind <| alarmHigh.bind <|
    schedule.bind <| .pure _

theorem Canonical.reread {rule : AlarmRule} (h : rule.Canonical) :
    ofNode.ofDocument rule.toDocument = .ok rule :=
  (reads_toDocument h).ofDocument (by decide)

theorem canonical_iff {rule : AlarmRule} :
    rule.Canonical ↔ ∃ node scope, (ofNode node).run scope = .ok rule :=
  ⟨fun h => ⟨.value rule.toDocument, {}, h.reread⟩, fun ⟨node, _, h⟩ => (only_ofNode node).of_run h⟩

def inJson (rule : AlarmRule) : AlarmRule :=
  { rule with limits := rule.limits.filter Float.isFinite }

theorem Canonical.inJson {rule : AlarmRule} (h : rule.Canonical) : rule.inJson.Canonical :=
  ⟨h.comparison, h.schedule⟩

theorem inJson_eq_self_iff {rule : AlarmRule} :
    rule.inJson = rule ↔ ∀ x ∈ rule.limits.numbers, x.isFinite = true := by
  rw [← Limits.filter_eq_self_iff]
  exact ⟨congrArg limits, fun same => by rw [inJson, same]⟩

theorem inJson_toDocument (rule : AlarmRule) :
    rule.toDocument.inJson = rule.inJson.toDocument := by
  simp only [toDocument, inJson, Document.inJson_record, List.map_cons, List.map_nil,
    Document.inJson, Document.inJson_optional_float, Schedule.inJson_toDocument, Limits.filter]

/-- A rule that was read from some text is read again from what is written for it, whatever its
limits, and from the JSON of that just when its limits are finite. So what is written for rules
tells them apart. -/
theorem toDocument_canonical (node : Node) (scope : Scope) (rule : AlarmRule)
    (decoded : (ofNode node).run scope = .ok rule) :
    ofNode.ofDocument rule.toDocument = .ok rule ∧
      (ofNode.ofDocument rule.toDocument.inJson = .ok rule ↔
        ∀ x ∈ rule.limits.numbers, x.isFinite = true) ∧
      ∀ node' scope' rule', (ofNode node').run scope' = .ok rule' →
        (rule'.toDocument = rule.toDocument ↔ rule' = rule) := by
  have canonical : rule.Canonical := canonical_iff.mpr ⟨node, scope, decoded⟩
  refine ⟨canonical.reread, ?_, fun node' scope' rule' decoded' => ⟨fun same => ?_, congrArg _⟩⟩
  · rw [inJson_toDocument, canonical.inJson.reread, Except.ok.injEq, inJson_eq_self_iff]
  · have canonical' : rule'.Canonical := canonical_iff.mpr ⟨node', scope', decoded'⟩
    have reread' := canonical'.reread
    rw [same, canonical.reread] at reread'
    exact (Except.ok.inj reread').symm

def bandDocument (comparison : String) : Document :=
  .record [("id", .text "band"), ("name", .text "Pressure band"), ("tag", .text "boiler/pressure"),
    ("comparison", .text comparison), ("warning_low", .float 1.5),
    ("schedule", .record [("enabled", .bool true), ("start", .text " 7:5 "),
      ("end", .text "23:59:60"), ("timezone", .text "Mars/Olympus")])]

def bandRule (comparison : Comparison) : AlarmRule where
  id := "band"
  name := "Pressure band"
  tag := "boiler/pressure"
  comparison := comparison
  limits := { warningLow := some 1.5 }
  schedule := ⟨true, some ⟨25500, 0⟩, some ⟨86399, 1000000000⟩, some "Mars/Olympus"⟩

theorem toDocument_canonical_band :
    let rule := bandRule .outsideRange
    let other := bandRule (.unsupported " Near ")
    (ofNode (.value (bandDocument " OUTSIDE_range "))).run {} = .ok rule ∧
      (ofNode (.value (bandDocument " Near "))).run {} = .ok other ∧
      ofNode.ofDocument rule.toDocument = .ok rule ∧
      (ofNode.ofDocument rule.toDocument.inJson = .ok rule ↔
        ∀ x ∈ rule.limits.numbers, x.isFinite = true) ∧
      other.toDocument ≠ rule.toDocument := by
  intro rule other
  have decoded : (ofNode (.value (bandDocument " OUTSIDE_range "))).run {} = .ok rule := by rfl
  have decoded' : (ofNode (.value (bandDocument " Near "))).run {} = .ok other := by rfl
  obtain ⟨reread, inJson, apart⟩ := toDocument_canonical _ _ _ decoded
  refine ⟨decoded, decoded', reread, inJson, fun same => ?_⟩
  exact nomatch congrArg comparison ((apart _ _ _ decoded').mp same)

end AlarmRule
end PlcMonitor
