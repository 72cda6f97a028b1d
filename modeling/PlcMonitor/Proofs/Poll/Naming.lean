import Mathlib.Data.List.Nodup
import PlcMonitor.Poll.Cycle
import PlcMonitor.Proofs.Alarm.Course
import PlcMonitor.Proofs.Configuration.Accepted
import PlcMonitor.Proofs.Text.Joined

/-! Under which key a rule is filed. Devices have names of their own, and rules within a device, but
the key only joins the two by a colon and is trimmed, so that other names may come to the same
key. -/
namespace PlcMonitor

namespace Cycle

def alarmKey (device rule : String) : String := Text.trim s!"{device}:{rule}"

/-- What is left of a device's name in front of the colon of a key. -/
def keyFront (device : String) : List Char := device.toList.dropWhile Text.isBlank

/-- What is left of a rule's id behind the colon of a key. -/
def keyBack (rule : String) : List Char := rule.toList.rdropWhile Text.isBlank

theorem toList_alarmKey (device rule : String) :
    (alarmKey device rule).toList = keyFront device ++ ':' :: keyBack rule := by
  rw [keyFront, keyBack, ← Text.trimmed_append_cons (by decide), alarmKey, Text.toList_trim]
  simp [toString]

theorem alarmKey_eq_iff {device rule device' rule' : String} :
    alarmKey device rule = alarmKey device' rule' ↔
      (keyFront device = keyFront device' ∧ keyBack rule = keyBack rule') ∨
        Reaches ':' (keyFront device) (keyBack rule) (keyFront device') (keyBack rule') ∨
        Reaches ':' (keyFront device') (keyBack rule') (keyFront device) (keyBack rule) := by
  rw [← String.toList_inj, toList_alarmKey, toList_alarmKey]
  exact append_cons_eq_iff

theorem alarmKey_ne_empty (device rule : String) : alarmKey device rule ≠ "" := by
  intro empty
  have := congrArg String.toList empty
  simp [toList_alarmKey] at this

theorem normalized_observation (device : String) (clocks : Clocks) (now : Instant)
    (rule : AlarmRule) (value : Float) :
    (observation device clocks now rule value).normalized.source = polledSource ∧
      (observation device clocks now rule value).normalized.key = alarmKey device rule.id := by
  constructor
  · have solid : Observation.sourceName polledSource = polledSource := by decide
    rw [Observation.normalized_source]
    exact solid
  · exact Observation.normalized_key (alarmKey_ne_empty device rule.id)

/-- The two observations are filed under different names, and taking the one leaves alone what is on
file for the other. -/
structure FiledApart (seen other : Observation) : Prop where
  names : (seen.normalized.source, seen.normalized.key) ≠
    (other.normalized.source, other.normalized.key)
  same : ∀ retries calls, MemoryStore.SameOn (serially retries calls)
    (serially retries (calls ++ [.observe seen])) other.normalized.source other.normalized.key

theorem filedApart_of_names {seen other : Observation}
    (names : (seen.normalized.source, seen.normalized.key) ≠
      (other.normalized.source, other.normalized.key)) : FiledApart seen other := by
  refine ⟨names, fun retries calls => ?_⟩
  have kept := serially_wellKept retries calls
  rw [serially_concat, Call.run_script kept.toIndexed]
  apply kept.sameOn_observe
  rintro ⟨source, key⟩
  exact names (by rw [source, key])

theorem filedApart_iff (device device' : String) (clocks : Clocks) (rule rule' : AlarmRule)
    (now now' : Instant) (x x' : Float) :
    FiledApart (observation device clocks now rule x) (observation device' clocks now' rule' x') ↔
      alarmKey device rule.id ≠ alarmKey device' rule'.id := by
  obtain ⟨source, key⟩ := normalized_observation device clocks now rule x
  obtain ⟨source', key'⟩ := normalized_observation device' clocks now' rule' x'
  rw [← key, ← key']
  constructor
  · intro apart same
    apply apart.names
    rw [source, source', same]
  · intro keys
    exact filedApart_of_names fun same => keys (Prod.mk.inj same).2

end Cycle

open PlcMonitor.Cycle

namespace Configuration

def watches (config : Configuration) : List (DeviceSettings × AlarmRule) :=
  config.devices.flatMap fun device => device.rules.map fun rule => (device, rule)

theorem mem_watches {config : Configuration} {device : DeviceSettings} {rule : AlarmRule} :
    (device, rule) ∈ config.watches ↔ device ∈ config.devices ∧ rule ∈ device.rules := by
  simp only [watches, List.mem_flatMap, List.mem_map, Prod.mk.injEq]
  constructor
  · rintro ⟨_, hdevice, _, hrule, rfl, rfl⟩
    exact ⟨hdevice, hrule⟩
  · rintro ⟨hdevice, hrule⟩
    exact ⟨device, hdevice, rule, hrule, rfl, rfl⟩

/-- In an accepted configuration a rule is known by its device's name and its own id. -/
theorem Accepted.eq_of_names {config : Configuration} (accepted : config.Accepted)
    {a b : DeviceSettings × AlarmRule} (ha : a ∈ config.watches) (hb : b ∈ config.watches)
    (name : a.1.name = b.1.name) (id : a.2.id = b.2.id) : a = b := by
  obtain ⟨hdevice, hrule⟩ := mem_watches.mp ha
  obtain ⟨hdevice', hrule'⟩ := mem_watches.mp hb
  have device : a.1 = b.1 := List.inj_on_of_nodup_map accepted.distinct hdevice hdevice' name
  have distinct := (accepted.devices a.1 hdevice).distinct
  exact Prod.ext device (List.inj_on_of_nodup_map distinct hrule (device ▸ hrule') id)

/-- Names that are not told apart by blanks alone, and of which none goes on behind a colon with
what a rule's id begins with. -/
structure NamedApart (config : Configuration) : Prop where
  blanks : ∀ a ∈ config.watches, ∀ b ∈ config.watches, keyFront a.1.name = keyFront b.1.name →
    keyBack a.2.id = keyBack b.2.id → a.1.name = b.1.name ∧ a.2.id = b.2.id
  colons : ∀ a ∈ config.watches, ∀ b ∈ config.watches,
    ¬Reaches ':' (keyFront a.1.name) (keyBack a.2.id) (keyFront b.1.name) (keyBack b.2.id)

/-- No device has a colon in its name or a blank before it, and no rule a blank behind its id. -/
structure PlainlyNamed (config : Configuration) : Prop where
  joined : ∀ device ∈ config.devices, ':' ∉ device.name.toList
  begins : ∀ device ∈ config.devices, keyFront device.name = device.name.toList
  ends : ∀ device ∈ config.devices, ∀ rule ∈ device.rules, keyBack rule.id = rule.id.toList

theorem PlainlyNamed.namedApart {config : Configuration} (plain : config.PlainlyNamed) :
    config.NamedApart where
  blanks a ha b hb front back := by
    obtain ⟨hdevice, hrule⟩ := mem_watches.mp ha
    obtain ⟨hdevice', hrule'⟩ := mem_watches.mp hb
    rw [plain.begins _ hdevice, plain.begins _ hdevice'] at front
    rw [plain.ends _ hdevice _ hrule, plain.ends _ hdevice' _ hrule'] at back
    exact ⟨String.toList_inj.mp front, String.toList_inj.mp back⟩
  colons a ha b _ := by
    obtain ⟨hdevice, -⟩ := mem_watches.mp ha
    rintro ⟨between, goesOn, -⟩
    rw [plain.begins _ hdevice] at goesOn
    exact plain.joined _ hdevice (by simp [goesOn])

/-- What two rules of an accepted configuration see is filed apart just if the names are apart, as
plain names are. -/
theorem filedApart_iff_namedApart {config : Configuration} (valid : config.validate = .ok ()) :
    ((∀ a ∈ config.watches, ∀ b ∈ config.watches, a ≠ b →
      ∀ (clocks : Clocks) (now later : Instant) (x y : Float),
        FiledApart (observation a.1.name clocks now a.2 x)
          (observation b.1.name clocks later b.2 y)) ↔
      config.NamedApart) ∧
    (config.PlainlyNamed → config.NamedApart) := by
  have accepted := validate_eq_ok_iff.mp valid
  refine ⟨⟨fun apart => ?_, fun named => ?_⟩, PlainlyNamed.namedApart⟩
  · have keys : ∀ a ∈ config.watches, ∀ b ∈ config.watches,
        alarmKey a.1.name a.2.id = alarmKey b.1.name b.2.id → a = b := by
      intro a ha b hb same
      refine Classical.not_not.mp fun distinct => ?_
      exact (filedApart_iff _ _ (fun _ => none) _ _ ⟨0, 0⟩ ⟨0, 0⟩ 0 0).mp
        (apart a ha b hb distinct _ _ _ _ _) same
    constructor
    · intro a ha b hb front back
      obtain rfl := keys a ha b hb (alarmKey_eq_iff.mpr (.inl ⟨front, back⟩))
      exact ⟨rfl, rfl⟩
    · intro a ha b hb reaches
      obtain rfl := keys a ha b hb (alarmKey_eq_iff.mpr (.inr (.inl reaches)))
      exact not_reaches_self reaches
  · intro a ha b hb distinct clocks now later x y
    refine (filedApart_iff _ _ _ _ _ _ _ _ _).mpr fun same => ?_
    rcases alarmKey_eq_iff.mp same with ⟨front, back⟩ | reaches | reaches
    · obtain ⟨name, id⟩ := named.blanks a ha b hb front back
      exact distinct (accepted.eq_of_names ha hb name id)
    · exact named.colons a ha b hb reaches
    · exact named.colons b hb a ha reaches

end Configuration

def hotRule (id : String) : AlarmRule where
  id := id
  name := "Too hot"
  tag := "temperature"

def pressNamed (name rule : String) : DeviceSettings where
  name := name
  host := "10.0.0.7"
  tags := .group [("temperature", .tag { address := 40001, type := .integer })]
  rules := [hotRule rule]

def presses : Configuration where
  devices := [pressNamed "press" "1/hot", pressNamed "press/1" "hot"]

theorem presses_filedApart_iff :
    presses.validate = .ok () ∧ presses.PlainlyNamed ∧
    ((∀ a ∈ presses.watches, ∀ b ∈ presses.watches, a ≠ b →
      ∀ (clocks : Clocks) (now later : Instant) (x y : Float),
        FiledApart (observation a.1.name clocks now a.2 x)
          (observation b.1.name clocks later b.2 y)) ↔
      presses.NamedApart) ∧
    (presses.PlainlyNamed → presses.NamedApart) :=
  ⟨rfl, ⟨by decide, by decide, by decide⟩, Configuration.filedApart_iff_namedApart rfl⟩

/-- Two presses whose rules are filed under one key, `press:1:hot`. -/
def confusedPresses : Configuration where
  devices := [pressNamed "press" "1:hot", pressNamed "press:1" "hot"]

theorem confusedPresses_filed_together :
    ¬∀ config : Configuration, config.validate = .ok () →
      ∀ a ∈ config.watches, ∀ b ∈ config.watches, a ≠ b →
        ∀ (clocks : Clocks) (now later : Instant) (x y : Float),
          let seen := (observation a.1.name clocks now a.2 x).normalized
          let other := (observation b.1.name clocks later b.2 y).normalized
          (seen.source, seen.key) ≠ (other.source, other.key) := by
  intro claimed
  have distinct : (pressNamed "press" "1:hot", hotRule "1:hot") ≠
      (pressNamed "press:1" "hot", hotRule "hot") := fun same =>
    absurd (congrArg (fun pair => pair.2.id) same) (by decide)
  have first : (pressNamed "press" "1:hot", hotRule "1:hot") ∈ confusedPresses.watches := by
    simp [Configuration.watches, confusedPresses, pressNamed]
  have second : (pressNamed "press:1" "hot", hotRule "hot") ∈ confusedPresses.watches := by
    simp [Configuration.watches, confusedPresses, pressNamed]
  have apart := filedApart_of_names
    (claimed confusedPresses rfl _ first _ second distinct (fun _ => none) ⟨0, 0⟩ ⟨1, 0⟩ 90 20)
  exact (filedApart_iff _ _ _ (hotRule "1:hot") (hotRule "hot") _ _ _ _).mp apart (by decide)

end PlcMonitor
