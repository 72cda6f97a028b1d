import Mathlib.Tactic.Basic
import PlcMonitor.Proofs.Text.Trim
import PlcMonitor.Time.OfDay

/-! Times of day on a clock, the sixtieth second of any minute among them, are those that can be read,
and each is read from what is written for it. -/
namespace PlcMonitor.TimeOfDay

/-- Some hour, minute and second are this time. -/
def OnClock (time : TimeOfDay) : Prop :=
  ∃ hour minute second, ofClock hour minute second = some time

theorem OnClock.of_parse? {cs : List Char} {time : TimeOfDay} (h : parse? cs = some time) :
    time.OnClock := by
  obtain ⟨⟨hour, afterHour⟩, -, h⟩ := Option.bind_eq_some_iff.mp h
  obtain ⟨⟨minute, afterMinute⟩, -, h⟩ := Option.bind_eq_some_iff.mp h
  dsimp only at h
  split at h
  · exact ⟨hour, minute, 0, h⟩
  · obtain ⟨⟨second, afterSecond⟩, -, h⟩ := Option.bind_eq_some_iff.mp h
    dsimp only at h
    split at h
    · exact ⟨hour, minute, second, h⟩
    · cases h

/-- The places of a clock can be told from the time; a leap second counts as the sixtieth. -/
theorem OnClock.ofClock_places {time : TimeOfDay} (h : time.OnClock) :
    time.second / 3600 < 100 ∧ time.second % 60 + time.nano / 1000000000 < 100 ∧
      ofClock (time.second / 3600) (time.second / 60 % 60)
        (time.second % 60 + time.nano / 1000000000) = some time := by
  obtain ⟨hour, minute, second, h⟩ := h
  unfold ofClock at h
  split at h
  case isFalse => cases h
  case isTrue within =>
  split at h
  case isTrue leap =>
    obtain rfl := Option.some.inj h
    have hours : (3600 * hour + 60 * minute + 59) / 3600 = hour := by omega
    have minutes : (3600 * hour + 60 * minute + 59) / 60 % 60 = minute := by omega
    have seconds : (3600 * hour + 60 * minute + 59) % 60 + 1000000000 / 1000000000 = 60 := by omega
    simp only [hours, minutes, seconds]
    refine ⟨by omega, by omega, ?_⟩
    rw [ofClock, if_pos ⟨within.1, within.2.1, le_rfl⟩, if_pos rfl]
  case isFalse plain =>
    obtain rfl := Option.some.inj h
    have hours : (3600 * hour + 60 * minute + second) / 3600 = hour := by omega
    have minutes : (3600 * hour + 60 * minute + second) / 60 % 60 = minute := by omega
    have seconds : (3600 * hour + 60 * minute + second) % 60 + 0 / 1000000000 = second := by omega
    simp only [hours, minutes, seconds]
    refine ⟨by omega, by omega, ?_⟩
    rw [ofClock, if_pos within, if_neg plain]

theorem digit_written : ∀ d < 10, (Char.ofNat (48 + d)).isDigit = true ∧
    (Char.ofNat (48 + d)).toNat - '0'.toNat = d ∧ Text.isBlank (Char.ofNat (48 + d)) = false := by
  decide

theorem not_isBlank_of_mem_twoDigits {n : Nat} {c : Char} (h : c ∈ twoDigits n) :
    Text.isBlank c = false := by
  rcases List.mem_pair.mp h with rfl | rfl
  · exact (digit_written _ (Nat.mod_lt _ (by decide))).2.2
  · exact (digit_written _ (Nat.mod_lt _ (by decide))).2.2

theorem number?_twoDigits {n : Nat} (small : n < 100) (rest : List Char) :
    number? (twoDigits n ++ rest) = some (n, rest) := by
  obtain ⟨tens, tensValue, solid⟩ := digit_written (n / 10 % 10) (Nat.mod_lt _ (by decide))
  obtain ⟨ones, onesValue, -⟩ := digit_written (n % 10) (Nat.mod_lt _ (by decide))
  have value : 10 * (n / 10 % 10) + n % 10 = n := by omega
  simp only [number?, twoDigits, List.cons_append, List.nil_append, Text.skipBlanks_of_head solid,
    tens, ones, if_true, tensValue, onesValue, value]

theorem next?_twoDigits {n : Nat} (small : n < 100) (rest : List Char) :
    next? (':' :: (twoDigits n ++ rest)) = some (n, rest) :=
  number?_twoDigits small rest

theorem not_isBlank_of_mem_write {time : TimeOfDay} {c : Char} (h : c ∈ time.write.toList) :
    Text.isBlank c = false := by
  simp only [write, String.toList_ofList, List.mem_append, List.mem_singleton] at h
  rcases h with (((h | rfl) | h) | rfl) | h
  · exact not_isBlank_of_mem_twoDigits h
  · decide
  · exact not_isBlank_of_mem_twoDigits h
  · decide
  · exact not_isBlank_of_mem_twoDigits h

@[simp] theorem trimmed_write (time : TimeOfDay) :
    Text.trimmed time.write.toList = time.write.toList :=
  Text.trimmed_of_no_blank fun _ => not_isBlank_of_mem_write

theorem write_ne_nil (time : TimeOfDay) : time.write.toList ≠ [] := by
  simp [write, twoDigits]

theorem parse?_write {time : TimeOfDay} (h : time.OnClock) :
    parse? time.write.toList = some time := by
  obtain ⟨hours, seconds, clock⟩ := h.ofClock_places
  have minutes : time.second / 60 % 60 < 100 := (Nat.mod_lt _ (by decide)).trans (by decide)
  have shape : time.write.toList = twoDigits (time.second / 3600) ++
      (':' :: (twoDigits (time.second / 60 % 60) ++
        (':' :: (twoDigits (time.second % 60 + time.nano / 1000000000) ++ [])))) := by
    simp [write]
  rw [shape, parse?, number?_twoDigits hours]
  -- something is left behind the minute, so the second is read as well
  simp only [Option.bind_eq_bind, Option.bind_some, next?_twoDigits minutes,
    next?_twoDigits seconds, reduceCtorEq, if_false, if_true, clock]

theorem exists_parse?_iff {time : TimeOfDay} :
    (∃ cs, parse? cs = some time) ↔ time.OnClock :=
  ⟨fun ⟨_, h⟩ => .of_parse? h, fun h => ⟨_, parse?_write h⟩⟩

end PlcMonitor.TimeOfDay
