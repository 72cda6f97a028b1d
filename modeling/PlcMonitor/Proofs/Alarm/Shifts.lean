import Mathlib.Data.List.Rotate
import PlcMonitor.Alarm.Schedule
import PlcMonitor.Time.Zone

/-! Windows that run from each of some times of day to the next, and from the last past midnight to
the first, share out the day: at every instant exactly one of them is active. -/
namespace PlcMonitor

namespace TimeOfDay
variable {a b c : TimeOfDay}

theorem before_iff : a.before b = true ↔ a.second < b.second ∨ a.second = b.second ∧ a.nano < b.nano := by
  simp [before]

theorem not_before_self (a : TimeOfDay) : a.before a = false := by
  simp [before]

theorem before_trans (first : a.before b = true) (second : b.before c = true) :
    a.before c = true := by
  rw [before_iff] at *
  omega

theorem before_of_not_before (first : a.before c = true) (second : ¬b.before c = true) :
    a.before b = true := by
  rw [before_iff] at *
  omega

theorem before_or_before_of_ne (apart : a ≠ b) : a.before b = true ∨ b.before a = true := by
  rw [before_iff, before_iff]
  by_contra neither
  apply apart
  cases a
  cases b
  dsimp only at neither
  congr <;> omega

end TimeOfDay

namespace Schedule

theorem covers_of_before {start finish : TimeOfDay} (inOrder : start.before finish = true)
    (now : TimeOfDay) : covers start finish now = (!now.before start && now.before finish) :=
  if_pos inOrder

theorem covers_of_not_before {start finish : TimeOfDay} (wraps : ¬start.before finish = true)
    (now : TimeOfDay) : covers start finish now = (!now.before start || now.before finish) :=
  if_neg wraps

def window (timezone : Option String) (start finish : TimeOfDay) : Schedule :=
  ⟨true, some start, some finish, timezone⟩

/-- The windows from each time to the next and from the last to the first. -/
def shifts (timezone : Option String) (times : List TimeOfDay) : List Schedule :=
  times.zipWith (window timezone) (times.rotate 1)

section Time
variable (timezone : Option String) (time : TimeOfDay)

/-- A window that ends as it begins runs past midnight, like those that end before they begin. -/
theorem isActiveAt_window (start finish : TimeOfDay) :
    (window timezone start finish).isActiveAt time = covers start finish time := by
  change (decide (start = finish) || covers start finish time) = _
  by_cases whole : start = finish
  · subst whole
    rw [covers_of_not_before (by simp [TimeOfDay.not_before_self])]
    simp
  · simp [whole]

/-- The windows from `start` on, the last of them past midnight to `finish`, leave out what lies
from `finish` to `start` and share out the rest. -/
theorem countP_windows (finish : TimeOfDay) {start : TimeOfDay} {rest : List TimeOfDay}
    (ascending : (start :: rest).Pairwise fun a b => a.before b = true)
    (wraps : ¬start.before finish = true) :
    ((start :: rest).zipWith (window timezone) (rest ++ [finish])).countP (·.isActiveAt time) =
      if !time.before start || time.before finish then 1 else 0 := by
  induction rest generalizing start with
  | nil =>
    simp only [List.nil_append, List.zipWith_cons_cons, List.zipWith_nil_left,
      List.countP_singleton, isActiveAt_window, covers_of_not_before wraps]
  | cons next rest ih =>
    obtain ⟨first, ascending⟩ := List.pairwise_cons.mp ascending
    have inOrder : start.before next = true := first next List.mem_cons_self
    have later : ¬next.before finish = true :=
      fun before => wraps (TimeOfDay.before_trans inOrder before)
    rw [List.cons_append, List.zipWith_cons_cons, List.countP_cons, ih ascending later,
      isActiveAt_window, covers_of_before inOrder]
    -- what the first window covers is what the windows from `next` on leave out of it
    have early : time.before start = true → time.before next = true :=
      fun before => TimeOfDay.before_trans before inOrder
    have ends : time.before finish = true → time.before start = true :=
      fun before => TimeOfDay.before_of_not_before before wraps
    revert early ends
    cases time.before start <;> cases time.before next <;> cases time.before finish <;> decide

theorem countP_shifts {times : List TimeOfDay} (nonempty : times ≠ [])
    (ascending : times.Pairwise fun a b => a.before b = true) :
    (shifts timezone times).countP (·.isActiveAt time) = 1 := by
  cases times with
  | nil => exact absurd rfl nonempty
  | cons first rest =>
    unfold shifts
    rw [List.rotate_cons_succ, List.rotate_zero,
      countP_windows timezone time first ascending (by simp [TimeOfDay.not_before_self])]
    cases time.before first <;> rfl

theorem isActiveAt_between {start finish : TimeOfDay} (inOrder : start.before finish = true) :
    (window timezone finish start).isActiveAt time =
      !(window timezone start finish).isActiveAt time := by
  have one := countP_shifts timezone time (List.cons_ne_nil start [finish])
    (List.pairwise_pair.mpr inOrder)
  change List.countP _ [window timezone start finish, window timezone finish start] = 1 at one
  rw [List.countP_cons, List.countP_singleton] at one
  revert one
  cases (window timezone start finish).isActiveAt time <;>
    cases (window timezone finish start).isActiveAt time <;> decide

theorem isActiveAt_swap {start finish : TimeOfDay} (apart : start ≠ finish) :
    (window timezone finish start).isActiveAt time =
      !(window timezone start finish).isActiveAt time := by
  rcases TimeOfDay.before_or_before_of_ne apart with inOrder | inOrder
  · exact isActiveAt_between timezone time inOrder
  · rw [isActiveAt_between timezone time inOrder, Bool.not_not]

end Time

theorem countP_isActive_shifts (clocks : Clocks) (timezone : Option String) (now : Instant)
    (times : List TimeOfDay) :
    (shifts timezone times).countP (·.isActive clocks now) =
      (shifts timezone times).countP (·.isActiveAt (clocks.localTime timezone now)) := by
  rw [shifts, ← List.map_uncurry_zip_eq_zipWith, List.countP_map, List.countP_map]
  rfl

/-- Of the windows from each of some ascending times to the next, and from the last to the first,
exactly one is active at every instant, whatever the zone is called and whatever its clocks show;
and of a window and the one with its ends exchanged, exactly one. -/
theorem shifts_share_day {times : List TimeOfDay} (nonempty : times ≠ [])
    (ascending : times.Pairwise fun a b => a.before b = true) (timezone : Option String)
    (clocks : Clocks) (now : Instant) :
    (shifts timezone times).countP (·.isActive clocks now) = 1 ∧
    (∀ time, (shifts timezone times).countP (·.isActiveAt time) = 1) ∧
    ∀ {start finish : TimeOfDay}, start ≠ finish →
      (window timezone finish start).isActive clocks now =
        (!(window timezone start finish).isActive clocks now) ∧
      ∀ time, (window timezone finish start).isActiveAt time =
        !(window timezone start finish).isActiveAt time := by
  refine ⟨?_, fun time => countP_shifts timezone time nonempty ascending, fun apart => ⟨?_, ?_⟩⟩
  · rw [countP_isActive_shifts]
    exact countP_shifts timezone _ nonempty ascending
  · exact isActiveAt_swap timezone (clocks.localTime timezone now) apart
  · exact fun time => isActiveAt_swap timezone time apart

/-- From six, from two in the afternoon, and from the leap second at the end of the day. -/
def shiftTimes : List TimeOfDay := [⟨21600, 0⟩, ⟨50400, 0⟩, ⟨86399, 1000000000⟩]

theorem shiftTimes_share_day :
    shiftTimes ≠ [] ∧ (shiftTimes.Pairwise fun a b => a.before b = true) ∧
    (⟨50400, 0⟩ : TimeOfDay) ≠ ⟨21600, 0⟩ ∧
    (shifts (some "Europe/Berlin") shiftTimes).countP
      (·.isActive Zone.clocks ⟨1774746000, 0⟩) = 1 ∧
    (∀ time, (shifts (some "Europe/Berlin") shiftTimes).countP (·.isActiveAt time) = 1) ∧
    (window (some "Europe/Berlin") ⟨21600, 0⟩ ⟨50400, 0⟩).isActive Zone.clocks ⟨1774746000, 0⟩ =
      !(window (some "Europe/Berlin") ⟨50400, 0⟩ ⟨21600, 0⟩).isActive Zone.clocks
        ⟨1774746000, 0⟩ :=
  have nonempty : shiftTimes ≠ [] := by decide
  have ascending : shiftTimes.Pairwise fun a b => a.before b = true := by decide
  have shared := shifts_share_day nonempty ascending (some "Europe/Berlin") Zone.clocks
    ⟨1774746000, 0⟩
  ⟨nonempty, ascending, by decide, shared.1, shared.2.1, (shared.2.2 (by decide)).1⟩

end Schedule
end PlcMonitor
