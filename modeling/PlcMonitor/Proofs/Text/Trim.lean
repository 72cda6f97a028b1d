import Mathlib.Data.List.DropRight
import PlcMonitor.Text.Blank

/-! Trimming takes the blanks at both ends of a text and nothing else, so nothing from one that is
trimmed. -/
namespace PlcMonitor.Text

theorem dropWhile_append_cons {α : Type} {p : α → Bool} {a : α} (stops : p a = false)
    (front back : List α) :
    (front ++ a :: back).dropWhile p = front.dropWhile p ++ a :: back := by
  induction front with
  | nil => simp [stops]
  | cons b front ih => cases h : p b <;> simp [h, ih]

theorem trimmed_eq_rdropWhile (cs : List Char) :
    trimmed cs = (cs.dropWhile isBlank).rdropWhile isBlank := rfl

theorem trimmed_eq_self_iff {cs : List Char} :
    trimmed cs = cs ↔ cs.dropWhile isBlank = cs ∧ cs.rdropWhile isBlank = cs := by
  rw [trimmed_eq_rdropWhile]
  constructor
  · intro h
    have front : cs.dropWhile isBlank = cs := by
      refine (List.dropWhile_suffix _).eq_of_length_le ?_
      calc cs.length = ((cs.dropWhile isBlank).rdropWhile isBlank).length := by rw [h]
        _ ≤ (cs.dropWhile isBlank).length := (List.rdropWhile_prefix _ _).length_le
    rw [front] at h
    exact ⟨front, h⟩
  · rintro ⟨front, back⟩
    rw [front, back]

@[simp] theorem trimmed_trimmed (cs : List Char) : trimmed (trimmed cs) = trimmed cs := by
  rw [trimmed_eq_self_iff, trimmed_eq_rdropWhile]
  refine ⟨?_, List.rdropWhile_idempotent _ _⟩
  -- the first character of what is left is that of the text without its leading blanks
  rw [List.dropWhile_eq_self_iff]
  intro nonempty
  have head := (List.rdropWhile_prefix isBlank (cs.dropWhile isBlank)).getElem nonempty
  have longer : 0 < (cs.dropWhile isBlank).length :=
    nonempty.trans_le (List.rdropWhile_prefix _ _).length_le
  rw [head]
  exact List.dropWhile_get_zero_not isBlank cs longer

@[simp] theorem trim_trim (s : String) : trim (trim s) = trim s := by
  simp [trim]

theorem trimmed_append_cons {c : Char} (solid : isBlank c = false) (front back : List Char) :
    trimmed (front ++ c :: back) =
      front.dropWhile isBlank ++ c :: back.rdropWhile isBlank := by
  rw [trimmed_eq_rdropWhile, dropWhile_append_cons solid]
  simp only [List.rdropWhile, List.reverse_append, List.reverse_cons, List.append_assoc,
    List.singleton_append, dropWhile_append_cons solid, List.reverse_reverse]

/-- Trimming leaves what stands between two runs of blanks and has no blank at its ends. -/
theorem trimmed_eq_iff {cs kept : List Char} :
    trimmed cs = kept ↔
      (∀ c ∈ kept.head?, isBlank c = false) ∧ (∀ c ∈ kept.getLast?, isBlank c = false) ∧
      ∃ front back, cs = front ++ (kept ++ back) ∧ (∀ c ∈ front, isBlank c = true) ∧
        ∀ c ∈ back, isBlank c = true := by
  constructor
  · rintro rfl
    obtain ⟨head, last⟩ := trimmed_eq_self_iff.mp (trimmed_trimmed cs)
    refine ⟨fun c hc => ?_, fun c hc => ?_, cs.takeWhile isBlank,
      (cs.dropWhile isBlank).rtakeWhile isBlank, ?_, ?_, ?_⟩
    · obtain ⟨rest, h⟩ := List.head?_eq_some_iff.mp hc
      rw [h, List.dropWhile_eq_self_iff] at head
      exact eq_false_of_ne_true (head (Nat.succ_pos _))
    · obtain ⟨rest, h⟩ := List.getLast?_eq_some_iff.mp hc
      rw [h, List.rdropWhile_eq_self_iff] at last
      simpa using last (by simp)
    · rw [trimmed_eq_rdropWhile, List.rdropWhile_append_rtakeWhile,
        List.takeWhile_append_dropWhile]
    · exact fun c => List.mem_takeWhile_imp
    · exact fun c => List.mem_rtakeWhile_imp
  · rintro ⟨head, last, front, back, rfl, before, behind⟩
    cases kept with
    | nil =>
      rw [trimmed_eq_rdropWhile, List.nil_append,
        List.dropWhile_eq_nil_iff.mpr (List.forall_mem_append.mpr ⟨before, behind⟩)]
      rfl
    -- trimming in front stops at the first character kept, trimming behind at the last
    | cons c rest =>
      have within : (rest ++ back).rdropWhile isBlank = rest.rdropWhile isBlank := by
        rw [List.rdropWhile, List.reverse_append,
          List.dropWhile_append_of_pos fun c hc => behind c (List.mem_reverse.mp hc)]
        rfl
      have whole : rest.rdropWhile isBlank = rest := by
        rw [List.rdropWhile_eq_self_iff]
        intro some
        have solid := last (rest.getLast some) (by
          simp [List.getLast?_cons, List.getLast?_eq_getLast_of_ne_nil some])
        simp [solid]
      rw [List.cons_append, trimmed_append_cons (head c rfl),
        List.dropWhile_eq_nil_iff.mpr before, within, whole, List.nil_append]

theorem exists_blanks_append {head tail : List Char}
    (clean : trimmed (head ++ tail) = head ++ tail) :
    ∃ blanks, (∀ c ∈ blanks, isBlank c = true) ∧ tail = blanks ++ trimmed tail := by
  obtain ⟨-, last, -⟩ := trimmed_eq_iff.mp clean
  obtain ⟨-, -, front, back, split, before, behind⟩ := trimmed_eq_iff.mp (rfl : trimmed tail = _)
  rcases List.eq_nil_or_concat back with rfl | ⟨rest, c, rfl⟩
  · exact ⟨front, before, by rwa [List.append_nil] at split⟩
  · have solid : isBlank c = false := last c (by rw [split]; simp)
    have blank : isBlank c = true := behind c (by simp)
    cases solid.symm.trans blank

theorem trimmed_blanks_append {blanks cs : List Char} (blank : ∀ c ∈ blanks, isBlank c = true)
    (solid : ∀ c ∈ cs, isBlank c = false) : trimmed (blanks ++ cs) = cs :=
  trimmed_eq_iff.mpr ⟨fun c hc => solid c (List.mem_of_mem_head? hc),
    fun c hc => solid c (List.mem_of_mem_getLast? hc), blanks, [],
    by rw [List.append_nil], blank, List.forall_mem_nil _⟩

theorem trimmed_of_no_blank {cs : List Char} (h : ∀ c ∈ cs, isBlank c = false) :
    trimmed cs = cs :=
  trimmed_blanks_append (List.forall_mem_nil _) h

theorem trim_of_no_blank {s : String} (h : ∀ c ∈ s.toList, isBlank c = false) : trim s = s := by
  rw [trim, trimmed_of_no_blank h, String.ofList_toList]

end PlcMonitor.Text
