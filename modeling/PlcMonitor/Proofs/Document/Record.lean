import PlcMonitor.Document.Record
import PlcMonitor.Proofs.Except
import PlcMonitor.Proofs.Table

/-! Documents read back. A record that is written field by field gives each of its fields the value
its document is read as, and what all readers of a value see to holds of whatever is read. -/
namespace PlcMonitor
variable {ε α β : Type} {depth : Nat} {a : α} {b : β}

namespace Read

theorem bind_apply (first : Read ε α) (next : α → Read ε β) (scope : Scope) (left : Nat) :
    (first >>= next) scope left =
      first scope left >>= fun (result : α × Nat) => next result.1 scope result.2 := rfl

/-- Where lists and maps may be entered `depth` deep this reads `a`, and follows no alias. -/
def Gives (depth : Nat) (inner : Read ε α) (a : α) : Prop :=
  ∀ scope left, depth ≤ scope.depth → inner scope left = .ok (a, left)

namespace Gives

theorem pure (a : α) : Gives depth (Pure.pure a : Read ε α) a := fun _ _ _ => rfl

theorem bind {first : Read ε α} {next : α → Read ε β} (h : Gives depth first a)
    (rest : Gives depth (next a) b) : Gives depth (first >>= next) b := by
  intro scope left room
  rw [bind_apply, h scope left room]
  exact rest scope left room

theorem mono {more : Nat} {inner : Read ε α} (h : Gives depth inner a) (deeper : depth ≤ more) :
    Gives more inner a :=
  fun scope left room => h scope left (Nat.le_trans deeper room)

theorem enter {inner : Read ε α} (h : Gives depth inner a) : Gives (depth + 1) (enter inner) a := by
  intro scope left room
  obtain ⟨inside, room⟩ : ∃ inside, scope.depth = inside + 1 ∧ depth ≤ inside :=
    ⟨scope.depth - 1, by omega, by omega⟩
  rw [Read.enter, room.1]
  exact h { scope with depth := inside } left room.2

theorem again {inner : Read ε α} (h : Gives depth inner a) : Gives depth inner.again a := by
  intro scope left room
  rw [Read.again, h scope scope.jumps room]
  rfl

theorem run {inner : Read ε α} (h : Gives depth inner a) {scope : Scope}
    (room : depth ≤ scope.depth) : inner.run scope = .ok a := by
  rw [Read.run, h scope scope.jumps room]
  rfl

end Gives

def Only (good : α → Prop) (inner : Read ε α) : Prop :=
  ∀ scope left a left', inner scope left = .ok (a, left') → good a

namespace Only
variable {good : α → Prop} {fine : β → Prop}

theorem pure (h : good a) : Only good (Pure.pure a : Read ε α) := by
  rintro scope left _ _ ⟨⟩
  exact h

theorem throw (fault : Fault ε) : Only good (MonadExcept.throw fault : Read ε α) :=
  fun _ _ _ _ h => nomatch h

theorem after {first : Read ε α} {next : α → Read ε β} (rest : ∀ a, Only fine (next a)) :
    Only fine (first >>= next) := by
  intro scope left b left' h
  rw [bind_apply] at h
  obtain ⟨⟨a, between⟩, -, h⟩ := bind_eq_ok.mp h
  exact rest a scope between b left' h

theorem bind {first : Read ε α} {next : α → Read ε β} (own : Only good first)
    (rest : ∀ a, good a → Only fine (next a)) : Only fine (first >>= next) := by
  intro scope left b left' h
  rw [bind_apply] at h
  obtain ⟨⟨a, between⟩, first, h⟩ := bind_eq_ok.mp h
  exact rest a (own scope left a between first) scope between b left' h

theorem again {inner : Read ε α} (own : Only good inner) : Only good inner.again := by
  intro scope left a left' h
  obtain ⟨⟨a, between⟩, first, ⟨⟩⟩ := bind_eq_ok.mp h
  exact own scope scope.jumps a between first

theorem of_run {inner : Read ε α} (own : Only good inner) {scope : Scope}
    (h : inner.run scope = .ok a) : good a := by
  obtain ⟨⟨a, left⟩, first, ⟨⟩⟩ := bind_eq_ok.mp h
  exact own scope scope.jumps a left first

end Only
end Read

namespace Reader
open Read (Gives)

def Reads (depth : Nat) (reader : Reader ε α) (document : Document) (a : α) : Prop :=
  Gives depth (reader (.value document)) a

theorem Reads.ofDocument {reader : Reader ε α} {document : Document}
    (h : Reads depth reader document a) (room : depth ≤ 128) :
    reader.ofDocument document = .ok a :=
  Gives.run h room

theorem reads_ofView? {view : Node → Option α} {document : Document}
    (h : view (.value document) = some a) : Reads depth (ofView? view : Reader ε α) document a := by
  refine Gives.bind (.pure (Node.value document)) ?_
  rw [h]
  exact .pure a

theorem reads_text (s : String) : Reads depth (text : Reader ε String) (.text s) s :=
  reads_ofView? rfl

theorem reads_bool (b : Bool) : Reads depth (bool : Reader ε Bool) (.bool b) b :=
  reads_ofView? rfl

theorem reads_float (x : Float) : Reads depth (float : Reader ε Float) (.float x) x :=
  reads_ofView? rfl

theorem reads_choice {ofName? : String → Option α} {names : List String} {name : String}
    (h : ofName? name = some a) :
    Reads depth (choice ofName? names : Reader ε α) (.text name) a := by
  refine Gives.bind (.pure (Node.value (.text name))) (Gives.bind (.pure name) ?_)
  rw [ofName, h]
  exact .pure a

theorem reads_optional {reader : Reader ε α} {write : α → Document}
    (solid : ∀ a, write a ≠ .null) (each : ∀ a, Reads depth reader (write a) a) (x : Option α) :
    Reads depth (optional reader) (Document.optional write x) x := by
  cases x with
  | none => exact fun _ _ _ => rfl
  | some a =>
    have stands : Node.isAbsent? (.value (write a)) = some false := by
      unfold Node.isAbsent?
      split
      · contradiction
      · next h => exact (solid a (Node.value.inj h)).elim
      · rfl
    refine Gives.bind (.pure (Node.value (write a))) ?_
    simp only [stands]
    exact Gives.bind (.pure false) ((each a).bind (.pure (some a)))

end Reader

namespace Record
open Read (Gives Only)

/-- A field, what is written for it and what that stands for. -/
structure Part (ε : Type) where
  {α : Type}
  field : Field ε α
  document : Document
  value : α

namespace Part

def name (part : Part ε) : String := part.field.name

def probe (part : Part ε) : Probe ε := part.field.probe

def Reads (depth : Nat) (part : Part ε) : Prop :=
  part.field.read.Reads depth part.document part.value

end Part

def written (parts : List (Part ε)) : Document :=
  .record (parts.map fun part => (part.name, part.document))

def ofParts (parts : List (Part ε)) : Record :=
  ⟨parts.map fun part => (part.name, .value part.document)⟩

variable {parts : List (Part ε)}

theorem gives_checkEntries {probes : List (Probe ε)} (seen : List (String × Node))
    (known : ∀ part ∈ parts, probes.find? (·.name = part.name) = some part.probe)
    (each : ∀ part ∈ parts, part.Reads depth)
    (fresh : ∀ part ∈ parts, seen.any (·.1 = part.name) = false)
    (distinct : (parts.map (·.name)).Nodup) :
    Gives depth
      (checkEntries probes seen
        (parts.map fun part => (.value (.text part.name), .value part.document)))
      (seen.reverse ++ (ofParts parts).fields) := by
  induction parts generalizing seen with
  | nil => simpa [ofParts, checkEntries] using Gives.pure seen.reverse
  | cons part rest ih =>
    obtain ⟨ownProbe, known⟩ := List.forall_mem_cons.mp known
    obtain ⟨ownReads, each⟩ := List.forall_mem_cons.mp each
    obtain ⟨ownFresh, fresh⟩ := List.forall_mem_cons.mp fresh
    obtain ⟨ownName, distinct⟩ := List.nodup_cons.mp distinct
    have apart : ∀ other ∈ rest, part.name ≠ other.name :=
      fun other h same => ownName (List.mem_map.mpr ⟨other, h, same.symm⟩)
    have checked : Gives depth (part.probe.check (.value part.document)) () :=
      ownReads.bind (.pure ())
    rw [List.map_cons, checkEntries]
    refine Gives.bind (Reader.reads_text part.name) ?_
    simp only [ownProbe, ownFresh]
    refine checked.bind ?_
    have later := ih ((part.name, .value part.document) :: seen) known each
      (fun other h => by
        rw [List.any_cons, fresh other h]
        simpa using apart other h) distinct
    simpa [ofParts] using later

theorem gives_ofNode (distinct : (parts.map (·.name)).Nodup)
    (each : ∀ part ∈ parts, part.Reads depth) :
    Gives (depth + 1) (ofNode (parts.map (·.probe)) (.value (written parts))) (ofParts parts) := by
  have known : ∀ part ∈ parts,
      (parts.map (·.probe)).find? (·.name = part.name) = some part.probe := by
    intro part h
    rw [List.find?_map]
    exact congrArg _ (find?_of_nodup distinct h)
  have checked := gives_checkEntries [] known each (fun _ _ => rfl) distinct
  have entries : Node.entries? (.value (written parts)) =
      some (parts.map fun part => (.value (.text part.name), .value part.document)) := by
    simp [written, Document.record, Node.entries?, Document.untagged]
  refine Gives.bind (.pure (Node.value (written parts))) ?_
  simp only [entries]
  exact Gives.bind (.pure _) (checked.enter.bind (.pure _))

theorem gives_get (distinct : (parts.map (·.name)).Nodup)
    (each : ∀ part ∈ parts, part.Reads depth) :
    ∀ part ∈ parts, Gives (depth + 1) ((ofParts parts).get part.field) part.value := by
  intro part h
  have found : (ofParts parts).fields.find? (·.1 = part.field.name) =
      some (part.name, .value part.document) := by
    rw [ofParts, List.find?_map]
    exact congrArg _ (find?_of_nodup distinct h)
  rw [get, found]
  exact (Gives.again (each part h)).mono (Nat.le_succ depth)

theorem only_get {good : α → Prop} {field : Field ε α}
    (each : ∀ node, Only good (field.read node))
    (default : ∀ a, field.default? = some a → good a) (record : Record) :
    Only good (record.get field) := by
  unfold get
  split
  · exact (each _).again
  · split
    · next value written => exact .pure (default value written)
    · exact .throw _

end Record
end PlcMonitor
