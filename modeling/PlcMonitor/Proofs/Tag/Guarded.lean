import PlcMonitor.Proofs.Scan.Guarded
import PlcMonitor.Proofs.Tag.Straddled

/-! Tags taken from a tree in machine words. Sums and differences stay in their widths for all
addresses, so that the only thing that can stop the run is a key that is sliced inside a
character. -/
namespace PlcMonitor
namespace Guarded
variable {ε φ α β : Type}

/-- The result of a calculation in which the machine stops at fatal faults, and nowhere else. -/
def settled (fatal : ε → Bool) : Except ε α → ExceptT ε (Except Crash) α
  | .ok a => pure a
  | .error fault => if fatal fault then ExceptT.lift (.error .outOfRange) else throw fault

theorem settled_bind {fatal : ε → Bool} {first : Except ε α} {next : α → Except ε β}
    {guarded : α → ExceptT ε (Except Crash) β}
    (h : ∀ a, first = .ok a → guarded a = settled fatal (next a)) :
    settled fatal first >>= guarded = settled fatal (first >>= next) := by
  cases first with
  | ok a => exact h a rfl
  | error fault =>
    change (if _ then _ else _) >>= _ = if _ then _ else _
    split <;> rfl

theorem lift_bind {a : α} {guarded : α → ExceptT ε (Except Crash) β} :
    ((liftM (.ok a : Except Crash α) : ExceptT ε (Except Crash) α) >>= guarded) = guarded a := rfl

theorem settled_adapt (fatal : ε → Bool) (fatal' : φ → Bool) (f : ε → φ)
    (same : ∀ fault, fatal' (f fault) = fatal fault) (result : Except ε α) :
    (settled fatal result).adapt f = settled fatal' (result.mapError f) := by
  cases result with
  | ok a => rfl
  | error fault =>
    change ExceptT.adapt f (if _ then _ else _) = if _ then _ else _
    rw [same]
    split <;> rfl

theorem exists_crash_iff {fatal : ε → Bool} {result : Except ε α} :
    (∃ crash, settled fatal result = .error crash) ↔
      ∃ fault, result = .error fault ∧ fatal fault = true := by
  cases result with
  | ok a => exact iff_of_false nofun nofun
  | error fault =>
    simp only [settled]
    cases stops : fatal fault with
    | true => exact iff_of_true ⟨_, rfl⟩ ⟨fault, rfl, stops⟩
    | false =>
      refine iff_of_false nofun ?_
      rintro ⟨_, ⟨⟩, h⟩
      cases stops.symm.trans h

theorem eq_of_settled {fatal : ε → Bool} {result outcome : Except ε α}
    (h : settled fatal result = .ok outcome) : outcome = result := by
  cases result with
  | ok a =>
    cases h
    rfl
  | error fault =>
    simp only [settled] at h
    split at h
    · cases h
    · cases h
      rfl

def signed (n : Int) : Except Crash Int :=
  if n < Int64.minValue.toInt ∨ Int64.maxValue.toInt < n then .error .overflow else .ok n

def total (a b : Nat) : Except Crash Nat :=
  if UInt32.size ≤ a + b then .error .overflow else .ok (a + b)

def lastRegister (first count : Nat) : Except Crash Nat := do
  difference (← total first count) 1

/-- Counted from the first written number that stands for a register, in signed words. -/
def native (address : UInt32) : Except Crash Int := do
  let offset ← signed ((address.toNat : Int) - (addressBase + 1 : Nat))
  signed (offset + 1)

def registerNumber (address : UInt32) : ExceptT AddressFault (Except Crash) UInt16 := do
  let native ← native address
  if 0 ≤ native ∧ native < registerCount then return native.toNat.toUInt16
  else throw (.outside address)

def placed (address : UInt32) (type : DataType) (first : Nat) :
    ExceptT AddressFault (Except Crash) Span := do
  let last ← lastRegister first type.registers.toNat
  if UInt16.size ≤ last then throw (.pastEnd address type)
  else return ⟨first.toUInt16, type.registers⟩

def readSpan (address : UInt32) (type : DataType) : ExceptT AddressFault (Except Crash) Span := do
  let base ← registerNumber address
  match type with
  | .real => placed address type (← total base.toNat 1)
  | .integer | .digital => placed address type base.toNat

/-- A text that is sliced inside a character stops the run. -/
def cut (count : Nat) (cs : List Char) : Except Crash (List Char × List Char) :=
  match cutBytes count cs with
  | some parts => .ok parts
  | none => .error .outOfRange

def bitKey (raw : String) : Except Crash BitKey := do
  let cs := Text.trimmed raw.toList
  if 3 ≤ Text.byteLength cs then
    let (head, tail) ← cut 3 cs
    if head.map Char.toLower = ['b', 'i', 't'] then
      return BitKey.ofCount? (countValue (Text.trimmed tail))
  return BitKey.ofCount? (countValue cs)

def bitLabels (key : String) : List (String × String) → Table (Fin 16) String →
    ExceptT TagFault (Except Crash) (Table (Fin 16) String)
  | [], labels => return labels
  | (raw, label) :: rest, labels => do
    match ← bitKey raw with
    | .bit index => bitLabels key rest (labels.insert index label)
    | .invalid | .uncut => throw (.bitKey key raw)

def ofDefinition (path : List String) (definition : TagDefinition) :
    ExceptT TagFault (Except Crash) TagSpec := do
  let key := joinPath path
  let span ← (readSpan definition.address definition.type).adapt (.address key)
  let base ← (registerNumber definition.address).adapt (.address key)
  let bits ← bitLabels key definition.labels Table.empty
  return {
    path
    address := definition.address
    type := definition.type
    base
    span
    description := definition.description
    unit := definition.unit
    scaling := Scaling.ofParts definition.rawZero definition.rawFull definition.engZero
      definition.engFull
    bits }

mutual
def flattenAt (path : List String) : TagTree → ExceptT TagFault (Except Crash) (List TagSpec)
  | .tag definition => return [← ofDefinition path definition]
  | .group children => flattenChildren path children
def flattenChildren (path : List String) :
    List (String × TagTree) → ExceptT TagFault (Except Crash) (List TagSpec)
  | [] => return []
  | (name, child) :: rest => do
    let first ← flattenAt (path ++ [name]) child
    let others ← flattenChildren path rest
    return first ++ others
end

def flatten : TagTree → ExceptT TagFault (Except Crash) (List TagSpec)
  | .tag _ => throw .rootIsTag
  | .group children => flattenChildren [] children

theorem signed_eq {n : Int} (fits : n.natAbs < UInt32.size) : signed n = .ok n := by
  have least : Int64.minValue.toInt < -(UInt32.size : Int) := by decide
  have most : (UInt32.size : Int) < Int64.maxValue.toInt := by decide
  exact if_neg (by omega)

theorem total_eq {a b : Nat} (fits : a + b < UInt32.size) : total a b = .ok (a + b) :=
  if_neg (Nat.not_le.mpr fits)

theorem difference_eq {a b : Nat} (enough : b ≤ a) : difference a b = .ok (a - b) :=
  if_neg (Nat.not_lt.mpr enough)

theorem lastRegister_eq {first count : Nat} (some : 1 ≤ first + count)
    (fits : first + count < UInt32.size) :
    lastRegister first count = .ok (first + count - 1) := by
  rw [lastRegister, total_eq fits]
  exact difference_eq some

theorem native_eq (address : UInt32) :
    native address = .ok ((address.toNat : Int) - addressBase) := by
  have most : address.toNat < UInt32.size := address.toNat_lt
  have less : addressBase + 1 < UInt32.size := by decide
  rw [native, signed_eq (by omega)]
  change signed ((address.toNat : Int) - (addressBase + 1 : Nat) + 1) = _
  rw [signed_eq (by omega)]
  exact congrArg Except.ok (by omega)

theorem registerNumber_eq (address : UInt32) : registerNumber address =
    settled (fun _ => false) (PlcMonitor.registerNumber address) := by
  unfold registerNumber PlcMonitor.registerNumber
  rw [native_eq, lift_bind]
  by_cases inside : addressBase ≤ address.toNat ∧ address.toNat - addressBase < registerCount
  · rw [if_pos inside, if_pos (by omega), show ((address.toNat : Int) - addressBase).toNat =
      address.toNat - addressBase by omega]
    rfl
  · rw [if_neg inside, if_neg (by omega)]
    rfl

theorem placed_eq (address : UInt32) (type : DataType) {first : Nat} (h : first ≤ registerCount) :
    placed address type first = settled (fun _ => false)
      (if first + type.registers.toNat ≤ registerCount then .ok ⟨first.toUInt16, type.registers⟩
       else .error (.pastEnd address type)) := by
  have all : registerCount = UInt16.size := rfl
  have less : UInt16.size + 2 < UInt32.size := by decide
  have registers : 1 ≤ type.registers.toNat ∧ type.registers.toNat ≤ 2 := by
    cases type <;> decide
  rw [placed, lastRegister_eq (by omega) (by omega), lift_bind]
  by_cases fits : first + type.registers.toNat ≤ registerCount
  · rw [if_pos fits, if_neg (by omega)]
    rfl
  · rw [if_neg fits, if_pos (by omega)]
    rfl

theorem readSpan_eq (address : UInt32) (type : DataType) : readSpan address type =
    settled (fun _ => false) (PlcMonitor.readSpan address type) := by
  unfold readSpan PlcMonitor.readSpan
  rw [registerNumber_eq]
  apply settled_bind
  intro base _
  have small := base.toNat_lt
  cases type with
  | real =>
    have next : base.toNat + 1 < UInt32.size := Nat.lt_trans (Nat.succ_lt_succ small) (by decide)
    dsimp only
    rw [total_eq next, lift_bind]
    exact placed_eq address .real small
  | integer => exact placed_eq address .integer small.le
  | digital => exact placed_eq address .digital small.le

theorem bitKey_eq (raw : String) : bitKey raw =
    match BitKey.parse raw with
    | .uncut => .error .outOfRange
    | key => .ok key := by
  unfold bitKey BitKey.parse BitKey.parseTrimmed
  generalize Text.trimmed raw.toList = cs
  -- once the key is cut, or is too short for that, it names a bit or none
  have told (count : Option Nat) : (.ok (BitKey.ofCount? count) : Except Crash BitKey) =
      match BitKey.ofCount? count with
      | .uncut => .error .outOfRange
      | key => .ok key := by
    have := BitKey.ofCount?_ne_uncut count
    cases h : BitKey.ofCount? count with
    | bit index | invalid => rfl
    | uncut => exact absurd h this
  dsimp only
  split
  · rw [cut]
    cases cutBytes 3 cs with
    | none => rfl
    | some parts =>
      obtain ⟨head, tail⟩ := parts
      change (if _ then _ else _ : Except Crash BitKey) = _
      dsimp only
      split <;> exact told _
  · exact told _

theorem bitLabels_eq (key : String) (entries : List (String × String))
    (labels : Table (Fin 16) String) : bitLabels key entries labels =
      settled TagFault.isFatal (TagSpec.bitLabels key entries labels) := by
  induction entries generalizing labels with
  | nil => rfl
  | cons entry rest ih =>
    obtain ⟨raw, label⟩ := entry
    rw [bitLabels, TagSpec.bitLabels, bitKey_eq]
    cases BitKey.parse raw with
    | bit index => exact ih _
    | invalid | uncut => rfl

theorem settled_address (key : String) (result : Except AddressFault α) :
    (settled (fun _ => false) result).adapt (.address key) =
      settled TagFault.isFatal (result.mapError (.address key)) :=
  settled_adapt (fun _ => false) TagFault.isFatal (TagFault.address key) (fun _ => rfl) result

theorem ofDefinition_eq (path : List String) (definition : TagDefinition) :
    ofDefinition path definition =
      settled TagFault.isFatal (TagSpec.ofDefinition path definition) := by
  unfold ofDefinition TagSpec.ofDefinition
  dsimp only
  rw [readSpan_eq, registerNumber_eq, settled_address, settled_address]
  refine settled_bind fun span _ => settled_bind fun base _ => ?_
  rw [bitLabels_eq]
  exact settled_bind fun bits _ => rfl

mutual
theorem flattenAt_eq {path : List String} : (tree : TagTree) →
    flattenAt path tree = settled TagFault.isFatal (TagTree.flattenAt path tree)
  | .tag definition => by
    rw [flattenAt, TagTree.flattenAt, ofDefinition_eq]
    have mapped : (TagSpec.ofDefinition path definition).map (fun spec => [spec]) =
        TagSpec.ofDefinition path definition >>= fun spec => .ok [spec] := by
      cases TagSpec.ofDefinition path definition <;> rfl
    rw [mapped]
    exact settled_bind fun spec _ => rfl
  | .group children => flattenChildren_eq children
theorem flattenChildren_eq {path : List String} : (children : List (String × TagTree)) →
    flattenChildren path children = settled TagFault.isFatal (TagTree.flattenChildren path children)
  | [] => rfl
  | (name, child) :: rest => by
    rw [flattenChildren, TagTree.flattenChildren, flattenAt_eq child, flattenChildren_eq rest]
    exact settled_bind fun first _ => settled_bind fun others _ => rfl
end

theorem flatten_eq (tree : TagTree) :
    flatten tree = settled TagFault.isFatal tree.flatten := by
  cases tree with
  | tag definition => rfl
  | group children => exact flattenChildren_eq children

end Guarded
end PlcMonitor
