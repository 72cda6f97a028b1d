import PlcMonitor.Proofs.Tag.Labels

/-! Where flattening stops. A bit key is cut after its third byte, which cannot be done inside a
character: the first tag that cannot be built stops the run if it is such a key that it fails on. -/
namespace PlcMonitor

namespace Text

/-- A character has bytes on both sides of the cut. -/
def Straddles (count : Nat) (cs : List Char) : Prop :=
  ∃ head c tail, cs = head ++ c :: tail ∧ byteLength head < count ∧
    count < byteLength head + c.utf8Size

theorem not_straddles_nil {count : Nat} : ¬Straddles count [] := by
  rintro ⟨head, c, tail, split, -⟩
  simp at split

theorem straddles_cons {count : Nat} {c : Char} {cs : List Char} :
    Straddles count (c :: cs) ↔ 0 < count ∧ count < c.utf8Size ∨
      c.utf8Size ≤ count ∧ Straddles (count - c.utf8Size) cs := by
  constructor
  · rintro ⟨_ | ⟨d, head⟩, e, tail, split, before, behind⟩
    · obtain ⟨rfl, rfl⟩ := List.cons.inj split
      simp only [byteLength] at before behind
      exact .inl ⟨before, by omega⟩
    · obtain ⟨rfl, rfl⟩ := List.cons.inj split
      simp only [byteLength] at before behind
      exact .inr ⟨by omega, head, e, tail, rfl, by omega, by omega⟩
  · rintro (⟨before, behind⟩ | ⟨enough, head, e, tail, rfl, before, behind⟩)
    · exact ⟨[], c, cs, rfl, before, by simp only [byteLength]; omega⟩
    · refine ⟨c :: head, e, tail, rfl, ?_, ?_⟩
      · simp only [byteLength]
        omega
      · simp only [byteLength]
        omega

theorem Straddles.lt {count : Nat} {cs : List Char} (h : Straddles count cs) :
    count < byteLength cs := by
  induction cs generalizing count with
  | nil => exact absurd h not_straddles_nil
  | cons c cs ih =>
    rw [byteLength]
    rcases straddles_cons.mp h with ⟨-, behind⟩ | ⟨enough, later⟩
    · omega
    · have := ih later
      omega

theorem cutBytes_eq_none_iff {count : Nat} {cs : List Char} (long : count ≤ byteLength cs) :
    cutBytes count cs = none ↔ Straddles count cs := by
  induction cs generalizing count with
  | nil =>
    obtain rfl := Nat.le_zero.mp long
    exact iff_of_false nofun not_straddles_nil
  | cons c cs ih =>
    rw [straddles_cons]
    cases count with
    | zero =>
      have := c.utf8Size_pos
      exact iff_of_false nofun (by omega)
    | succ count =>
      rw [byteLength] at long
      rw [cutBytes]
      split
      · next enough =>
        rw [Option.map_eq_none_iff, ih (by omega)]
        constructor
        · exact fun later => .inr ⟨enough, later⟩
        · rintro (⟨-, behind⟩ | ⟨-, later⟩)
          · omega
          · exact later
      · next short => exact iff_of_true rfl (.inl ⟨by omega, by omega⟩)

theorem byteLength_append (head tail : List Char) :
    byteLength (head ++ tail) = byteLength head + byteLength tail := by
  induction head with
  | nil => simp [byteLength]
  | cons c head ih => simp only [List.cons_append, byteLength, ih, Nat.add_assoc]

theorem cutBytes_append (head tail : List Char) :
    cutBytes (byteLength head) (head ++ tail) = some (head, tail) := by
  induction head with
  | nil => simp [byteLength, cutBytes]
  | cons c head ih =>
    obtain ⟨size, h⟩ := Nat.exists_eq_succ_of_ne_zero c.utf8Size_pos.ne'
    have left : size + byteLength head + 1 - size.succ = byteLength head := by omega
    rw [byteLength, List.cons_append, h, Nat.succ_add, cutBytes, if_pos (by omega), h, left, ih]
    rfl

theorem cutBytes_eq_some_iff {count : Nat} {cs head tail : List Char} :
    cutBytes count cs = some (head, tail) ↔ cs = head ++ tail ∧ byteLength head = count := by
  constructor
  · intro h
    fun_induction cutBytes count cs generalizing head with
    | case1 cs =>
      cases h
      exact ⟨rfl, rfl⟩
    | case2 => cases h
    | case3 count c cs enough ih =>
      obtain ⟨⟨front, back⟩, cut, same⟩ := Option.map_eq_some_iff.mp h
      cases same
      obtain ⟨rfl, size⟩ := ih cut
      refine ⟨rfl, ?_⟩
      rw [byteLength, size]
      omega
    | case4 => cases h
  · rintro ⟨rfl, rfl⟩
    exact cutBytes_append head tail

end Text

namespace BitKey

/-- The third byte of the key, without the blanks around it, is not the last of a character. -/
def Straddled (raw : String) : Prop := Text.Straddles 3 (Text.trimmed raw.toList)

theorem ofCount?_ne_uncut (count : Option Nat) : ofCount? count ≠ .uncut := by
  unfold ofCount?
  split
  · split <;> exact nofun
  · exact nofun

theorem parse_eq_uncut_iff {raw : String} : parse raw = .uncut ↔ Straddled raw := by
  unfold parse parseTrimmed Straddled
  generalize Text.trimmed raw.toList = cs
  split
  · next long =>
    rw [← Text.cutBytes_eq_none_iff long]
    cases cutBytes 3 cs with
    | none => exact iff_of_true rfl rfl
    | some parts =>
      refine iff_of_false ?_ nofun
      dsimp only
      split <;> exact ofCount?_ne_uncut _
  · next short =>
    exact iff_of_false (ofCount?_ne_uncut _) fun h => short (Nat.le_of_lt h.lt)

end BitKey

theorem TagFault.isFatal_iff {fault : TagFault} :
    fault.isFatal = true ↔ ∃ key raw, fault = .uncutBitKey key raw := by
  cases fault <;> simp [isFatal]

/-- The registers of the tag are there, and all keys before `raw` name bits. -/
def TagDefinition.StopsAt (definition : TagDefinition) (raw : String) : Prop :=
  (∃ span, readSpan definition.address definition.type = .ok span) ∧ BitKey.Straddled raw ∧
    ∃ label, ComesTo (fun entry => ∃ index, BitKey.parse entry.1 = .bit index) definition.labels
      (raw, label)

namespace TagSpec

theorem bitLabels_eq_uncut_iff {key key' raw : String} {entries : List (String × String)}
    {labels : Table (Fin 16) String} :
    bitLabels key entries labels = .error (.uncutBitKey key' raw) ↔
      key = key' ∧ BitKey.Straddled raw ∧ ∃ label,
        ComesTo (fun entry => ∃ index, BitKey.parse entry.1 = .bit index) entries (raw, label) := by
  induction entries generalizing labels with
  | nil => exact iff_of_false nofun fun ⟨_, _, _, h⟩ => not_comesTo_nil h
  | cons entry rest ih =>
    obtain ⟨own, label⟩ := entry
    simp only [comesTo_cons, Prod.mk.injEq, ← BitKey.parse_eq_uncut_iff] at ih ⊢
    rw [bitLabels]
    cases named : BitKey.parse own with
    | bit index =>
      rw [ih]
      refine and_congr_right fun _ => and_congr_right fun uncut => exists_congr fun _ => ?_
      constructor
      · exact fun come => .inr ⟨⟨index, rfl⟩, come⟩
      · rintro (⟨rfl, -⟩ | ⟨-, come⟩)
        · cases named.symm.trans uncut
        · exact come
    | invalid =>
      refine iff_of_false nofun ?_
      rintro ⟨-, uncut, _, ⟨rfl, -⟩ | ⟨⟨_, h⟩, -⟩⟩
      · cases named.symm.trans uncut
      · cases h
    | uncut =>
      constructor
      · rintro ⟨⟩
        exact ⟨rfl, named, label, .inl ⟨rfl, rfl⟩⟩
      · rintro ⟨rfl, uncut, _, ⟨rfl, -⟩ | ⟨⟨_, h⟩, -⟩⟩
        · rfl
        · cases h

theorem ofDefinition_eq_uncut_iff {path : List String} {definition : TagDefinition}
    {key raw : String} : ofDefinition path definition = .error (.uncutBitKey key raw) ↔
      joinPath path = key ∧ definition.StopsAt raw := by
  unfold ofDefinition TagDefinition.StopsAt
  cases placed : readSpan definition.address definition.type with
  | error fault => exact iff_of_false nofun fun ⟨_, ⟨_, h⟩, _⟩ => nomatch h
  | ok span =>
    obtain ⟨base, hbase, -⟩ := bind_eq_ok.mp placed
    have there : ∃ other, (.ok span : Except AddressFault Span) = .ok other := ⟨span, rfl⟩
    have labels := @bitLabels_eq_uncut_iff (joinPath path) key raw definition.labels Table.empty
    rw [hbase, and_iff_right there, ← labels]
    change (bitLabels (joinPath path) definition.labels Table.empty >>= fun bits => _) = _ ↔ _
    cases bitLabels (joinPath path) definition.labels Table.empty with
    | error fault => constructor <;> (rintro ⟨⟩; rfl)
    | ok bits => exact iff_of_false nofun nofun

end TagSpec

namespace TagTree

mutual
/-- The tags of a tree that stands at `path` with the ways to them, in the order in which they are
written. -/
def leavesAt (path : List String) : TagTree → List (List String × TagDefinition)
  | .tag definition => [(path, definition)]
  | .group children => childLeaves path children
def childLeaves (path : List String) :
    List (String × TagTree) → List (List String × TagDefinition)
  | [] => []
  | (name, child) :: rest => leavesAt (path ++ [name]) child ++ childLeaves path rest
end

def spec (leaf : List String × TagDefinition) : Except TagFault TagSpec :=
  TagSpec.ofDefinition leaf.1 leaf.2

mutual
theorem flattenAt_eq_mapM {path : List String} :
    (tree : TagTree) → flattenAt path tree = (leavesAt path tree).mapM spec
  | .tag definition => by
    rw [flattenAt, leavesAt, List.mapM_cons]
    change _ = TagSpec.ofDefinition path definition >>= _
    cases TagSpec.ofDefinition path definition <;> rfl
  | .group children => flattenChildren_eq_mapM children
theorem flattenChildren_eq_mapM {path : List String} :
    (children : List (String × TagTree)) →
      flattenChildren path children = (childLeaves path children).mapM spec
  | [] => rfl
  | (name, child) :: rest => by
    rw [flattenChildren, childLeaves, List.mapM_append, flattenAt_eq_mapM child,
      flattenChildren_eq_mapM rest]
end

/-- The tag at `path` stops at `raw`, and all tags before it can be built. -/
def StopsAt (tree : TagTree) (path : List String) (raw : String) : Prop :=
  ∃ children definition, tree = .group children ∧
    ComesTo (fun leaf => leaf.2.Acceptable) (childLeaves [] children) (path, definition) ∧
    definition.StopsAt raw

theorem flatten_eq_uncut_iff {tree : TagTree} {key raw : String} :
    tree.flatten = .error (.uncutBitKey key raw) ↔
      ∃ path, joinPath path = key ∧ tree.StopsAt path raw := by
  cases tree with
  | tag definition => exact iff_of_false nofun fun ⟨_, _, _, _, h, _⟩ => nomatch h
  | group children =>
    rw [flatten, flattenChildren_eq_mapM, mapM_eq_error_iff]
    simp only [spec, TagSpec.exists_ofDefinition_iff, TagSpec.ofDefinition_eq_uncut_iff]
    constructor
    · rintro ⟨⟨path, definition⟩, come, same, stops⟩
      exact ⟨path, same, children, definition, rfl, come, stops⟩
    · rintro ⟨path, same, _, definition, ⟨⟩, come, stops⟩
      exact ⟨(path, definition), come, same, stops⟩

theorem flatten_isFatal_iff {tree : TagTree} :
    (∃ fault, tree.flatten = .error fault ∧ fault.isFatal = true) ↔
      ∃ path raw, tree.StopsAt path raw := by
  simp only [TagFault.isFatal_iff]
  constructor
  · rintro ⟨_, failed, key, raw, rfl⟩
    obtain ⟨path, -, stops⟩ := flatten_eq_uncut_iff.mp failed
    exact ⟨path, raw, stops⟩
  · rintro ⟨path, raw, stops⟩
    exact ⟨_, flatten_eq_uncut_iff.mpr ⟨path, rfl, stops⟩, _, _, rfl⟩

end TagTree
end PlcMonitor
