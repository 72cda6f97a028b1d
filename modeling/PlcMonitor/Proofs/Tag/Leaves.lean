import Mathlib.Data.List.Forall2
import PlcMonitor.Proofs.Tag.Spec

/-! The tags of a document are its maps with an address that are reached through groups alone, in
the order in which they are written, each under the names of the groups on the way to it. -/
namespace PlcMonitor

theorem forall₂_append_left_iff {α β : Type} {R : α → β → Prop} {first second : List α}
    {all : List β} : List.Forall₂ R (first ++ second) all ↔
      ∃ own later, List.Forall₂ R first own ∧ List.Forall₂ R second later ∧ own ++ later = all := by
  constructor
  · intro h
    induction first generalizing all with
    | nil => exact ⟨[], all, .nil, h, rfl⟩
    | cons a first ih =>
      obtain ⟨b, rest, ab, beyond, rfl⟩ := List.forall₂_cons_left_iff.mp h
      obtain ⟨own, later, hown, hlater, rfl⟩ := ih beyond
      exact ⟨b :: own, later, .cons ab hown, hlater, rfl⟩
  · rintro ⟨own, later, hown, hlater, rfl⟩
    exact List.rel_append hown hlater

theorem exists_forall₂_iff {α β : Type} {R : α → β → Prop} {all : List α} :
    (∃ others, List.Forall₂ R all others) ↔ ∀ a ∈ all, ∃ b, R a b := by
  induction all with
  | nil => simp
  | cons a rest ih =>
    rw [List.forall_mem_cons, ← ih]
    simp only [List.forall₂_cons_left_iff]
    constructor
    · rintro ⟨_, b, others, ab, h, rfl⟩
      exact ⟨⟨b, ab⟩, others, h⟩
    · rintro ⟨⟨b, ab⟩, others, h⟩
      exact ⟨_, b, others, ab, h, rfl⟩

/-- The registers are there, and every key of a label names a bit. -/
structure TagDefinition.Acceptable (definition : TagDefinition) : Prop where
  footprint : ∃ span, readSpan definition.address definition.type = .ok span
  bits : ∀ labels, definition.bits = some labels →
    ∀ entry ∈ labels.entries, ∃ index, BitKey.parse entry.1 = .bit index

namespace TagSpec

theorem exists_bitLabels_iff {key : String} {entries : List (String × String)}
    {labels : Table (Fin 16) String} : (∃ all, bitLabels key entries labels = .ok all) ↔
      ∀ entry ∈ entries, ∃ index, BitKey.parse entry.1 = .bit index := by
  induction entries generalizing labels with
  | nil => exact iff_of_true ⟨labels, rfl⟩ (List.forall_mem_nil _)
  | cons entry rest ih =>
    obtain ⟨raw, label⟩ := entry
    rw [List.forall_mem_cons]
    unfold bitLabels
    cases BitKey.parse raw with
    | bit index => exact ih.trans (and_iff_right ⟨index, rfl⟩).symm
    | invalid | uncut => exact iff_of_false (fun ⟨_, h⟩ => nomatch h) (fun ⟨⟨_, h⟩, _⟩ => nomatch h)

theorem exists_ofDefinition_iff {path : List String} {definition : TagDefinition} :
    (∃ spec, ofDefinition path definition = .ok spec) ↔ definition.Acceptable := by
  have labels : (∀ entry ∈ (definition.bits.map (·.entries)).getD [],
      ∃ index, BitKey.parse entry.1 = .bit index) ↔ ∀ labels, definition.bits = some labels →
        ∀ entry ∈ labels.entries, ∃ index, BitKey.parse entry.1 = .bit index := by
    cases definition.bits <;> simp
  constructor
  · rintro ⟨spec, h⟩
    obtain ⟨span, hspan, h⟩ := bind_eq_ok.mp h
    obtain ⟨base, -, h⟩ := bind_eq_ok.mp h
    obtain ⟨bits, hbits, -⟩ := bind_eq_ok.mp h
    exact ⟨⟨span, mapError_eq_ok.mp hspan⟩, labels.mp (exists_bitLabels_iff.mp ⟨bits, hbits⟩)⟩
  · rintro ⟨⟨span, hspan⟩, named⟩
    obtain ⟨base, hbase, -⟩ := bind_eq_ok.mp hspan
    obtain ⟨bits, hbits⟩ := (@exists_bitLabels_iff (joinPath path) _ Table.empty).mpr
      (labels.mpr named)
    exact ⟨_, bind_eq_ok.mpr ⟨span, mapError_eq_ok.mpr hspan, bind_eq_ok.mpr
      ⟨base, mapError_eq_ok.mpr hbase, bind_eq_ok.mpr ⟨bits, hbits, rfl⟩⟩⟩⟩

end TagSpec

/-- A key that is text or a number. -/
inductive Document.IsName : Document → Prop where
  | text (name : String) : IsName (.text name)
  | int (number : Int) : IsName (.int number)
  | float (number : Float) : IsName (.float number)

namespace TagTree

theorem isName_iff {key : Document} : key.IsName ↔ ∃ name, childName? key = some name := by
  constructor
  · rintro (_ | _ | _) <;> exact ⟨_, rfl⟩
  · rintro ⟨name, h⟩
    cases key with
    | text | int | float => constructor
    | null | bool | list | map | tagged => cases h

/-- A map that stands in a document: the entries that lead to it, by their numbers and by their
names, and its own entries. -/
structure Site where
  place : List Nat
  path : List String
  entries : List (Document × Document)

/-- A site in the map that is entry `i` of another one and has a name there. -/
def Site.under (site : Site) (i : Nat) (name : String) : Site :=
  { site with place := i :: site.place, path := name :: site.path }

/-- The maps that are reached from a map through groups alone. -/
inductive Reaches : List (Document × Document) → Site → Prop where
  | here {root : List (Document × Document)} : Reaches root ⟨[], [], root⟩
  | into {root child : List (Document × Document)} {i : Nat} {key : Document} {name : String}
      {site : Site} (group : isTag root = false) (entry : root[i]? = some (key, .map child))
      (named : childName? key = some name) (reached : Reaches child site) :
      Reaches root (site.under i name)

mutual
/-- The maps with an address that are reached from a document, as they are written. -/
def leaves : Document → List Site
  | .map entries => if isTag entries then [⟨[], [], entries⟩] else leavesFrom 0 entries
  | _ => []
/-- Those in the entries of a group from number `k` on. -/
def leavesFrom (k : Nat) : List (Document × Document) → List Site
  | [] => []
  | (key, child) :: rest =>
    (childName? key).toList.flatMap (fun name => (leaves child).map (·.under k name)) ++
      leavesFrom (k + 1) rest
end

/-- The map whose entries are the groups and tags of a document. Nothing counts as an empty one. -/
def root? : Document → Option (List (Document × Document))
  | .map entries => some entries
  | .null => some []
  | _ => none

mutual
theorem mem_leaves {site : Site} : (document : Document) → (site ∈ leaves document ↔
    ∃ root, document = .map root ∧ Reaches root site ∧ isTag site.entries = true)
  | .map entries => by
    unfold leaves
    split
    · rename_i tag
      rw [List.mem_singleton]
      constructor
      · rintro rfl
        exact ⟨entries, rfl, .here, tag⟩
      · rintro ⟨_, ⟨⟩, reached, -⟩
        cases reached with
        | here => rfl
        | into group => simp [tag] at group
    · rename_i group
      have group : isTag entries = false := (Bool.not_eq_true _).mp group
      rw [mem_leavesFrom]
      constructor
      · rintro ⟨i, key, name, child, inner, entry, named, reached, tag, rfl⟩
        rw [Nat.zero_add]
        exact ⟨entries, rfl, .into group entry named reached, tag⟩
      · rintro ⟨_, ⟨⟩, reached, tag⟩
        cases reached with
        | here => simp [group] at tag
        | @into _ child i key name inner _ entry named reached =>
          exact ⟨i, key, name, child, inner, entry, named, reached, tag, by rw [Nat.zero_add]⟩
  | .null | .bool _ | .int _ | .float _ | .text _ | .list _ | .tagged _ _ => by
    simp [leaves]
theorem mem_leavesFrom {site : Site} {k : Nat} : (entries : List (Document × Document)) →
    (site ∈ leavesFrom k entries ↔ ∃ i key name child inner,
      entries[i]? = some (key, .map child) ∧ childName? key = some name ∧ Reaches child inner ∧
        isTag inner.entries = true ∧ site = inner.under (k + i) name)
  | [] => by simp [leavesFrom]
  | (key, child) :: rest => by
    rw [leavesFrom, List.mem_append, mem_leavesFrom rest]
    constructor
    · rintro (first | ⟨i, key, name, child, inner, entry, later⟩)
      · obtain ⟨name, named, first⟩ := List.mem_flatMap.mp first
        obtain ⟨inner, hinner, rfl⟩ := List.mem_map.mp first
        obtain ⟨root, rfl, reached, tag⟩ := (mem_leaves child).mp hinner
        exact ⟨0, key, name, root, inner, rfl, Option.mem_toList.mp named, reached, tag, rfl⟩
      · rw [Nat.add_right_comm, Nat.add_assoc] at later
        exact ⟨i + 1, key, name, child, inner, entry, later⟩
    · rintro ⟨_ | i, key, name, child, inner, entry, named, reached, tag, rfl⟩
      · cases entry
        refine .inl (List.mem_flatMap.mpr ⟨name, Option.mem_toList.mpr named, ?_⟩)
        exact List.mem_map.mpr ⟨inner, (mem_leaves _).mpr ⟨child, rfl, reached, tag⟩, rfl⟩
      · refine .inr ⟨i, key, name, child, inner, entry, named, reached, tag, ?_⟩
        rw [Nat.add_right_comm, Nat.add_assoc]
end

theorem mem_leaves_map {site : Site} {root : List (Document × Document)} :
    site ∈ leaves (.map root) ↔ Reaches root site ∧ isTag site.entries = true := by
  rw [mem_leaves]
  constructor
  · rintro ⟨_, ⟨⟩, h⟩
    exact h
  · exact fun h => ⟨root, rfl, h⟩

theorem place_of_mem_leavesFrom {site : Site} {k : Nat}
    {entries : List (Document × Document)} (h : site ∈ leavesFrom k entries) :
    ∃ i rest, site.place = (k + i) :: rest := by
  obtain ⟨i, _, _, _, inner, _, _, _, _, rfl⟩ := (mem_leavesFrom entries).mp h
  exact ⟨i, inner.place, rfl⟩

mutual
theorem pairwise_leaves : (document : Document) →
    (leaves document).Pairwise fun a b => a.place < b.place
  | .map entries => by
    unfold leaves
    split
    · exact List.pairwise_singleton _ _
    · exact pairwise_leavesFrom entries
  | .null | .bool _ | .int _ | .float _ | .text _ | .list _ | .tagged _ _ => by
    simp [leaves]
theorem pairwise_leavesFrom {k : Nat} : (entries : List (Document × Document)) →
    (leavesFrom k entries).Pairwise fun a b => a.place < b.place
  | [] => .nil
  | (key, child) :: rest => by
    rw [leavesFrom]
    refine List.pairwise_append.mpr ⟨?_, pairwise_leavesFrom rest, ?_⟩
    · cases childName? key with
      | none => exact .nil
      | some name =>
        rw [Option.toList_some, List.flatMap_singleton, List.pairwise_map]
        exact (pairwise_leaves child).imp fun before => List.cons_lt_cons_self.mpr before
    · intro first hfirst later hlater
      obtain ⟨name, -, hfirst⟩ := List.mem_flatMap.mp hfirst
      obtain ⟨inner, -, rfl⟩ := List.mem_map.mp hfirst
      obtain ⟨i, beyond, place⟩ := place_of_mem_leavesFrom hlater
      rw [place]
      exact List.cons_lt_cons_iff.mpr (.inl (by omega))
end

def WellNamed (document : Document) : Prop :=
  ∀ root, document = .map root → ∀ site, Reaches root site → isTag site.entries = false →
    ∀ entry ∈ site.entries, entry.1.IsName

theorem wellNamed_tag {root : List (Document × Document)} (tag : isTag root = true) :
    WellNamed (.map root) := by
  rintro _ ⟨⟩ site (_ | group) inner
  · simp [tag] at inner
  · simp [tag] at group

theorem wellNamed_group {root : List (Document × Document)} (group : isTag root = false) :
    WellNamed (.map root) ↔ ∀ entry ∈ root, entry.1.IsName ∧ WellNamed entry.2 := by
  constructor
  · rintro named ⟨key, _⟩ hentry
    have own : key.IsName := named root rfl _ .here group _ hentry
    refine ⟨own, ?_⟩
    rintro child rfl site reached
    obtain ⟨name, hname⟩ := isName_iff.mp own
    obtain ⟨i, at_i⟩ := List.mem_iff_getElem?.mp hentry
    exact named root rfl (site.under i name) (.into group at_i hname reached)
  · rintro named _ ⟨⟩ site (_ | ⟨_, at_i, _, reached⟩) inner entry hentry
    · exact (named entry hentry).1
    · exact (named _ (List.mem_of_getElem? at_i)).2 _ rfl _ reached inner entry hentry

section Other
variable {document : Document} (other : ¬document.isMap = true)
include other

theorem wellNamed_of_not_map : WellNamed document := by
  rintro root rfl
  exact absurd rfl other

theorem leaves_of_not_map : leaves document = [] := by
  cases document with
  | map entries => exact absurd rfl other
  | null | bool | int | float | text | list | tagged => simp only [leaves]

end Other

theorem flattenChildren_cons_iff {path : List String} {name : String} {tree : TagTree}
    {others : List (String × TagTree)} {tags : List TagSpec} :
    flattenChildren path ((name, tree) :: others) = .ok tags ↔
      ∃ own, flattenAt (path ++ [name]) tree = .ok own ∧
        ∃ later, flattenChildren path others = .ok later ∧ own ++ later = tags := by
  simp only [flattenChildren, bind_eq_ok, pure, Except.pure, Except.ok.injEq]

/-- What the map at a site is as a tag, in a document that stands at `path`. -/
def Reads (leaf : TagDefinition.Decoder) (path : List String) (site : Site) (tag : TagSpec) :
    Prop :=
  ∃ definition, leaf (.map site.entries) = .ok definition ∧
    TagSpec.ofDefinition (path ++ site.path) definition = .ok tag

section Leaf
variable {leaf : TagDefinition.Decoder}

theorem exists_reads_iff {path : List String} {site : Site} :
    (∃ tag, Reads leaf path site tag) ↔
      ∃ definition, leaf (.map site.entries) = .ok definition ∧ definition.Acceptable := by
  simp only [Reads]
  rw [exists_comm]
  simp only [exists_and_left, TagSpec.exists_ofDefinition_iff]

theorem forall₂_under {path : List String} {k : Nat} {name : String} {sites : List Site}
    {tags : List TagSpec} : List.Forall₂ (Reads leaf path) (sites.map (·.under k name)) tags ↔
      List.Forall₂ (Reads leaf (path ++ [name])) sites tags := by
  rw [List.forall₂_map_left_iff]
  have along : ∀ site : Site, path ++ (site.under k name).path = path ++ [name] ++ site.path :=
    fun site => List.append_cons ..
  simp only [Reads, along]
  rfl

theorem childrenAt_cons_iff {here : List String} {key child : Document} {name : String}
    {rest : List (Document × Document)} {children : List (String × TagTree)}
    (named : childName? key = some name) (isMap : child.isMap = true) :
    childrenAt leaf here ((key, child) :: rest) = .ok children ↔
      ∃ first, parseAt leaf (here ++ [name]) child = .ok first ∧
        ∃ others, childrenAt leaf here rest = .ok others ∧ (name, first) :: others = children := by
  simp only [childrenAt, named, isMap, if_true, bind_eq_ok, pure, Except.pure, Except.ok.injEq]

section Map
variable {here path : List String} {entries : List (Document × Document)} {tags : List TagSpec}

theorem exists_flattenAt_tag_iff (tag : isTag entries = true) :
    (∃ tree, parseAt leaf here (.map entries) = .ok tree ∧ flattenAt path tree = .ok tags) ↔
      List.Forall₂ (Reads leaf path) [⟨[], [], entries⟩] tags := by
  rw [parseAt, if_pos tag]
  simp only [List.forall₂_cons_left_iff, List.forall₂_nil_left_iff, Reads, List.append_nil]
  cases leaf (.map entries) with
  | error fault => simp
  | ok definition =>
    simp only [Except.ok.injEq, exists_eq_left', flattenAt, map_eq_ok]
    constructor
    · rintro ⟨spec, built, rfl⟩
      exact ⟨spec, [], built, rfl, rfl⟩
    · rintro ⟨spec, _, built, rfl, rfl⟩
      exact ⟨spec, built, rfl⟩

theorem exists_flattenAt_group_iff (group : isTag entries = false) :
    (∃ tree, parseAt leaf here (.map entries) = .ok tree ∧ flattenAt path tree = .ok tags) ↔
      ∃ children, childrenAt leaf here entries = .ok children ∧
        flattenChildren path children = .ok tags := by
  rw [parseAt, if_neg (by simp [group])]
  simp only [map_eq_ok, exists_exists_and_eq_and, flattenAt]

end Map

mutual
theorem exists_flattenAt_iff {here path : List String} {tags : List TagSpec} :
    (document : Document) → document.isMap = true →
      ((∃ tree, parseAt leaf here document = .ok tree ∧ flattenAt path tree = .ok tags) ↔
        WellNamed document ∧ List.Forall₂ (Reads leaf path) (leaves document) tags)
  | .map entries, _ => by
    unfold leaves
    split
    · rename_i tag
      rw [and_iff_right (wellNamed_tag tag), exists_flattenAt_tag_iff tag]
    · rename_i group
      have group : isTag entries = false := (Bool.not_eq_true _).mp group
      rw [exists_flattenAt_group_iff group, wellNamed_group group]
      exact exists_flattenChildren_iff entries
theorem exists_flattenChildren_iff {here path : List String} {k : Nat} {tags : List TagSpec} :
    (entries : List (Document × Document)) →
      ((∃ children, childrenAt leaf here entries = .ok children ∧
          flattenChildren path children = .ok tags) ↔
        (∀ entry ∈ entries, entry.1.IsName ∧ WellNamed entry.2) ∧
          List.Forall₂ (Reads leaf path) (leavesFrom k entries) tags)
  | [] => by
    simp [childrenAt, flattenChildren, leavesFrom, eq_comm]
  | (key, child) :: rest => by
    rw [leavesFrom, List.forall_mem_cons, forall₂_append_left_iff, isName_iff]
    cases named : childName? key with
    | none => simp [childrenAt, named]
    | some name =>
      rw [Option.toList_some, List.flatMap_singleton]
      by_cases isMap : child.isMap = true
      · simp only [childrenAt_cons_iff named isMap]
        constructor
        · rintro ⟨_, ⟨first, read, others, remain, rfl⟩, flat⟩
          obtain ⟨own, hown, later, hlater, rfl⟩ := flattenChildren_cons_iff.mp flat
          obtain ⟨plain, hown⟩ := (exists_flattenAt_iff child isMap).mp ⟨first, read, hown⟩
          obtain ⟨plains, hlater⟩ :=
            (exists_flattenChildren_iff rest).mp ⟨others, remain, hlater⟩
          exact ⟨⟨⟨⟨name, rfl⟩, plain⟩, plains⟩, own, later, forall₂_under.mpr hown, hlater, rfl⟩
        · rintro ⟨⟨⟨-, plain⟩, plains⟩, own, later, hown, hlater, rfl⟩
          obtain ⟨first, read, hown⟩ :=
            (exists_flattenAt_iff child isMap).mpr ⟨plain, forall₂_under.mp hown⟩
          obtain ⟨others, remain, hlater⟩ :=
            (exists_flattenChildren_iff rest).mpr ⟨plains, hlater⟩
          exact ⟨_, ⟨first, read, others, remain, rfl⟩,
            flattenChildren_cons_iff.mpr ⟨own, hown, later, hlater, rfl⟩⟩
      · -- what is no map is passed over
        have passed : childrenAt leaf here ((key, child) :: rest) = childrenAt leaf here rest := by
          simp only [childrenAt, named, isMap, if_false, Bool.false_eq_true]
        rw [passed, leaves_of_not_map isMap,
          @exists_flattenChildren_iff here path (k + 1) tags rest]
        simp [wellNamed_of_not_map isMap]
end

theorem exists_flatten_map_iff {root : List (Document × Document)} {tags : List TagSpec} :
    (∃ tree, parse leaf (.map root) = .ok tree ∧ tree.flatten = .ok tags) ↔
      isTag root = false ∧ WellNamed (.map root) ∧
        List.Forall₂ (Reads leaf []) (leaves (.map root)) tags := by
  cases kind : isTag root with
  | true =>
    refine iff_of_false ?_ (by simp)
    rintro ⟨tree, read, flat⟩
    rw [parse, parseAt, if_pos kind] at read
    split at read <;> cases read
    cases flat
  | false =>
    rw [and_iff_right rfl, ← @exists_flattenAt_iff leaf [] [] tags (.map root) rfl,
      exists_flattenAt_group_iff kind, parse, parseAt, if_neg (by simp [kind])]
    simp only [map_eq_ok, exists_exists_and_eq_and, flatten]

theorem exists_flatten_iff {document : Document} {tags : List TagSpec} :
    (∃ tree, parse leaf document = .ok tree ∧ tree.flatten = .ok tags) ↔
      ∃ root, root? document = some root ∧ isTag root = false ∧ WellNamed (.map root) ∧
        List.Forall₂ (Reads leaf []) (leaves (.map root)) tags := by
  cases document with
  | null =>
    have nothing : parse leaf .null = parse leaf (.map []) := rfl
    rw [nothing, exists_flatten_map_iff]
    simp [root?]
  | map entries => simp [root?, exists_flatten_map_iff]
  | bool | int | float | text | list | tagged => simp [parse, parseAt, root?]

/-- The tags are the maps with an address that are reached from `root` through groups alone: each of
these is one tag, in the order in which they are written, under the names of the groups on the way
to it, and there are no others. -/
def Lists (leaf : TagDefinition.Decoder) (root : List (Document × Document))
    (tags : List TagSpec) : Prop :=
  ∃ sites : List Site, sites.Pairwise (fun a b => a.place < b.place) ∧
    (∀ site, site ∈ sites ↔ Reaches root site ∧ isTag site.entries = true) ∧
    List.Forall₂ (fun site tag => tag.path = site.path ∧
      ∃ definition, leaf (.map site.entries) = .ok definition ∧
        TagSpec.ofDefinition site.path definition = .ok tag) sites tags

/-- Reading a document as a tree and taking its tags succeeds just if the document is nothing or a
map without an address, the keys of all groups in it are text or numbers, and each map with an
address that is reached through groups alone can be read as a tag whose registers and bits there
are. These maps are then the tags. -/
theorem flatten_leaves (leaf : TagDefinition.Decoder) (document : Document) :
    ((∃ tree tags, parse leaf document = .ok tree ∧ tree.flatten = .ok tags) ↔
      ∃ root, root? document = some root ∧ isTag root = false ∧
        (∀ site, Reaches root site → isTag site.entries = false →
          ∀ entry ∈ site.entries, entry.1.IsName) ∧
        ∀ site, Reaches root site → isTag site.entries = true →
          ∃ definition, leaf (.map site.entries) = .ok definition ∧ definition.Acceptable) ∧
    ∀ tree tags, parse leaf document = .ok tree → tree.flatten = .ok tags →
      ∃ root, root? document = some root ∧ Lists leaf root tags := by
  constructor
  · rw [exists_comm]
    simp only [exists_flatten_iff]
    rw [exists_comm]
    refine exists_congr fun root => ?_
    simp only [exists_and_left]
    refine and_congr_right fun _ => and_congr_right fun _ => and_congr ?_ ?_
    · exact ⟨fun named => named root rfl, fun named _ same => Document.map.inj same ▸ named⟩
    · rw [exists_forall₂_iff]
      simp only [mem_leaves_map, and_imp, exists_reads_iff]
  · intro tree tags read flat
    obtain ⟨root, hroot, -, -, reads⟩ := exists_flatten_iff.mp ⟨tree, read, flat⟩
    refine ⟨root, hroot, leaves (.map root), pairwise_leaves _, fun _ => mem_leaves_map,
      reads.imp ?_⟩
    rintro site tag ⟨definition, hread, built⟩
    exact ⟨(TagSpec.fields_of_definition built).1, definition, hread, built⟩

end Leaf

/-- A line of three tags with a remark between them, one of them in a group named by a number. -/
def lineDocument : Document :=
  .map [(.text "line", .map
    [(.text "speed", .map [(.text "address", .int 40010), (.text "type", .text "INTEGER")]),
     (.text "note", .text "not a tag"),
     (.int 7, .map
       [(.text "flow", .map [(.text "type", .text "real"), (.text "address", .int 40001)])]),
     (.text "state", .map [(.text "address", .int 40012), (.text "type", .text "DIGITAL"),
       (.text "bits", .map [(.text "BIT 9", .text "PUMP ON")])])])]

theorem flatten_lineDocument :
    ∃ tree tags, ofDocument lineDocument = .ok tree ∧ tree.flatten = .ok tags ∧
      tags.map (·.path) = [["line", "speed"], ["line", "7", "flow"], ["line", "state"]] ∧
      ∃ root, root? lineDocument = some root ∧
        Lists TagDefinition.ofNode.ofDocument root tags := by
  obtain ⟨tree, tags, read, flat, paths⟩ : ∃ tree tags, ofDocument lineDocument = .ok tree ∧
      tree.flatten = .ok tags ∧
        tags.map (·.path) = [["line", "speed"], ["line", "7", "flow"], ["line", "state"]] :=
    ⟨_, _, rfl, rfl, rfl⟩
  exact ⟨tree, tags, read, flat, paths, (flatten_leaves _ lineDocument).2 tree tags read flat⟩

end TagTree
end PlcMonitor
