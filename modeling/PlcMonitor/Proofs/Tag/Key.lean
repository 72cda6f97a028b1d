import Mathlib.Data.List.Nodup
import Mathlib.Data.String.Basic
import PlcMonitor.Proofs.Tag.Spec
import PlcMonitor.Proofs.Text.Joined

/-! Keys of the tags of a tree. A key joins the names on the way to a tag by slashes, so two tags
share one just if the same stands between the slashes of both ways. -/
namespace PlcMonitor

/-- What stands between the slashes of a path. -/
def segments (path : List String) : List (List Char) :=
  path.flatMap fun name => name.toList.splitOn '/'

theorem joinPath_eq_iff {path path' : List String} (some : path ≠ []) (some' : path' ≠ []) :
    joinPath path = joinPath path' ↔ segments path = segments path' := by
  have slash : "/".toList = ['/'] := rfl
  rw [← String.toList_inj, joinPath, joinPath, String.toList_intercalate,
    String.toList_intercalate, slash, intercalate_eq_iff (by simpa) (by simpa), segments, segments,
    List.flatMap_map, List.flatMap_map]

theorem segments_of_solid {path : List String} (solid : ∀ name ∈ path, '/' ∉ name.toList) :
    segments path = path.map String.toList := by
  rw [segments, List.map_eq_flatMap]
  exact List.flatMap_congr fun name hname => List.splitOn_eq_singleton (solid name hname)

namespace TagTree

mutual
/-- The ways to the tags of a tree that stands at `path`, in the order in which they are written. -/
def pathsAt (path : List String) : TagTree → List (List String)
  | .tag _ => [path]
  | .group children => childPaths path children
def childPaths (path : List String) : List (String × TagTree) → List (List String)
  | [] => []
  | (name, child) :: rest => pathsAt (path ++ [name]) child ++ childPaths path rest
end

mutual
theorem flattenAt_paths {path : List String} {tags : List TagSpec} :
    (tree : TagTree) → flattenAt path tree = .ok tags → tags.map (·.path) = pathsAt path tree
  | .tag definition, h => by
    unfold flattenAt at h
    obtain ⟨spec, built, rfl⟩ := map_eq_ok.mp h
    simp [pathsAt, (TagSpec.fields_of_definition built).1]
  | .group children, h => flattenChildren_paths children h
theorem flattenChildren_paths {path : List String} {tags : List TagSpec} :
    (children : List (String × TagTree)) → flattenChildren path children = .ok tags →
      tags.map (·.path) = childPaths path children
  | [], h => by
    cases h
    rfl
  | (name, child) :: rest, h => by
    unfold flattenChildren at h
    obtain ⟨own, first, h⟩ := bind_eq_ok.mp h
    obtain ⟨others, later, h⟩ := bind_eq_ok.mp h
    cases h
    rw [List.map_append, flattenAt_paths child first, flattenChildren_paths rest later, childPaths]
end

mutual
theorem prefix_of_mem_pathsAt {path way : List String} :
    (tree : TagTree) → way ∈ pathsAt path tree → path <+: way
  | .tag _, h => List.mem_singleton.mp h ▸ List.prefix_rfl
  | .group children, h => by
    obtain ⟨name, -, begins⟩ := prefix_of_mem_childPaths children h
    exact (List.prefix_append path [name]).trans begins
theorem prefix_of_mem_childPaths {path way : List String} :
    (children : List (String × TagTree)) → way ∈ childPaths path children →
      ∃ name ∈ children.map Prod.fst, path ++ [name] <+: way
  | [], h => by cases h
  | (name, child) :: rest, h => by
    rcases List.mem_append.mp h with own | later
    · exact ⟨name, List.mem_cons_self, prefix_of_mem_pathsAt child own⟩
    · obtain ⟨other, hother, begins⟩ := prefix_of_mem_childPaths rest later
      exact ⟨other, List.mem_cons_of_mem _ hother, begins⟩
end

mutual
/-- In no group are two children named alike, and no name has a slash. -/
def PlainlyNamed : TagTree → Prop
  | .tag _ => True
  | .group children => (children.map Prod.fst).Nodup ∧ ChildrenPlain children
def ChildrenPlain : List (String × TagTree) → Prop
  | [] => True
  | (name, child) :: rest => '/' ∉ name.toList ∧ PlainlyNamed child ∧ ChildrenPlain rest
end

mutual
theorem nodup_pathsAt {path : List String} :
    (tree : TagTree) → tree.PlainlyNamed → (pathsAt path tree).Nodup
  | .tag _, _ => List.nodup_singleton path
  | .group children, ⟨distinct, plain⟩ => nodup_childPaths children distinct plain
theorem nodup_childPaths {path : List String} :
    (children : List (String × TagTree)) → (children.map Prod.fst).Nodup →
      ChildrenPlain children → (childPaths path children).Nodup
  | [], _, _ => List.nodup_nil
  | (name, child) :: rest, distinct, ⟨_, own, plain⟩ => by
    obtain ⟨fresh, distinct⟩ := List.nodup_cons.mp distinct
    refine List.nodup_append.mpr
      ⟨nodup_pathsAt child own, nodup_childPaths rest distinct plain, ?_⟩
    -- a way through this child and one through a later one part at the child's name
    rintro way hway _ hother rfl
    obtain ⟨other, named, begins⟩ := prefix_of_mem_childPaths rest hother
    have same := List.prefix_of_prefix_length_le (prefix_of_mem_pathsAt child hway) begins (by simp)
    have : name = other := by simpa using same.eq_of_length (by simp)
    exact fresh (this ▸ named)
end

mutual
theorem solid_of_mem_pathsAt {path way : List String}
    (solid : ∀ name ∈ path, '/' ∉ name.toList) :
    (tree : TagTree) → tree.PlainlyNamed → way ∈ pathsAt path tree →
      ∀ name ∈ way, '/' ∉ name.toList
  | .tag _, _, h => by
    rwa [List.mem_singleton.mp h]
  | .group children, ⟨_, plain⟩, h => solid_of_mem_childPaths solid children plain h
theorem solid_of_mem_childPaths {path way : List String}
    (solid : ∀ name ∈ path, '/' ∉ name.toList) :
    (children : List (String × TagTree)) → ChildrenPlain children → way ∈ childPaths path children →
      ∀ name ∈ way, '/' ∉ name.toList
  | [], _, h => by cases h
  | (name, child) :: rest, ⟨bare, own, plain⟩, h => by
    rcases List.mem_append.mp h with here | later
    · refine solid_of_mem_pathsAt ?_ child own here
      exact List.forall_mem_append.mpr ⟨solid, List.forall_mem_singleton.mpr bare⟩
    · exact solid_of_mem_childPaths solid rest plain later
end

def paths (tree : TagTree) : List (List String) := tree.pathsAt []

/-- No two tags have the same between the slashes of their ways. -/
def SpelledApart (tree : TagTree) : Prop := (tree.paths.map segments).Nodup

theorem PlainlyNamed.spelledApart {tree : TagTree} (plain : tree.PlainlyNamed) :
    tree.SpelledApart := by
  refine (nodup_pathsAt tree plain).map_on fun way hway other hother same => ?_
  have solid : ∀ {way}, way ∈ tree.paths → ∀ name ∈ way, '/' ∉ name.toList :=
    solid_of_mem_pathsAt (List.forall_mem_nil _) tree plain
  rw [segments_of_solid (solid hway), segments_of_solid (solid hother)] at same
  exact (List.map_injective_iff.mpr fun _ _ => String.toList_inj.mp) same

theorem flatten_paths {tree : TagTree} {tags : List TagSpec} (h : tree.flatten = .ok tags) :
    tags.map (·.path) = tree.paths := by
  cases tree with
  | tag definition => cases h
  | group children => exact flattenChildren_paths children h

theorem ne_nil_of_flatten {tree : TagTree} {tags : List TagSpec} (h : tree.flatten = .ok tags) :
    ∀ tag ∈ tags, tag.path ≠ [] := by
  intro tag htag
  have way : tag.path ∈ tree.paths := flatten_paths h ▸ List.mem_map_of_mem htag
  cases tree with
  | tag definition => cases h
  | group children =>
    obtain ⟨name, -, begins⟩ := prefix_of_mem_childPaths children way
    exact begins.ne_nil (by simp)

theorem nodup_keys_iff {tree : TagTree} {tags : List TagSpec} (h : tree.flatten = .ok tags) :
    (tags.map (·.key)).Nodup ↔ tree.SpelledApart := by
  have some := ne_nil_of_flatten h
  rw [SpelledApart, ← flatten_paths h, List.map_map, List.Nodup, List.Nodup, List.pairwise_map,
    List.pairwise_map]
  refine List.Pairwise.iff_of_mem fun htag hother => not_congr ?_
  exact joinPath_eq_iff (some _ htag) (some _ hother)

end TagTree
end PlcMonitor
