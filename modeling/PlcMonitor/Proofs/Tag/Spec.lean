import PlcMonitor.Proofs.Register.Span
import PlcMonitor.Tag.Spec

/-! What every tag that is built from a definition has, alone or in a tree. -/
namespace PlcMonitor

namespace TagSpec

/-- A spec that comes from a definition. -/
def Built (spec : TagSpec) : Prop := ∃ path definition, ofDefinition path definition = .ok spec

theorem fields_of_definition {path : List String} {definition : TagDefinition} {spec : TagSpec}
    (h : ofDefinition path definition = .ok spec) :
    spec.path = path ∧ spec.type = definition.type ∧
      readSpan definition.address definition.type = .ok spec.span := by
  obtain ⟨span, hspan, h⟩ := bind_eq_ok.mp h
  obtain ⟨base, -, h⟩ := bind_eq_ok.mp h
  obtain ⟨bits, -, h⟩ := bind_eq_ok.mp h
  cases h
  exact ⟨rfl, rfl, mapError_eq_ok.mp hspan⟩

theorem Built.placed {spec : TagSpec} (built : spec.Built) :
    spec.span.Placed ∧ spec.span.count = spec.type.registers := by
  obtain ⟨path, definition, h⟩ := built
  obtain ⟨-, type, span⟩ := fields_of_definition h
  rw [type]
  exact readSpan_placed span

end TagSpec

namespace TagTree

mutual
theorem flattenAt_built {path : List String} {tags : List TagSpec} :
    (tree : TagTree) → flattenAt path tree = .ok tags → ∀ tag ∈ tags, tag.Built
  | .tag definition, h => by
    unfold flattenAt at h
    obtain ⟨spec, built, rfl⟩ := map_eq_ok.mp h
    exact List.forall_mem_singleton.mpr ⟨path, definition, built⟩
  | .group children, h => flattenChildren_built children h
theorem flattenChildren_built {path : List String} {tags : List TagSpec} :
    (children : List (String × TagTree)) → flattenChildren path children = .ok tags →
      ∀ tag ∈ tags, tag.Built
  | [], h => by
    cases h
    exact List.forall_mem_nil _
  | (name, child) :: rest, h => by
    unfold flattenChildren at h
    obtain ⟨own, first, h⟩ := bind_eq_ok.mp h
    obtain ⟨others, later, h⟩ := bind_eq_ok.mp h
    cases h
    exact List.forall_mem_append.mpr
      ⟨flattenAt_built child first, flattenChildren_built rest later⟩
end

theorem flatten_built {tree : TagTree} {tags : List TagSpec} (h : tree.flatten = .ok tags) :
    ∀ tag ∈ tags, tag.Built := by
  cases tree with
  | tag definition => cases h
  | group children => exact flattenChildren_built children h

end TagTree
end PlcMonitor
