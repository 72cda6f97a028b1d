import PlcMonitor.Document.Json

/-! What is left of a document in JSON: numbers that are not finite are null, keys are texts, and a
value with a type is a map. -/
namespace PlcMonitor.Document

def keyText : Document → String
  | .text s => s
  | other => jsonScalar other

mutual
def inJson : Document → Document
  | .float x => if x.isFinite then .float x else .null
  | .list items => .list (itemsInJson items)
  | .map entries => .map (entriesInJson entries)
  | .tagged name value => .record [("!" ++ name, inJson value)]
  | .null => .null
  | .bool b => .bool b
  | .int i => .int i
  | .text s => .text s
def itemsInJson : List Document → List Document
  | [] => []
  | item :: rest => inJson item :: itemsInJson rest
def entriesInJson : List (Document × Document) → List (Document × Document)
  | [] => []
  | (key, value) :: rest => (.text (keyText key), inJson value) :: entriesInJson rest
end

theorem jsonKey_keyText (key : Document) : jsonKey (.text (keyText key)) = jsonKey key := by
  cases key <;> rfl

mutual
theorem json_inJson (depth : Nat) : (document : Document) →
    (inJson document).json depth = document.json depth
  | .float x => by
    by_cases finite : x.isFinite = true
    · rw [inJson, if_pos finite]
    · simp [inJson, json, jsonScalar, finite]
  | .list [] => rfl
  | .list (item :: rest) => by
    have later := jsonItems_inJson (depth + 1) (item :: rest)
    simp only [itemsInJson] at later
    simp only [inJson, itemsInJson, json, later]
  | .map [] => rfl
  | .map ((key, value) :: rest) => by
    have later := jsonEntries_inJson (depth + 1) ((key, value) :: rest)
    simp only [entriesInJson] at later
    simp only [inJson, entriesInJson, json, later]
  | .tagged name value => by
    have inner := json_inJson (depth + 1) value
    simp [inJson, record, json, jsonEntries, jsonKey, inner, String.append_assoc]
  | .null | .bool _ | .int _ | .text _ => rfl
theorem jsonItems_inJson (depth : Nat) : (items : List Document) →
    jsonItems depth (itemsInJson items) = jsonItems depth items
  | [] => rfl
  | item :: rest => by
    rw [itemsInJson, jsonItems, jsonItems, json_inJson depth item, jsonItems_inJson depth rest]
theorem jsonEntries_inJson (depth : Nat) : (entries : List (Document × Document)) →
    jsonEntries depth (entriesInJson entries) = jsonEntries depth entries
  | [] => rfl
  | (key, value) :: rest => by
    rw [entriesInJson, jsonEntries, jsonEntries, jsonKey_keyText, json_inJson depth value,
      jsonEntries_inJson depth rest]
end

theorem inJson_record (fields : List (String × Document)) :
    (record fields).inJson = record (fields.map fun (name, value) => (name, value.inJson)) := by
  induction fields with
  | nil => rfl
  | cons field rest ih =>
    simp only [record, inJson, map.injEq, List.map_cons, entriesInJson, keyText] at ih ⊢
    rw [ih]

theorem inJson_optional_float (x : Option Float) :
    (optional .float x).inJson = optional .float (x.filter Float.isFinite) := by
  cases x with
  | none => rfl
  | some x => by_cases finite : x.isFinite = true <;> simp [optional, inJson, Option.filter, finite]

theorem inJson_optional {α : Type} {write : α → Document}
    (keeps : ∀ a, (write a).inJson = write a) (x : Option α) :
    (optional write x).inJson = optional write x := by
  cases x with
  | none => rfl
  | some a => exact keeps a

end PlcMonitor.Document
