import PlcMonitor.Document.Reader
import PlcMonitor.Yaml.Event

/-! The node that events describe. Where they stop the node breaks off, so that what stands before
can still be read. -/
namespace PlcMonitor.Yaml

structure Anchors where
  numbers : List (List Char × Nat) := []
  count : Nat := 0

/-- The number of a node is how many different anchors stand before it. So a node whose anchor was
used before has the number that the next new anchor gets too. -/
def Anchors.add (anchors : Anchors) : Option (List Char) → Option Nat × Anchors
  | none => (none, anchors)
  | some name =>
    let isNew := (anchors.numbers.lookup name).isNone
    (some anchors.count,
      { numbers := (name, anchors.count) :: anchors.numbers
        count := if isNew then anchors.count + 1 else anchors.count })

/-- Events with numbers for names, up to the first alias that no anchor stands before. -/
def number (anchors : Anchors) : List (Event (List Char)) → List (Event Nat)
  | [] => []
  | .alias name :: rest =>
    match anchors.numbers.lookup name with
    | some target => .alias target :: number anchors rest
    | none => []
  | .scalar anchor tag text style :: rest =>
    let (name, anchors) := anchors.add anchor
    .scalar name tag text style :: number anchors rest
  | .openList anchor tag :: rest =>
    let (name, anchors) := anchors.add anchor
    .openList name tag :: number anchors rest
  | .openMap anchor tag :: rest =>
    let (name, anchors) := anchors.add anchor
    .openMap name tag :: number anchors rest
  | .closeList :: rest => .closeList :: number anchors rest
  | .closeMap :: rest => .closeMap :: number anchors rest

abbrev Named := List (Nat × Node)

def withName (anchor : Option Nat) (node : Node) (within : Named) : Named :=
  match anchor with
  | some name => (name, node) :: within
  | none => within

mutual
def treeOf : Nat → List (Event Nat) → Node × Named × List (Event Nat)
  | 0, _ => (.broken, [], [])
  | fuel + 1, events =>
    match events with
    | .alias name :: rest => (.alias name, [], rest)
    | .scalar anchor tag text style :: rest =>
      let node := Node.scalar text style tag
      (node, withName anchor node [], rest)
    | .openList anchor tag :: rest =>
      let (items, named, rest) := itemsOf fuel rest
      let node := Node.list tag items
      (node, withName anchor node named, rest)
    | .openMap anchor tag :: rest =>
      let (entries, named, rest) := entriesOf fuel rest
      let node := Node.map tag entries
      (node, withName anchor node named, rest)
    | .closeList :: _ | .closeMap :: _ | [] => (.broken, [], [])
def itemsOf : Nat → List (Event Nat) → List Node × Named × List (Event Nat)
  | 0, _ => ([.broken], [], [])
  | fuel + 1, events =>
    match events with
    | .closeList :: rest => ([], [], rest)
    | [] => ([.broken], [], [])
    | events =>
      let (item, named, rest) := treeOf fuel events
      let (items, others, rest) := itemsOf fuel rest
      (item :: items, named ++ others, rest)
def entriesOf : Nat → List (Event Nat) → List (Node × Node) × Named × List (Event Nat)
  | 0, _ => ([(.broken, .broken)], [], [])
  | fuel + 1, events =>
    match events with
    | .closeMap :: rest => ([], [], rest)
    | [] => ([(.broken, .broken)], [], [])
    | events =>
      let (key, named, rest) := treeOf fuel events
      let (item, more, rest) := treeOf fuel rest
      let (entries, others, rest) := entriesOf fuel rest
      ((key, item) :: entries, named ++ more ++ others, rest)
end

structure Parsed where
  node : Node
  scope : Scope
  isAlone : Bool

/-- Of several nodes with one number the last to begin is meant. -/
def parse (text : String) : Parsed :=
  let draft := Draft.ofText text
  let events := number {} draft.events
  let (node, named, _) := treeOf (2 * events.length + 2) events
  ⟨node, { named := named.reverse, jumps := 100 * events.length }, draft.isAlone⟩

/-- The value that a text of one document is read as. What is wrong with the value counts before
what is wrong behind it. -/
def read {ε α : Type} (reader : Reader ε α) (text : String) : Except (Fault ε) α := do
  let parsed := parse text
  let value ← (reader parsed.node).run parsed.scope
  if parsed.isAlone then return value else throw .mismatch

end PlcMonitor.Yaml
