import PlcMonitor.Document.Node

/-! Readers: how a node is taken for a value. A reader that meets an alias goes on at the node of
that name. Both how deep it gets and how many aliases it follows are bounded, so a text that names
itself is read to an end. -/
namespace PlcMonitor

/-- Why a node is not the value asked for; `ε` is what the value's own parts refuse. -/
inductive Fault (ε : Type) where
  | mismatch
  | duplicate (field : String)
  | missing (field : String)
  | unknownVariant (found : String) (expected : List String)
  | refused (reason : ε)

namespace Fault
variable {ε δ : Type}

def map (f : ε → δ) : Fault ε → Fault δ
  | .mismatch => .mismatch
  | .duplicate field => .duplicate field
  | .missing field => .missing field
  | .unknownVariant found expected => .unknownVariant found expected
  | .refused reason => .refused (f reason)

def message (wording : ε → String) : Fault ε → String
  | .mismatch => "wrong type or value out of range"
  | .duplicate field => s!"duplicate field `{field}`"
  | .missing field => s!"missing field `{field}`"
  | .unknownVariant found expected =>
    s!"unknown variant `{found}`, expected one of " ++
      ", ".intercalate (expected.map fun name => s!"`{name}`")
  | .refused reason => wording reason

end Fault

structure Scope where
  /-- The nodes that have names; of two with one name the first counts. -/
  named : List (Nat × Node) := []
  /-- How many lists and maps may still be entered, each within the one before. -/
  depth : Nat := 128
  /-- How many aliases may be followed in all. -/
  jumps : Nat := 0

/-- What is read within a scope, while the aliases that may still be followed are counted down. -/
abbrev Read (ε α : Type) := ReaderT Scope (StateT Nat (Except (Fault ε))) α

abbrev Reader (ε α : Type) := Node → Read ε α

namespace Read
variable {ε δ α : Type}

def ofOption? : Option α → Read ε α
  | some a => return a
  | none => throw .mismatch

def follow (node : Node) : Read ε Node := do
  match node with
  | .alias name =>
    match ← get with
    | 0 => throw .mismatch
    | left + 1 =>
      set left
      ofOption? ((← read).named.lookup name)
  | node => return node

def enter (inner : Read ε α) : Read ε α := fun scope =>
  match scope.depth with
  | 0 => throw .mismatch
  | depth + 1 => inner { scope with depth }

/-- What has been read before is read once more, and the aliases in it do not count again. -/
def again (inner : Read ε α) : Read ε α := fun scope left => do
  let (a, _) ← inner scope scope.jumps
  return (a, left)

def mapRefusal (f : ε → δ) (inner : Read ε α) : Read δ α := fun scope left =>
  (inner scope left).mapError (·.map f)

def run (scope : Scope) (inner : Read ε α) : Except (Fault ε) α := do
  let (a, _) ← inner scope scope.jumps
  return a

end Read

namespace Reader
variable {ε δ α : Type}

def ofDocument (reader : Reader ε α) (document : Document) : Except (Fault ε) α :=
  (reader (.value document)).run {}

def mapRefusal (f : ε → δ) (reader : Reader ε α) : Reader δ α := fun node =>
  (reader node).mapRefusal f

def ofView? (view : Node → Option α) : Reader ε α := fun node => do
  Read.ofOption? (view (← Read.follow node))

def text : Reader ε String := ofView? Node.text?

def bool : Reader ε Bool := ofView? Node.bool?

def float : Reader ε Float := ofView? Node.float?

def below (limit : Nat) : Reader ε Nat :=
  ofView? fun node => node.natural?.filter (· < limit)

def uint8 : Reader ε UInt8 := fun node => return (← below UInt8.size node).toUInt8

def uint16 : Reader ε UInt16 := fun node => return (← below UInt16.size node).toUInt16

def uint32 : Reader ε UInt32 := fun node => return (← below UInt32.size node).toUInt32

def uint64 : Reader ε UInt64 := fun node => return (← below UInt64.size node).toUInt64

def optional (reader : Reader ε α) : Reader ε (Option α) := fun node => do
  let node ← Read.follow node
  if ← Read.ofOption? node.isAbsent? then return none
  else return some (← reader node)

def list (reader : Reader ε α) : Reader ε (List α) := fun node => do
  let items ← Read.ofOption? (← Read.follow node).items?
  Read.enter (items.mapM reader)

def pairs (key value : Reader ε α) : Reader ε (List (α × α)) := fun node => do
  let entries ← Read.ofOption? (← Read.follow node).entries?
  Read.enter (entries.mapM fun (k, v) => return (← key k, ← value v))

def ofName (ofName? : String → Option α) (names : List String) (name : String) : Read ε α :=
  match ofName? name with
  | some a => return a
  | none => throw (.unknownVariant name names)

def choice (ofName? : String → Option α) (names : List String) : Reader ε α := fun node => do
  match ← Read.follow node with
  | .scalar text style tag =>
    match Node.ownTag? tag with
    | some name =>
      let a ← ofName ofName? names name
      if style = .plain && Scalar.isNull text then return a else throw .mismatch
    | none => ofName ofName? names text
  | .list tag _ | .map tag _ =>
    let name ← Read.ofOption? (Node.ownTag? tag)
    let _ ← ofName ofName? names name
    throw .mismatch
  | node => ofName ofName? names (← Read.ofOption? node.text?)

def entriesOf (inner : Reader ε Document) (seen : List Document) :
    List (Node × Node) → Read ε (List (Document × Document))
  | [] => return []
  | (key, item) :: rest => do
    let name ← inner key
    if seen.any (·.same name) then throw .mismatch
    let value ← inner item
    return (name, value) :: (← entriesOf inner (name :: seen) rest)

/-- The document that a node stands for once every scalar is typed by its spelling. Lists and maps
may be nested `depth` deep. -/
def documentIn : (depth : Nat) → Reader ε Document
  | 0, node => do
    match ← Read.follow node with
    | .scalar text style tag => Read.ofOption? (Node.resolveScalar text style tag)
    | .value document => return document
    | _ => throw .mismatch
  | depth + 1, node => do
    match ← Read.follow node with
    | .scalar text style tag => Read.ofOption? (Node.resolveScalar text style tag)
    | .value document => return document
    | .list tag items => return Node.tagged tag (.list (← items.mapM (documentIn depth)))
    | .map tag entries => return Node.tagged tag (.map (← entriesOf (documentIn depth) [] entries))
    | .alias _ | .broken => throw .mismatch

def document : Reader ε Document := fun node => do documentIn (← read).depth node

end Reader
end PlcMonitor
