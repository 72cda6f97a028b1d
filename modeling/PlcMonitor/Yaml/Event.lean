import PlcMonitor.Yaml.Token

/-! The events of a document: its scalars, and where its lists and maps begin and end. Each event
is told from the tokens up to it alone, so those before a mistake stand whatever follows. -/
namespace PlcMonitor.Yaml

inductive Event (ν : Type) where
  | alias (name : ν)
  | scalar (anchor : Option ν) (tag : Option String) (text : String) (style : ScalarStyle)
  | openList (anchor : Option ν) (tag : Option String)
  | closeList
  | openMap (anchor : Option ν) (tag : Option String)
  | closeMap

def Event.absent {ν : Type} : Event ν := .scalar none none "" .plain

inductive Expected where
  | content
  | blockNode
  | blockEntry
  /-- An entry at the indentation of the mapping around it. -/
  | looseEntry
  | blockKey
  | blockValue
  | flowItem (first : Bool)
  /-- The key of a mapping of one entry that stands in a bracketed list without braces. -/
  | pairKey
  | pairValue
  | pairEnd
  | flowKey (first : Bool)
  | flowValue
  | noFlowValue
deriving DecidableEq, Repr

structure Parser where
  lexer : Lexer
  expected : List Expected := []
  handles : Handles := []

abbrev Parse := StateT Parser Option

namespace Parse

def fail {α : Type} : Parse α := fun _ => none

def peek : Parse Token := fun parser => do
  let lexer ← parser.lexer.ready
  let token ← lexer.waiting.head?
  return (token, { parser with lexer })

def skip : Parse Unit := modify fun parser => { parser with lexer := parser.lexer.drop }

def await (next : Expected) : Parse Unit :=
  modify fun parser => { parser with expected := next :: parser.expected }

def isAt (tokens : List Token) : Parse Bool := return tokens.contains (← peek)

def properties : Parse (Option (List Char) × Option WrittenTag) := do
  match ← peek with
  | .anchor name =>
    skip
    match ← peek with
    | .tag written => skip; return (some name, some written)
    | _ => return (some name, none)
  | .tag written =>
    skip
    match ← peek with
    | .anchor name => skip; return (some name, some written)
    | _ => return (none, some written)
  | _ => return (none, none)

def fullTag (written : Option WrittenTag) : Parse (Option String) := do
  match written with
  | none => return none
  | some written =>
    match (← get).handles.resolve? written with
    | some tag => return some (String.ofList tag)
    | none => fail

/-- Nothing is a node only if it has a name or a tag. -/
def nothing (anchor : Option (List Char)) (tag : Option String) : Parse (Event (List Char)) :=
  if anchor.isNone && tag.isNone then fail else return .scalar anchor tag "" .plain

/-- The first event of a node. Within brackets no block can begin, and entries need not be indented
only where a key stands before them. -/
def node (block loose : Bool) : Parse (Event (List Char)) := do
  match ← peek with
  | .alias name => skip; return .alias name
  | _ =>
    let (anchor, written) ← properties
    let tag ← fullTag written
    match ← peek with
    | .entry =>
      if loose then await .looseEntry; return .openList anchor tag
      else nothing anchor tag
    | .scalar text style =>
      skip
      let tag := if tag = some "!" then none else tag
      return .scalar anchor tag (String.ofList text) style
    | .openFlowSequence => skip; await (.flowItem true); return .openList anchor tag
    | .openFlowMapping => skip; await (.flowKey true); return .openMap anchor tag
    | .openSequence =>
      if block then skip; await .blockEntry; return .openList anchor tag
      else nothing anchor tag
    | .openMapping =>
      if block then skip; await .blockKey; return .openMap anchor tag
      else nothing anchor tag
    | _ => nothing anchor tag

def nodeUnless (stops : List Token) (block loose : Bool) : Parse (Event (List Char)) := do
  if ← isAt stops then return .absent else node block loose

def blockEntry : Parse (Event (List Char)) := do
  match ← peek with
  | .entry =>
    skip
    await .blockEntry
    nodeUnless [.entry, .closeBlock] true false
  | .closeBlock => skip; return .closeList
  | _ => fail

def looseEntry : Parse (Event (List Char)) := do
  match ← peek with
  | .entry =>
    skip
    await .looseEntry
    nodeUnless [.entry, .key, .value, .closeBlock] true false
  | _ => return .closeList

def blockKey : Parse (Event (List Char)) := do
  match ← peek with
  | .key =>
    skip
    await .blockValue
    nodeUnless [.key, .value, .closeBlock] true true
  | .closeBlock => skip; return .closeMap
  | _ => fail

def blockValue : Parse (Event (List Char)) := do
  await .blockKey
  match ← peek with
  | .value => skip; nodeUnless [.key, .value, .closeBlock] true true
  | _ => return .absent

def comma (first : Bool) : Parse Unit := do
  if !first then
    if ← isAt [.comma] then skip else fail

def flowItem (first : Bool) : Parse (Event (List Char)) := do
  if ← isAt [.closeFlowSequence] then skip; return .closeList
  comma first
  match ← peek with
  | .closeFlowSequence => skip; return .closeList
  | .key =>
    skip
    await (.flowItem false)
    await .pairKey
    return .openMap none none
  | _ => await (.flowItem false); node false false

def pairKey : Parse (Event (List Char)) := do
  await .pairValue
  if ← isAt [.value, .comma, .closeFlowSequence] then skip; return .absent
  else node false false

def pairValue : Parse (Event (List Char)) := do
  await .pairEnd
  if ← isAt [.value] then skip; nodeUnless [.comma, .closeFlowSequence] false false
  else return .absent

def flowKey (first : Bool) : Parse (Event (List Char)) := do
  if ← isAt [.closeFlowMapping] then skip; return .closeMap
  comma first
  match ← peek with
  | .closeFlowMapping => skip; return .closeMap
  | .key =>
    skip
    await .flowValue
    nodeUnless [.value, .comma, .closeFlowMapping] false false
  | _ => await .noFlowValue; node false false

def flowValue : Parse (Event (List Char)) := do
  await (.flowKey false)
  if ← isAt [.value] then skip; nodeUnless [.comma, .closeFlowMapping] false false
  else return .absent

def advance : Expected → Parse (Event (List Char))
  | .content => do
    match ← peek with
    | .directive _ | .documentStart | .documentEnd | .finish => return .absent
    | _ => node true false
  | .blockNode => node true false
  | .blockEntry => blockEntry
  | .looseEntry => looseEntry
  | .blockKey => blockKey
  | .blockValue => blockValue
  | .flowItem first => flowItem first
  | .pairKey => pairKey
  | .pairValue => pairValue
  | .pairEnd => do let _ ← peek; return .closeMap
  | .flowKey first => flowKey first
  | .flowValue => flowValue
  | .noFlowValue => do let _ ← peek; await (.flowKey false); return .absent

def next : Parse (Event (List Char)) := do
  match (← get).expected with
  | [] => fail
  | first :: rest =>
    modify fun parser => { parser with expected := rest }
    advance first

/-- The directives before a document: a version that can be read, once, and handles that differ. -/
def directives : Nat → Bool → Handles → Parse Handles
  | 0, _, _ => fail
  | fuel + 1, versioned, handles => do
    match ← peek with
    | .directive (.version major minor) =>
      if versioned || major ≠ 1 || !(minor = 1 || minor = 2) then fail
      skip
      directives fuel true handles
    | .directive (.handle name stem) =>
      if (handles.lookup name).isSome then fail
      skip
      directives fuel versioned (handles ++ [(name, stem)])
    | _ => return handles

def start : Parse Bool := do
  match ← peek with
  | .finish => return false
  | .directive _ | .documentStart =>
    let handles ← directives ((← get).lexer.cursor.rest.length + 2) false []
    if !(← isAt [.documentStart]) then fail
    skip
    await .content
    modify fun parser => { parser with handles := handles ++ Handles.standard }
    return true
  | _ =>
    await .blockNode
    modify fun parser => { parser with handles := Handles.standard }
    return true

def finish : Nat → Parse Bool
  | 0 => fail
  | fuel + 1 => do
    match ← peek with
    | .documentEnd => skip; finish fuel
    | .finish => return true
    | _ => return false

end Parse

namespace Parser

def events : Nat → Parser → List (Event (List Char)) × Option Parser
  | 0, _ => ([], none)
  | fuel + 1, parser =>
    if parser.expected.isEmpty then ([], some parser)
    else match Parse.next.run parser with
      | none => ([], none)
      | some (event, parser) =>
        let (rest, parser?) := events fuel parser
        (event :: rest, parser?)

end Parser

structure Draft where
  events : List (Event (List Char))
  /-- The document is whole, and the text ends with it. -/
  isAlone : Bool

def Draft.ofText (text : String) : Draft :=
  match Parse.start.run { lexer := Lexer.ofText text } with
  | none => ⟨[], false⟩
  | some (false, _) => ⟨[.absent], true⟩
  | some (true, parser) =>
    let length := text.toList.length
    let (events, parser?) := parser.events (8 * length + 64)
    let ending? := parser?.bind fun parser => (Parse.finish (length + 2)).run' parser
    ⟨events, ending?.getD false⟩

end PlcMonitor.Yaml
