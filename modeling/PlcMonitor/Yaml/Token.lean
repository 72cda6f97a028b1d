import PlcMonitor.Document.Node
import PlcMonitor.Yaml.Tag

/-! The tokens of a text. Where lines are indented further, a block opens; where they are indented
less, blocks close. A word turns out to be a key only when a colon follows it on its line, and the
key mark is then put before it. Tokens are read no further than it takes to know the next one, so
what is wrong with a text is met only where it stands. -/
namespace PlcMonitor.Yaml

inductive Token where
  | documentStart
  | documentEnd
  | directive (content : Directive)
  | openSequence
  | openMapping
  | closeBlock
  | openFlowSequence
  | closeFlowSequence
  | openFlowMapping
  | closeFlowMapping
  | entry
  | comma
  | key
  | value
  | alias (name : List Char)
  | anchor (name : List Char)
  | tag (written : WrittenTag)
  | scalar (text : List Char) (style : ScalarStyle)
  | finish
deriving DecidableEq, Repr

structure KeyMark where
  required : Bool
  position : Nat
  index : Nat
  line : Nat
  column : Nat

structure Lexer where
  cursor : Cursor
  /-- From this byte on the text cannot be read. -/
  wall : Option Nat := none
  waiting : List Token := []
  taken : Nat := 0
  /-- The column of the innermost block; -1 outside all. -/
  indent : Int := -1
  outer : List Int := []
  /-- One place for each open bracket, innermost first, and one for the block around them. -/
  marks : List (Option KeyMark) := [none]
  keyAllowed : Bool := true

namespace Lexer

def inFlow (lexer : Lexer) : Bool := 1 < lexer.marks.length

def position (lexer : Lexer) : Nat := lexer.taken + lexer.waiting.length

def push (lexer : Lexer) (token : Token) : Lexer :=
  { lexer with waiting := lexer.waiting ++ [token] }

def putAt (lexer : Lexer) (position : Nat) (token : Token) : Lexer :=
  let before := position - lexer.taken
  { lexer with waiting := lexer.waiting.take before ++ token :: lexer.waiting.drop before }

def allow (lexer : Lexer) (keyAllowed : Bool) : Lexer := { lexer with keyAllowed }

def moveTo (lexer : Lexer) (cursor : Cursor) : Lexer := { lexer with cursor }

def closeTo (column : Int) : Nat → Lexer → Lexer
  | 0, lexer => lexer
  | fuel + 1, lexer =>
    if lexer.inFlow || lexer.indent ≤ column then lexer
    else match lexer.outer with
      | [] => lexer
      | before :: outer =>
        closeTo column fuel { lexer.push .closeBlock with indent := before, outer }

def unindent (lexer : Lexer) (column : Int) : Lexer :=
  closeTo column (lexer.outer.length + 1) lexer

def openAt (lexer : Lexer) (column : Nat) (position : Nat) (token : Token) : Lexer :=
  if lexer.inFlow || (column : Int) ≤ lexer.indent then lexer
  else
    { lexer.putAt position token with indent := column, outer := lexer.indent :: lexer.outer }

def openHere (lexer : Lexer) (token : Token) : Lexer :=
  lexer.openAt lexer.cursor.column lexer.position token

def dropMark (lexer : Lexer) : Option Lexer :=
  match lexer.marks with
  | some mark :: outer => if mark.required then none else some { lexer with marks := none :: outer }
  | _ => some lexer

def mark (lexer : Lexer) : Option Lexer :=
  if lexer.keyAllowed then do
    let lexer ← lexer.dropMark
    let cursor := lexer.cursor
    let here : KeyMark := {
      required := !lexer.inFlow && lexer.indent = (cursor.column : Int)
      position := lexer.position
      index := cursor.index
      line := cursor.line
      column := cursor.column }
    return { lexer with marks := some here :: lexer.marks.tail }
  else
    some lexer

/-- A key ends on the line where it begins, within 1024 bytes. -/
def isStale (cursor : Cursor) (mark : KeyMark) : Bool :=
  mark.line < cursor.line || mark.index + 1024 < cursor.index

def dropStale (lexer : Lexer) : Option Lexer := do
  let marks ← lexer.marks.mapM fun (mark? : Option KeyMark) =>
    match mark? with
    | some mark =>
      if isStale lexer.cursor mark then (if mark.required then none else some none)
      else some (some mark)
    | none => some none
  return { lexer with marks }

/-- Past gaps, comments and line breaks. A tab is no gap where a key may begin. -/
def skipToWord : Nat → Lexer → Lexer
  | 0, lexer => lexer
  | fuel + 1, lexer =>
    let cursor := lexer.cursor.skipOrderMark.skip fun c =>
      c = ' ' || ((lexer.inFlow || !lexer.keyAllowed) && c = '\t')
    let cursor := if cursor.startsWith '#' then cursor.skip fun c => !isBreak c else cursor
    if cursor.atBreak then
      let (_, below) := cursor.nextLine
      skipToWord fuel ((lexer.moveTo below).allow (lexer.keyAllowed || !lexer.inFlow))
    else
      lexer.moveTo cursor

def take (lexer : Lexer) (width : Nat) (token : Token) : Lexer :=
  (lexer.push token).moveTo (lexer.cursor.forward width)

/-- The end of the text is a line of its own. -/
def readFinish (lexer : Lexer) : Option Lexer := do
  let cursor := lexer.cursor
  let below := if cursor.column = 0 then cursor else ⟨cursor.rest, cursor.index, cursor.line + 1, 0⟩
  let lexer ← ((lexer.moveTo below).unindent (-1)).dropMark
  return (lexer.push .finish).allow false

def readDirective (lexer : Lexer) : Option Lexer := do
  let lexer ← (lexer.unindent (-1)).dropMark
  let cursor := lexer.cursor.forward 1
  let (directive, rest) ← Directive.read? cursor.rest
  let behind := cursor.forwardTo rest
  let below := if behind.atBreak then behind.nextLine.2 else behind
  return ((lexer.push (.directive directive)).moveTo below).allow false

def readDocumentMark (lexer : Lexer) (token : Token) : Option Lexer := do
  let lexer ← (lexer.unindent (-1)).dropMark
  return (lexer.allow false).take 3 token

def openFlow (lexer : Lexer) (token : Token) : Option Lexer := do
  let lexer ← lexer.mark
  let lexer := { lexer with marks := none :: lexer.marks }
  return (lexer.allow true).take 1 token

def closeFlow (lexer : Lexer) (token : Token) : Option Lexer := do
  let lexer ← lexer.dropMark
  let lexer := if lexer.inFlow then { lexer with marks := lexer.marks.tail } else lexer
  return (lexer.allow false).take 1 token

def readComma (lexer : Lexer) : Option Lexer := do
  return ((← lexer.dropMark).allow true).take 1 .comma

def readEntry (lexer : Lexer) : Option Lexer := do
  if !lexer.inFlow && !lexer.keyAllowed then none
  let lexer ← (lexer.openHere .openSequence).dropMark
  return (lexer.allow true).take 1 .entry

def readKey (lexer : Lexer) : Option Lexer := do
  if !lexer.inFlow && !lexer.keyAllowed then none
  let lexer ← (lexer.openHere .openMapping).dropMark
  return (lexer.allow (!lexer.inFlow)).take 1 .key

def readValue (lexer : Lexer) : Option Lexer :=
  match lexer.marks with
  | some mark :: outer =>
    let lexer := { lexer.putAt mark.position .key with marks := none :: outer }
    let lexer := lexer.openAt mark.column mark.position .openMapping
    some ((lexer.allow false).take 1 .value)
  | _ => do
    if !lexer.inFlow && !lexer.keyAllowed then none
    let lexer := lexer.openHere .openMapping
    return (lexer.allow (!lexer.inFlow)).take 1 .value

def readName (lexer : Lexer) (token : List Char → Token) : Option Lexer := do
  let lexer ← lexer.mark
  let (name, behind) := (lexer.cursor.forward 1).span isNameChar
  let ends := wordEnds behind.rest ||
    behind.rest.head?.any (['?', ':', ',', ']', '}', '%', '@', '\x60'].contains ·)
  if name = [] || !ends then none
  return ((lexer.push (token name)).moveTo behind).allow false

def readTag (lexer : Lexer) : Option Lexer := do
  let lexer ← lexer.mark
  let cursor := lexer.cursor.forward 1
  let (tag, rest) ← writtenTag? cursor.rest
  if !wordEnds rest && !(lexer.inFlow && rest.head? = some ',') then none
  return ((lexer.push (.tag tag)).moveTo (cursor.forwardTo rest)).allow false

def readBlockScalar (lexer : Lexer) (literal : Bool) : Option Lexer := do
  let lexer ← lexer.dropMark
  let (text, behind) ← blockScalar literal lexer.indent (lexer.cursor.forward 1)
  let style := if literal then ScalarStyle.literal else .folded
  return ((lexer.push (.scalar text style)).moveTo behind).allow true

def readQuoted (lexer : Lexer) (double : Bool) : Option Lexer := do
  let lexer ← lexer.mark
  let (text, behind) ← quotedScalar double (lexer.cursor.forward 1)
  return ((lexer.push (.scalar text .quoted)).moveTo behind).allow false

def readPlain (lexer : Lexer) : Option Lexer := do
  let lexer ← lexer.mark
  let (text, broken, behind) ← plainScalar lexer.inFlow (lexer.indent + 1).toNat lexer.cursor
  return ((lexer.push (.scalar text .plain)).moveTo behind).allow broken

/-- Marks that a plain scalar may not begin with, unless a word follows some of them at once. -/
def isMark (c : Char) : Bool :=
  ['-', '?', ':', ',', '[', ']', '{', '}', '#', '&', '*', '!', '|', '>', '\'', '"', '%', '@',
    '\x60'].contains c

def readToken (lexer : Lexer) : Option Lexer :=
  match lexer.cursor.rest with
  | [] => lexer.readFinish
  | c :: rest =>
    let apart := lexer.inFlow || wordEnds rest
    if lexer.cursor.column = 0 && c = '%' then lexer.readDirective
    else if lexer.cursor.atDocumentMark '-' then lexer.readDocumentMark .documentStart
    else if lexer.cursor.atDocumentMark '.' then lexer.readDocumentMark .documentEnd
    else if c = '[' then lexer.openFlow .openFlowSequence
    else if c = '{' then lexer.openFlow .openFlowMapping
    else if c = ']' then lexer.closeFlow .closeFlowSequence
    else if c = '}' then lexer.closeFlow .closeFlowMapping
    else if c = ',' then lexer.readComma
    else if c = '-' && wordEnds rest then lexer.readEntry
    else if c = '?' && apart then lexer.readKey
    else if c = ':' && apart then lexer.readValue
    else if c = '*' then lexer.readName .alias
    else if c = '&' then lexer.readName .anchor
    else if c = '!' then lexer.readTag
    else if c = '|' && !lexer.inFlow then lexer.readBlockScalar true
    else if c = '>' && !lexer.inFlow then lexer.readBlockScalar false
    else if c = '\'' then lexer.readQuoted false
    else if c = '"' then lexer.readQuoted true
    else if !isMark c && !isGap c then lexer.readPlain
    else if c = '-' && !rest.head?.any isGap then lexer.readPlain
    else if !lexer.inFlow && (c = '?' || c = ':') && !wordEnds rest then lexer.readPlain
    else none

def beforeWall (lexer : Lexer) : Option Lexer :=
  if lexer.wall.any (· ≤ lexer.cursor.index) then none else some lexer

def more (lexer : Lexer) : Option Lexer := do
  let lexer ← (skipToWord (lexer.cursor.rest.length + 1) lexer).beforeWall
  let lexer ← lexer.dropStale
  let lexer ← (lexer.unindent lexer.cursor.column).readToken
  lexer.beforeWall

/-- The next token may still turn out to be a key. -/
def isOpen (lexer : Lexer) : Bool :=
  lexer.marks.any fun mark? => mark?.any (·.position = lexer.taken)

def readyWithin : Nat → Lexer → Option Lexer
  | 0, _ => none
  | fuel + 1, lexer =>
    if lexer.waiting.isEmpty then lexer.more.bind (readyWithin fuel)
    else do
      let lexer ← lexer.dropStale
      if lexer.isOpen then lexer.more.bind (readyWithin fuel) else return lexer

def ready (lexer : Lexer) : Option Lexer := readyWithin (lexer.cursor.rest.length + 3) lexer

def drop (lexer : Lexer) : Lexer :=
  { lexer with waiting := lexer.waiting.tail, taken := lexer.taken + 1 }

end Lexer

def Lexer.ofText (text : String) : Lexer :=
  { cursor := { rest := text.toList }, wall := wallFrom 0 0 text.toList }

end PlcMonitor.Yaml
