import PlcMonitor.Yaml.Cursor

/-! Scalars in each of their styles: plain, quoted, and blocks of lines. Each function gives the
text and the cursor behind it, or nothing where the scalar is not well written. -/
namespace PlcMonitor.Yaml

structure Fold where
  /-- Gaps, while no line break has been met. -/
  gaps : List Char := []
  /-- The first line break; nothing too for one that was escaped. -/
  first : List Char := []
  more : List Char := []
  broken : Bool := false

namespace Fold

/-- A single break becomes a space; of several the first is dropped. -/
def join (fold : Fold) : List Char :=
  if fold.broken then
    if fold.first = ['\n'] then
      if fold.more = [] then [' '] else fold.more
    else
      fold.first ++ fold.more
  else
    fold.gaps

/-- The gaps and breaks at the cursor. In a plain scalar a tab may not stand before column
`indent` of a later line. -/
def scan (indent : Nat) : Nat → Fold → Cursor → Option (Fold × Cursor)
  | 0, fold, cursor => some (fold, cursor)
  | fuel + 1, fold, cursor =>
    match cursor.rest with
    | [] => some (fold, cursor)
    | c :: _ =>
      if isGap c then
        if fold.broken && cursor.column < indent && c = '\t' then none
        else
          let fold := if fold.broken then fold else { fold with gaps := fold.gaps ++ [c] }
          scan indent fuel fold (cursor.forward 1)
      else if isBreak c then
        let (feed, below) := cursor.nextLine
        let fold :=
          if fold.broken then { fold with more := fold.more ++ feed }
          else { fold with gaps := [], first := feed, broken := true }
        scan indent fuel fold below
      else
        some (fold, cursor)

end Fold

def isFlowMark (c : Char) : Bool := c = ',' || c = '[' || c = ']' || c = '{' || c = '}'

/-- The next word of a plain scalar. Within brackets a colon may not be followed by one of their
marks. -/
def plainWord (inFlow : Bool) : List Char → Option (List Char)
  | [] => some []
  | c :: rest =>
    if isGap c || isBreak c then some []
    else if inFlow && c = ':' && rest.head?.any (fun next => isFlowMark next || next = '?') then none
    else if (c = ':' && wordEnds rest) || (inFlow && isFlowMark c) then some []
    else (plainWord inFlow rest).map (c :: ·)

def plainFrom (inFlow : Bool) (indent : Nat) :
    Nat → List Char → Fold → Cursor → Option (List Char × Bool × Cursor)
  | 0, _, _, _ => none
  | fuel + 1, done, fold, cursor =>
    if cursor.atDocumentBorder || cursor.startsWith '#' then some (done, fold.broken, cursor)
    else do
      let word ← plainWord inFlow cursor.rest
      let behind := cursor.forward word.length
      let (done, fold) := if word = [] then (done, fold) else (done ++ fold.join ++ word, {})
      if behind.atGap || behind.atBreak then
        let (next, behind) ← Fold.scan indent behind.rest.length fold behind
        if !inFlow && behind.column < indent then some (done, next.broken, behind)
        else plainFrom inFlow indent fuel done next behind
      else
        some (done, fold.broken, behind)

def plainScalar (inFlow : Bool) (indent : Nat) (cursor : Cursor) :
    Option (List Char × Bool × Cursor) :=
  plainFrom inFlow indent (cursor.rest.length + 1) [] {} cursor

def hexValue? (cs : List Char) : Option Nat :=
  cs.foldlM (fun value c =>
    if c.isDigit then some (16 * value + (c.toNat - '0'.toNat))
    else if 'a' ≤ c ∧ c ≤ 'f' then some (16 * value + (c.toNat - 'a'.toNat + 10))
    else if 'A' ≤ c ∧ c ≤ 'F' then some (16 * value + (c.toNat - 'A'.toNat + 10))
    else none) 0

def hexChar? (count : Nat) (cs : List Char) : Option (Char × Nat) := do
  let digits := cs.take count
  if digits.length ≠ count then none
  let value ← hexValue? digits
  if value.isValidChar then some (Char.ofNat value, count) else none

def escape? : List Char → Option (Char × Nat)
  | '0' :: _ => some ('\x00', 1)
  | 'a' :: _ => some ('\x07', 1)
  | 'b' :: _ => some ('\x08', 1)
  | 't' :: _ | '\t' :: _ => some ('\t', 1)
  | 'n' :: _ => some ('\n', 1)
  | 'v' :: _ => some ('\x0b', 1)
  | 'f' :: _ => some ('\x0c', 1)
  | 'r' :: _ => some ('\r', 1)
  | 'e' :: _ => some ('\x1b', 1)
  | ' ' :: _ => some (' ', 1)
  | '"' :: _ => some ('"', 1)
  | '/' :: _ => some ('/', 1)
  | '\\' :: _ => some ('\\', 1)
  | 'N' :: _ => some ('\x85', 1)
  | '_' :: _ => some ('\xa0', 1)
  | 'L' :: _ => some ('\u2028', 1)
  | 'P' :: _ => some ('\u2029', 1)
  | 'x' :: rest => (hexChar? 2 rest).map fun (c, width) => (c, width + 1)
  | 'u' :: rest => (hexChar? 4 rest).map fun (c, width) => (c, width + 1)
  | 'U' :: rest => (hexChar? 8 rest).map fun (c, width) => (c, width + 1)
  | _ => none

inductive WordEnd where
  | gap
  | quote
  | escapedBreak

def quotedWord (double : Bool) : Nat → List Char → Option (List Char × Nat × WordEnd)
  | 0, _ => none
  | fuel + 1, cs =>
    let onward (c : Char) (width : Nat) : Option (List Char × Nat × WordEnd) :=
      (quotedWord double fuel (cs.drop width)).map fun (word, more, stop) =>
        (c :: word, width + more, stop)
    match cs with
    | [] => some ([], 0, .gap)
    | c :: rest =>
      if isGap c || isBreak c then some ([], 0, .gap)
      else if double then
        if c = '"' then some ([], 0, .quote)
        else if c = '\\' then
          if rest.head?.any isBreak then some ([], 1, .escapedBreak)
          else match escape? rest with
            | some (escaped, width) => onward escaped (width + 1)
            | none => none
        else onward c 1
      else if c = '\'' then
        if rest.head? = some '\'' then onward '\'' 2 else some ([], 0, .quote)
      else onward c 1

def quotedFrom (double : Bool) : Nat → List Char → Cursor → Option (List Char × Cursor)
  | 0, _, _ => none
  | fuel + 1, done, cursor =>
    if cursor.atDocumentBorder || cursor.rest = [] then none
    else do
      let (word, width, stop) ← quotedWord double (cursor.rest.length + 1) cursor.rest
      let done := done ++ word
      let behind := cursor.forward width
      match stop with
      | .quote => some (done, behind.forward 1)
      | .gap =>
        let (fold, behind) ← Fold.scan 0 behind.rest.length {} behind
        quotedFrom double fuel (done ++ fold.join) behind
      | .escapedBreak =>
        let (_, below) := behind.nextLine
        let (fold, below) ← Fold.scan 0 below.rest.length { broken := true } below
        quotedFrom double fuel (done ++ fold.join) below

def quotedScalar (double : Bool) (cursor : Cursor) : Option (List Char × Cursor) :=
  quotedFrom double (cursor.rest.length + 1) [] cursor

inductive Chomp where
  | strip
  | clip
  | keep

structure BlockHeader where
  chomp : Chomp := .clip
  indent? : Option Nat := none

def chompOf? : Char → Option Chomp
  | '+' => some .keep
  | '-' => some .strip
  | _ => none

def indentOf? (c : Char) : Option Nat :=
  if c.isDigit && c ≠ '0' then some (c.toNat - '0'.toNat) else none

def blockHeader (cs : List Char) : Option (BlockHeader × Nat) :=
  match cs with
  | a :: rest =>
    match chompOf? a with
    | some chomp =>
      match rest with
      | b :: _ =>
        if b.isDigit then (indentOf? b).map fun n => (⟨chomp, some n⟩, 2) else some (⟨chomp, none⟩, 1)
      | [] => some (⟨chomp, none⟩, 1)
    | none =>
      if a.isDigit then do
        let n ← indentOf? a
        match rest.head?.bind chompOf? with
        | some chomp => some (⟨chomp, some n⟩, 2)
        | none => some (⟨.clip, some n⟩, 1)
      else some ({}, 0)
  | [] => some ({}, 0)

/-- Blank lines before the next line of a block: their breaks, the cursor at the line's
indentation, and the widest indentation met. -/
def blockBreaks (indent : Nat) : Nat → Nat → List Char → Cursor →
    Option (List Char × Nat × Cursor)
  | 0, widest, breaks, cursor => some (breaks, widest, cursor)
  | fuel + 1, widest, breaks, cursor =>
    let spaces := (cursor.rest.takeWhile (· = ' ')).length
    let width := if indent = 0 then spaces else min spaces (indent - cursor.column)
    let cursor := cursor.forward width
    let widest := max widest cursor.column
    if (indent = 0 || cursor.column < indent) && cursor.startsWith '\t' then none
    else if cursor.atBreak then
      let (feed, below) := cursor.nextLine
      blockBreaks indent fuel widest (breaks ++ feed) below
    else
      some (breaks, widest, cursor)

/-- The lines of a block: the text so far, the break behind its last line, the blank lines behind
that, and whether the last line began with a gap. -/
def blockLines (literal : Bool) (indent : Nat) :
    Nat → List Char → List Char → List Char → Bool → Cursor →
    Option (List Char × List Char × List Char × Cursor)
  | 0, _, _, _, _, _ => none
  | fuel + 1, done, lead, blank, gapped, cursor =>
    if cursor.column = indent && cursor.rest ≠ [] then do
      let gap := cursor.atGap
      let joint :=
        if !literal && lead = ['\n'] && !gapped && !gap then
          if blank = [] then [' '] else []
        else lead
      let (line, behind) := cursor.span fun c => !isBreak c
      let (feed, below) := behind.nextLine
      let (breaks, _, below) ← blockBreaks indent (below.rest.length + 1) 0 [] below
      blockLines literal indent fuel (done ++ joint ++ blank ++ line) feed breaks gap below
    else
      some (done, lead, blank, cursor)

def blockScalar (literal : Bool) (outer : Int) (cursor : Cursor) :
    Option (List Char × Cursor) := do
  let (header, width) ← blockHeader cursor.rest
  let cursor := (cursor.forward width).skip isGap
  let cursor := if cursor.startsWith '#' then cursor.skip fun c => !isBreak c else cursor
  if cursor.rest ≠ [] && !cursor.atBreak then none
  let (_, cursor) := cursor.nextLine
  let given := (header.indent?.map fun n => (max outer 0).toNat + n).getD 0
  let (breaks, widest, cursor) ← blockBreaks given (cursor.rest.length + 1) 0 [] cursor
  let indent := if given = 0 then max widest (max (outer + 1).toNat 1) else given
  let (done, lead, blank, cursor) ←
    blockLines literal indent (cursor.rest.length + 2) [] [] breaks false cursor
  match header.chomp with
  | .strip => some (done, cursor)
  | .clip => some (done ++ lead, cursor)
  | .keep => some (done ++ lead ++ blank, cursor)

end PlcMonitor.Yaml
