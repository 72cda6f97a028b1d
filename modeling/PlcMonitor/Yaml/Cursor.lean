import PlcMonitor.Text.Blank

/-! A position in a text, and the classes of characters that separate what is written there. -/
namespace PlcMonitor.Yaml

structure Cursor where
  rest : List Char
  index : Nat := 0
  line : Nat := 0
  column : Nat := 0

def isBreak (c : Char) : Bool :=
  c = '\n' || c = '\r' || c = '\x85' || c = '\u2028' || c = '\u2029'

def isGap (c : Char) : Bool := c = ' ' || c = '\t'

def wordEnds : List Char → Bool
  | [] => true
  | c :: _ => isGap c || isBreak c

def isAllowed (c : Char) : Bool :=
  let n := c.toNat
  n = 0x09 || n = 0x0A || n = 0x0D || (0x20 ≤ n && n ≤ 0x7E) || n = 0x85 ||
    (0xA0 ≤ n && n ≤ 0xD7FF) || (0xE000 ≤ n && n ≤ 0xFFFD) || 0x10000 ≤ n

def stretch : Nat := 16384

/-- Where the stretch begins that holds the first character a text may not have. `start` is where
the stretch began that `index` lies in. -/
def wallFrom (start index : Nat) : List Char → Option Nat
  | [] => none
  | c :: rest =>
    let behind := index + c.utf8Size
    let start := if start + stretch < behind then index else start
    if isAllowed c then wallFrom start behind rest else some start

namespace Cursor

def forward (cursor : Cursor) (count : Nat) : Cursor :=
  { cursor with
    rest := cursor.rest.drop count
    index := cursor.index + Text.byteLength (cursor.rest.take count)
    column := cursor.column + count }

def forwardTo (cursor : Cursor) (rest : List Char) : Cursor :=
  cursor.forward (cursor.rest.length - rest.length)

def span (cursor : Cursor) (belongs : Char → Bool) : List Char × Cursor :=
  let word := cursor.rest.takeWhile belongs
  (word, cursor.forward word.length)

def skip (cursor : Cursor) (belongs : Char → Bool) : Cursor := (cursor.span belongs).2

/-- Over a line break, which reads as one line feed unless it is a line or paragraph separator. -/
def nextLine (cursor : Cursor) : List Char × Cursor :=
  let below (rest : List Char) (width : Nat) : Cursor :=
    ⟨rest, cursor.index + width, cursor.line + 1, 0⟩
  match cursor.rest with
  | [] => ([], cursor)
  | '\r' :: '\n' :: rest => (['\n'], below rest 2)
  | c :: rest =>
    (if c = '\u2028' || c = '\u2029' then [c] else ['\n'], below rest c.utf8Size)

def skipOrderMark (cursor : Cursor) : Cursor :=
  if cursor.column = 0 && cursor.rest.head? = some '\ufeff' then cursor.forward 1 else cursor

def startsWith (cursor : Cursor) (c : Char) : Bool := cursor.rest.head? = some c

def atBreak (cursor : Cursor) : Bool := cursor.rest.head?.any isBreak

def atGap (cursor : Cursor) : Bool := cursor.rest.head?.any isGap

def atDocumentMark (cursor : Cursor) (mark : Char) : Bool :=
  cursor.column = 0 && cursor.rest.take 3 = [mark, mark, mark] && wordEnds (cursor.rest.drop 3)

def atDocumentBorder (cursor : Cursor) : Bool :=
  cursor.atDocumentMark '-' || cursor.atDocumentMark '.'

end Cursor
end PlcMonitor.Yaml
