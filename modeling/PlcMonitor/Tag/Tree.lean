import PlcMonitor.Tag.Definition

/-! Trees of tags. A map with an `address` is a tag, any other map a group whose maps are its
children, in the order they are written; what else stands in a group is a remark. -/
namespace PlcMonitor

inductive TagTree where
  | tag (definition : TagDefinition)
  | group (children : List (String × TagTree))

def joinPath (path : List String) : String := "/".intercalate path

namespace TagTree

def empty : TagTree := .group []

inductive Malformed where
  /-- Neither a map nor nothing stands where a tag or a group should. -/
  | notMap (path : List String) (found : Document)
  | unnamed (path : List String) (key : Document)
  | unreadable (path : List String) (fault : TagDefinition.Unreadable)

def Malformed.message : Malformed → String
  | .notMap path found => s!"tag node '{joinPath path}' must be a mapping, found {found.shown}"
  | .unnamed path key => s!"tag group '{joinPath path}' has a non-scalar key {key.shown}"
  | .unreadable path fault =>
    s!"tag '{joinPath path}': {fault.message DataType.Unsupported.message}"

def childName? : Document → Option String
  | .text s => some s
  | .int i => some (toString i)
  | .float x => some (Document.floatText x)
  | _ => none

def isTag (entries : List (Document × Document)) : Bool :=
  (Document.lookup "address" entries).isSome

section Parse
variable (leaf : TagDefinition.Decoder)

mutual
/-- The tree in a document that stands at `path`, whose tags `leaf` reads. -/
def parseAt (path : List String) : Document → Except Malformed TagTree
  | .map entries =>
    if isTag entries then
      match leaf (.map entries) with
      | .ok definition => .ok (.tag definition)
      | .error fault => .error (.unreadable path fault)
    else
      (childrenAt path entries).map .group
  | .null => .ok empty
  | other => .error (.notMap path other)
def childrenAt (path : List String) :
    List (Document × Document) → Except Malformed (List (String × TagTree))
  | [] => .ok []
  | (key, child) :: rest =>
    match childName? key with
    | none => .error (.unnamed path key)
    | some name =>
      if child.isMap then do
        let first ← parseAt (path ++ [name]) child
        let others ← childrenAt path rest
        return (name, first) :: others
      else
        childrenAt path rest
end

def parse (document : Document) : Except Malformed TagTree := parseAt leaf [] document

end Parse

def ofDocument (document : Document) : Except Malformed TagTree :=
  parse TagDefinition.ofNode.ofDocument document

def ofNode : Reader Malformed TagTree := fun node => do
  match ofDocument (← Reader.document node) with
  | .ok tree => return tree
  | .error fault => throw (.refused fault)

end TagTree
end PlcMonitor
