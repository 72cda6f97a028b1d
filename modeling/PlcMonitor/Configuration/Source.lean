import PlcMonitor.Configuration.Basic
import PlcMonitor.Yaml.Tree

/-! Tag trees and configurations from text and from files. -/
namespace PlcMonitor

/-- A tree from a text. The text is read as a document first, so that what is wrong with it counts
before what is wrong with the tree. -/
def TagTree.ofText (text : String) : Except (Fault TagTree.Malformed) TagTree := do
  let document ← Yaml.read Reader.document text
  (TagTree.ofDocument document).mapError .refused

namespace Configuration

inductive Unusable where
  | file (path reason : String)
  | unreadable (fault : Fault Refusal)
  | invalid (reason : Invalid)

def Unusable.message : Unusable → String
  | .file path reason => s!"Configuration error: Failed to read config file {path}: {reason}"
  | .unreadable fault => s!"YAML error: {fault.message DeviceSettings.Refusal.message}"
  | .invalid reason => s!"Configuration error: {reason.message}"

def Unusable.isFatal : Unusable → Bool
  | .invalid reason => reason.isFatal
  | _ => false

def checked (config : Configuration) : Except Unusable Configuration :=
  match config.validate with
  | .ok () => .ok config
  | .error reason => .error (.invalid reason)

def ofText (text : String) : Except Unusable Configuration :=
  match Yaml.read ofNode text with
  | .ok config => config.checked
  | .error fault => .error (.unreadable fault)

abbrev Content := Except String ByteArray

def missingFile : Content := .error "No such file or directory (os error 2)"

def ofContent (path : String) : Content → Except Unusable Configuration
  | .error reason => .error (.file path reason)
  | .ok bytes =>
    match String.fromUTF8? bytes with
    | some text => ofText text
    | none => .error (.file path "stream did not contain valid UTF-8")

end Configuration
end PlcMonitor
