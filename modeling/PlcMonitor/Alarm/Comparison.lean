import PlcMonitor.Text.Blank
import PlcMonitor.Text.Case

/-! How a rule compares a value with its limits. -/
namespace PlcMonitor

inductive Comparison where
  | above
  | below
  | outsideRange
  | insideRange
  /-- Any other text, kept as written: its rule never fires. -/
  | unsupported (raw : String)
deriving DecidableEq, Repr

namespace Comparison

def ofName (raw : String) : Comparison :=
  match Text.lower (Text.trim raw) with
  | "" | "above" => .above
  | "below" => .below
  | "outside_range" => .outsideRange
  | "inside_range" => .insideRange
  | _ => .unsupported raw

def name : Comparison → String
  | .above => "above"
  | .below => "below"
  | .outsideRange => "outside_range"
  | .insideRange => "inside_range"
  | .unsupported raw => raw

def isUnsupported : Comparison → Bool
  | .unsupported _ => true
  | _ => false

end Comparison
end PlcMonitor
