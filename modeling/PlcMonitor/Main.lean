import PlcMonitor.PlanReport

/-! The command that prints the scan plans of a configuration file. -/
namespace PlcMonitor

def readContent (path : String) : IO Configuration.Content := do
  try
    return .ok (← IO.FS.readBinFile path)
  catch e =>
    match e with
    | .noFileOrDirectory .. => return Configuration.missingFile
    | other => return .error (toString other)

def report (path : String) (only : Option String) : IO UInt32 := do
  let outcome := PlanReport.outcome (PlanReport.ofContent path (← readContent path) only)
  IO.print outcome.output
  IO.eprint outcome.complaint
  return outcome.status.toUInt32

end PlcMonitor

def main : List String → IO UInt32
  | [] => do
    IO.eprintln PlcMonitor.PlanReport.usage
    return 1
  | [path] => PlcMonitor.report path none
  | path :: only :: _ => PlcMonitor.report path (some only)
