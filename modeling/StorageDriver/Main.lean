import StorageDriver.Cli.Report
import StorageDriver.Http.Link
import StorageDriver.Http.Script

namespace StorageDriver.Cli

def contents (path : String) : IO (Option ByteArray) := do
  try
    return some (← IO.FS.readBinFile path)
  catch _ =>
    return none

end StorageDriver.Cli

open StorageDriver

def main (args : List String) : IO UInt32 := do
  let report ← match Cli.Invocation.ofArguments args with
    | .error f => pure f.report
    | .ok i => do
      let path := i.path (← IO.getEnv "ICS_CSI_CONFIG")
      let planes : Http.Link Http.Script := { wire := { cut := true } }
      pure (i.run path (← Cli.contents path) planes).1
  IO.print report.out
  IO.eprint report.err
  return report.exit.toUInt32
