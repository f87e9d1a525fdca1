import GameServers.CommandLine.Run

open GameServers in
def main (args : List String) : IO UInt32 := do
  let report := CommandLine.run args { up := false }
  report.output.forM IO.println
  report.errors.forM IO.eprintln
  return UInt32.ofNat report.code
