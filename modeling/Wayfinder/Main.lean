import Wayfinder.Storage.Database

/-!
# Setting up the tables

The command that creates the tables of a fresh database and reports it.
-/

namespace Wayfinder

/-- Print a report, and give the code to exit with. -/
def printReport (report : Storage.SetupReport) : IO UInt32 := do
  for line in report.lines do
    IO.println line
  return UInt32.ofNat report.exitCode

end Wayfinder

def main : IO UInt32 :=
  Wayfinder.printReport (Wayfinder.Storage.Database.setUp {}).2
