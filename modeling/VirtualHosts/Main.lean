import VirtualHosts.Command.Launch
import VirtualHosts.Command.Start

/-!
The command line.  Only this module touches the world: it reads files, prints
the report and sets the exit status.
-/

namespace VirtualHosts.Main

open VirtualHosts.Files

def faultOf : IO.Error → ReadFault
  | .noFileOrDirectory .. => .unopened (.path .missing)
  | .inappropriateType .. => .directory
  | fault => .unopened (.system (toString fault))

def readFile (path : Path) : IO (Except ReadFault String) := do
  try
    let content ← IO.FS.readBinFile path.text
    return textOf content.toList
  catch fault => return .error (faultOf fault)

/-- What is said when no listener can be had for the address. -/
def noListener (settings : Settings) : String :=
  Command.programName ++ ": cannot listen on " ++
    settings.listener.bindAddress ++ "\n"

end VirtualHosts.Main

open VirtualHosts in
def main (arguments : List String) : IO UInt32 := do
  match ← Command.start Main.readFile arguments with
  | .ended report =>
      IO.print report.output
      IO.eprint report.errors
      return report.status.toUInt32
  | .serving settings _ =>
      match Command.launch (fun _ => none) settings with
      | .serving _ _ =>
          IO.eprint (Main.noListener settings)
          return 1
      | .failed message =>
          IO.eprint (Command.failed message).errors
          return 1
      | .aborted => return 101
