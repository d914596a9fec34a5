/-
# Main — the command

Reads what a run asks for, carries it out and prints what comes of it. Everything
the run decides is decided in `CommandLine.Run`.
-/
import VirtualHosting.CommandLine.Run

namespace VirtualHosting

set_option autoImplicit false

/-- What reading a file comes to. -/
def readContent (path : String) : IO (Except Descriptor.FileFault ByteArray) := do
  try
    return .ok (← IO.FS.readBinFile path)
  catch
    | .noFileOrDirectory .. => return .error .notFound
    | .inappropriateType .. => return .error .isDirectory
    | fault => return .error (.other (toString fault))

/-- What a path names, as far as opening it tells. -/
def lookAt (path : String) : IO ResourceKind := do
  return match ← readContent path with
    | .ok _ => .file
    | .error .isDirectory => .directory
    | .error _ => .missing

/-- What the places that a run may ask about name. -/
def survey (content : Except Descriptor.FileFault ByteArray) (task : CommandLine.Task) :
    IO (List (String × ResourceKind)) :=
  match Descriptor.load content, task with
  | .ok d, .resolve url _ =>
    match Url.parse url with
    | .ok url => (CommandLine.placesAsked d url.path).mapM fun place => do
      return (place, ← lookAt place)
    | .error _ => return []
  | _, _ => return []

/-- Carries a run out on the files of this machine. -/
def perform (args : List String) : IO CommandLine.Report := do
  let environment ← IO.getEnv "RUST_LOG"
  match CommandLine.read args with
  | .error _ =>
    return CommandLine.run (fun _ => .error .notFound) (fun _ => .missing) environment args
  | .ok i =>
    let content ← readContent i.config
    let places ← survey content i.task
    let names := fun place => (places.lookup place).getD .missing
    return CommandLine.run (fun _ => content) names environment args

/-- Prints what came of a run. -/
def present (report : CommandLine.Report) : IO Unit := do
  for event in report.log do
    IO.eprintln (CommandLine.logLine report.format event)
  match report.ending with
  | .done output => IO.print output
  | .failed message => IO.eprintln ("Error: " ++ message)
  | .misused => IO.eprint CommandLine.Topic.program.text
  | .brokenOff => IO.eprintln "The log filter cannot be read."

end VirtualHosting

def main (args : List String) : IO UInt32 := do
  let report ← VirtualHosting.perform args
  VirtualHosting.present report
  return report.ending.code.toUInt32
