import SheetWire.Command.Run

/-!
# The program

The commands on the files of the system. Errors and the usage go to the error output.
-/

open SheetWire

/-- The files of the system. -/
instance : Files IO where
  read path := do
    try
      let text ← IO.FS.readFile path
      pure (some text)
    catch _ => pure none
  createDirectories path := do
    try
      if FileTree.mustExist path then IO.FS.createDir path
      else IO.FS.createDirAll path
      pure true
    catch
      | .alreadyExists _ _ _ => pure (FileTree.mustExist path)
      | _ => pure false
  write path text := do
    try
      IO.FS.writeFile path text
      pure true
    catch _ => pure false

/-- Runs the command that the arguments ask for. -/
def main (arguments : List String) : IO UInt32 := do
  let outcome : Outcome ← Command.execute arguments
  match outcome with
  | .done output => IO.print output
  | .failed error => IO.eprintln ("Error: " ++ error.message)
  | .usage => IO.eprintln "usage: convert | scheme | decode, each with --source FILE"
  pure outcome.status.toUInt32
