import FirstCall.CommandLine.Command

/-!
# The program

Gathers the files that a command can see, carries it out, and hands over what it wrote, printed
and logged.
-/

namespace FirstCall

def gather (tree : FileTree) (path : String) : IO FileTree := do
  try
    let contents ← IO.FS.readBinFile path
    match (tree.makeDirectory (Path.parent path)).write path contents.toList with
    | .ok tree => return tree
    | .error _ => return tree
  catch
    | .noFileOrDirectory .. => return tree
    | .inappropriateType .. => return tree.makeDirectory path
    | _ => return tree

/-- The files that a command can see, below the working directory of the process. -/
def gatherFor (command : Command) : IO FileTree := do
  let tree := FileTree.empty.enter (toString (← IO.currentDir))
  let paths := command.file :: command.settings.service :: command.settings.dump.toList
  paths.foldlM gather tree

end FirstCall

open FirstCall in
def main (arguments : List String) : IO UInt32 := do
  let files ← match Command.ofArguments arguments with
    | .ok command => gatherFor command
    | .error _ => pure FileTree.empty
  let (outcome, log) := Command.runArguments standardLimits arguments files
  for (path, contents) in (outcome.world?.map World.written).getD [] do
    IO.FS.writeBinFile path ⟨contents.toArray⟩
  IO.print outcome.stdout
  for line in log do
    IO.eprintln line
  if let .refused fault := outcome then
    IO.eprintln fault.message
  if let some fault := outcome.fault? then
    IO.eprintln fault.code
    for message in fault.chain do
      IO.eprintln message
    if let some help := fault.help? then
      IO.eprintln help
  return UInt32.ofNat outcome.exitCode
