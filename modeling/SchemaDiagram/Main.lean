import SchemaDiagram.CommandLine.Run
import SchemaDiagram.Rendering.StandIn

namespace SchemaDiagram.CommandLine

def addFound (w : Workspace) (at_ : Location) : IO Workspace := do
  let path := (← IO.currentDir) / ("/" ++ "/".intercalate at_)
  if ← path.isDir then pure (w.put at_ .folder)
  else if ← path.pathExists then pure (w.put at_ (.file (← IO.FS.readBinFile path) true))
  else pure w

def addPath (w : Workspace) (path : String) : IO Workspace := do
  let start := if Path.isAbsolute path then [] else w.current
  let w ← (Workspace.waypoints start (Path.steps path)).foldlM addFound w
  match w.find path with
  | .ok (at_, .folder) => do
      let folder := (← IO.currentDir) / ("/" ++ "/".intercalate at_)
      (← folder.readDir).foldlM (fun w e => addFound w (at_ ++ [e.fileName])) w
  | _ => pure w

def emptyWorkspace : IO Workspace := do
  let here := Path.components (← IO.currentDir).toString
  pure { entries := (List.range here.length).map fun n => (here.take (n + 1), .folder)
         current := here }

def inputPaths (o : GenerateOptions) : List String := o.input :: o.config.toList

def outputPaths (s : Settings) : List String :=
  [s.renderer] ++ s.imagePath?.toList ++ s.sourcePath?.toList

def gatherWorkspace (o : GenerateOptions) : IO Workspace := do
  let w ← (inputPaths o).foldlM addPath (← emptyWorkspace)
  match (o.settings.run.run { files := w }).1 with
  | .ok s => (outputPaths s).foldlM addPath w
  | .error _ => pure w

def keep (before after : Workspace) : IO Unit :=
  (before.changes after).entries.forM fun e =>
    match e with
    | (at_, .file content _) => IO.FS.writeBinFile ("/" ++ "/".intercalate at_) content
    | (_, .folder) => pure ()

end SchemaDiagram.CommandLine

open SchemaDiagram SchemaDiagram.CommandLine in
def main (args : List String) : IO UInt32 := do
  let before ← match readRequest args with
    | .ok { command := .generate o, .. } => gatherWorkspace o
    | _ => pure {}
  let o := run StandIn.launch args before
  keep before o.files
  (← IO.getStderr).putStr o.errors
  (← IO.getStdout).putStr o.output
  pure (UInt32.ofNat o.exitCode)
