import Crosslink.CommandLine

set_option autoImplicit false

namespace Crosslink.Program

def entryAt? (path : String) : IO (Option FileEntry) := do
  match ← (IO.FS.realPath path).toBaseIO with
  | .error _ => return none
  | .ok real =>
    if ← real.isDir then return some .directory
    else return some (.file (String.fromUTF8? (← IO.FS.readBinFile path)))

def pathsTo (path : String) : List String :=
  let parts := path.splitOn "/"
  (List.range parts.length).map fun i => String.intercalate "/" (parts.take (i + 1))

def snapshot (store : FileStore) (path : String) : IO FileStore :=
  (pathsTo path).foldlM (fun store path => do
    if path.isEmpty then return store
    match ← entryAt? path with
    | some entry => return store.place path entry
    | none => return store) store

def paths : Command → List String
  | .version => []
  | .resolve request => request.input :: request.output.toList ++ request.settings.toList

def writeOutput (store : FileStore) : Command → IO Unit
  | .resolve { output := some path, .. } =>
    match store.read path with
    | .ok text => IO.FS.writeFile path text
    | .error _ => return
  | _ => return

def usage : String := "Usage: docxref resolve [-o <output>] [-c <settings>] [-v] <input>"

def run (args : List String) : IO UInt32 := do
  match CommandLine.command? args with
  | none =>
    IO.eprintln usage
    return 2
  | some command =>
    let store ← (paths command).foldlM snapshot {}
    let result := CommandLine.run store args
    IO.eprint result.log
    if result.exit = 0 then writeOutput result.store command
    IO.print result.output
    return result.exit.toUInt32

end Crosslink.Program

def main (args : List String) : IO UInt32 := do
  try
    Crosslink.Program.run args
  catch e =>
    IO.eprintln s!"Error: {e}"
    return 1
