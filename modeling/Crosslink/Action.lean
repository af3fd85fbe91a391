import Crosslink.Bundle
import Crosslink.FileStore
import Crosslink.Toml.Settings

set_option autoImplicit false

/-!
The steps of a run, each of which may fail: reading and writing files, printing, and what is made of
these for settings and bundles. A step that fails leaves behind all that it has done before.
-/

namespace Crosslink

/-- What a run works on: the files, and all it has printed and logged. -/
structure Machine where
  store : FileStore
  output : String := ""
  log : String := ""
  deriving DecidableEq

abbrev Action := EStateM Error Machine

namespace Action

def readFile (path : String) : Action String := fun m =>
  match m.store.read path with
  | .ok text => .ok text m
  | .error fault => .error (FileStore.toError fault) m

def fileExists (path : String) : Action Bool := fun m => .ok (m.store.holds path) m

/-- Writes a file. The file system is taken to leave the files as they were if it fails. -/
def writeFile (path text : String) : Action Unit := fun m =>
  match m.store.write path text with
  | .ok store => .ok () { m with store := store }
  | .error fault => .error (FileStore.toError fault) m

def print (text : String) : Action Unit := fun m => .ok () { m with output := m.output ++ text }

def log (text : String) : Action Unit := fun m => .ok () { m with log := m.log ++ text }

/-- Reads settings. Where nothing stands at the path they are the default ones. -/
def loadSettings (path : String) : Action Settings := do
  if ← fileExists path then
    let text ← readFile path
    ofExcept (Settings.ofToml text)
  else
    return {}

def loadBundle (path : String) : Action (List Document) := do
  let format ← ofExcept (Format.ofPath path)
  let text ← readFile path
  ofExcept (format.parse text)

def saveBundle (path : String) (documents : List Document) : Action Unit := do
  let format ← ofExcept (Format.ofPath path)
  writeFile path (format.render documents)

end Action

end Crosslink
