import Crosslink.Action
import Crosslink.Compile

set_option autoImplicit false

namespace Crosslink

structure Request where
  input : String
  output : Option String := none
  settings : Option String := none
  verbose : Bool := false
  deriving DecidableEq

inductive Command where
  | version
  | resolve (request : Request)
  deriving DecidableEq

namespace CommandLine

structure Draft where
  input : Option String := none
  output : Option String := none
  settings : Option String := none
  verbose : Bool := false

inductive Opt where
  | output
  | settings
  deriving DecidableEq

/-- Gives an option its value. A value must not be empty and an option not be repeated. -/
def Draft.set? (d : Draft) (option : Opt) (value : String) : Option Draft :=
  if value.isEmpty then none
  else
    match option with
    | .output => if d.output.isSome then none else some { d with output := some value }
    | .settings => if d.settings.isSome then none else some { d with settings := some value }

def Draft.setVerbose? (d : Draft) : Option Draft :=
  if d.verbose then none else some { d with verbose := true }

def Draft.setInput? (d : Draft) (value : String) : Option Draft :=
  if value.isEmpty || d.input.isSome then none else some { d with input := some value }

def Draft.request? (d : Draft) : Option Request :=
  d.input.map fun input => ⟨input, d.output, d.settings, d.verbose⟩

abbrev Step := Draft × Option Opt

def shortOption? (c : Char) : Option Opt :=
  if c = 'o' then some .output else if c = 'c' then some .settings else none

def longOption? (name : List Char) : Option Opt :=
  if name = "output".toList then some .output
  else if name = "config".toList then some .settings
  else none

/-- Reads the letters behind one dash. An option takes the rest of them as its value, an equals sign
    in front of it aside. -/
def letters? (d : Draft) : List Char → Option Step
  | [] => some (d, none)
  | c :: cs =>
    if c = 'v' then d.setVerbose?.bind fun d => letters? d cs
    else
      (shortOption? c).bind fun option =>
        match cs with
        | [] => some (d, some option)
        | '=' :: value => (d.set? option (String.ofList value)).map (·, none)
        | value => (d.set? option (String.ofList value)).map (·, none)

def long? (d : Draft) (cs : List Char) : Option Step :=
  let name := cs.takeWhile (· != '=')
  match cs.dropWhile (· != '=') with
  | [] =>
    if name = "verbose".toList then d.setVerbose?.map (·, none)
    else (longOption? name).map fun option => (d, some option)
  | _ :: value =>
    (longOption? name).bind fun option => (d.set? option (String.ofList value)).map (·, none)

def inputs? (d : Draft) : List String → Option Draft
  | [] => some d
  | arg :: args => (d.setInput? arg).bind fun d => inputs? d args

def arguments? (d : Draft) (waiting : Option Opt) : List String → Option Draft
  | [] => if waiting.isSome then none else some d
  | arg :: args =>
    match arg.toList, waiting with
    | ['-', '-'], none => inputs? d args
    | ['-', '-'], some _ => none
    | '-' :: '-' :: cs, none => (long? d cs).bind fun (d, waiting) => arguments? d waiting args
    | '-' :: c :: cs, none =>
      (letters? d (c :: cs)).bind fun (d, waiting) => arguments? d waiting args
    | '-' :: _ :: _, some _ => none
    | _, some option => (d.set? option arg).bind fun d => arguments? d none args
    | _, none => (d.setInput? arg).bind fun d => arguments? d none args

def command? : List String → Option Command
  | [] => none
  | arg :: args =>
    if arg = "resolve" then
      (arguments? {} none args).bind fun d => d.request?.map Command.resolve
    else if arg = "--version" || arg.toList.take 2 = ['-', 'V'] then some .version
    else none

structure Result extends Machine where
  exit : Nat
  deriving DecidableEq

def versionText : String := "docxref 0.0.0\n"

def line (s : String) : String := s ++ "\n"

def Statistics.log (s : Statistics) : String :=
  line "" ++ line "=== Resolve Results ==="
    ++ line s!"Documents: {s.documents}"
    ++ line s!"Markdown links converted: {s.markdownLinks}"
    ++ line s!"Links resolved: {s.resolved}"
    ++ line s!"Links unresolved: {s.unresolved}"
    ++ line s!"Malformed links: {s.malformed}"
    ++ line s!"References added: {s.referencesAdded}"

def findingsLog (findings : List Finding) : String :=
  String.join (findings.map fun f => line ("[" ++ f.document ++ "] " ++ f.logged))

def errorLog (e : Error) : String := line ("Error: " ++ e.logged)

open Crosslink.Action

def loadRequested (r : Request) : Action Settings :=
  match r.settings with
  | some path => loadSettings path
  | none => return {}

def load (r : Request) : Action Outcome := do
  let settings ← loadRequested r
  let documents ← loadBundle r.input
  ofExcept ((compile settings Classifier.silent documents).mapError Defect.toError)

def report (r : Request) (outcome : Outcome) : Action Unit :=
  log (Statistics.log outcome.statistics ++ if r.verbose then findingsLog outcome.findings else "")

def deliver (r : Request) (documents : List Document) : Action Unit :=
  match r.output with
  | some path => saveBundle path documents
  | none => do
    let format ← ofExcept (Format.ofPath r.input)
    print (line (format.render documents))

def resolve (r : Request) : Action Unit := do
  let outcome ← load r
  report r outcome
  deliver r outcome.documents

/-- Runs an action on a store of files. One that fails ends with a line of the log. -/
def exec (action : Action Unit) (store : FileStore) : Result :=
  match action { store := store } with
  | .ok _ m => { m with exit := 0 }
  | .error e m => { m with exit := 1, log := m.log ++ errorLog e }

def run (store : FileStore) (args : List String) : Result :=
  match command? args with
  | none => { store := store, exit := 2 }
  | some .version => exec (print versionText) store
  | some (.resolve request) => exec (resolve request) store

end CommandLine

end Crosslink
