set_option autoImplicit false

/-!
TOML tables and how statements build them. A table remembers how it came to be, since that decides
which statements may still add to it.
-/

namespace Crosslink.Toml

inductive TableKind where
  | inline
  /-- Passed through by the header of a table inside it. -/
  | passed
  | dotted
  | opened
  deriving DecidableEq

inductive Value where
  | string (s : String)
  | boolean (b : Bool)
  | integer (n : Int)
  | float (digits : String)
  | moment (text : String)
  | array (items : List Value)
  | table (kind : TableKind) (entries : List (String × Value))
  /-- Tables that share one header, in the order of their headers. -/
  | tables (items : List (List (String × Value)))

abbrev Entries := List (String × Value)

def replaceEntry (key : String) (value : Value) (entries : Entries) : Entries :=
  entries.map fun (k, v) => if k = key then (k, value) else (k, v)

inductive Statement where
  | header (path : List String)
  | arrayHeader (path : List String)
  | assign (path : List String) (key : String) (value : Value)

/-- Changes the table at a path. Tables missing on the way are made with the kind `made`; a dotted
    key passes only through tables without a header of their own, and of tables that share a header
    the last one is meant. The change is told the kind of the table it finds. -/
def changeAt (made : TableKind) (change : TableKind → Entries → Option Entries) :
    List String → TableKind → Entries → Option Entries
  | [], kind, entries => change kind entries
  | key :: path, _, entries =>
    match entries.lookup key with
    | none =>
      (changeAt made change path made []).map fun inner => entries ++ [(key, .table made inner)]
    | some (.table kind inner) =>
      if kind = .inline || (made = .dotted && kind = .opened) then none
      else
        (changeAt made change path kind inner).map fun inner =>
          replaceEntry key (.table kind inner) entries
    | some (.tables items) =>
      match items.getLast? with
      | some last =>
        (changeAt made change path .opened last).map fun last =>
          replaceEntry key (.tables (items.dropLast ++ [last])) entries
      | none => none
    | some _ => none

def assign (path : List String) (key : String) (value : Value) (entries : Entries) :
    Option Entries :=
  changeAt .dotted
    (fun kind entries =>
      if (!path.isEmpty && kind ≠ .dotted) || (entries.lookup key).isSome then none
      else some (entries ++ [(key, value)]))
    path .opened entries

def openTable (path : List String) (entries : Entries) : Option Entries :=
  match path.getLast? with
  | some key =>
    changeAt .passed
      (fun _ entries =>
        match entries.lookup key with
        | none => some (entries ++ [(key, .table .opened [])])
        | some (.table .passed inner) => some (replaceEntry key (.table .opened inner) entries)
        | some _ => none)
      path.dropLast .opened entries
  | none => none

def openNextTable (path : List String) (entries : Entries) : Option Entries :=
  match path.getLast? with
  | some key =>
    changeAt .passed
      (fun _ entries =>
        match entries.lookup key with
        | none => some (entries ++ [(key, .tables [[]])])
        | some (.tables items) => some (replaceEntry key (.tables (items ++ [[]])) entries)
        | some _ => none)
      path.dropLast .opened entries
  | none => none

def build (current : List String) (root : Entries) : List Statement → Option Entries
  | [] => some root
  | .header path :: statements =>
    (openTable path root).bind fun root => build path root statements
  | .arrayHeader path :: statements =>
    (openNextTable path root).bind fun root => build path root statements
  | .assign path key value :: statements =>
    (changeAt .passed (fun _ entries => assign path key value entries) current .opened root).bind
      fun root => build current root statements

end Crosslink.Toml
