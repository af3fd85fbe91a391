import Crosslink.Bundle.Source
import Crosslink.Json.Reader
import Crosslink.Json.Writer

set_option autoImplicit false

namespace Crosslink.Json

def text? : Value → Option String
  | .string text => text
  | _ => none

def flag? : Value → Option Bool
  | .bool b => some b
  | _ => none

def present? : Value → Option (Option Value)
  | .null => some none
  | v => some (some v)

def items : Value → Option (List Value)
  | .array vs => some vs
  | _ => none

def knownFields? (names : List String) :
    List (Option String × Value) → Option (List (String × Value))
  | [] => some []
  | (none, _) :: _ => none
  | (some name, v) :: fields =>
    match knownFields? names fields with
    | some known =>
      if name ∈ names then
        if (known.lookup name).isSome then none else some ((name, v) :: known)
      else some known
    | none => none

def recordFields? (names : List String) : Value → Option (List (String × Value))
  | .object fields => knownFields? names fields
  | .array vs => if vs.length ≤ names.length then some (names.zip vs) else none
  | _ => none

def choice? (names : List String) : Value → Option String
  | .string (some word) => if word ∈ names then some word else none
  | .object [(some word, .null)] => if word ∈ names then some word else none
  | _ => none

def source : Source Option Value where
  text := text?
  flag := flag?
  present := present?
  items := items
  fields := recordFields?
  choice := choice?

def readBundle? (text : String) : Option (List Document) := (read? text.toList).bind source.bundle

def writeBundle (documents : List Document) : String :=
  String.ofList (write 0 (bundleTree documents))

end Crosslink.Json
