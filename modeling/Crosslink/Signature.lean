import Crosslink.Name
import Crosslink.Text.Blank
import Crosslink.Text.Uppercase

set_option autoImplicit false

namespace Crosslink

structure Signature where
  head : List Char
  parameters : Option (List Char)
  tail : List Char
  deriving DecidableEq

namespace Signature

/-- From inside parentheses, with `depth` more of them open, the text before and after the
    parenthesis that closes the first one. -/
def toClose? : Nat → List Char → Option (List Char × List Char)
  | _, [] => none
  | 0, ')' :: cs => some ([], cs)
  | depth + 1, ')' :: cs => (toClose? depth cs).map fun (inner, rest) => (')' :: inner, rest)
  | depth, '(' :: cs => (toClose? (depth + 1) cs).map fun (inner, rest) => ('(' :: inner, rest)
  | depth, c :: cs => (toClose? depth cs).map fun (inner, rest) => (c :: inner, rest)

/-- Cuts an identifier. Parentheses that never close hold all that follows. -/
def ofText (cs : List Char) : Signature :=
  let head := cs.takeWhile (· != '(')
  match cs.dropWhile (· != '(') with
  | [] => ⟨head, none, []⟩
  | _ :: body =>
    match toClose? 0 body with
    | some (inner, tail) => ⟨head, some inner, tail⟩
    | none => ⟨head, some body, []⟩

/-- Puts a signature together again; parentheses are always closed. -/
def toText (s : Signature) : List Char :=
  match s.parameters with
  | some inner => s.head ++ '(' :: inner ++ ')' :: s.tail
  | none => s.head ++ s.tail

def splitFrom : Int → List Char → List (List Char)
  | _, [] => [[]]
  | depth, c :: cs =>
    if c = ',' ∧ depth ≤ 0 then [] :: splitFrom depth cs
    else
      let deeper := if c = '<' then depth + 1 else if c = '>' then depth - 1 else depth
      match splitFrom deeper cs with
      | [] => [[c]]
      | piece :: pieces => (c :: piece) :: pieces

def splitParameters (cs : List Char) : List (List Char) := splitFrom 0 cs

def outsideGenerics : Nat → List Char → List Char
  | _, [] => []
  | depth, '<' :: cs => outsideGenerics (depth + 1) cs
  | depth + 1, '>' :: cs => outsideGenerics depth cs
  | 0, c :: cs => c :: outsideGenerics 0 cs
  | depth + 1, _ :: cs => outsideGenerics (depth + 1) cs

def withoutGenerics (cs : List Char) : List Char := outsideGenerics 0 cs

/-- The text from the first path segment that starts in upper case; the path ends at a `<`. -/
def fromClass? : (atSegment : Bool) → List Char → Option (List Char)
  | _, [] => none
  | atSegment, c :: cs =>
    if atSegment && Text.isUppercase c then some (c :: cs)
    else if c = '<' then none
    else fromClass? (c == '.') cs

/-- Drops the package: the leading path segments that do not start in upper case. A path of such
    segments only is kept. -/
def withoutPackage (cs : List Char) : List Char :=
  let s := ofText cs
  match fromClass? true s.head with
  | some head => toText { s with head := head }
  | none => cs

def withoutParameterPackages (cs : List Char) : List Char :=
  let s := ofText cs
  match s.parameters with
  | some inner => toText { s with parameters := some (Name.mapDotted withoutPackage inner) }
  | none => cs

def beforeLastBlank? : Int → List Char → Option (List Char)
  | _, [] => none
  | depth, c :: cs =>
    let deeper := if c = '<' then depth + 1 else if c = '>' then depth - 1 else depth
    match beforeLastBlank? deeper cs with
    | some before => some (c :: before)
    | none => if Text.isBlank c ∧ depth = 0 then some [] else none

def parameterType (cs : List Char) : List Char :=
  let parameter := Text.trimBoth cs
  match beforeLastBlank? 0 parameter with
  | some type => Text.trimEnd type
  | none => parameter

def withoutParameterNames (cs : List Char) : List Char :=
  let s := ofText cs
  match s.parameters with
  | some inner =>
    let types :=
      if inner.all Text.isBlank then []
      else [',', ' '].intercalate ((splitParameters inner).map parameterType)
    toText { s with parameters := some types }
  | none => cs

def trimPieces : List (List Char) → List (List Char)
  | [] => []
  | [last] => [Text.trimStart last]
  | piece :: pieces => Text.trimBoth piece :: trimPieces pieces

def withCommas (comma cs : List Char) : List Char :=
  match Text.splitOn ',' cs with
  | first :: second :: pieces =>
    comma.intercalate (Text.trimEnd first :: trimPieces (second :: pieces))
  | _ => cs

def spacedCommas (cs : List Char) : List Char := withCommas [',', ' '] cs

def tightCommas (cs : List Char) : List Char := withCommas [','] cs

end Signature

end Crosslink
