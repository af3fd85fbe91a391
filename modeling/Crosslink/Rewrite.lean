import Crosslink.Markdown
import Crosslink.Scope

set_option autoImplicit false

namespace Crosslink

/-- A tag that was not resolved: which document it stands in, and its target. -/
inductive Finding where
  | unresolved (document payload : String)
  | malformed (document payload : String)
  deriving DecidableEq

namespace Finding

def isUnresolved : Finding → Bool
  | unresolved _ _ => true
  | malformed _ _ => false

def document : Finding → String
  | unresolved document _ => document
  | malformed document _ => document

def payload : Finding → String
  | unresolved _ payload => payload
  | malformed _ payload => payload

def logged (f : Finding) : String :=
  (if f.isUnresolved then "Unresolved" else "Malformed") ++ " \x7b document: "
    ++ Text.quoted f.document ++ ", payload: " ++ Text.quoted f.payload ++ " \x7d"

end Finding

inductive Verdict where
  | resolved (uid : String)
  | unresolved
  | malformed
  deriving DecidableEq

/-- Judges a target. A blank one is unresolved. -/
def Scope.judge (s : Scope) (package target : List Char) : Verdict :=
  let payload := Text.trimBoth target
  if !payload.isEmpty && (Payload.ofText? payload).isNone then .malformed
  else
    let uid := s.resolve package payload
    if uid.isEmpty then .unresolved else .resolved uid

def Verdict.isResolved : Verdict → Bool
  | resolved _ => true
  | _ => false

/-- The tag as written out: attributes stay, the mark stands in front of them where it is due. -/
def Tag.settle (s : Settings) (t : Tag) (v : Verdict) : Tag :=
  let attributes := withoutAttribute s.unresolvedAttribute.toList t.attributes
  match v with
  | .resolved uid => { uid := uid.toList, attributes := attributes, label := t.label }
  | .unresolved => { uid := [], attributes := s.flag ++ attributes, label := t.label }
  | .malformed => { uid := t.uid, attributes := s.flag ++ attributes, label := t.label }

def Tag.finding? (document : String) (t : Tag) : Verdict → Option Finding
  | .resolved _ => none
  | .unresolved => some (.unresolved document (String.ofList (Text.trimBoth t.uid)))
  | .malformed => some (.malformed document (String.ofList (Text.trimBoth t.uid)))

structure Rewrite where
  text : String
  resolved : Nat
  findings : List Finding
  deriving DecidableEq

def Scope.rewrite (scope : Scope) (s : Settings) (package : String) (text : String) : Rewrite :=
  let name := s.tagName.toList
  let pieces := Tag.pieces name text.toList
  let judge (t : Tag) : Verdict := scope.judge package.toList t.uid
  let tags := pieces.filterMap Tag.Piece.tag?
  { text :=
      String.ofList <| pieces.flatMap fun
        | .char c => [c]
        | .tag t => (t.settle s (judge t)).toText name
    resolved := tags.countP fun t => (judge t).isResolved
    findings := tags.filterMap fun t => t.finding? scope.document (judge t) }

end Crosslink
