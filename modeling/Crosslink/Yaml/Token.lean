set_option autoImplicit false

namespace Crosslink.Yaml

inductive ScalarStyle where
  | plain
  | single
  | double
  | literal
  | folded
  deriving DecidableEq

inductive Token where
  | version (major minor : Nat)
  | handle (handle start : String)
  | documentStart
  | documentEnd
  | sequenceStart
  | mappingStart
  | blockEnd
  | entry
  | openBracket
  | closeBracket
  | openBrace
  | closeBrace
  | comma
  /-- `?`, or what stands in front of a key on one line. -/
  | key
  | value
  | alias (name : String)
  | anchor (name : String)
  | tag (handle suffix : String)
  | scalar (style : ScalarStyle) (text : String)
  deriving DecidableEq

structure Position where
  line : Nat := 0
  column : Nat := 0
  index : Nat := 0
  deriving DecidableEq

def Position.skip (p : Position) (n : Nat) : Position :=
  { p with column := p.column + n, index := p.index + n }

def Position.nextLine (p : Position) (n : Nat) : Position := ⟨p.line + 1, 0, p.index + n⟩

end Crosslink.Yaml
