import Crosslink.Text.Cut
import Crosslink.Text.Letter
import Crosslink.Text.Word

set_option autoImplicit false

namespace Crosslink.Name

def isStart (c : Char) : Bool := Text.isLetter c || c == '_' || c == '$'

def isPart (c : Char) : Bool := Text.isWord c || c == '$'

def isIdentifier : List Char → Bool
  | [] => false
  | c :: cs => isStart c && cs.all isPart

def isDotted (cs : List Char) : Bool := (Text.splitOn '.' cs).all isIdentifier

def simple (cs : List Char) : List Char :=
  match Text.cutAtLast? '.' cs with
  | some (_, last) => last
  | none => cs

/-- From inside a dotted name, the rest of the name and the text after it. A dot belongs to the
    name only if another identifier starts behind it. -/
def spanRest : List Char → List Char × List Char
  | [] => ([], [])
  | '.' :: c :: cs =>
    if isStart c then ('.' :: c :: (spanRest cs).1, (spanRest cs).2) else ([], '.' :: c :: cs)
  | c :: cs => if isPart c then (c :: (spanRest cs).1, (spanRest cs).2) else ([], c :: cs)

theorem spanRest_append (cs : List Char) : (spanRest cs).1 ++ (spanRest cs).2 = cs := by
  fun_induction spanRest cs <;> simp_all

theorem length_spanRest_le (cs : List Char) : (spanRest cs).2.length ≤ cs.length := by
  have h := congrArg List.length (spanRest_append cs)
  simp only [List.length_append] at h
  omega

def mapDotted (f : List Char → List Char) : List Char → List Char
  | [] => []
  | c :: cs =>
    if isStart c then f (c :: (spanRest cs).1) ++ mapDotted f (spanRest cs).2
    else c :: mapDotted f cs
termination_by cs => cs.length
decreasing_by
  · have := length_spanRest_le cs
    simp only [List.length_cons]
    omega
  · simp

end Crosslink.Name
