import Crosslink.Error

set_option autoImplicit false

namespace Crosslink

structure Settings where
  tagName : String := "link"
  /-- The attribute that marks a tag whose target is not known. -/
  unresolvedAttribute : String := "data-throw-if-not-resolved"
  normalizeMarkdownLinks : Bool := true
  expandGenerics : Bool := true
  deriving DecidableEq

namespace Settings

def isNameChar (c : Char) : Bool := c.isAlphanum || c == '-' || c == '_' || c == ':'

def isName (s : String) : Bool := !s.toList.isEmpty && s.toList.all isNameChar

def checked (s : Settings) : Except Error Settings :=
  if !isName s.tagName then
    .error ⟨.config, s!"tag_name '{s.tagName}' is not a valid element name"⟩
  else if !isName s.unresolvedAttribute then
    .error
      ⟨.config, s!"unresolved_attribute '{s.unresolvedAttribute}' is not a valid attribute name"⟩
  else .ok s

end Settings

end Crosslink
