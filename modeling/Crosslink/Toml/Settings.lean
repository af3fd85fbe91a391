import Crosslink.Settings
import Crosslink.Toml.Reader
import Crosslink.Toml.Writer

set_option autoImplicit false

namespace Crosslink

namespace Toml

def text? : Value → Option String
  | .string s => some s
  | _ => none

def flag? : Value → Option Bool
  | .boolean b => some b
  | _ => none

def entryOr? {α : Type} (fallback : α) (read : Value → Option α) (key : String)
    (entries : Entries) : Option α :=
  match entries.lookup key with
  | some value => read value
  | none => some fallback

def settings? (entries : Entries) : Option Settings := do
  let fallback : Settings := {}
  return {
    tagName := ← entryOr? fallback.tagName text? "tag_name" entries
    unresolvedAttribute := ←
      entryOr? fallback.unresolvedAttribute text? "unresolved_attribute" entries
    normalizeMarkdownLinks := ←
      entryOr? fallback.normalizeMarkdownLinks flag? "normalize_markdown_links" entries
    expandGenerics := ← entryOr? fallback.expandGenerics flag? "expand_generics" entries }

def writeFlag (b : Bool) : String := if b then "true" else "false"

end Toml

namespace Settings

def ofToml (text : String) : Except Error Settings :=
  match (Toml.read? text).bind Toml.settings? with
  | some s => s.checked
  | none => .error .unreadableToml

def toToml (s : Settings) : String :=
  "tag_name = " ++ Toml.writeString s.tagName ++ "\n"
    ++ "unresolved_attribute = " ++ Toml.writeString s.unresolvedAttribute ++ "\n"
    ++ "normalize_markdown_links = " ++ Toml.writeFlag s.normalizeMarkdownLinks ++ "\n"
    ++ "expand_generics = " ++ Toml.writeFlag s.expandGenerics ++ "\n"

end Settings

end Crosslink
