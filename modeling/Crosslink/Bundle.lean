import Crosslink.Json.Bundle
import Crosslink.Yaml.Bundle

set_option autoImplicit false

namespace Crosslink

inductive Format where
  | yaml
  | json
  deriving DecidableEq

namespace Format

/-- The name of the file that a path leads to: its last part, parts that stay in place aside. -/
def fileName? (path : List Char) : Option (List Char) :=
  match ((Text.splitOn '/' path).filter fun part => !part.isEmpty && part != ['.']).getLast? with
  | some ['.', '.'] => none
  | name => name

/-- What follows the last dot of a file name; a dot at its start does not count. -/
def extension? (path : List Char) : Option (List Char) :=
  match (fileName? path).bind (Text.cutAtLast? '.') with
  | some (_ :: _, extension) => some extension
  | _ => none

def ofPath (path : String) : Except Error Format :=
  match (extension? path.toList).map (·.map Char.toLower) with
  | some ['y', 'm', 'l'] => .ok yaml
  | some ['y', 'a', 'm', 'l'] => .ok yaml
  | some ['j', 's', 'o', 'n'] => .ok json
  | _ =>
    .error ⟨.serialization, "Unsupported bundle format for " ++ Text.quoted path
      ++ ", expected .yml, .yaml or .json"⟩

def parse (format : Format) (text : String) : Except Error (List Document) :=
  match format with
  | yaml => (Yaml.readBundle? text).elim (.error .unreadableYaml) .ok
  | json => (Json.readBundle? text).elim (.error .unreadableJson) .ok

def render (format : Format) (documents : List Document) : String :=
  match format with
  | yaml => Yaml.writeBundle documents
  | json => Json.writeBundle documents

end Format

end Crosslink
