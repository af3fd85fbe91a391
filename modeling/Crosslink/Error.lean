import Crosslink.Text.Quoted

set_option autoImplicit false

/-!
Failures that reach a caller. Links that cannot be resolved are never failures; only input that
cannot be read, settings that cannot be used, documents of broken structure and files that cannot
be read or written are.
-/

namespace Crosslink

inductive Error.Kind where
  | config
  | custom
  | invalidDocument
  | io
  | notFound
  | serialization
  deriving DecidableEq

structure Error where
  kind : Error.Kind
  text : String
  deriving DecidableEq

namespace Error

def Kind.heading : Kind → String
  | config => "Configuration error"
  | custom => "Custom error"
  | invalidDocument => "Invalid document"
  | io => "File System error"
  | notFound => "Item Not Found"
  | serialization => "(De)Serialization error"

def Kind.name : Kind → String
  | config => "Config"
  | custom => "Custom"
  | invalidDocument => "InvalidDocument"
  | io => "Io"
  | notFound => "NotFound"
  | serialization => "Serialization"

def Kind.all : List Kind := [config, custom, invalidDocument, io, notFound, serialization]

def Kind.ofName? (name : String) : Option Kind := Kind.all.find? fun kind => kind.name = name

def message (e : Error) : String := e.kind.heading ++ ": " ++ e.text

def logged (e : Error) : String := e.kind.name ++ "(" ++ Text.quoted e.text ++ ")"

def unreadableToml : Error := ⟨.config, "Toml deserialization error: the text does not fit"⟩

def unwritableToml : Error := ⟨.serialization, "Toml serialization error: not a table"⟩

def unreadableJson : Error :=
  ⟨.serialization, "JSON (de)serialization error: the text does not fit"⟩

def unreadableYaml : Error :=
  ⟨.serialization, "YAML (de)serialization error: the text does not fit"⟩

def invalidPattern : Error := ⟨.config, "Regex parse failed: not a pattern"⟩

end Error

end Crosslink
