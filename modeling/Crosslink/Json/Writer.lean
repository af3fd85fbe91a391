import Crosslink.Bundle.Tree
import Crosslink.Json.Value

set_option autoImplicit false

namespace Crosslink.Json

def hexChar (n : Nat) : Char := if n < 10 then Char.ofNat (n + 48) else Char.ofNat (n + 87)

def stringChar (c : Char) : List Char :=
  if c = '"' then ['\\', '"']
  else if c = '\\' then ['\\', '\\']
  else if c = '\x08' then ['\\', 'b']
  else if c = '\x0c' then ['\\', 'f']
  else if c = '\n' then ['\\', 'n']
  else if c = '\r' then ['\\', 'r']
  else if c = '\t' then ['\\', 't']
  else if c.toNat < 0x20 then
    ['\\', 'u', '0', '0', hexChar (c.toNat / 16), hexChar (c.toNat % 16)]
  else [c]

def writeString (s : String) : List Char := '"' :: s.toList.flatMap stringChar ++ ['"']

def newLine (level : Nat) : List Char := '\n' :: List.replicate (2 * level) ' '

mutual

def write (level : Nat) : Tree → List Char
  | .text s => writeString s
  | .flag true => "true".toList
  | .flag false => "false".toList
  | .list [] => ['[', ']']
  | .list (item :: items) =>
    '[' :: newLine (level + 1) ++ write (level + 1) item ++ writeItems (level + 1) items
      ++ newLine level ++ [']']
  | .record [] => ['\x7b', '\x7d']
  | .record (field :: fields) =>
    '\x7b' :: newLine (level + 1) ++ writeField (level + 1) field ++ writeFields (level + 1) fields
      ++ newLine level ++ ['\x7d']

def writeItems (level : Nat) : List Tree → List Char
  | [] => []
  | item :: items => ',' :: newLine level ++ write level item ++ writeItems level items

def writeField (level : Nat) : String × Tree → List Char
  | (name, value) => writeString name ++ ':' :: ' ' :: write level value

def writeFields (level : Nat) : List (String × Tree) → List Char
  | [] => []
  | field :: fields => ',' :: newLine level ++ writeField level field ++ writeFields level fields

end

end Crosslink.Json
