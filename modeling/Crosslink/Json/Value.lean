import Crosslink.Decimal

set_option autoImplicit false

namespace Crosslink.Json

inductive Value where
  | null
  | bool (b : Bool)
  | number (n : Decimal)
  /-- `none` is a string with an unpaired surrogate. -/
  | string (text : Option String)
  | array (items : List Value)
  | object (fields : List (Option String × Value))

mutual

def Value.depth : Value → Nat
  | .array items => depthOfItems items + 1
  | .object fields => depthOfFields fields + 1
  | _ => 0

def depthOfItems : List Value → Nat
  | [] => 0
  | v :: vs => max v.depth (depthOfItems vs)

def depthOfFields : List (Option String × Value) → Nat
  | [] => 0
  | (_, v) :: fields => max v.depth (depthOfFields fields)

end

mutual

def Value.isPlain : Value → Bool
  | .number n => n.isFinite
  | .string text => text.isSome
  | .array items => arePlainItems items
  | .object fields => arePlainFields fields
  | _ => true

def arePlainItems : List Value → Bool
  | [] => true
  | v :: vs => v.isPlain && arePlainItems vs

def arePlainFields : List (Option String × Value) → Bool
  | [] => true
  | (name, v) :: fields => name.isSome && v.isPlain && arePlainFields fields

end

end Crosslink.Json
