import Crosslink.Document
import Crosslink.Signature

set_option autoImplicit false

namespace Crosslink

inductive AliasForm where
  | nameWithType
  | uid
  | href
  | uidWithoutParameterPackages
  | uidWithoutPackage
  | nameWithTypeWithoutParameterNames
  | rawNameWithTypeWithoutParameterNames
  | spacedUid
  | spacedUidWithoutParameterPackages
  | spacedUidWithoutPackage
  | tightNameWithTypeWithoutParameterNames
  deriving DecidableEq

namespace AliasForm

open Signature

def all : List AliasForm :=
  [nameWithType, uid, href, uidWithoutParameterPackages, uidWithoutPackage,
   nameWithTypeWithoutParameterNames, rawNameWithTypeWithoutParameterNames, spacedUid,
   spacedUidWithoutParameterPackages, spacedUidWithoutPackage,
   tightNameWithTypeWithoutParameterNames]

def spelling (e : Entity) : AliasForm → List Char
  | nameWithType => withoutGenerics e.nameWithType.toList
  | uid => e.uid.toList
  | href => (e.href.getD "").toList
  | uidWithoutParameterPackages => withoutParameterPackages e.uid.toList
  | uidWithoutPackage => withoutPackage e.uid.toList
  | nameWithTypeWithoutParameterNames =>
    withoutParameterNames (withoutGenerics e.nameWithType.toList)
  | rawNameWithTypeWithoutParameterNames => withoutParameterNames e.nameWithType.toList
  | spacedUid => spacedCommas e.uid.toList
  | spacedUidWithoutParameterPackages => spacedCommas (withoutParameterPackages e.uid.toList)
  | spacedUidWithoutPackage => spacedCommas (withoutPackage e.uid.toList)
  | tightNameWithTypeWithoutParameterNames =>
    tightCommas (withoutParameterNames (withoutGenerics e.nameWithType.toList))

/-- The alias of an entity under a form; a blank spelling is none. -/
def alias? (form : AliasForm) (e : Entity) : Option String :=
  match Text.trimBoth (form.spelling e) with
  | [] => none
  | c :: cs => some (String.ofList (c :: cs))

end AliasForm

namespace Entity

def aliasForms (e : Entity) : List (AliasForm × String) :=
  AliasForm.all.filterMap fun form => (form.alias? e).map (form, ·)

def aliases (e : Entity) : List String := AliasForm.all.filterMap (·.alias? e)

end Entity

end Crosslink
