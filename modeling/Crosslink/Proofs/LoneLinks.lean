import Crosslink.Proofs.CanonicalLinks
import Crosslink.Proofs.MarkdownTags

set_option autoImplicit false

namespace Crosslink

theorem Text.cutAt?_eq_none {mark cs : List Char} (h : ¬mark <:+: cs) : cutAt? mark cs = none := by
  cases hcut : cutAt? mark cs with
  | none => rfl
  | some cut =>
    obtain ⟨before, rest⟩ := cut
    exact absurd ⟨before, rest, (cutAt?_eq_some hcut).symm⟩ h

theorem Tag.isReadable_of_not_infix {name uid label : List Char} (hname : '<' ∉ name)
    (huid : '"' ∉ uid) (hlabel : ¬closing name <:+: label) :
    ({ uid := uid, label := label } : Tag).IsReadable name where
  gap_ne_nil := by simp
  gap_blank := by
    intro c hc
    rw [List.mem_singleton.1 hc]
    decide
  uid := huid
  attributes := by simp
  label := by
    have honce : '<' ∉ '/' :: (name ++ ['>']) := by simp [hname]
    have hcut := Text.cutAt?_append_mark honce (Text.cutAt?_eq_none hlabel) []
    rwa [List.append_nil] at hcut

namespace Scope

theorem resolve_trimBoth (scope : Scope) (package cs : List Char) :
    scope.resolve package (Text.trimBoth cs) = scope.resolve package cs := by
  unfold resolve
  rw [Text.trimBoth_trimBoth]

theorem judge_of_payload (scope : Scope) (package : List Char) {target : List Char}
    (h : target.all Text.isBlank = true ∨ (Payload.ofText? target).isSome = true) :
    scope.judge package target =
      if scope.resolve package target = "" then .unresolved
      else .resolved (scope.resolve package target) := by
  have hpayload : (!(Text.trimBoth target).isEmpty &&
      (Payload.ofText? (Text.trimBoth target)).isNone) = false := by
    rcases h with hblank | hpayload
    · rw [(Text.trimBoth_eq_nil_iff target).2 hblank]
      rfl
    · rw [Payload.ofText?_trimBoth, Option.isNone_eq_false_iff.2 hpayload, Bool.and_false]
  simp only [judge, hpayload, resolve_trimBoth, Bool.false_eq_true, if_false, String.isEmpty_iff]

/-- Rewriting a link alone writes the link to what its payload resolves to. It is counted as
    resolved, or where nothing is found marked and reported. -/
theorem rewrite_lone_link {toml : String} {s : Settings} (hs : Settings.ofToml toml = .ok s)
    (scope : Scope) (package : String) {payload label : List Char} (hquote : '"' ∉ payload)
    (hpayload : payload.all Text.isBlank = true ∨ (Payload.ofText? payload).isSome = true)
    (hlabel : ¬Tag.closing s.tagName.toList <:+: label) :
    let uid := scope.resolve package.toList payload
    scope.rewrite s package (String.ofList (s.link payload label)) =
      { text := String.ofList (s.resolvedLink uid.toList label)
        resolved := if uid = "" then 0 else 1
        findings :=
          if uid = "" then
            [.unresolved scope.document (String.ofList (Text.trimBoth payload))]
          else [] } := by
  intro uid
  obtain ⟨-, htag, -⟩ := Settings.ofToml_eq_ok_iff.1 hs
  have hname : '<' ∉ s.tagName.toList := Settings.not_mem_of_isName htag (by decide)
  have hreadable := Tag.isReadable_of_not_infix hname hquote hlabel
  have hjudge : scope.judge package.toList payload =
      if uid = "" then .unresolved else .resolved uid :=
    scope.judge_of_payload package.toList hpayload
  rw [Settings.link, scope.rewrite_toText package hreadable, settle, hjudge]
  by_cases huid : uid = ""
  · simp [huid, Tag.settle, Tag.withoutAttribute_nil, Verdict.isResolved, Tag.finding?,
      Settings.resolvedLink]
  · simp [huid, Tag.settle, Tag.withoutAttribute_nil, Verdict.isResolved, Tag.finding?,
      Settings.resolvedLink]

/-- A label with a link left open in it and half a closing tag at its end, once behind a payload
    that is found and once behind a blank one. -/
theorem rewrite_lone_link_around_openings :
    let s : Settings := { tagName := "xref" }
    let entity : Entity := { uid := "a.Foo", nameWithType := "Foo" }
    let scope := (Index.ofDocuments [{ id := "d", entities := [entity] }]).scope "d"
    let label := "1 > <xref uid=\"Foo\">\n</xref".toList
    scope.rewrite s "" (String.ofList (s.link "\tFoo ".toList label)) =
      ⟨String.ofList (s.resolvedLink "a.Foo".toList label), 1, []⟩ ∧
    scope.rewrite s "" (String.ofList (s.link [' '] label)) =
      ⟨String.ofList (s.resolvedLink [] label), 0, [.unresolved "d" ""]⟩ := by
  intro s entity scope label
  have hs : Settings.ofToml "tag_name = \"xref\"" = .ok s :=
    Settings.ofToml_eq_ok_iff.2 (by decide +kernel)
  have hlabel : ¬Tag.closing s.tagName.toList <:+: label := by decide +kernel
  have hfound : scope.resolve "".toList "\tFoo ".toList = "a.Foo" := by decide +kernel
  have hfoo : '"' ∉ "\tFoo ".toList := by decide
  have hblank : '"' ∉ [' '] := by decide
  constructor
  · have hlink := rewrite_lone_link hs scope "" hfoo (.inr (by decide +kernel)) hlabel
    rw [hfound] at hlink
    exact hlink
  · exact rewrite_lone_link hs scope "" hblank (.inl (by decide)) hlabel

end Scope

end Crosslink
