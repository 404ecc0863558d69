import BlobDispatch.Proofs.FoldedMap.Equality
import BlobDispatch.Proofs.Template.Casing
import BlobDispatch.Proofs.Template.Compile
import BlobDispatch.Proofs.Template.Resolver

/-! What comes of patterns that differ in the case of their names only. Nothing depends on the case:
both are refused or their components are alike, the captures are the same and bound under names that
fold alike, and the placeholders of both ask for the same values. -/

namespace BlobDispatch

/-- Equal literals, and parameters whose names fold alike. -/
inductive Piece.Alike : Piece → Piece → Prop where
  | literal (text : String) : Alike (.literal text) (.literal text)
  | parameter {name other : String} (named : Text.lower name = Text.lower other) :
      Alike (.parameter name) (.parameter other)

/-- Components that differ in the case of their names only. -/
abbrev Component.Alike : Component → Component → Prop := List.Forall₂ Piece.Alike

namespace Component.Alike

variable {component other : Component}

theorem names_eq (alike : component.Alike other) :
    component.names.map Text.lower = other.names.map Text.lower := by
  induction alike with
  | nil => rfl
  | cons first _ ih =>
    cases first with
    | literal text => exact ih
    | parameter named =>
      rw [names_parameter, names_parameter, List.map_cons, List.map_cons, named, ih]

/-- The search does not look at names. -/
theorem captures_eq (alike : component.Alike other) : component.captures = other.captures := by
  funext text
  induction alike generalizing text with
  | nil => rfl
  | cons first _ ih =>
    cases first with
    | literal lead => rw [captures, captures, funext ih]
    | parameter _ => rw [captures, captures, funext ih]

end Component.Alike

section Alike

variable {components others : List Component}
    (alike : List.Forall₂ Component.Alike components others)

include alike

theorem captureAll_alike (texts : List (List Char)) :
    captureAll components texts = captureAll others texts := by
  induction alike generalizing texts with
  | nil => rfl
  | cons first _ ih =>
    cases texts with
    | nil => rfl
    | cons text texts => rw [captureAll, captureAll, first.captures_eq, ih]

theorem names_alike : (components.flatMap Component.names).map Text.lower =
    (others.flatMap Component.names).map Text.lower := by
  induction alike with
  | nil => rfl
  | cons first _ ih =>
    rw [List.flatMap_cons, List.flatMap_cons, List.map_append, List.map_append, first.names_eq, ih]

end Alike

namespace Layout

/-- Layouts that differ in the case of their names only. -/
def Alike (layout other : Layout) : Prop :=
  List.Forall₂ Component.Alike layout.parts other.parts

section Cut

variable {cut others : List Component} {tokens more : List Token}

private theorem consLiteral_alike (text : List Char) {component other : Component}
    (alike : component.Alike other) :
    Component.Alike (consLiteral text component) (consLiteral text other) := by
  unfold consLiteral
  split
  · exact alike
  · exact .cons (.literal _) alike

private theorem consSegments_alike (segments : List (List Char))
    (alike : List.Forall₂ Component.Alike cut others) :
    List.Forall₂ Component.Alike (consSegments segments cut)
      (consSegments segments others) := by
  induction segments with
  | nil => exact alike
  | cons segment more ih =>
    cases more with
    | cons next more => exact .cons (consLiteral_alike segment .nil) ih
    | nil =>
      cases alike with
      | nil => exact .cons (consLiteral_alike segment .nil) .nil
      | cons first rest => exact .cons (consLiteral_alike segment first) rest

theorem components_alike (alike : List.Forall₂ Token.Alike tokens more) :
    List.Forall₂ Component.Alike (components tokens) (components more) := by
  induction alike with
  | nil => exact .cons .nil .nil
  | cons first _ ih =>
    cases first with
    | literal text => exact consSegments_alike _ ih
    | parameter placeholder =>
      obtain ⟨part, parts, begins⟩ := List.exists_cons_of_ne_nil (components_ne_nil _)
      rw [begins] at ih
      obtain ⟨other, others, component, rest, continues⟩ := List.forall₂_cons_left_iff.1 ih
      rw [components, components, begins, continues]
      exact .cons (.cons (.parameter placeholder.named) component) rest

theorem checkTokens_alike (alike : List.Forall₂ Token.Alike tokens more) {seen : List String}
    {afterParameter : Bool} (checked : checkTokens seen afterParameter tokens = .ok ()) :
    checkTokens seen afterParameter more = .ok () := by
  induction alike generalizing seen afterParameter with
  | nil => rfl
  | cons first _ ih =>
    cases first with
    | literal text => exact ih checked
    | parameter placeholder =>
      cases placeholder with
      | metadata _ _ => cases checked
      | capture named =>
        rw [checkTokens] at checked ⊢
        rw [← named]
        split at checked
        · cases checked
        · rename_i unrepeated
          rw [if_neg unrepeated]
          split at checked
          · cases checked
          · rename_i fresh
            rw [if_neg fresh]
            exact ih checked

private theorem nil_mem_of_alike (alike : List.Forall₂ Component.Alike cut others)
    (blank : [] ∈ others) : [] ∈ cut := by
  induction alike with
  | nil => cases blank
  | cons first _ ih =>
    rcases List.mem_cons.1 blank with rfl | later
    · cases first
      exact List.mem_cons_self
    · exact List.mem_cons_of_mem _ (ih later)

theorem exists_ofComponents_alike {layout : Layout}
    (alike : List.Forall₂ Component.Alike cut others)
    (made : ofComponents cut = .ok layout) :
    ∃ other, ofComponents others = .ok other ∧ layout.Alike other := by
  obtain ⟨rfl, several, filled⟩ := ofComponents_eq_ok_iff.1 made
  obtain ⟨container, object, first, rest, rfl⟩ := List.forall₂_cons_left_iff.1 alike
  refine ⟨⟨container, object⟩, ofComponents_eq_ok_iff.2 ⟨rfl, ?_, ?_⟩, alike⟩
  · rintro rfl
    exact several (List.forall₂_nil_right_iff.1 rest)
  · exact fun blank => filled (nil_mem_of_alike alike blank)

end Cut

theorem exists_ofPattern_recased {pattern other : String} {layout : Layout}
    (recased : Token.Recased pattern other) (compiled : ofPattern pattern = .ok layout) :
    ∃ second, ofPattern other = .ok second ∧ layout.Alike second := by
  obtain ⟨tokens, read, checked, made⟩ := ofPattern_eq_ok_iff.1 compiled
  obtain ⟨more, again, alike⟩ := (Token.ofPattern_eq_ok_iff.1 read).recased recased
  obtain ⟨second, remade, same⟩ := exists_ofComponents_alike (components_alike alike) made
  have passed := checkTokens_alike alike checked
  have reread := Token.ofPattern_eq_ok_iff.2 again
  exact ⟨second, ofPattern_eq_ok_iff.2 ⟨more, reread, passed, remade⟩, same⟩

end Layout

namespace Template

variable {t u : Template} {first second : String}

theorem exists_recased (recased : Token.Recased first second) (made : compile first = .ok t) :
    ∃ u, compile second = .ok u ∧ t.layout.Alike u.layout := by
  obtain rfl := compile_eq_ok_iff.1 made
  obtain ⟨layout, compiled, alike⟩ := Layout.exists_ofPattern_recased recased t.compiled
  exact ⟨⟨second, layout, compiled⟩, compile_eq_ok_iff.2 rfl, alike⟩

/-- The same captures are bound under names that fold alike. -/
theorem match?_beq (alike : t.layout.Alike u.layout) (container object : String) :
    (t.match? container object == u.match? container object) = true := by
  have taken : t.layout.captures container object = u.layout.captures container object := by
    rw [Layout.captures, Layout.captures, ← Layout.parts, ← Layout.parts, captureAll_alike alike]
  have named : t.names.map Text.lower = u.names.map Text.lower := names_alike alike
  rw [match?, match?, taken]
  cases u.layout.captures container object with
  | none => rfl
  | some captures =>
    apply FoldedMap.beq_ofList
    rw [← List.zip_map_left, ← List.zip_map_left, named]

end Template

namespace Resolver

variable {r s : Resolver} {first second : String} {binding : Binding} {metadata : Metadata}

/-- The place among the placeholders of the first that has no value. -/
def missing? (r : Resolver) (binding : Binding) (metadata : Metadata) : Option Nat :=
  r.placeholders.findIdx? fun placeholder => (placeholder.value? binding metadata).isNone

/-- Two resolvers come to the same address, to the same fault of an address, or to placeholders at
the same place, each of which is the first of its pattern without a value. -/
inductive SameOutcome (r s : Resolver) (binding : Binding) (metadata : Metadata) : Prop where
  | resolved {address : Address} (left : r.resolve binding metadata = .ok address)
      (right : s.resolve binding metadata = .ok address)
  | unresolved {place : Nat} {asked other : Placeholder}
      (leftPlace : r.missing? binding metadata = some place)
      (rightPlace : s.missing? binding metadata = some place)
      (leftAsks : r.placeholders[place]? = some asked)
      (rightAsks : s.placeholders[place]? = some other)
      (left : r.resolve binding metadata = .error (.unresolvedParameter asked.name))
      (right : s.resolve binding metadata = .error (.unresolvedParameter other.name))
  | invalid {fault : Address.Error}
      (left : r.resolve binding metadata = .error (.invalidAddress fault))
      (right : s.resolve binding metadata = .error (.invalidAddress fault))

theorem exists_recased (recased : Token.Recased first second) (made : compile first = .ok r) :
    ∃ s, compile second = .ok s ∧ List.Forall₂ Token.Alike r.tokens s.tokens := by
  obtain rfl := compile_eq_ok_iff.1 made
  obtain ⟨tokens, read, alike⟩ := (Token.ofPattern_eq_ok_iff.1 r.compiled).recased recased
  have again := Token.ofPattern_eq_ok_iff.2 read
  exact ⟨⟨second, tokens, again⟩, compile_of_ofPattern again, alike⟩

private theorem exists_missing {error : Template.Error}
    (failed : substitute binding metadata r.tokens = .error error) : ∃ place asked,
      r.missing? binding metadata = some place ∧ r.placeholders[place]? = some asked ∧
        r.resolve binding metadata = .error (.unresolvedParameter asked.name) := by
  obtain ⟨asked, found, rfl⟩ := substitute_eq_error_iff.1 failed
  rw [List.find?_eq_bind_findIdx?_getElem?] at found
  obtain ⟨place, first, held⟩ := Option.bind_eq_some_iff.1 found
  exact ⟨place, asked, first, held, resolve_of_unsubstituted failed⟩

section Alike

variable {tokens others : List Token}

private theorem missing_alike (alike : List.Forall₂ Token.Alike tokens others) (binding : Binding)
    (metadata : Metadata) :
    ((Token.placeholders tokens).findIdx? fun placeholder =>
      (placeholder.value? binding metadata).isNone) =
    (Token.placeholders others).findIdx? fun placeholder =>
      (placeholder.value? binding metadata).isNone := by
  induction alike with
  | nil => rfl
  | cons first _ ih =>
    cases first with
    | literal text => exact ih
    | parameter placeholder =>
      rw [Token.placeholders_parameter, Token.placeholders_parameter, List.findIdx?_cons,
        List.findIdx?_cons, placeholder.value?_eq, ih]

private theorem substitute_alike (alike : List.Forall₂ Token.Alike tokens others)
    (binding : Binding) (metadata : Metadata) (text : List Char) :
    substitute binding metadata tokens = .ok text ↔
      substitute binding metadata others = .ok text := by
  induction alike generalizing text with
  | nil => rfl
  | cons first _ ih =>
    cases first with
    | literal lead => simp only [substitute, map_eq_ok_iff, ih]
    | parameter placeholder =>
      rw [substitute, substitute, placeholder.value?_eq]
      split
      · simp only [reduceCtorEq]
      · simp only [map_eq_ok_iff, ih]

theorem sameOutcome_of_alike (alike : List.Forall₂ Token.Alike r.tokens s.tokens)
    (binding : Binding) (metadata : Metadata) : r.SameOutcome s binding metadata := by
  have same := substitute_alike alike binding metadata
  -- Both substitutions fail or neither does, and where they fail the places agree.
  cases left : substitute binding metadata r.tokens with
  | error error =>
    cases right : substitute binding metadata s.tokens with
    | ok text => cases left.symm.trans ((same text).2 right)
    | error other =>
      obtain ⟨place, asked, missing, asks, refused⟩ := exists_missing left
      obtain ⟨other, again, also, reasks, rerefused⟩ := exists_missing right
      have level : some place = some other :=
        missing.symm.trans ((missing_alike alike binding metadata).trans also)
      cases level
      exact .unresolved missing also asks reasks refused rerefused
  | ok text =>
    have first := resolve_of_substituted left
    have second := resolve_of_substituted ((same text).1 left)
    cases read : Address.parse (String.ofList text) with
    | ok address =>
      rw [read] at first second
      exact .resolved first second
    | error fault =>
      rw [read] at first second
      exact .invalid first second

end Alike

end Resolver

namespace Token

/-- What a pattern is compiled to in one case it is compiled to in every case, so the other pattern
is refused where the first is. -/
private theorem both_or_neither {α : Type} {compile : String → Except Template.Error α}
    {P : α → α → Prop}
    (carries : ∀ {first second : String} {t : α}, Recased first second → compile first = .ok t →
      ∃ u, compile second = .ok u ∧ P t u)
    {first second : String} (recased : Recased first second) :
    (∃ left right, compile first = .error left ∧ compile second = .error right) ∨
      ∃ t u, compile first = .ok t ∧ compile second = .ok u ∧ P t u := by
  cases left : compile first with
  | ok t =>
    obtain ⟨u, right, agree⟩ := carries recased left
    exact .inr ⟨t, u, rfl, right, agree⟩
  | error fault =>
    cases right : compile second with
    | error other => exact .inl ⟨fault, other, rfl, rfl⟩
    | ok u =>
      obtain ⟨t, compiled, _⟩ := carries recased.symm right
      cases left.symm.trans compiled

/-- Of two patterns that differ in the ASCII case of their names, as templates both are refused or
both match the same addresses with equal bindings, and as patterns of further addresses both are
refused or both come to the same with every binding and all metadata. -/
theorem recased_patterns_agree {first second : String} (recased : Recased first second) :
    ((∃ left right, Template.compile first = .error left ∧ Template.compile second = .error right) ∨
      ∃ t u, Template.compile first = .ok t ∧ Template.compile second = .ok u ∧
        ∀ container object, (t.match? container object == u.match? container object) = true) ∧
    ((∃ left right, Resolver.compile first = .error left ∧ Resolver.compile second = .error right) ∨
      ∃ r s, Resolver.compile first = .ok r ∧ Resolver.compile second = .ok s ∧
        ∀ binding metadata, r.SameOutcome s binding metadata) := by
  constructor
  · refine both_or_neither (fun recased made => ?_) recased
    obtain ⟨u, compiled, alike⟩ := Template.exists_recased recased made
    exact ⟨u, compiled, Template.match?_beq alike⟩
  · refine both_or_neither (fun recased made => ?_) recased
    obtain ⟨s, compiled, alike⟩ := Resolver.exists_recased recased made
    exact ⟨s, compiled, Resolver.sameOutcome_of_alike alike⟩

/-- Names in another case that capture the same, of which the second has no value later on, and
metadata in another case, which no template may name. -/
theorem recased_patterns_agree_sample :
    Recased "in-\x7bEnv\x7d/\x7bName\x7d" "in-\x7bENV\x7d/\x7bnAME\x7d" ∧
      Recased "c/\x7bMetadata.Owner\x7d" "c/\x7bmetadata.oWNER\x7d" ∧
      (∃ t u data other, Template.compile "in-\x7bEnv\x7d/\x7bName\x7d" = .ok t ∧
        Template.compile "in-\x7bENV\x7d/\x7bnAME\x7d" = .ok u ∧
        t.match? "in-prod" "x" = some data ∧ u.match? "in-prod" "x" = some other ∧
        data.keys = ["Env", "Name"] ∧ other.keys = ["ENV", "nAME"] ∧ (data == other) = true) ∧
      (∃ r s, Resolver.compile "in-\x7bEnv\x7d/\x7bName\x7d" = .ok r ∧
        Resolver.compile "in-\x7bENV\x7d/\x7bnAME\x7d" = .ok s ∧
        r.SameOutcome s (FoldedMap.ofList [("env", "e")]) FoldedMap.empty ∧
        r.resolve (FoldedMap.ofList [("env", "e")]) FoldedMap.empty =
          .error (.unresolvedParameter "Name")) ∧
      (∃ error, Template.compile "c/\x7bmetadata.oWNER\x7d" = .error error) ∧
      ∃ s, Resolver.compile "c/\x7bmetadata.oWNER\x7d" = .ok s ∧
        s.resolve FoldedMap.empty (FoldedMap.ofList [("OWNER", "bob")]) = .ok ⟨"c", "bob"⟩ := by
  have names : Recased "in-\x7bEnv\x7d/\x7bName\x7d" "in-\x7bENV\x7d/\x7bnAME\x7d" := by decide
  have owners : Recased "c/\x7bMetadata.Owner\x7d" "c/\x7bmetadata.oWNER\x7d" := by decide
  obtain ⟨matched, resolved⟩ := recased_patterns_agree names
  obtain ⟨refused, looked⟩ := recased_patterns_agree owners
  refine ⟨names, owners, ?_, ?_, ?_, ?_⟩
  · obtain ⟨t, data, made, found, keys⟩ : ∃ t data,
        Template.compile "in-\x7bEnv\x7d/\x7bName\x7d" = .ok t ∧
          t.match? "in-prod" "x" = some data ∧ data.keys = ["Env", "Name"] :=
      ⟨_, _, rfl, rfl, rfl⟩
    obtain ⟨u, other, remade, again, spelled⟩ : ∃ u other,
        Template.compile "in-\x7bENV\x7d/\x7bnAME\x7d" = .ok u ∧
          u.match? "in-prod" "x" = some other ∧ other.keys = ["ENV", "nAME"] :=
      ⟨_, _, rfl, rfl, rfl⟩
    rcases matched with ⟨_, _, failed, _⟩ | ⟨_, _, left, right, same⟩
    · cases made.symm.trans failed
    · cases made.symm.trans left
      cases remade.symm.trans right
      have equal := same "in-prod" "x"
      rw [found, again] at equal
      exact ⟨t, u, data, other, made, remade, found, again, keys, spelled, equal⟩
  · obtain ⟨r, made, unresolved⟩ : ∃ r,
        Resolver.compile "in-\x7bEnv\x7d/\x7bName\x7d" = .ok r ∧
          r.resolve (FoldedMap.ofList [("env", "e")]) FoldedMap.empty =
            .error (.unresolvedParameter "Name") := ⟨_, rfl, rfl⟩
    rcases resolved with ⟨_, _, failed, _⟩ | ⟨_, s, left, right, same⟩
    · cases made.symm.trans failed
    · cases made.symm.trans left
      exact ⟨r, s, made, right, same _ _, unresolved⟩
  · obtain ⟨fault, failed⟩ : ∃ fault,
        Template.compile "c/\x7bMetadata.Owner\x7d" = .error fault := ⟨_, rfl⟩
    rcases refused with ⟨_, error, _, failedToo⟩ | ⟨_, _, made, _⟩
    · exact ⟨error, failedToo⟩
    · cases failed.symm.trans made
  · obtain ⟨r, made, found⟩ : ∃ r, Resolver.compile "c/\x7bMetadata.Owner\x7d" = .ok r ∧
        r.resolve FoldedMap.empty (FoldedMap.ofList [("OWNER", "bob")]) = .ok ⟨"c", "bob"⟩ :=
      ⟨_, rfl, rfl⟩
    rcases looked with ⟨_, _, failed, _⟩ | ⟨_, s, left, right, same⟩
    · cases made.symm.trans failed
    · cases made.symm.trans left
      refine ⟨s, right, ?_⟩
      cases same FoldedMap.empty (FoldedMap.ofList [("OWNER", "bob")]) with
      | resolved left right => rw [right, ← left, found]
      | unresolved _ _ _ _ left _ => cases found.symm.trans left
      | invalid left _ => cases found.symm.trans left

end Token

end BlobDispatch
