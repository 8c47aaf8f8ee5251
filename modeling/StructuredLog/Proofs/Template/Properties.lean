import StructuredLog.Proofs.Template.Spans

set_option autoImplicit false

namespace StructuredLog.Template

structure Element.Alike (a b : Element) : Prop where
  kind : a.kind = b.kind
  location : a.location = b.location
  literal : a.kind = .literal → a.value = b.value

inductive SameStructure : Except ParseError (List Element) → Except ParseError (List Element) → Prop
  | failed (e : ParseError) : SameStructure (.error e) (.error e)
  | parsed (a b : List Element) : List.Forall₂ Element.Alike a b → SameStructure (.ok a) (.ok b)

def Occurs (template name : String) : Prop :=
  ∃ tokens before after, Cut template.toList tokens ∧
    Token.argument before name.toList after ∈ tokens

-- What a map holds under a name; null counts as missing.
def entry (properties : Properties) (name : String) : Option Json :=
  (properties.find? name).filter fun value => !value.isNull

theorem resolve_entry (properties : Properties) (name : String) :
    resolve properties name = match entry properties name with
      | none => name
      | some value => coerce value := by
  unfold resolve entry
  cases properties.find? name with
  | none => rfl
  | some found => cases found <;> rfl

theorem locate_alike (p q : Properties) (start : Position) (s : Segment) :
    (s.locate p start).Alike (s.locate q start) := by
  cases s with
  | literal run => exact ⟨rfl, rfl, fun _ => rfl⟩
  | argument token name => exact ⟨rfl, rfl, fun literal => nomatch literal⟩

theorem locate_all_alike (p q : Properties) (start : Position) (parts : List Segment) :
    List.Forall₂ Element.Alike (locateAll p start parts) (locateAll q start parts) := by
  induction parts generalizing start with
  | nil => exact .nil
  | cons s rest ih => exact .cons (locate_alike p q start s) (ih _)

theorem parse_structure (template : String) (p q : Properties) :
    SameStructure (parse template p) (parse template q) := by
  unfold parse parseFrom
  cases lex template.toList with
  | mk tokens broken =>
      cases broken with
      | none => exact .parsed _ _ (locate_all_alike p q .start (segments tokens))
      | some broken => exact .failed _

theorem parse_fails_alike (template : String) (p q : Properties) (e : ParseError)
    (failed : parse template p = .error e) : parse template q = .error e := by
  have same := parse_structure template p q
  rw [failed] at same
  generalize parse template q = other at same
  cases same
  rfl

theorem parse_succeeds_alike (template : String) (p q : Properties) (elements : List Element)
    (ok : parse template p = .ok elements) :
    ∃ others, parse template q = .ok others ∧ List.Forall₂ Element.Alike elements others := by
  have same := parse_structure template p q
  rw [ok] at same
  generalize parse template q = other at same
  cases same with
  | parsed _ others alike => exact ⟨others, rfl, alike⟩

theorem segment_argument (template : String) (tokens : List Token) (s : Segment)
    (cut : Cut template.toList tokens) (made : s.From tokens) (kind : s.kind = .argument) :
    ∃ name, Occurs template name ∧ ∀ p, s.value p = resolve p name := by
  cases s with
  | literal run => cases kind
  | argument token name =>
      obtain ⟨member, before, after, rfl⟩ := made
      refine ⟨String.ofList name, ⟨tokens, before, after, cut, ?_⟩, fun _ => rfl⟩
      rwa [String.toList_ofList]

theorem parse_argument (template : String) (p : Properties) (elements : List Element) (i : Nat)
    (e : Element) (ok : parse template p = .ok elements) (known : elements[i]? = some e)
    (kind : e.kind = .argument) :
    ∃ name, Occurs template name ∧ ∀ q others f, parse template q = .ok others →
      others[i]? = some f → Substituted q name f.value := by
  obtain ⟨tokens, cut, rfl⟩ := (parse_ok_iff template p elements).mp ok
  rw [locate_all_get] at known
  obtain ⟨s, found, rfl⟩ := Option.map_eq_some_iff.mp known
  have made := segments_from tokens s (List.mem_of_getElem? found)
  obtain ⟨name, occurs, value⟩ := segment_argument template tokens s cut made kind
  refine ⟨name, occurs, ?_⟩
  intro q others f parsed listed
  obtain ⟨again, cut', rfl⟩ := (parse_ok_iff template q others).mp parsed
  rw [cut_unique _ _ _ cut' cut, locate_all_get, found] at listed
  cases Option.some.inj listed
  exact (substituted_iff q name _).mpr (value q)

theorem locate_all_agree (p q : Properties) (start : Position) (parts : List Segment)
    (agree : ∀ s ∈ parts, s.value p = s.value q) :
    locateAll p start parts = locateAll q start parts := by
  induction parts generalizing start with
  | nil => rfl
  | cons s rest ih =>
      have here : s.locate p start = s.locate q start := by
        rw [Segment.locate, Segment.locate, agree s List.mem_cons_self]
      rw [locateAll, locateAll, here, ih _ fun t member => agree t (List.mem_cons_of_mem s member)]

-- Maps with the same entries for the names of a template are the same map to it.
theorem parse_agree (template : String) (p q : Properties)
    (agree : ∀ name, Occurs template name → entry p name = entry q name) :
    parse template p = parse template q := by
  cases ok : parse template p with
  | error e => exact (parse_fails_alike template p q e ok).symm
  | ok elements =>
      obtain ⟨tokens, cut, rfl⟩ := (parse_ok_iff template p elements).mp ok
      refine ((parse_ok_iff template q _).mpr ⟨tokens, cut, ?_⟩).symm
      refine locate_all_agree p q .start (segments tokens) ?_
      intro s member
      cases kind : s.kind with
      | literal =>
          cases s with
          | literal run => rfl
          | argument token name => cases kind
      | argument =>
          have made := segments_from tokens s member
          obtain ⟨name, occurs, value⟩ := segment_argument template tokens s cut made kind
          rw [value, value, resolve_entry, resolve_entry, agree name occurs]

end StructuredLog.Template
