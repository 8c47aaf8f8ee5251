import StructuredLog.Proofs.CommandLine.EmitLine
import StructuredLog.Proofs.Template.Properties

set_option autoImplicit false

namespace StructuredLog.CommandLine

open Template

-- Both commands end well, or report the same error, or do not get as far as the template.
inductive SameVerdict (colors : Bool) (template : String) : Result → Result → Prop
  | fine (a b : Result) : a.code = 0 → b.code = 0 → SameVerdict colors template a b
  | faulty (e : ParseError) : parse template [] = .error e →
      SameVerdict colors template
        ⟨1, parseFailure colors template e ++ [failure colors "template is invalid"]⟩
        ⟨1, parseFailure colors template e ++ [failure colors "failed to render template"]⟩
  | refused (reason : String) :
      SameVerdict colors template ⟨1, [failure colors reason]⟩ ⟨1, [failure colors reason]⟩

theorem verdict_code (colors : Bool) (template : String) (a b : Result)
    (same : SameVerdict colors template a b) : a.code = 0 ↔ b.code = 0 := by
  cases same with
  | fine _ _ here there => simp [here, there]
  | faulty e failed => simp
  | refused reason => simp

theorem check_render_verdict (refusal : Stream → Option IoFault)
    (taken : ∀ stream, refusal stream = none) (colors quiet asPieces : Bool) (template : String)
    (properties : Properties) :
    SameVerdict colors template ((check colors quiet template).result refusal colors)
      ((render colors template properties asPieces).result refusal colors) := by
  have ended (prints : List Write) (error : Option (List String)) :=
    result_taken refusal (taken _) colors [] prints error fun _ _ => taken _
  unfold check render
  cases parsed : parse template [] with
  | error e =>
      rw [parse_fails_alike template [] properties e parsed]
      dsimp only
      rw [ended, ended]
      exact .faulty e parsed
  | ok elements =>
      obtain ⟨others, parsed', -⟩ := parse_succeeds_alike template [] properties elements parsed
      rw [parsed']
      dsimp only
      rw [ended, ended]
      exact .fine _ _ rfl rfl

theorem perform_verdict (o : Outside) (taken : ∀ stream, o.refusal stream = none)
    (s : Surroundings) (g : Globals) (template : String) (properties : Properties)
    (asPieces : Bool) :
    SameVerdict (g.color.colors s.env) template (perform o s ⟨g, .check template⟩)
      (perform o s ⟨g, .render template properties asPieces⟩) := by
  unfold perform
  dsimp only
  cases reporter o.filters s.env g (g.color.colors s.env) .standard with
  | error chain =>
      dsimp only [Except.map]
      rw [result_taken o.refusal (taken _) _ _ _ _ fun _ _ => taken _]
      exact .refused _
  | ok r => exact check_render_verdict o.refusal taken _ g.quiet asPieces template properties

-- Properties change neither the error of a template nor the kinds and places of its elements.
theorem template_structure_is_fixed (template : String) (p q : Properties) :
    SameStructure (parse template p) (parse template q) ∧
      (∀ elements (i : Nat) (e : Element), parse template p = .ok elements →
        elements[i]? = some e → e.kind = .argument →
        ∃ name, Occurs template name ∧ Substituted p name e.value ∧
          ∀ others (f : Element), parse template q = .ok others → others[i]? = some f →
            Substituted q name f.value) ∧
      ((∀ name, Occurs template name → entry p name = entry q name) →
        parse template p = parse template q) ∧
      ∀ o : Outside, (∀ stream, o.refusal stream = none) →
        (∀ s a b g properties asPieces, o.arguments a = .ok ⟨g, .check template⟩ →
          o.arguments b = .ok ⟨g, .render template properties asPieces⟩ →
          ((run s a o).code = 0 ↔ (run s b o).code = 0) ∧
            SameVerdict (g.color.colors s.env) template (run s a o) (run s b o)) ∧
        (AsDocumented o.arguments →
          ∀ s flags given i, o.arguments (renderLine flags template given) = .ok i →
            ∃ g fields, given.map property? = fields.map some ∧
              i = ⟨g, .render template (Properties.ofFields fields) false⟩ ∧
              o.arguments (checkLine flags template) = .ok ⟨g, .check template⟩ ∧
              ((run s (checkLine flags template) o).code = 0 ↔
                (run s (renderLine flags template given) o).code = 0) ∧
              SameVerdict (g.color.colors s.env) template (run s (checkLine flags template) o)
                (run s (renderLine flags template given) o)) := by
  refine ⟨parse_structure template p q, ?_, parse_agree template p q, ?_⟩
  · intro elements i e ok known kind
    obtain ⟨name, occurs, looked⟩ := parse_argument template p elements i e ok known kind
    exact ⟨name, occurs, looked p elements e ok known, looked q⟩
  · intro o taken
    have verdict (s : Surroundings) (a b : List String) (g : Globals) (properties : Properties)
        (asPieces : Bool) (checks : o.arguments a = .ok ⟨g, .check template⟩)
        (renders : o.arguments b = .ok ⟨g, .render template properties asPieces⟩) :
        ((run s a o).code = 0 ↔ (run s b o).code = 0) ∧
          SameVerdict (g.color.colors s.env) template (run s a o) (run s b o) := by
      have same := perform_verdict o taken s g template properties asPieces
      rw [run_read o s a _ checks, run_read o s b _ renders]
      exact ⟨verdict_code _ _ _ _ same, same⟩
    refine ⟨verdict, ?_⟩
    intro documented s flags given i accepted
    obtain ⟨g, fields, same, rfl⟩ := documented.properties flags template given i accepted
    have checks := documented.globals flags template given g _ accepted
    exact ⟨g, fields, same, rfl, checks, verdict s _ _ g _ _ checks accepted⟩

def bareSurroundings : Surroundings := ⟨fun _ => none, fun _ => .missing, 0⟩

theorem template_structure_is_fixed_brace_value :
    AsDocumented readArguments ∧
      read (renderLine [.quiet, .color "never"] "{a} \x7bb" ["a={b}"]) =
        .ok ⟨⟨false, true, .never⟩, .render "{a} \x7bb" [("a", .string "{b}")] false⟩ ∧
      read (checkLine [.quiet, .color "never"] "{a} \x7bb") =
        .ok ⟨⟨false, true, .never⟩, .check "{a} \x7bb"⟩ ∧
      SameVerdict false "{a} \x7bb"
        (run bareSurroundings (checkLine [.quiet, .color "never"] "{a} \x7bb"))
        (run bareSurroundings (renderLine [.quiet, .color "never"] "{a} \x7bb" ["a={b}"])) := by
  have renders : read (renderLine [.quiet, .color "never"] "{a} \x7bb" ["a={b}"]) =
      .ok ⟨⟨false, true, .never⟩, .render "{a} \x7bb" [("a", .string "{b}")] false⟩ := rfl
  obtain ⟨-, -, -, commands⟩ := template_structure_is_fixed "{a} \x7bb" [] [("a", .string "{b}")]
  obtain ⟨-, lines⟩ := commands .standard fun _ => rfl
  obtain ⟨g, fields, -, made, -, -, same⟩ := lines read_arguments_documented bareSurroundings _ _ _
    ((read_arguments_ok_iff _ _).mpr renders)
  obtain rfl : _ = g := congrArg Invocation.globals made
  exact ⟨read_arguments_documented, renders, rfl, same⟩

end StructuredLog.CommandLine
