import StructuredLog.Proofs.Record.Moments

set_option autoImplicit false

namespace StructuredLog

open Template

structure Printed (template : String) (properties : Properties) (pieces : List Piece) : Prop where
  parsed : ∀ elements, parse template properties = .ok elements → pieces = print elements
  broken : ∀ e, parse template properties = .error e → pieces = []

-- A record that is read as `c` whatever happens first to it and to the context `s`.
def Record.ReadsAs (s : Scopes) (header : Header) (c : Contents) (r : Record) : Prop :=
  ∀ zone moments q, q ≠ .resolved →
    Moment.answer zone moments q s r = .returned (c.answer zone header false q)

structure Contents.OfText (s : Scopes) (text : String) (explicit : Properties) (c : Contents) :
    Prop where
  properties : Properties.Overlaid s.innermost explicit c.properties
  raw : c.raw = .text text
  pieces : Printed text c.properties c.pieces

theorem render_printed (template : String) (properties : Properties) :
    Printed template properties (render template properties).1 := by
  unfold render
  constructor
  case parsed =>
    intro elements ok
    rw [ok]
  case broken =>
    intro e error
    rw [error]

namespace Source

theorem reads_as (s : Scopes) (header : Header) (ambient : Properties) (source : Source)
    (sound : ∀ stage, source.refusal stage = none) :
    (Record.build header ambient source).1.ReadsAs s header (source.contents ambient) := by
  intro zone moments q unresolved
  have answered : source.fault (source.stageAfter .fresh (moments.flatMap Moment.asked)) q.need =
      none := by
    unfold fault
    rw [sound, ite_self]
  rw [Moment.answer_apart, answer_at, answered]
  exact congrArg _ (answer_unchanged zone header _ _ _ q unresolved)

theorem contents_of_text (s : Scopes) (sound : s.Sound) (text : String) (explicit : Properties)
    (map : explicit.Ordered) :
    (Source.contents s.ambient (.text text explicit)).OfText s text explicit where
  properties := by
    rw [← s.ambient_innermost sound.stacked]
    refine Properties.overlay_overlaid _ _ ?_ map
    rw [s.ambient_innermost sound.stacked]
    exact s.innermost_ordered sound
  raw := rfl
  pieces := render_printed text (s.ambient.overlay explicit)

end Source

-- Not even a context that has changed since the call shows when its properties were computed.
theorem deferral_is_invisible (s : Scopes) (sound : s.Sound) (header : Header) (text : String)
    (explicit : Properties) (map : explicit.Ordered) :
    ∃ c : Contents, c.OfText s text explicit ∧
      (Record.build header s.ambient (.text text explicit)).1.ReadsAs s header c ∧
      (Record.build header s.ambient (.deferred text (.returned explicit))).1.ReadsAs s header c :=
  ⟨_, Source.contents_of_text s sound text explicit map,
    Source.reads_as s header _ (.text text explicit) fun _ => rfl,
    Source.reads_as s header _ (.deferred text (.returned explicit)) fun _ => rfl⟩

theorem deferral_is_invisible_over_nested_scopes :
    let outer : Properties := [("host", .string "a"), ("user", .string "ann")]
    let inner : Properties := [("user", .string "bob")]
    let s := Moment.scopesAfter [.enter outer, .enter inner, .set "shard" (.nat 2)] .none
    let header : Header := ⟨.info, [], "", 0⟩
    let explicit : Properties := [("id", .nat 7)]
    let text := "{user} took {id} from {host}"
    s.Sound ∧ explicit.Ordered ∧
      ∃ c : Contents, c.OfText s text explicit ∧
        (Record.build header s.ambient (.text text explicit)).1.ReadsAs s header c ∧
        (Record.build header s.ambient (.deferred text (.returned explicit))).1.ReadsAs s header
          c := by
  intro outer inner s header explicit text
  have outside : outer.Ordered := by decide
  have inside : inner.Ordered := by decide
  have sound : s.Sound := by
    refine Moment.scopes_after_sound _ ?_ .none Scopes.none_sound
    exact List.forall_mem_cons.mpr ⟨outside, List.forall_mem_cons.mpr ⟨inside,
      List.forall_mem_cons.mpr ⟨trivial, nofun⟩⟩⟩
  have map : explicit.Ordered := by decide
  exact ⟨sound, map, deferral_is_invisible s sound header text explicit map⟩

structure MessageCallback.ReturnsLast (t : TemplateParts) (callback : MessageCallback) :
    Prop where
  last : callback.calls.getLast? = some t
  returned : some callback.result = callback.formatted.getLast?.map Outcome.returned

structure TaggedAs (t : TemplateParts) (callback : MessageCallback) (pieces : List Piece) :
    Prop where
  template : ∀ s header, s.Stacked →
    (Record.build header s.ambient (.template t)).1.ReadsAs s header
      ⟨s.innermost, .template t, pieces⟩
  lazily : ∀ s header, s.Stacked →
    (Record.build header s.ambient (.lazily callback)).1.ReadsAs s header
      ⟨s.innermost, .template t, pieces⟩
  text : ∀ (outside : Scopes) s header zone moments, outside.active = [] →
    Moment.answer zone moments .message s
      (Record.build header outside.ambient (.text t.splice [])).1 = .returned (.pieces pieces)
  display : ∀ s header zone moments,
    Moment.answer zone moments .rawDisplay s (Record.build header s.ambient (.template t)).1 =
        .returned (.text t.splice) ∧
      Moment.answer zone moments .rawDisplay s (Record.build header s.ambient (.lazily callback)).1 =
        .returned (.text t.splice)
  parsed : ∀ elements, parseParts t.parts t.values = .ok elements → pieces = print elements
  broken : ∀ e, parseParts t.parts t.values = .error e → pieces = [] ∧ e.template = t.splice

namespace MessageCallback

theorem returns_last_call (earlier : List TemplateParts) (t : TemplateParts) :
    ReturnsLast t ⟨earlier ++ [t], .lastCall⟩ := by
  constructor
  case last => exact List.getLast?_concat
  case returned => simp [result, formatted]

theorem run_last (t : TemplateParts) (callback : MessageCallback)
    (returns : ReturnsLast t callback) : callback.run = .returned (some (t.render.1, t)) := by
  have formatted : callback.formatted.getLast? = some t.render.1 := by
    unfold MessageCallback.formatted
    rw [List.getLast?_map, returns.last]
    rfl
  have result := returns.returned
  rw [formatted] at result
  unfold run
  rw [Option.some.inj result, returns.last]
  rfl

end MessageCallback

theorem error_template (template : String) (properties : Properties) (e : ParseError)
    (failed : parse template properties = .error e) : e.template = template := by
  unfold parse parseFrom at failed
  cases lexed : lex template.toList with
  | mk tokens broken =>
      rw [lexed] at failed
      cases broken with
      | none => cases failed
      | some broken =>
          cases failed
          rfl

namespace Source

theorem template_reads_as (s : Scopes) (header : Header) (t : TemplateParts) :
    (Record.build header s.ambient (.template t)).1.ReadsAs s header
      ⟨s.ambient, .template t, t.render.1⟩ :=
  reads_as s header _ (.template t) fun _ => rfl

theorem lazily_reads_as (s : Scopes) (header : Header) (t : TemplateParts)
    (callback : MessageCallback) (returns : callback.ReturnsLast t) :
    (Record.build header s.ambient (.lazily callback)).1.ReadsAs s header
      ⟨s.ambient, .template t, t.render.1⟩ := by
  have run := callback.run_last t returns
  have sound : ∀ stage, (Source.lazily callback).refusal stage = none := by
    intro stage
    change refusedMessage stage callback.run = none
    rw [run]
    rfl
  have left : (Source.lazily callback).contents s.ambient =
      ⟨s.ambient, .template t, t.render.1⟩ := by
    change Contents.mk s.ambient (.template (made callback.run).2) (made callback.run).1 = _
    rw [run]
    rfl
  rw [← left]
  exact reads_as s header _ (.lazily callback) sound

end Source

-- A template is tagged at the call or in a callback, after any other calls, or spliced by hand.
theorem tagged_calls_agree (t : TemplateParts) (callback : MessageCallback)
    (returns : callback.ReturnsLast t) : ∃ pieces, TaggedAs t callback pieces := by
  have printed := render_printed t.splice []
  refine ⟨t.render.1, ?_⟩
  constructor
  case template =>
    intro s header stacked
    rw [← s.ambient_innermost stacked]
    exact Source.template_reads_as s header t
  case lazily =>
    intro s header stacked
    rw [← s.ambient_innermost stacked]
    exact Source.lazily_reads_as s header t callback returns
  case text =>
    intro outside s header zone moments inactive
    have nothing : outside.ambient = [] := by
      unfold Scopes.ambient Scopes.store
      rw [inactive]
      rfl
    rw [nothing]
    exact Source.reads_as s header [] (.text t.splice []) (fun _ => rfl) zone moments .message nofun
  case display =>
    intro s header zone moments
    exact ⟨Source.template_reads_as s header t zone moments .rawDisplay nofun,
      Source.lazily_reads_as s header t callback returns zone moments .rawDisplay nofun⟩
  case parsed => exact printed.parsed
  case broken =>
    intro e failed
    exact ⟨printed.broken e failed, error_template t.splice [] e failed⟩

theorem tagged_calls_agree_after_another_call :
    let greeting : TemplateParts := ⟨["Hello ", ", ", "\x7b"], [.string "{user}", .nat 3]⟩
    let callback : MessageCallback := ⟨[⟨["Bye"], []⟩, greeting], .lastCall⟩
    callback.ReturnsLast greeting ∧ ∃ pieces, TaggedAs greeting callback pieces := by
  intro greeting callback
  have returns := MessageCallback.returns_last_call [⟨["Bye"], []⟩] greeting
  exact ⟨returns, tagged_calls_agree greeting callback returns⟩

end StructuredLog
