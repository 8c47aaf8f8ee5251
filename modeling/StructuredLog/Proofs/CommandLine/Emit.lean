import StructuredLog.Proofs.Act
import StructuredLog.Proofs.CommandLine.EmitLine
import StructuredLog.Proofs.Config.Overrides
import StructuredLog.Proofs.Config.Transports
import StructuredLog.Proofs.Json.Written
import StructuredLog.Proofs.Transport.ConsoleLines
import StructuredLog.Proofs.Transport.Deliveries
import StructuredLog.Proofs.Transport.Serving

set_option autoImplicit false

namespace StructuredLog.CommandLine

open Template Text

def stderrConsole (id : String) : Transport :=
  ⟨id, true, .console ⟨false, .standard, .stream .stderr⟩⟩

def consoleEngine (platform : Platform) (id label : String) (enabled : Bool)
    (threshold : Threshold) (sources : List IdSource) (registries : List Registry) (clock : Nat) :
    Engine :=
  ⟨[stderrConsole id], [.none], sources, registries,
    [⟨label, enabled, threshold, ⟨[⟨id, 0⟩]⟩, 0, 0⟩], clock, platform⟩

def consoleLine (zone : Time.Zone) (h : Header) (pieces : List Piece) : String :=
  " ".intercalate (Console.styledLeading zone false h ++ [Console.styledMessage false pieces])
    ++ "\n"

section Console

variable (platform : Platform) (taken : platform.refusal .stderr = none) (id : String)
  (h : Header) (properties : Properties) (pieces : List Piece) (raw : RawMessage)

include taken

theorem send_console :
    Transport.send platform (stderrConsole id, ⟨h, .ready properties, .printed pieces raw⟩) =
      ⟨.returned (.ok ()), (stderrConsole id, ⟨h, .ready properties, .printed pieces raw⟩),
        [.wrote .stderr (consoleLine platform.zone h pieces)]⟩ := by
  let s : Transport × Record := (stderrConsole id, ⟨h, .ready properties, .printed pieces raw⟩)
  let written := Console.write platform.refusal id (consoleLine platform.zone h pieces)
    (.stream .stderr)
  have done : written = (.ok (), .stream .stderr,
      [.wrote .stderr (consoleLine platform.zone h pieces)]) := by
    simp only [written, Console.write, taken]
  refine (Act.bind_quiet Act.get _ s s s rfl).trans ?_
  refine (Act.bind_quiet (Transport.readRecord (Console.line platform.zone _)) _ s s _ rfl).trans ?_
  refine (Transport.store_report (.console ⟨false, .standard, written.2.1⟩) written.2.2 written.1
    s.1 s.2).trans ?_
  rw [done]
  rfl

theorem dispatch_console :
    Manager.dispatch platform ⟨[⟨id, 0⟩]⟩
        ([stderrConsole id], ⟨h, .ready properties, .printed pieces raw⟩) =
      ⟨.returned (.ok ()), ([stderrConsole id], ⟨h, .ready properties, .printed pieces raw⟩),
        [.wrote .stderr (consoleLine platform.zone h pieces)]⟩ := by
  have sent : Manager.sendTo platform 0
      ([stderrConsole id], ⟨h, .ready properties, .printed pieces raw⟩) =
      ⟨.returned (.ok ()), ([stderrConsole id], ⟨h, .ready properties, .printed pieces raw⟩),
        [.wrote .stderr (consoleLine platform.zone h pieces)]⟩ := by
    simp only [Manager.sendTo, List.getElem?_cons_zero, send_console platform taken]
    rfl
  exact (Manager.dispatch_on_iff platform ⟨id, 0⟩ [] _ _ _ _ rfl).mpr
    ⟨.ok (), _, _, .ok (), [], sent, rfl, rfl, rfl⟩

end Console

theorem notify_nobody (registry : Nat) (level : Level) (s : Engine × Record) :
    Logger.notify noListeners registry level s = ⟨.returned (), s, []⟩ := by
  have quiet (subscribers : List Subscriber) :
      notifyAll noListeners level subscribers s = ⟨.returned (), s, []⟩ := by
    induction subscribers with
    | nil => rfl
    | cons first rest ih => exact (Act.bind_quiet _ _ s s () rfl).trans ih
  exact (Act.bind_quiet Act.get _ s s s rfl).trans (quiet _)

section Log

variable (platform : Platform) (taken : platform.refusal .stderr = none) (id label : String)
  (enabled : Bool) (threshold : Threshold) (sources : List IdSource)
  (registries : List Registry) (clock : Nat)

include taken

theorem deliver_console (registry : Nat) (level : Level) (h : Header) (properties : Properties)
    (pieces : List Piece) (raw : RawMessage) :
    let s : Engine × Record :=
      (consoleEngine platform id label enabled threshold sources registries clock,
        ⟨h, .ready properties, .printed pieces raw⟩)
    (if threshold.passes level then do
        let delivery ← Logger.deliver platform ⟨[⟨id, 0⟩]⟩
        Logger.notify noListeners registry level
        return delivery
      else do
        let delivery ← pure (.ok ())
        Logger.notify noListeners registry level
        return delivery : Act Event (Engine × Record) Delivery) s =
      ⟨.returned (.ok ()), s, if threshold.passes level then
        [.wrote .stderr (consoleLine platform.zone h pieces)] else []⟩ := by
  intro s
  have quiet (delivery : Delivery) (s : Engine × Record) :
      (do Logger.notify noListeners registry level; return delivery :
        Act Event (Engine × Record) Delivery) s = ⟨.returned delivery, s, []⟩ :=
    Act.bind_quiet _ _ s s () (notify_nobody registry level s)
  cases threshold.passes level with
  | true =>
      have dispatched := dispatch_console platform taken id h properties pieces raw
      exact Act.bind_then_quiet _ _ _ _ _ _ _ _ (Act.within_at _ _ _ _ _ _ _ dispatched) (quiet _ _)
  | false => exact Act.bind_then_quiet _ _ _ _ _ _ _ _ rfl (quiet _ _)

theorem log_console (category : List String) (registry : Nat) (level : Level) (template : String)
    (properties : Properties) :
    let e := consoleEngine platform id label enabled threshold sources registries clock
    let message := StructuredLog.render template (Properties.overlay [] properties)
    Logger.log noListeners ⟨category, 0, registry⟩ level (.text template properties) e =
      ⟨.returned (.ok ()), e, if enabled then message.2 ++ if threshold.passes level then
          [.wrote .stderr (consoleLine platform.zone ⟨level, category, label, clock⟩ message.1)]
        else [] else []⟩ := by
  intro e message
  cases enabled with
  | false => rfl
  | true =>
      have served := deliver_console platform taken id label true threshold sources registries clock
        registry level ⟨level, category, label, clock⟩ (Properties.overlay [] properties) message.1
        (.text template)
      have recorded := Act.emit_all_then message.2 _ _ _ _ _
        (Act.with_local_ran _ _ _ _ _ _ _ served)
      exact (Act.bind_quiet Act.get _ _ _ _ rfl).trans recorded

end Log

theorem new_logger_console (s : Config.Settings) (threshold : Threshold)
    (known : s.logger.threshold = .ok threshold) (alone : s.transports = [.standard])
    (ids : Nat → String) (platform : Platform) (clock : Nat) :
    ∃ id sources, s.newLogger false (.drawn ids 0) (.empty clock platform) =
      .ok (⟨s.logger.category, 0, 0⟩, consoleEngine platform id s.logger.label s.logger.enabled
        threshold sources [⟨[], 0⟩] clock) := by
  refine ⟨ids 0, [.drawn ids 1], ?_⟩
  unfold Config.Settings.newLogger
  rw [alone]
  unfold Config.Settings.options
  rw [known]
  rfl

def childSegments (category : Option String) : List String :=
  ((category.map (pieces '.')).getD []).filter fun segment => !segment.isEmpty

theorem descendants_below (category : Option String) (l : Logger) (e : Engine) :
    ∃ registry registries, descendants category l e =
      (⟨l.category ++ childSegments category, l.family, registry⟩,
        { e with registries := registries }) := by
  have segments : ((category.map (pieces '.')).getD []).filter (fun segment => !segment.isEmpty) =
      childSegments category := rfl
  unfold descendants
  rw [segments]
  induction childSegments category generalizing l e with
  | nil => exact ⟨l.registry, e.registries, by simp⟩
  | cons segment rest ih =>
      obtain ⟨registry, registries, made⟩ := ih (l.child segment e).1 (l.child segment e).2
      refine ⟨registry, registries, made.trans ?_⟩
      simp [Logger.child, Engine.addRegistry]

def overriddenSettings (env : Diagnostics.Environment) : Config.Settings :=
  (Config.applyOverrides env consoleSettings).2

def emittedRest (settings : Config.Settings) (template : String) (properties : Properties)
    (level : Level) (category : Option String) : List String :=
  settings.logger.label :: level.tag ::
    ((if settings.logger.category ++ childSegments category = [] then []
      else ["·".intercalate (settings.logger.category ++ childSegments category)])
    ++ [match parse template properties with
        | .ok elements => printText elements
        | .error _ => ""])

theorem settings_kept (env : Diagnostics.Environment) :
    (overriddenSettings env).transports = [.standard] ∧
      (overriddenSettings env).logger.label ≠ "" := by
  have started : consoleSettings.transports = [.standard] ∧ consoleSettings.logger.label ≠ "" :=
    ⟨rfl, by decide⟩
  exact Config.apply_all_keeps env _ _ (Config.overrides_keep [.standard]) consoleSettings started

theorem rendered_text (template : String) (properties : Properties) :
    joined (StructuredLog.render template properties).1 =
      match parse template properties with
      | .ok elements => printText elements
      | .error _ => "" := by
  unfold StructuredLog.render
  cases parse template properties <;> rfl

theorem console_line_parts (zone : Time.Zone) (h : Header) (pieces : List Piece)
    (label : h.label ≠ "") :
    consoleLine zone h pieces = Time.inZone zone h.timestamp ++ " " ++ " ".intercalate
      (h.label :: h.level.tag :: ((if h.category = [] then [] else ["·".intercalate h.category])
        ++ [joined pieces])) ++ "\n" := by
  have named : h.label.isEmpty = false := by simpa using label
  unfold consoleLine Console.styledLeading
  rw [named, Console.styled_message_plain]
  simp [Style.paint, String.intercalate_cons_cons, List.isEmpty_iff]

def Refused (filters : Diagnostics.FilterReader) (env : Diagnostics.Environment)
    (e : Config.Error) : Prop :=
  (Config.applyOverrides env consoleSettings).1 = some e ∨
    (Config.applyOverrides env consoleSettings).1 = none ∧
      (overriddenSettings env).validateBy (Diagnostics.Settings.checkFilterBy filters) = .error e

section Settings

variable (filters : Diagnostics.FilterReader) (s : Surroundings)

theorem emit_settings_refused (e : Config.Error) (refused : Refused filters s.env e) :
    emitSettings filters s none = .error (configChain e) := by
  unfold Refused overriddenSettings at refused
  cases applied : Config.applyOverrides s.env consoleSettings with
  | mk failed settings =>
      rw [applied] at refused
      rcases refused with failed | ⟨fine, invalid⟩
      · cases failed
        simp only [emitSettings, Config.Loaded.overridden, Config.Loaded.validated, applied]
      · cases fine
        simp only [emitSettings, Config.Loaded.overridden, Config.Loaded.validated, applied, invalid]

theorem emit_settings_sound (sound : ¬ ∃ e, Refused filters s.env e) :
    (overriddenSettings s.env).validateBy (Diagnostics.Settings.checkFilterBy filters) = .ok () ∧
      emitSettings filters s none = .ok (overriddenSettings s.env) := by
  unfold Refused overriddenSettings at *
  cases applied : Config.applyOverrides s.env consoleSettings with
  | mk failed settings =>
      rw [applied] at sound
      cases failed with
      | some e => exact absurd ⟨e, .inl rfl⟩ sound
      | none =>
          cases valid : settings.validateBy (Diagnostics.Settings.checkFilterBy filters) with
          | error e => exact absurd ⟨e, .inr ⟨rfl, valid⟩⟩ sound
          | ok done =>
              refine ⟨rfl, ?_⟩
              simp only [emitSettings, Config.Loaded.overridden, Config.Loaded.validated, applied,
                valid]

end Settings

section Quiet

variable (refusal : Stream → Option IoFault) (micros : Nat) (template : String)
  (properties : Properties)

theorem render_unwritten :
    (StructuredLog.render template properties).2.flatMap (eventWrites refusal micros none) =
      [] := by
  unfold StructuredLog.render
  cases parse template properties <;> rfl

theorem quiet_writes (d : Diagnostic) (line : String) (enabled passes : Bool) :
    (Event.diagnostic d :: if enabled then
        (StructuredLog.render template properties).2 ++ if passes then [.wrote .stderr line] else []
      else []).flatMap (eventWrites refusal micros none) =
      if enabled && passes then [⟨.stderr, line⟩] else [] := by
  have unwritten := render_unwritten refusal micros template properties
  cases enabled with
  | false => rfl
  | true =>
      change List.flatMap _ (_ ++ _) = _
      rw [List.flatMap_append, unwritten]
      cases passes with
      | false => rfl
      | true => rfl

end Quiet

section Emit

variable (o : Outside) (taken : o.refusal .stderr = none) (s : Surroundings) (template : String)
  (properties : Properties) (level : Level) (category : Option String)

def emittedLine : String :=
  Time.inZone o.zone (s.micros / 1000) ++ " " ++
    " ".intercalate (emittedRest (overriddenSettings s.env) template properties level category)
    ++ "\n"

-- What the loggers of a quiet run find around them: nobody listens to what is forwarded.
def quietPlatform : Platform := ⟨o.zone, fun l => Reporter.allows (.forwarded l) none, o.refusal⟩

theorem emit_logged (settings : Config.Settings) (root logger : Logger) (made engine after : Engine)
    (events : List Event) (settled : emitSettings o.filters s none = .ok settings)
    (new : settings.newLogger false (.drawn o.ids 0) (.empty (s.micros / 1000) (quietPlatform o)) =
      .ok (root, made))
    (below : descendants category root made = (logger, engine))
    (ran : logger.log noListeners level (.text template properties) engine =
      ⟨.returned (.ok ()), after, events⟩) :
    emit o s ⟨false, true, .never⟩ false template properties level none category =
      .ok ⟨(.diagnostic (.emitting level (logger.transports engine).size) :: events).flatMap
        (eventWrites o.refusal s.micros none), [], none⟩ := by
  unfold quietPlatform at new
  simp only [emit, settled, reporter, bind, Except.bind, if_true, new, below, ran]
  rfl

include taken in
theorem emit_sound (sound : ¬ ∃ e, Refused o.filters s.env e) (ordered : properties.Ordered) :
    ∃ threshold, (overriddenSettings s.env).logger.threshold = .ok threshold ∧
      emit o s ⟨false, true, .never⟩ false template properties level none category =
        .ok ⟨if (overriddenSettings s.env).logger.enabled && threshold.passes level then
          [⟨.stderr, emittedLine o s template properties level category⟩] else [], [], none⟩ := by
  obtain ⟨valid, settled⟩ := emit_settings_sound o.filters s sound
  obtain ⟨alone, labelled⟩ := settings_kept s.env
  obtain ⟨⟨threshold, known⟩, -⟩ := Config.valid_parts _ _ valid
  obtain ⟨id, sources, made⟩ :=
    new_logger_console (overriddenSettings s.env) threshold known alone o.ids (quietPlatform o)
      (s.micros / 1000)
  obtain ⟨registry, registries, below⟩ := descendants_below category
    ⟨(overriddenSettings s.env).logger.category, 0, 0⟩ (consoleEngine (quietPlatform o) id
      (overriddenSettings s.env).logger.label (overriddenSettings s.env).logger.enabled threshold
      sources [⟨[], 0⟩] (s.micros / 1000))
  have logged := log_console (quietPlatform o) taken id (overriddenSettings s.env).logger.label
    (overriddenSettings s.env).logger.enabled threshold sources registries (s.micros / 1000)
    ((overriddenSettings s.env).logger.category ++ childSegments category) registry level template
    properties
  have own : Properties.overlay [] properties = properties :=
    Properties.of_fields_ordered properties properties ordered (.refl _)
  have line : consoleLine o.zone ⟨level, (overriddenSettings s.env).logger.category ++
        childSegments category, (overriddenSettings s.env).logger.label, s.micros / 1000⟩
      (StructuredLog.render template properties).1 =
        emittedLine o s template properties level category := by
    rw [console_line_parts _ _ _ labelled, rendered_text]
    rfl
  rw [own] at logged
  refine ⟨threshold, known, ?_⟩
  rw [emit_logged o s template properties level category _ _ _ _ _ _ _ settled made below logged,
    quiet_writes]
  change Except.ok (Ended.mk (if _ then [⟨.stderr, consoleLine o.zone _ _⟩] else []) _ _) = _
  rw [line]

theorem perform_emit :
    perform o s ⟨⟨false, true, .never⟩, .emit template properties level none category⟩ =
      match emit o s ⟨false, true, .never⟩ false template properties level none category with
      | .ok e => e.result o.refusal false
      | .error chain => Ended.result o.refusal false ⟨[], [], some chain⟩ := rfl

include taken in
theorem perform_refused (e : Config.Error) (refused : Refused o.filters s.env e) :
    perform o s ⟨⟨false, true, .never⟩, .emit template properties level none category⟩ =
      ⟨1, [failure false (": ".intercalate (configChain e))]⟩ := by
  have stopped : emit o s ⟨false, true, .never⟩ false template properties level none category =
      .error (configChain e) := by
    unfold emit
    rw [emit_settings_refused o.filters s e refused]
    rfl
  rw [perform_emit, stopped]
  exact result_taken o.refusal taken false [] [] _ (by simp)

end Emit

-- However the arguments are written: it fails where the environment or the settings it leaves are
-- refused, and otherwise writes one line at most.
theorem emit_end_to_end (o : Outside) (taken : o.refusal .stderr = none)
    (documented : AsDocumented o.arguments) (s : Surroundings) (template : String)
    (given : List String) (fields : List (String × Json))
    (wellFormed : given.map property? = fields.map some) (level : Level)
    (category : Option String) :
    o.arguments (emitLine quietFlags given level category template) = .ok ⟨⟨false, true, .never⟩,
      .emit template (Properties.ofFields fields) level none category⟩ ∧
    (∀ key, (Properties.ofFields fields).find? key =
      (fields.reverse.find? fun f => f.1 = key).map Prod.snd) ∧
    ∀ arguments, o.arguments arguments = .ok ⟨⟨false, true, .never⟩,
        .emit template (Properties.ofFields fields) level none category⟩ →
      ((run s arguments o).code = 1 ↔ ∃ e, Refused o.filters s.env e) ∧
      (∀ e, Refused o.filters s.env e →
        run s arguments o = ⟨1, [failure false (": ".intercalate (configChain e))]⟩) ∧
      ((¬ ∃ e, Refused o.filters s.env e) → ∃ threshold,
        (overriddenSettings s.env).logger.threshold = .ok threshold ∧
        ((overriddenSettings s.env).logger.enabled = false ∨ threshold = none ∨
            (∃ least, threshold = some least ∧ level.rank < least.rank) →
          run s arguments o = ⟨0, []⟩) ∧
        ((overriddenSettings s.env).logger.enabled = true → ∀ least, threshold = some least →
          least.rank ≤ level.rank →
          run s arguments o = ⟨0, [⟨.stderr, Time.inZone o.zone (s.micros / 1000) ++ " " ++
            " ".intercalate (emittedRest (overriddenSettings s.env) template
              (Properties.ofFields fields) level category) ++ "\n"⟩]⟩)) := by
  refine ⟨documented.emits given fields level category template wellFormed,
    Properties.find_of_fields fields, ?_⟩
  intro arguments accepted
  rw [run_read o s arguments _ accepted]
  have refused (e : Config.Error) (refused : Refused o.filters s.env e) :=
    perform_refused o taken s template (Properties.ofFields fields) level category e refused
  by_cases sound : ∃ e, Refused o.filters s.env e
  · obtain ⟨e, why⟩ := sound
    refine ⟨⟨fun _ => ⟨e, why⟩, fun _ => ?_⟩, refused, fun none => absurd ⟨e, why⟩ none⟩
    rw [refused e why]
  · obtain ⟨threshold, known, ran⟩ := emit_sound o taken s template (Properties.ofFields fields)
      level category sound (Properties.overlay_ordered [] fields .nil)
    have done := perform_emit o s template (Properties.ofFields fields) level category
    rw [ran] at done
    dsimp only at done
    rw [result_taken o.refusal taken _ _ _ _ (by simp)] at done
    refine ⟨⟨fun failed => ?_, fun why => absurd why sound⟩, refused,
      fun _ => ⟨threshold, known, ?_, ?_⟩⟩
    · rw [done] at failed
      cases failed
    · intro silent
      have unheard :
          ((overriddenSettings s.env).logger.enabled && threshold.passes level) = false := by
        rcases silent with off | rfl | ⟨least, rfl, below⟩
        · rw [off, Bool.false_and]
        · exact Bool.and_false _
        · simp [Threshold.passes, below]
      rw [done, unheard]
      rfl
    · intro enabled least bound passes
      have heard :
          ((overriddenSettings s.env).logger.enabled && threshold.passes level) = true := by
        simp [enabled, bound, Threshold.passes, passes]
      rw [done, heard]
      rfl

def labelledSurroundings : Surroundings :=
  ⟨fun name => if name = "QUILL_PREFIX" then some "app"
    else if name = "QUILL_CATEGORY" then some "web. api" else none, fun _ => .missing, 3723004000⟩

theorem emit_end_to_end_labelled :
    ["n=1", "n=-2"].map property? = [("n", .int 1), ("n", .int (-2))].map some ∧
      AsDocumented readArguments ∧
      (¬ ∃ e, Refused Diagnostics.Filter.read labelledSurroundings.env e) ∧
      run labelledSurroundings
          (emitLine quietFlags ["n=1", "n=-2"] .warn (some ".db..x") "-{n} it's '{x}'") =
        ⟨0, [⟨.stderr, "01:02:03.004 app WRN web·api·db·x --2 it's '{x}'\n"⟩]⟩ := by
  have wellFormed :
      ["n=1", "n=-2"].map property? = [("n", .int 1), ("n", .int (-2))].map some := rfl
  have sound : ¬ ∃ e, Refused Diagnostics.Filter.read labelledSurroundings.env e := by
    rintro ⟨e, failed | ⟨-, invalid⟩⟩
    · cases failed
    · cases invalid
  obtain ⟨reads, -, ran⟩ := emit_end_to_end .standard rfl read_arguments_documented
    labelledSurroundings "-{n} it's '{x}'" _ _ wellFormed .warn (some ".db..x")
  obtain ⟨-, -, heard⟩ := ran _ reads
  obtain ⟨threshold, known, -, written⟩ := heard sound
  have debug : threshold = some .debug := (Except.ok.inj known).symm
  refine ⟨wellFormed, read_arguments_documented, sound,
    (written rfl .debug debug (by decide)).trans ?_⟩
  decide +kernel

end StructuredLog.CommandLine
