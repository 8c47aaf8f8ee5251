import StructuredLog.CommandLine.Run

set_option autoImplicit false

namespace StructuredLog.CommandLine

inductive GlobalFlag where
  | verbose
  | quiet
  | color (choice : String)

def GlobalFlag.words : GlobalFlag → List String
  | .verbose => ["--verbose"]
  | .quiet => ["--quiet"]
  | .color choice => ["--color", choice]

def commandLine (flags : List GlobalFlag) (name : CommandName) (rest : List String) : List String :=
  flags.flatMap GlobalFlag.words ++ name.text :: rest

def propertyWords (given : List String) : List String := given.flatMap fun text => ["-p", text]

def checkLine (flags : List GlobalFlag) (template : String) : List String :=
  commandLine flags .check [template]

def renderLine (flags : List GlobalFlag) (template : String) (given : List String) : List String :=
  commandLine flags .render (template :: propertyWords given)

def Item.isPositional : Item → Bool
  | .positional _ => true
  | _ => false

theorem bind_ok {ε α β : Type} (x : Except ε α) (f : α → Except ε β) (b : β)
    (ok : (x >>= f) = .ok b) : ∃ a, x = .ok a ∧ f a = .ok b := by
  cases x with
  | error e => cases ok
  | ok a => exact ⟨a, rfl, ok⟩

theorem run_read (o : Outside) (s : Surroundings) (arguments : List String) (i : Invocation)
    (accepted : o.arguments arguments = .ok i) : run s arguments o = perform o s i := by
  unfold run
  rw [accepted]

theorem printed_taken (refusal : Stream → Option IoFault) (code : Nat) (writes : List Write)
    (taken : ∀ w ∈ writes, refusal w.stream = none) :
    printed refusal code writes = ⟨code, writes⟩ := by
  induction writes with
  | nil => rfl
  | cons w rest ih =>
      obtain ⟨first, later⟩ := List.forall_mem_cons.mp taken
      rw [printed, first, ih later]
      rfl

theorem result_taken (refusal : Stream → Option IoFault) (taken : refusal .stderr = none)
    (colors : Bool) (done prints : List Write) (error : Option (List String))
    (others : ∀ w ∈ prints, refusal w.stream = none) :
    Ended.result refusal colors ⟨done, prints, error⟩ =
      match error with
      | none => ⟨0, done ++ prints⟩
      | some chain => ⟨1, done ++ (prints ++ [failure colors (": ".intercalate chain)])⟩ := by
  unfold Ended.result
  cases error with
  | none => rw [printed_taken refusal 0 prints others]
  | some chain =>
      dsimp only
      rw [printed_taken refusal 1]
      intro w member
      rcases List.mem_append.mp member with before | last
      · exact others w before
      · rw [List.mem_singleton.mp last]
        exact taken

theorem read_arguments_ok_iff (arguments : List String) (i : Invocation) :
    readArguments arguments = .ok i ↔ read arguments = .ok i := by
  cases arguments with
  | nil => exact ⟨nofun, nofun⟩
  | cons first rest =>
      change (read (first :: rest)).mapError Stop.result = .ok i ↔ _
      cases read (first :: rest) with
      | error stop => exact ⟨nofun, nofun⟩
      | ok other =>
          constructor
          all_goals
            intro ok
            cases ok
            rfl

section Items

variable (command : Option CommandName) (argument : String) (rest : List String)

theorem items_command (name : CommandName) :
    items none (name.text :: rest) = [.command name.text rest] := by
  cases name <;> rw [items] <;> rfl

theorem items_option (option : isOption argument = true) (notEnd : argument ≠ "--") :
    items command (argument :: rest) =
      match readOption command argument, rest with
      | (read, none), rest => read ++ items command rest
      | (read, some v), [] => read ++ [.fault (.missingValue v.name)]
      | (read, some v), value :: rest =>
          if isOption value then read ++ [.fault (.missingValue v.name)]
          else read ++ .valued v value :: items command rest := by
  rw [items, if_neg notEnd, if_pos option]
  cases readOption command argument with
  | mk read waiting => cases waiting <;> cases rest <;> rfl

theorem items_flag (f : Flag) (option : isOption argument = true) (notEnd : argument ≠ "--")
    (read : readOption command argument = ([.flag f], none)) :
    items command (argument :: rest) = .flag f :: items command rest := by
  rw [items_option command argument rest option notEnd, read]
  rfl

theorem items_waiting (value : String) (v : Valued) (option : isOption argument = true)
    (notEnd : argument ≠ "--") (read : readOption command argument = ([], some v)) :
    items command (argument :: value :: rest) =
      if isOption value then [.fault (.missingValue v.name)]
      else .valued v value :: items command rest := by
  rw [items_option command argument _ option notEnd, read]
  rfl

theorem items_word (name : CommandName) (word : isOption argument = false) :
    items (some name) (argument :: rest) = .positional argument :: items (some name) rest := by
  have notEnd : argument ≠ "--" := by
    intro same
    subst same
    exact absurd word (by decide)
  rw [items, if_neg notEnd, word]
  rfl

end Items

-- The words before a command stop the reading of every line, or of none.
theorem collect_flags (flags : List GlobalFlag) (c : Collected) :
    (∃ stop, ∀ name rest, collect none c (items none (commandLine flags name rest)) = .error stop) ∨
      ∃ before, ∀ name rest, collect none c (items none (commandLine flags name rest)) =
        .ok (before, some (name.text, rest)) := by
  induction flags generalizing c with
  | nil =>
      refine .inr ⟨c, ?_⟩
      intro name rest
      change collect none c (items none (name.text :: rest)) = _
      rw [items_command]
      rfl
  | cons flag flags ih =>
      -- Each word either ends the reading itself or leaves the others to be read after it.
      have step (read : Except Stop Collected) (item : Item)
          (shown : ∀ more, collect none c (item :: more) = do collect none (← read) more)
          (seen : ∀ name rest, items none (commandLine (flag :: flags) name rest) =
            item :: items none (commandLine flags name rest)) :
          (∃ stop, ∀ name rest, collect none c
            (items none (commandLine (flag :: flags) name rest)) = .error stop) ∨
          ∃ before, ∀ name rest, collect none c
            (items none (commandLine (flag :: flags) name rest)) =
              .ok (before, some (name.text, rest)) := by
        cases read with
        | error stop =>
            refine .inl ⟨stop, ?_⟩
            intro name rest
            rw [seen, shown]
            rfl
        | ok next =>
            have later := ih next
            simp only [seen, shown]
            exact later
      cases flag with
      | verbose =>
          refine step (c.setFlag .verbose) (.flag .verbose) (fun _ => rfl) ?_
          intro name rest
          exact items_flag none _ _ .verbose (by decide) (by decide) rfl
      | quiet =>
          refine step (c.setFlag .quiet) (.flag .quiet) (fun _ => rfl) ?_
          intro name rest
          exact items_flag none _ _ .quiet (by decide) (by decide) rfl
      | color choice =>
          have seen (name : CommandName) (rest : List String) :
              items none (commandLine (.color choice :: flags) name rest) =
                if isOption choice then [.fault (.missingValue Valued.color.name)]
                else .valued .color choice :: items none (commandLine flags name rest) :=
            items_waiting none _ _ choice .color (by decide) (by decide) rfl
          cases option : isOption choice with
          | true =>
              refine .inl ⟨.usage (.missingValue Valued.color.name), ?_⟩
              intro name rest
              rw [seen, if_pos option]
              rfl
          | false =>
              refine step (c.setValue choice .color) (.valued .color choice) (fun _ => rfl) ?_
              intro name rest
              rw [seen, option]
              rfl

theorem no_positional_long (command : Option CommandName) (argument : String) (cs : List Char) :
    ∀ item ∈ (readLong command argument cs).1, item.isPositional = false := by
  unfold readLong
  dsimp only
  split <;> simp [Item.isPositional]

theorem no_positional_short (command : Option CommandName) (argument : String) (cs : List Char) :
    ∀ item ∈ (readShort command argument cs).1, item.isPositional = false := by
  induction cs with
  | nil => simp [readShort]
  | cons c rest ih =>
      unfold readShort
      split
      · simpa [Item.isPositional] using ih
      · simp [Item.isPositional]
      · simp [Item.isPositional]
      · split <;> simp [Item.isPositional]
      · simp [Item.isPositional]

theorem no_positional_option (command : Option CommandName) (argument : String)
    (option : isOption argument = true) :
    ∀ item ∈ (readOption command argument).1, item.isPositional = false := by
  unfold readOption
  split
  · exact no_positional_long command argument _
  · exact no_positional_short command argument _
  · rename_i notLong notShort
    unfold isOption at option
    split at option
    · rename_i c cs same
      exact absurd same (notShort _)
    · cases option

theorem set_flag_positional (c c' : Collected) (f : Flag) (ok : c.setFlag f = .ok c') :
    c'.positional = c.positional := by
  cases f <;> (obtain ⟨given, -, made⟩ := bind_ok _ _ _ ok; cases made; rfl)

theorem set_value_positional (c c' : Collected) (text : String) (v : Valued)
    (ok : c.setValue text v = .ok c') : c'.positional = c.positional := by
  cases v with
  | property =>
      rw [Collected.setValue] at ok
      cases read : property? text with
      | none =>
          rw [read] at ok
          cases ok
      | some p =>
          rw [read] at ok
          cases ok
          rfl
  | color | level | config | category =>
      obtain ⟨given, -, made⟩ := bind_ok _ _ _ ok
      cases made
      rfl

theorem collect_positional (name : CommandName) (given : List Item) (c c' : Collected)
    (found : Option (String × List String)) (none : ∀ item ∈ given, item.isPositional = false)
    (ok : collect (some name) c given = .ok (c', found)) : c'.positional = c.positional := by
  induction given generalizing c with
  | nil =>
      cases ok
      rfl
  | cons item rest ih =>
      have later : ∀ item ∈ rest, item.isPositional = false := fun other member =>
        none other (List.mem_cons_of_mem item member)
      cases item with
      | flag f =>
          obtain ⟨next, set, read⟩ := bind_ok _ _ _ ok
          rw [ih next later read, set_flag_positional c next f set]
      | valued v text =>
          obtain ⟨next, set, read⟩ := bind_ok _ _ _ ok
          rw [ih next later read, set_value_positional c next text v set]
      | help => cases ok
      | version => cases ok
      | positional text => exact nomatch none _ List.mem_cons_self
      | command word words =>
          cases ok
          rfl
      | fault e => cases ok

theorem items_property (text : String) (given : List String) :
    items (some .render) (propertyWords (text :: given)) =
      if isOption text then [.fault (.missingValue Valued.property.name)]
      else .valued .property text :: items (some .render) (propertyWords given) :=
  items_waiting (some .render) _ _ text .property (by decide) (by decide) rfl

theorem property_words_unplaced (given : List String) :
    ∀ item ∈ items (some .render) (propertyWords given), item.isPositional = false := by
  induction given with
  | nil => simp [propertyWords, items]
  | cons text given ih =>
      rw [items_property]
      by_cases option : isOption text = true
      · simp [option, Item.isPositional]
      · simpa [option, Item.isPositional] using ih

theorem collect_properties (given : List String) (c c' : Collected)
    (found : Option (String × List String))
    (ok : collect (some .render) c (items (some .render) (propertyWords given)) = .ok (c', found)) :
    ∃ fields, given.map property? = fields.map some ∧
      c' = { c with properties := c.properties ++ fields } := by
  induction given generalizing c with
  | nil =>
      simp only [propertyWords, List.flatMap_nil, items] at ok
      cases ok
      exact ⟨[], rfl, by rw [List.append_nil]⟩
  | cons text given ih =>
      rw [items_property] at ok
      by_cases option : isOption text = true
      · rw [if_pos option] at ok
        cases ok
      · rw [if_neg option] at ok
        obtain ⟨next, set, read⟩ := bind_ok _ _ _ ok
        rw [Collected.setValue] at set
        cases field : property? text with
        | none =>
            rw [field] at set
            cases set
        | some p =>
            rw [field] at set
            cases set
            obtain ⟨fields, same, rfl⟩ := ih _ read
            exact ⟨p :: fields, by simp [field, same], by simp⟩

theorem template_word (template : String) (given : List String) (after : Collected)
    (found : Option (String × List String)) (named : after.positional ≠ none)
    (ok : collect (some .render) .nothing
      (items (some .render) (template :: propertyWords given)) = .ok (after, found)) :
    isOption template = false := by
  cases option : isOption template with
  | false => rfl
  | true =>
      exfalso
      by_cases ending : template = "--"
      · rw [items, if_pos ending] at ok
        cases given with
        | nil =>
            cases ok
            exact named rfl
        | cons text given => cases ok
      · have unplaced := no_positional_option (some .render) template option
        refine named (collect_positional .render _ .nothing after found ?_ ok)
        rw [items_option _ _ _ option ending]
        cases read : readOption (some .render) template with
        | mk early waiting =>
            rw [read] at unplaced
            cases waiting with
            | none =>
                intro item member
                rcases List.mem_append.mp member with first | later
                · exact unplaced item first
                · exact property_words_unplaced given item later
            | some v =>
                -- What follows the template is nothing or `-p`, and neither is a value.
                have fault : ∀ item ∈ early ++ [.fault (.missingValue v.name)],
                    item.isPositional = false := by
                  intro item member
                  rcases List.mem_append.mp member with first | last
                  · exact unplaced item first
                  · rw [List.mem_singleton.mp last]
                    rfl
                cases given with
                | nil => exact fault
                | cons text given => exact fault

theorem read_line (flags : List GlobalFlag) :
    (∃ stop, ∀ name rest, read (commandLine flags name rest) = .error stop) ∨
      ∃ before, ∀ name rest, read (commandLine flags name rest) = invocation before name rest := by
  rcases collect_flags flags .nothing with ⟨stop, refused⟩ | ⟨before, collected⟩
  · refine .inl ⟨stop, ?_⟩
    intro name rest
    rw [read, refused]
    rfl
  · refine .inr ⟨before, ?_⟩
    intro name rest
    rw [read, collected]
    cases name <;> rfl

def Collected.globals (c : Collected) : Globals := ⟨c.verbose, c.quiet, c.color.getD .auto⟩

theorem check_invocation (before : Collected) (template : String)
    (word : isOption template = false) (sound : before.checked = .ok ()) :
    invocation before .check [template] = .ok ⟨before.globals, .check template⟩ := by
  have words : items (some .check) [template] = [.positional template] :=
    items_word template [] .check word
  unfold invocation
  rw [words]
  change (do before.checked; _) = _
  rw [sound]
  change Except.ok _ = _
  simp [Collected.globals, Collected.nothing]

theorem render_invocation (before : Collected) (template : String) (given : List String)
    (i : Invocation)
    (ok : invocation before .render (template :: propertyWords given) = .ok i) :
    isOption template = false ∧ before.checked = .ok () ∧
      ∃ fields, given.map property? = fields.map some ∧
        i = ⟨before.globals, .render template (Properties.ofFields fields) false⟩ := by
  obtain ⟨⟨after, found⟩, collected, rest⟩ := bind_ok _ _ _ ok
  obtain ⟨-, -, named⟩ := bind_ok _ _ _ rest
  obtain ⟨command, made, last⟩ := bind_ok _ _ _ named
  obtain ⟨⟨⟩, sound, done⟩ := bind_ok _ _ _ last
  obtain ⟨word, placed, -⟩ := bind_ok _ _ _ made
  have some : after.positional ≠ none := by
    intro none
    rw [Collected.template, none] at placed
    cases placed
  have plain := template_word template given after found some collected
  refine ⟨plain, sound, ?_⟩
  rw [items_word _ _ .render plain] at collected
  obtain ⟨fields, same, rfl⟩ := collect_properties given _ after found collected
  refine ⟨fields, same, ?_⟩
  cases made
  cases done
  simp [Collected.globals, Collected.nothing]

-- Whatever `render` accepts with properties, `check` accepts without them.
theorem render_line_accepted (flags : List GlobalFlag) (template : String) (given : List String)
    (i : Invocation) (accepted : read (renderLine flags template given) = .ok i) :
    ∃ g fields, given.map property? = fields.map some ∧
      i = ⟨g, .render template (Properties.ofFields fields) false⟩ ∧
      read (checkLine flags template) = .ok ⟨g, .check template⟩ := by
  rcases read_line flags with ⟨stop, refused⟩ | ⟨before, invoked⟩
  · rw [renderLine, refused] at accepted
    cases accepted
  · rw [renderLine, invoked] at accepted
    obtain ⟨word, sound, fields, same, rfl⟩ := render_invocation before template given i accepted
    refine ⟨before.globals, fields, same, rfl, ?_⟩
    rw [checkLine, invoked, check_invocation before template word sound]

end StructuredLog.CommandLine
