import StructuredLog.Proofs.CommandLine.Reading

set_option autoImplicit false

namespace StructuredLog.CommandLine

def attachedTo (v : Valued) (text : String) : String := v.name ++ "=" ++ text

def emitLine (flags : List GlobalFlag) (given : List String) (level : Level)
    (category : Option String) (template : String) : List String :=
  commandLine flags .emit (given.map (attachedTo .property)
    ++ attachedTo .level level.name :: (category.map (attachedTo .category)).toList
    ++ ["--", template])

def quietFlags : List GlobalFlag := [.quiet, .color "never"]

theorem read_long_attached (command : Option CommandName) (argument : String) (v : Valued)
    (name value : List Char) (plain : ∀ c ∈ name, (c != '=') = true)
    (known : ofLong? (String.ofList name) = some (.valued v))
    (taken : takes command (.valued v) = true) :
    readLong command argument (name ++ '=' :: value) = ([.valued v (String.ofList value)], none) := by
  have first : (name ++ '=' :: value).takeWhile (· != '=') = name := by
    rw [List.takeWhile_append_of_pos plain]
    simp
  have rest : (name ++ '=' :: value).dropWhile (· != '=') = '=' :: value := by
    rw [List.dropWhile_append_of_pos plain]
    simp
  unfold readLong
  dsimp only
  rw [first, rest, known]
  simp [attached, Option.filter, taken]

theorem valued_name (v : Valued) : ∃ name, v.name.toList = '-' :: '-' :: name ∧
    (∀ c ∈ name, (c != '=') = true) ∧ ofLong? (String.ofList name) = some (.valued v) := by
  cases v
  · exact ⟨['c', 'o', 'l', 'o', 'r'], rfl, by simp, rfl⟩
  · exact ⟨['p', 'r', 'o', 'p', 'e', 'r', 't', 'y'], rfl, by simp, rfl⟩
  · exact ⟨['l', 'e', 'v', 'e', 'l'], rfl, by simp, rfl⟩
  · exact ⟨['c', 'o', 'n', 'f', 'i', 'g'], rfl, by simp, rfl⟩
  · exact ⟨['c', 'a', 't', 'e', 'g', 'o', 'r', 'y'], rfl, by simp, rfl⟩

theorem items_attached (command : Option CommandName) (v : Valued) (text : String)
    (rest : List String) (taken : takes command (.valued v) = true) :
    items command (attachedTo v text :: rest) = .valued v text :: items command rest := by
  obtain ⟨name, spelled, plain, known⟩ := valued_name v
  have letters : (attachedTo v text).toList = '-' :: '-' :: (name ++ '=' :: text.toList) := by
    simp [attachedTo, spelled]
  have option : isOption (attachedTo v text) = true := by
    unfold isOption
    rw [letters]
    rfl
  have notEnd : attachedTo v text ≠ "--" := by
    intro same
    rw [same] at letters
    simp at letters
  have read : readOption command (attachedTo v text) = ([.valued v text], none) := by
    unfold readOption
    rw [letters]
    change readLong command _ (name ++ '=' :: text.toList) = _
    rw [read_long_attached command _ v name text.toList plain known taken, String.ofList_toList]
  rw [items_option _ _ _ option notEnd, read]
  rfl

theorem collect_valued (command : Option CommandName) (c next : Collected) (v : Valued)
    (text : String) (rest : List Item) (set : c.setValue text v = .ok next) :
    collect command c (.valued v text :: rest) = collect command next rest := by
  rw [collect, set]
  rfl

theorem collect_attached (given : List String) (fields : List (String × Json))
    (wellFormed : given.map property? = fields.map some) (c : Collected) (rest : List String) :
    collect (some .emit) c (items (some .emit) (given.map (attachedTo .property) ++ rest)) =
      collect (some .emit) { c with properties := c.properties ++ fields }
        (items (some .emit) rest) := by
  induction given generalizing fields c with
  | nil =>
      cases fields with
      | nil => simp
      | cons _ _ => cases wellFormed
  | cons text given ih =>
      cases fields with
      | nil => cases wellFormed
      | cons field fields =>
          obtain ⟨read, others⟩ := List.cons.inj wellFormed
          have set : c.setValue text .property =
              .ok { c with properties := c.properties ++ [field] } := by
            rw [Collected.setValue, read]
          rw [List.map_cons, List.cons_append, items_attached _ _ _ _ rfl,
            collect_valued _ _ _ _ _ _ set, ih fields others, List.append_assoc]
          rfl

theorem level_of_own_name (level : Level) : Level.parse? level.name = some level := by
  cases level <;> decide

theorem collect_emit (given : List String) (fields : List (String × Json))
    (wellFormed : given.map property? = fields.map some) (level : Level)
    (category : Option String) (template : String) :
    collect (some .emit) .nothing (items (some .emit) (given.map (attachedTo .property)
        ++ attachedTo .level level.name :: (category.map (attachedTo .category)).toList
        ++ ["--", template])) =
      .ok (⟨false, false, false, none, fields, some level, none, category, some template⟩, none) := by
  have set (c : Collected) (unset : c.level = none) :
      c.setValue level.name .level = .ok { c with level := some level } := by
    simp only [Collected.setValue, level_of_own_name, once, unset]
    rfl
  rw [List.append_assoc, collect_attached given fields wellFormed, List.cons_append,
    items_attached _ _ _ _ rfl, collect_valued _ _ _ _ _ _ (set _ rfl)]
  cases category with
  | none => rfl
  | some category =>
      rw [Option.map_some, Option.toList_some, List.singleton_append, items_attached _ _ _ _ rfl]
      rfl

theorem read_quiet (rest : List String) :
    read (commandLine quietFlags .emit rest) =
      invocation { Collected.nothing with quiet := true, color := some .never } .emit rest := by
  have words : items none (commandLine quietFlags .emit rest) =
      [.flag .quiet, .valued .color "never", .command "emit" rest] := by
    change items none ("--quiet" :: "--color" :: "never" :: CommandName.emit.text :: rest) = _
    rw [items_flag none _ _ .quiet (by decide) (by decide) rfl,
      items_waiting none _ _ "never" .color (by decide) (by decide) rfl, items_command]
    rfl
  unfold read
  rw [words]
  rfl

theorem emit_line_read (given : List String) (fields : List (String × Json))
    (wellFormed : given.map property? = fields.map some) (level : Level)
    (category : Option String) (template : String) :
    read (emitLine quietFlags given level category template) = .ok ⟨⟨false, true, .never⟩,
      .emit template (Properties.ofFields fields) level none category⟩ := by
  rw [emitLine, read_quiet]
  unfold invocation
  rw [collect_emit given fields wellFormed]
  rfl

-- What is documented of a reader of arguments: the values of `-p` are read one by one, what stands
-- before a command means the same for all of them, and a line in full is what it says.
structure AsDocumented (arguments : List String → Except Result Invocation) : Prop where
  properties : ∀ flags template given i, arguments (renderLine flags template given) = .ok i →
    ∃ g fields, given.map property? = fields.map some ∧
      i = ⟨g, .render template (Properties.ofFields fields) false⟩
  globals : ∀ flags template given g command,
    arguments (renderLine flags template given) = .ok ⟨g, command⟩ →
      arguments (checkLine flags template) = .ok ⟨g, .check template⟩
  emits : ∀ given fields level category template, given.map property? = fields.map some →
    arguments (emitLine quietFlags given level category template) = .ok ⟨⟨false, true, .never⟩,
      .emit template (Properties.ofFields fields) level none category⟩

theorem read_arguments_documented : AsDocumented readArguments where
  properties := by
    intro flags template given i accepted
    obtain ⟨g, fields, same, made, -⟩ := render_line_accepted flags template given i
      ((read_arguments_ok_iff _ _).mp accepted)
    exact ⟨g, fields, same, made⟩
  globals := by
    intro flags template given g command accepted
    obtain ⟨g', fields, -, made, checks⟩ := render_line_accepted flags template given _
      ((read_arguments_ok_iff _ _).mp accepted)
    cases made
    exact (read_arguments_ok_iff _ _).mpr checks
  emits := fun given fields level category template wellFormed =>
    (read_arguments_ok_iff _ _).mpr
      (emit_line_read given fields wellFormed level category template)

end StructuredLog.CommandLine
