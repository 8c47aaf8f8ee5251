import Mathlib.Logic.Function.Basic
import StructuredLog.Proofs.Config.Overrides
import StructuredLog.Proofs.Text.Blank

set_option autoImplicit false

namespace StructuredLog.Config

open Text

inductive Variable where
  | level
  | label
  | enabled
  | category
  | format
  | filter
deriving DecidableEq, Repr

namespace Variable

def all : List Variable := [.level, .label, .enabled, .category, .format, .filter]

def override : Variable → Override
  | .level => overrideLevel
  | .label => overrideLabel
  | .enabled => overrideEnabled
  | .category => overrideCategory
  | .format => overrideFormat
  | .filter => overrideFilter

def name : Variable → String
  | .level => "QUILL_LOG_LEVEL"
  | .label => "QUILL_PREFIX"
  | .enabled => "QUILL_ENABLED"
  | .category => "QUILL_CATEGORY"
  | .format => "QUILL_DIAGNOSTICS_FORMAT"
  | .filter => "QUILL_DIAGNOSTICS_FILTER"

def checked : List Variable := [.level, .enabled, .format]

def earlier (x : Variable) : List Variable := all.takeWhile (· ≠ x)

theorem mem_all (x : Variable) : x ∈ all := by
  cases x <;> decide

theorem earlier_of_split (ahead behind : List Variable) (x : Variable)
    (split : all = ahead ++ x :: behind) : ahead = x.earlier := by
  have once : all.Nodup := by decide
  rw [split, List.nodup_append] at once
  have apart : ∀ y ∈ ahead, decide (y ≠ x) = true := fun y member =>
    decide_eq_true (once.2.2 y member x List.mem_cons_self)
  rw [earlier, split, List.takeWhile_append_of_pos apart]
  simp

end Variable

def word (text : String) : String := asciiLower (trimmed text)

def thresholdWords : Threshold → List String
  | none => ["off", "none"]
  | some .trace => ["trace"]
  | some .debug => ["debug"]
  | some .info => ["info"]
  | some .warn => ["warn", "warning"]
  | some .error => ["error"]
  | some .fatal => ["fatal"]

def flagWords : Bool → List String
  | true => ["true", "1", "yes", "on"]
  | false => ["false", "0", "no", "off"]

def formatWords : Diagnostics.Format → List String
  | .pretty => ["pretty"]
  | .compact => ["compact"]
  | .json => ["json"]

def segments (text : String) : List String :=
  ((text.toList.splitOn '.').map fun piece => String.ofList (trim piece)).filter (· ≠ "")

def Variable.Valid (text : String) : Variable → Prop
  | .level => ∃ threshold, word text ∈ thresholdWords threshold
  | .enabled => ∃ flag, word text ∈ flagWords flag
  | .format => ∃ format, word text ∈ formatWords format
  | .label | .category | .filter => True

inductive Refused (text : String) : Variable → Error → Prop where
  | level : Refused text .level (.badVariable "QUILL_LOG_LEVEL" text
      ("unknown log level '" ++ text
        ++ "' (expected trace, debug, info, warn, error, fatal or off)"))
  | enabled : Refused text .enabled (.badVariable "QUILL_ENABLED" text
      "expected boolean (true/false, yes/no, 1/0, on/off)")
  | format : Refused text .format (.badVariable "QUILL_DIAGNOSTICS_FORMAT" text
      "expected pretty, compact or json")

def Carries {α : Type} (value : Option String) (asks : String → α → Prop) (before after : α) :
    Prop :=
  match value with
  | none => after = before
  | some text => asks text after

-- Each field as the value of its variable asks, and everything no variable speaks of untouched.
structure Overridden (values : Variable → Option String) (s t : Settings) : Prop where
  level : Carries (values .level) (fun text level => level = trimmed text)
    s.logger.lowestLevel t.logger.lowestLevel
  label : Carries (values .label) (fun text label => label = text) s.logger.label t.logger.label
  enabled : Carries (values .enabled) (fun text flag => word text ∈ flagWords flag)
    s.logger.enabled t.logger.enabled
  category : Carries (values .category) (fun text category => category = segments text)
    s.logger.category t.logger.category
  format : Carries (values .format) (fun text format => word text ∈ formatWords format)
    s.diagnostics.format t.diagnostics.format
  filter : Carries (values .filter) (fun text filter => filter = some text)
    s.diagnostics.filter t.diagnostics.filter
  transports : t.transports = s.transports
  ansi : t.diagnostics.ansi = s.diagnostics.ansi
  timestamps : t.diagnostics.timestamps = s.diagnostics.timestamps
  targets : t.diagnostics.targets = s.diagnostics.targets
  output : t.diagnostics.output = s.diagnostics.output

def valuesOf (env : Diagnostics.Environment) (xs : List Variable) (x : Variable) : Option String :=
  if x ∈ xs then effective env x.name else none

def Sound (env : Diagnostics.Environment) (xs : List Variable) : Prop :=
  ∀ x ∈ xs, ∀ text, effective env x.name = some text → x.Valid text

@[simp] theorem carries_none {α : Type} (asks : String → α → Prop) (before after : α) :
    Carries none asks before after ↔ after = before := Iff.rfl

@[simp] theorem carries_some {α : Type} (text : String) (asks : String → α → Prop)
    (before after : α) : Carries (some text) asks before after ↔ asks text after := Iff.rfl

theorem override_name (x : Variable) : x.override.name = x.name := by
  cases x <;> rfl

theorem threshold_read_iff (text : String) (threshold : Threshold) :
    Threshold.parse? text = some threshold ↔ word text ∈ thresholdWords threshold := by
  unfold Threshold.parse? Level.parse? word
  dsimp only
  generalize asciiLower (trimmed text) = w
  constructor
  · intro read
    split at read
    · next off =>
        cases read
        simpa only [thresholdWords, List.mem_cons, List.not_mem_nil, or_false] using off
    · obtain ⟨level, named, rfl⟩ := Option.map_eq_some_iff.mp read
      split at named
      · next warning =>
          cases named
          exact List.mem_cons_of_mem _ (List.mem_singleton.mpr warning)
      · unfold Level.ofName? at named
        obtain rfl : level.name = w := by simpa only [beq_iff_eq] using List.find?_some named
        cases level <;> decide
  · intro known
    cases threshold with
    | none =>
        simp only [thresholdWords, List.mem_cons, List.not_mem_nil, or_false] at known
        rw [if_pos known]
    | some level =>
        cases level <;>
          simp only [thresholdWords, List.mem_cons, List.not_mem_nil, or_false] at known
        case warn => rcases known with rfl | rfl <;> rfl
        all_goals
          subst known
          rfl

theorem flag_read_iff (text : String) (flag : Bool) :
    parseFlag text = some flag ↔ word text ∈ flagWords flag := by
  unfold parseFlag word
  dsimp only
  generalize asciiLower (trimmed text) = w
  constructor
  · intro read
    split at read
    · next yes =>
        cases read
        exact List.contains_iff_mem.mp yes
    · split at read
      · next no =>
          cases read
          exact List.contains_iff_mem.mp no
      · cases read
  · intro known
    cases flag
    all_goals
      simp only [flagWords, List.mem_cons, List.not_mem_nil, or_false] at known
      rcases known with rfl | rfl | rfl | rfl <;> rfl

theorem format_read_iff (text : String) (format : Diagnostics.Format) :
    Diagnostics.Format.parse text = .ok format ↔ word text ∈ formatWords format := by
  unfold Diagnostics.Format.parse word
  generalize asciiLower (trimmed text) = w
  constructor
  · intro read
    split at read
    · next found named =>
        cases read
        unfold Diagnostics.Format.ofName? at named
        obtain rfl : format.name = w := by simpa only [beq_iff_eq] using List.find?_some named
        cases format <;> decide
    · cases read
  · intro known
    cases format
    all_goals
      simp only [formatWords, List.mem_singleton] at known
      subst known
      rfl

theorem segments_read (text : String) : categorySegments text = segments text := by
  simp only [categorySegments, segments, pieces, split_on_cut, List.map_map]
  have trims : trimmed ∘ String.ofList = fun piece => String.ofList (trim piece) :=
    funext fun piece => by simp only [Function.comp, trimmed, String.toList_ofList]
  rw [trims]
  refine List.filter_congr fun segment _ => ?_
  rw [Bool.eq_iff_iff, Bool.not_eq_true', decide_eq_true_iff, ← Bool.not_eq_true,
    String.isEmpty_iff]

theorem values_of_concat (env : Diagnostics.Environment) (xs : List Variable) (x : Variable) :
    valuesOf env (xs ++ [x]) = Function.update (valuesOf env xs) x (effective env x.name) := by
  funext y
  by_cases same : y = x
  · subst same
    simp [valuesOf]
  · simp [valuesOf, same]

theorem values_of_all (env : Diagnostics.Environment) (x : Variable) :
    valuesOf env Variable.all x = effective env x.name := if_pos x.mem_all

theorem values_of_blank (env : Diagnostics.Environment) (xs : List Variable) (x : Variable)
    (blank : effective env x.name = none) : valuesOf env (xs ++ [x]) = valuesOf env xs := by
  have unset : valuesOf env xs x = none := by simp [valuesOf, blank]
  rw [values_of_concat, blank, ← unset, Function.update_eq_self]

theorem overridden_none (s : Settings) (env : Diagnostics.Environment) :
    Overridden (valuesOf env []) s s :=
  ⟨rfl, rfl, rfl, rfl, rfl, rfl, rfl, rfl, rfl, rfl, rfl⟩

theorem override_valid (x : Variable) (text : String) (valid : x.Valid text)
    (values : Variable → Option String) (s t : Settings) (held : Overridden values s t) :
    ∃ next, x.override.apply text t = .ok next ∧
      Overridden (Function.update values x (some text)) s next := by
  cases x with
  | level =>
      obtain ⟨threshold, read⟩ := valid
      have parsed := (threshold_read_iff text threshold).mpr read
      simp only [Variable.override, overrideLevel, parsed]
      exact ⟨_, rfl, { held with level := rfl }⟩
  | label => exact ⟨_, rfl, { held with label := rfl }⟩
  | enabled =>
      obtain ⟨flag, read⟩ := valid
      have parsed := (flag_read_iff text flag).mpr read
      simp only [Variable.override, overrideEnabled, parsed]
      exact ⟨_, rfl, { held with enabled := read }⟩
  | category => exact ⟨_, rfl, { held with category := segments_read text }⟩
  | format =>
      obtain ⟨format, read⟩ := valid
      have parsed := (format_read_iff text format).mpr read
      simp only [Variable.override, overrideFormat, parsed]
      exact ⟨_, rfl, { held with format := read }⟩
  | filter => exact ⟨_, rfl, { held with filter := rfl }⟩

theorem override_refused (x : Variable) (text : String) (invalid : ¬ x.Valid text) (t : Settings) :
    ∃ e, x.override.apply text t = .error e ∧ Refused text x e := by
  cases x with
  | level =>
      refine ⟨_, ?_, .level⟩
      simp only [Variable.override, overrideLevel]
      cases read : Threshold.parse? text with
      | none => rfl
      | some threshold =>
          exact absurd ⟨threshold, (threshold_read_iff text threshold).mp read⟩ invalid
  | enabled =>
      refine ⟨_, ?_, .enabled⟩
      simp only [Variable.override, overrideEnabled]
      cases read : parseFlag text with
      | none => rfl
      | some flag => exact absurd ⟨flag, (flag_read_iff text flag).mp read⟩ invalid
  | format =>
      refine ⟨_, ?_, .format⟩
      simp only [Variable.override, overrideFormat]
      cases read : Diagnostics.Format.parse text with
      | error _ => rfl
      | ok format => exact absurd ⟨format, (format_read_iff text format).mp read⟩ invalid
  | label | category | filter => exact absurd trivial invalid

-- All the fields carry their values, or those of the variables ahead of the first invalid one.
inductive Applied (env : Diagnostics.Environment) (s : Settings) (xs : List Variable) :
    Option Error × Settings → Prop where
  | sound (t : Settings) (sound : Sound env xs) (held : Overridden (valuesOf env xs) s t) :
      Applied env s xs (none, t)
  | refused (t : Settings) (ahead behind : List Variable) (x : Variable) (text : String) (e : Error)
      (split : xs = ahead ++ x :: behind) (sound : Sound env ahead)
      (given : effective env x.name = some text) (invalid : ¬ x.Valid text)
      (refused : Refused text x e) (held : Overridden (valuesOf env ahead) s t) :
      Applied env s xs (some e, t)

theorem sound_concat (env : Diagnostics.Environment) (xs : List Variable) (x : Variable)
    (sound : Sound env xs) (valid : ∀ text, effective env x.name = some text → x.Valid text) :
    Sound env (xs ++ [x]) := by
  intro y member text given
  rcases List.mem_append.mp member with ahead | last
  · exact sound y ahead text given
  · obtain rfl := List.mem_singleton.mp last
    exact valid text given

theorem apply_all_applied (env : Diagnostics.Environment) (s : Settings)
    (done todo : List Variable) (t : Settings) (sound : Sound env done)
    (held : Overridden (valuesOf env done) s t) :
    Applied env s (done ++ todo) (applyAll env (todo.map Variable.override) t) := by
  induction todo generalizing done t with
  | nil =>
      rw [List.append_nil]
      exact .sound t sound held
  | cons x rest ih =>
      have later := ih (done ++ [x])
      rw [List.append_assoc, List.singleton_append] at later
      rw [List.map_cons, applyAll, override_name]
      cases given : effective env x.name with
      | none =>
          rw [values_of_blank env done x given] at later
          refine later t (sound_concat env done x sound fun text set => ?_) held
          cases given.symm.trans set
      | some text =>
          dsimp only
          by_cases valid : x.Valid text
          · obtain ⟨next, applied, held⟩ := override_valid x text valid _ s t held
            rw [← given, ← values_of_concat] at held
            rw [applied]
            refine later next (sound_concat env done x sound fun other set => ?_) held
            cases given.symm.trans set
            exact valid
          · obtain ⟨e, failed, refused⟩ := override_refused x text valid t
            rw [failed]
            exact .refused t done rest x text e rfl sound given valid refused held

theorem flag_asked_once (text : String) (a b : Bool) (one : word text ∈ flagWords a)
    (other : word text ∈ flagWords b) : a = b := by
  rw [← flag_read_iff] at one other
  exact Option.some.inj (one.symm.trans other)

theorem format_asked_once (text : String) (a b : Diagnostics.Format)
    (one : word text ∈ formatWords a) (other : word text ∈ formatWords b) : a = b := by
  rw [← format_read_iff] at one other
  exact Except.ok.inj (one.symm.trans other)

theorem carries_again {α : Type} {value : Option String} {asks : String → α → Prop}
    {before after again : α} (once : ∀ text a b, asks text a → asks text b → a = b)
    (first : Carries value asks before after) (second : Carries value asks after again) :
    again = after := by
  cases value with
  | none => exact second
  | some text => exact once text again after second first

theorem carries_value_again {α : Type} {value : Option String} {f : String → α}
    {before after again : α} (first : Carries value (fun text x => x = f text) before after)
    (second : Carries value (fun text x => x = f text) after again) : again = after :=
  carries_again (fun _ _ _ one other => one.trans other.symm) first second

theorem overridden_again (values : Variable → Option String) (s t u : Settings)
    (first : Overridden values s t) (second : Overridden values t u) : u = t := by
  have level := carries_value_again first.level second.level
  have label := carries_value_again first.label second.label
  have enabled := carries_again flag_asked_once first.enabled second.enabled
  have category := carries_value_again first.category second.category
  have format := carries_again format_asked_once first.format second.format
  have filter := carries_value_again first.filter second.filter
  have logger := LoggerSettings.ext label enabled category level
  have diagnostics := Diagnostics.Settings.ext format filter second.ansi second.timestamps
    second.targets second.output
  exact Settings.ext logger second.transports diagnostics

theorem overrides_applied (env : Diagnostics.Environment) (s : Settings) :
    Applied env s Variable.all (applyOverrides env s) := by
  have nothing : Sound env [] := fun _ none => absurd none List.not_mem_nil
  exact apply_all_applied env s [] Variable.all s nothing (overridden_none s env)

theorem overrides_returned (env : Diagnostics.Environment) (s t : Settings)
    (returned : applyOverrides env s = (none, t)) :
    Sound env Variable.all ∧ Overridden (valuesOf env Variable.all) s t := by
  have applied := overrides_applied env s
  rw [returned] at applied
  cases applied with
  | sound _ sound held => exact ⟨sound, held⟩

theorem overrides_sound (env : Diagnostics.Environment) (s : Settings)
    (sound : Sound env Variable.all) :
    ∃ t, applyOverrides env s = (none, t) ∧ Overridden (valuesOf env Variable.all) s t := by
  have applied := overrides_applied env s
  cases made : applyOverrides env s with
  | mk fault t =>
      rw [made] at applied
      cases applied with
      | sound _ _ held => exact ⟨t, rfl, held⟩
      | refused _ ahead behind x text e split _ given invalid =>
          exact absurd (sound x x.mem_all text given) invalid

theorem overrides_refused (env : Diagnostics.Environment) (s : Settings)
    (unsound : ¬ Sound env Variable.all) :
    ∃ x text e t, Sound env x.earlier ∧ effective env x.name = some text ∧ ¬ x.Valid text ∧
      Refused text x e ∧ applyOverrides env s = (some e, t) ∧
      Overridden (valuesOf env x.earlier) s t := by
  have applied := overrides_applied env s
  cases made : applyOverrides env s with
  | mk fault t =>
      rw [made] at applied
      cases applied with
      | sound _ sound _ => exact absurd sound unsound
      | refused _ ahead behind x text e split sound given invalid refused held =>
          rw [Variable.earlier_of_split ahead behind x split] at sound held
          exact ⟨x, text, e, t, sound, given, invalid, refused, rfl, held⟩

theorem invalid_checked (x : Variable) (text : String) (invalid : ¬ x.Valid text) :
    x ∈ Variable.checked := by
  cases x with
  | level | enabled | format => decide
  | label | category | filter => exact absurd trivial invalid

theorem sound_checked_iff (env : Diagnostics.Environment) :
    Sound env Variable.checked ↔ Sound env Variable.all := by
  constructor
  · intro sound x _ text given
    by_contra invalid
    exact invalid (sound x (invalid_checked x text invalid) text given)
  · exact fun sound x _ => sound x x.mem_all

-- One bad value stops the pass where it stands: what was read before it stays applied.
theorem overrides_apply_in_order (env : Diagnostics.Environment) (s : Settings) :
    (Sound env Variable.checked → ∃ t, applyOverrides env s = (none, t) ∧
      Overridden (valuesOf env Variable.all) s t ∧ applyOverrides env t = (none, t)) ∧
    (¬ Sound env Variable.checked → ∃ x ∈ Variable.checked, ∃ text e t,
      Sound env x.earlier ∧ effective env x.name = some text ∧ ¬ x.Valid text ∧
      Refused text x e ∧ applyOverrides env s = (some e, t) ∧
      Overridden (valuesOf env x.earlier) s t) := by
  rw [sound_checked_iff]
  constructor
  · intro sound
    obtain ⟨t, applied, held⟩ := overrides_sound env s sound
    obtain ⟨again, repeated, same⟩ := overrides_sound env t sound
    rw [overridden_again _ s t again held same] at repeated
    exact ⟨t, applied, held, repeated⟩
  · intro unsound
    obtain ⟨x, text, e, t, sound, given, invalid, rest⟩ := overrides_refused env s unsound
    exact ⟨x, invalid_checked x text invalid, text, e, t, sound, given, invalid, rest⟩

def listed (values : List (String × String)) : Diagnostics.Environment := fun name =>
  values.lookup name

def padded : Diagnostics.Environment :=
  listed [("QUILL_LOG_LEVEL", " OFF "), ("QUILL_PREFIX", " "),
    ("QUILL_CATEGORY", ". http.. router")]

def misspelt : Diagnostics.Environment :=
  listed [("QUILL_LOG_LEVEL", " Warning "), ("QUILL_ENABLED", " maybe "),
    ("QUILL_DIAGNOSTICS_FORMAT", "json"), ("QUILL_DIAGNOSTICS_FILTER", "trace")]

theorem overrides_apply_in_order_padded_then_misspelt :
    (∃ t, applyOverrides padded .standard = (none, t) ∧ t.logger.lowestLevel = "OFF" ∧
      t.logger.label = Settings.standard.logger.label ∧ t.logger.category = ["http", "router"] ∧
      applyOverrides padded t = (none, t)) ∧
    ∃ t, applyOverrides misspelt .standard =
        (some (.badVariable "QUILL_ENABLED" " maybe "
          "expected boolean (true/false, yes/no, 1/0, on/off)"), t) ∧
      t.logger.lowestLevel = "Warning" ∧
      t.diagnostics.format = Settings.standard.diagnostics.format ∧
      t.diagnostics.filter = none := by
  constructor
  · have sound : Sound padded Variable.checked := by
      intro x member text given
      cases x with
      | level =>
          cases given
          exact ⟨none, by decide⟩
      | enabled | format => cases given
      | label | category | filter => trivial
    obtain ⟨t, applied, held, again⟩ := (overrides_apply_in_order padded .standard).1 sound
    exact ⟨t, applied, held.level, held.label, held.category.trans (by decide), again⟩
  · have wrong : ¬ Variable.enabled.Valid " maybe " := by
      rintro ⟨flag, known⟩
      cases flag <;> exact absurd known (by decide)
    have unsound : ¬ Sound misspelt Variable.checked := fun sound =>
      wrong (sound .enabled (by decide) " maybe " rfl)
    obtain ⟨x, member, text, e, t, sound, given, invalid, refused, applied, held⟩ :=
      (overrides_apply_in_order misspelt .standard).2 unsound
    cases x with
    | level =>
        cases given
        exact absurd ⟨some .warn, by decide⟩ invalid
    | enabled =>
        cases given
        cases refused
        exact ⟨t, applied, held.level, held.format, held.filter⟩
    | format => exact absurd (sound .enabled (by decide) " maybe " rfl) wrong
    | label | category | filter => exact absurd member (by decide)

end StructuredLog.Config
