import StructuredLog.Proofs.Config.Environment
import StructuredLog.Proofs.Config.Transports

set_option autoImplicit false

namespace StructuredLog.Config

open Text

theorem logger_valid_iff (s : LoggerSettings) :
    s.validate = .ok () ↔
      (∃ threshold, s.threshold = .ok threshold) ∧ ∀ part ∈ s.category, allBlank part = false := by
  have parts : (if s.category.any allBlank then
      throw (.invalidValue "logger.category" "category segments must not be empty")
      else pure () : Except Error Unit) = .ok () ↔ ∀ part ∈ s.category, allBlank part = false := by
    cases blank : s.category.any allBlank with
    | false => exact iff_of_true rfl (by simpa using blank)
    | true => exact iff_of_false nofun (by simpa using blank)
  exact (then_ok_iff _ _ _).trans (and_congr_right fun _ => parts)

theorem valid_by_iff (check : String → Except Diagnostics.Error Unit) (s : Settings) :
    s.validateBy check = .ok () ↔
      s.logger.validate = .ok () ∧ validateTransports [] s.transports = .ok () ∧
        validateDiagnosticsBy check s.diagnostics = .ok () := by
  rw [Settings.validateBy, then_ok_iff, Unique.exists_iff, then_ok_iff, Unique.exists_iff]

theorem validate_by_filter (check : String → Except Diagnostics.Error Unit) (s : Settings)
    (logger : s.logger.validate = .ok ())
    (transports : validateTransports [] s.transports = .ok ()) :
    s.validateBy check = validateDiagnosticsBy check s.diagnostics := by
  rw [Settings.validateBy, logger, transports]
  rfl

theorem diagnostics_error_iff (check : String → Except Diagnostics.Error Unit)
    (s : Diagnostics.Settings) (e : Error) :
    validateDiagnosticsBy check s = .error e ↔
      ∃ text fault, s.filter = some text ∧ check text = .error fault ∧ e = .diagnostics fault := by
  unfold validateDiagnosticsBy
  cases s.filter with
  | none => simp
  | some text =>
      cases judged : check text with
      | ok _ => simp [judged]
      | error fault => simp [judged, eq_comm]

theorem segments_shown (text : String) : ∀ part ∈ segments text, allBlank part = false := by
  intro part member
  obtain ⟨cut, shown⟩ := List.mem_filter.mp member
  obtain ⟨piece, -, rfl⟩ := List.mem_map.mp cut
  have trims : String.ofList (trim piece) = trimmed (String.ofList piece) := by
    rw [trimmed, String.toList_ofList]
  rw [trims] at shown ⊢
  rw [all_blank_trimmed, ← trimmed_empty, ← Bool.not_eq_true, String.isEmpty_iff]
  exact of_decide_eq_true shown

theorem threshold_of_override (s : LoggerSettings) (text : String) (threshold : Threshold)
    (stored : s.lowestLevel = trimmed text) (shown : allBlank text = false)
    (read : Threshold.parse? text = some threshold) : s.threshold = .ok threshold := by
  have still : Threshold.parse? (trimmed text) = some threshold := by
    rw [threshold_read_iff] at read ⊢
    rwa [word, trimmed_trimmed]
  simp only [LoggerSettings.threshold, stored, all_blank_trimmed, shown, still]
  rfl

section

variable (env : Diagnostics.Environment) (s t : Settings)
  (held : Overridden (valuesOf env Variable.all) s t)

include held

theorem threshold_overridden (sound : Sound env Variable.all) (before : Threshold)
    (known : s.logger.threshold = .ok before) :
    ∃ after, t.logger.threshold = .ok after ∧ Carries (effective env "QUILL_LOG_LEVEL")
      (fun text threshold => Threshold.parse? text = some threshold) before after := by
  have level := held.level
  rw [values_of_all] at level
  cases given : effective env "QUILL_LOG_LEVEL" with
  | none =>
      rw [Variable.name, given, carries_none] at level
      refine ⟨before, ?_, rfl⟩
      rwa [LoggerSettings.threshold, level]
  | some text =>
      rw [Variable.name, given, carries_some] at level
      obtain ⟨after, read⟩ := sound .level (by decide) text given
      rw [← threshold_read_iff] at read
      exact ⟨after, threshold_of_override t.logger text after level
        (effective_not_blank env _ text given) read, read⟩

theorem category_overridden (before : ∀ part ∈ s.logger.category, allBlank part = false) :
    ∀ part ∈ t.logger.category, allBlank part = false := by
  have category := held.category
  rw [values_of_all] at category
  cases given : effective env "QUILL_CATEGORY" with
  | none =>
      rw [Variable.name, given, carries_none] at category
      rwa [category]
  | some text =>
      rw [Variable.name, given, carries_some] at category
      rw [category]
      exact segments_shown text

theorem logger_overridden (sound : Sound env Variable.all) (valid : s.logger.validate = .ok ()) :
    t.logger.validate = .ok () := by
  obtain ⟨⟨before, known⟩, shown⟩ := (logger_valid_iff s.logger).mp valid
  obtain ⟨after, read, -⟩ := threshold_overridden env s t held sound before known
  exact (logger_valid_iff t.logger).mpr ⟨⟨after, read⟩, category_overridden env s t held shown⟩

theorem diagnostics_overridden (check : String → Except Diagnostics.Error Unit) (e : Error)
    (valid : validateDiagnosticsBy check s.diagnostics = .ok ()) :
    validateDiagnosticsBy check t.diagnostics = .error e ↔
      ∃ text fault, effective env "QUILL_DIAGNOSTICS_FILTER" = some text ∧
        check text = .error fault ∧ e = .diagnostics fault := by
  have filter := held.filter
  rw [values_of_all] at filter
  cases given : effective env "QUILL_DIAGNOSTICS_FILTER" with
  | none =>
      rw [Variable.name, given, carries_none] at filter
      refine iff_of_false (fun failed => ?_) (by simp)
      rw [validateDiagnosticsBy, filter, ← validateDiagnosticsBy, valid] at failed
      cases failed
  | some text =>
      rw [Variable.name, given, carries_some] at filter
      rw [diagnostics_error_iff, filter]

end

theorem ok_iff_no_error {α : Type} (x : Except α Unit) : x = .ok () ↔ ∀ e, x ≠ .error e := by
  cases x <;> simp

-- The pass sets nothing that fails its own check, save a filter, which only its parser can judge.
theorem overrides_preserve_validity (check : String → Except Diagnostics.Error Unit)
    (env : Diagnostics.Environment) (s t : Settings) (valid : s.validateBy check = .ok ())
    (returned : applyOverrides env s = (none, t)) :
    (∀ e, t.validateBy check = .error e ↔
      ∃ text fault, effective env "QUILL_DIAGNOSTICS_FILTER" = some text ∧
        check text = .error fault ∧ e = .diagnostics fault) ∧
    (effective env "QUILL_DIAGNOSTICS_FILTER" = none → t.validateBy check = .ok ()) ∧
    (∃ threshold, t.logger.threshold = .ok threshold ∧
      ∀ text, effective env "QUILL_LOG_LEVEL" = some text →
        Threshold.parse? text = some threshold) ∧
    ∀ colors source e, ∃ logger after, t.newLogger colors source e = .ok (logger, after) := by
  obtain ⟨logger, transports, diagnostics⟩ := (valid_by_iff check s).mp valid
  obtain ⟨sound, held⟩ := overrides_returned env s t returned
  have judged : t.validateBy check = validateDiagnosticsBy check t.diagnostics := by
    refine validate_by_filter check t (logger_overridden env s t held sound logger) ?_
    rwa [held.transports]
  have failing := fun e => diagnostics_overridden env s t held check e diagnostics
  obtain ⟨⟨before, known⟩, -⟩ := (logger_valid_iff s.logger).mp logger
  obtain ⟨threshold, read, level⟩ := threshold_overridden env s t held sound before known
  rw [judged]
  refine ⟨failing, ?_, ⟨threshold, read, ?_⟩, ?_⟩
  · intro unset
    refine (ok_iff_no_error _).mpr fun e failed => ?_
    obtain ⟨text, -, given, -⟩ := (failing e).mp failed
    exact absurd (unset.symm.trans given) (by nofun)
  · intro text given
    rw [given, carries_some] at level
    exact level
  · intro colors source e
    obtain ⟨logger, after, made, -⟩ := new_logger_transports colors source t e ⟨threshold, read⟩
    exact ⟨logger, after, made⟩

theorem overrides_preserve_validity_save_the_filter :
    Settings.standard.validate = .ok () ∧
    ∃ t, applyOverrides (listed [("QUILL_LOG_LEVEL", " Off "), ("QUILL_CATEGORY", " . "),
        ("QUILL_DIAGNOSTICS_FILTER", "app=loud")]) .standard = (none, t) ∧
      t.validate = .error (.diagnostics (.invalidFilter "app=loud" .level)) ∧
      t.logger.threshold = .ok none ∧
      ∃ logger after, t.newLogger true (.counter "t") (.empty 0) = .ok (logger, after) := by
  have valid : Settings.standard.validate = .ok () := rfl
  refine ⟨valid, _, rfl, ?_⟩
  obtain ⟨judged, -, ⟨threshold, read, level⟩, built⟩ :=
    overrides_preserve_validity Diagnostics.Settings.checkFilter
      (listed [("QUILL_LOG_LEVEL", " Off "), ("QUILL_CATEGORY", " . "),
        ("QUILL_DIAGNOSTICS_FILTER", "app=loud")]) .standard _ valid rfl
  refine ⟨(judged _).mpr ⟨"app=loud", _, rfl, rfl, rfl⟩, ?_, built true _ _⟩
  cases level " Off " rfl
  exact read

end StructuredLog.Config
