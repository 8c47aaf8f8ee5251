import StructuredLog.Config.Overrides

set_option autoImplicit false

namespace StructuredLog.Config

open Text

def Override.Keeps (P : Settings → Prop) (o : Override) : Prop :=
  ∀ value s next, allBlank value = false → o.apply value s = .ok next → P s → P next

theorem effective_not_blank (env : Diagnostics.Environment) (name value : String)
    (set : effective env name = some value) : allBlank value = false := by
  obtain ⟨-, given⟩ := Option.filter_eq_some_iff.mp set
  simpa using given

theorem apply_all_keeps (env : Diagnostics.Environment) (P : Settings → Prop) (os : List Override)
    (keeps : ∀ o ∈ os, o.Keeps P) (s : Settings) (holds : P s) : P (applyAll env os s).2 := by
  induction os generalizing s with
  | nil => exact holds
  | cons o rest ih =>
      have later := ih fun o member => keeps o (List.mem_cons_of_mem _ member)
      unfold applyAll
      split
      · exact later s holds
      · next value set =>
          split
          · next next applied =>
              exact later next (keeps o List.mem_cons_self value s next
                (effective_not_blank env o.name value set) applied holds)
          · exact holds

-- No override reaches the transports, and a label that is set is not empty.
theorem overrides_keep (ts : List TransportSettings) (o : Override) (member : o ∈ overrides) :
    o.Keeps fun s => s.transports = ts ∧ s.logger.label ≠ "" := by
  intro value s next given applied holds
  simp only [overrides, List.mem_cons, List.not_mem_nil, or_false] at member
  rcases member with rfl | rfl | rfl | rfl | rfl | rfl
  · simp only [overrideLevel] at applied
    split at applied <;> cases applied
    exact holds
  · cases applied
    refine ⟨holds.1, ?_⟩
    rintro rfl
    cases given
  · simp only [overrideEnabled] at applied
    split at applied <;> cases applied
    exact holds
  · cases applied
    exact holds
  · simp only [overrideFormat] at applied
    split at applied <;> cases applied
    exact holds
  · cases applied
    exact holds

end StructuredLog.Config
