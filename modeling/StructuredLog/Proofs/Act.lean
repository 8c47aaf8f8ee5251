import StructuredLog.Act

set_option autoImplicit false

namespace StructuredLog.Act

variable {ε σ τ α β : Type}

-- The action returns `a` and leaves `t`, whatever it reports.
def Returns (m : Act ε σ α) (s : σ) (a : α) (t : σ) : Prop :=
  ∃ events, m s = ⟨.returned a, t, events⟩

theorem returns_pure (a : α) (s : σ) : Returns (Pure.pure a : Act ε σ α) s a s := ⟨[], rfl⟩

theorem returns_get (s : σ) : Returns (get : Act ε σ σ) s s s := ⟨[], rfl⟩

theorem returns_modify (f : σ → σ) (s : σ) : Returns (modify f : Act ε σ Unit) s () (f s) :=
  ⟨[], rfl⟩

theorem returns_emit (event : ε) (s : σ) : Returns (emit event) s () s := ⟨[event], rfl⟩

theorem returns_emit_all (events : List ε) (s : σ) : Returns (emitAll events) s () s :=
  ⟨events, rfl⟩

theorem returns_bind (m : Act ε σ α) (f : α → Act ε σ β) (s t u : σ) (a : α) (b : β)
    (first : Returns m s a t) (second : Returns (f a) t b u) : Returns (m >>= f) s b u := by
  obtain ⟨early, ran⟩ := first
  obtain ⟨late, ran'⟩ := second
  refine ⟨early ++ late, ?_⟩
  change bind m f s = _
  rw [bind_returned m f s t a early ran, ran']

theorem returns_within (part : τ → σ) (put : σ → τ → τ) (m : Act ε σ α) (t : τ) (s : σ) (a : α)
    (inner : Returns m (part t) a s) : Returns (within part put m) t a (put s t) := by
  obtain ⟨events, ran⟩ := inner
  exact ⟨events, by rw [within, ran]⟩

theorem returns_with_local (own : τ) (m : Act ε (σ × τ) α) (s t : σ) (after : τ) (a : α)
    (inner : Returns m (s, own) a (t, after)) : Returns (withLocal own m) s a t := by
  obtain ⟨events, ran⟩ := inner
  exact ⟨events, by rw [withLocal, ran]⟩

theorem returns_outcome (m : Act ε σ α) (s : σ) (a : α) (t : σ) (returned : Returns m s a t) :
    (m s).outcome = .returned a ∧ (m s).state = t := by
  obtain ⟨events, ran⟩ := returned
  rw [ran]
  exact ⟨rfl, rfl⟩

theorem bind_quiet (m : Act ε σ α) (f : α → Act ε σ β) (s t : σ) (a : α)
    (ran : m s = ⟨.returned a, t, []⟩) : (m >>= f) s = f a t := by
  change bind m f s = _
  rw [bind_returned m f s t a [] ran]
  rfl

theorem bind_then_quiet (m : Act ε σ α) (f : α → Act ε σ β) (s t u : σ) (a : α) (es : List ε)
    (outcome : Outcome β) (ran : m s = ⟨.returned a, t, es⟩) (rest : f a t = ⟨outcome, u, []⟩) :
    (m >>= f) s = ⟨outcome, u, es⟩ := by
  change bind m f s = _
  rw [bind_returned m f s t a es ran, rest, List.append_nil]

theorem map_returned (m : Act ε σ α) (f : α → β) (s t : σ) (a : α) (es : List ε)
    (ran : m s = ⟨.returned a, t, es⟩) :
    (m >>= fun a => Pure.pure (f a)) s = ⟨.returned (f a), t, es⟩ :=
  bind_then_quiet m _ s t t a es _ ran rfl

theorem map_ran (m : Act ε σ α) (f : α → β) (s : σ) :
    ((m >>= fun a => Pure.pure (f a)) s).state = (m s).state ∧
      ((m >>= fun a => Pure.pure (f a)) s).events = (m s).events := by
  change (bind m (fun a => Pure.pure (f a)) s).state = _ ∧
    (bind m (fun a => Pure.pure (f a)) s).events = _
  unfold bind
  generalize m s = ran
  obtain ⟨outcome, t, events⟩ := ran
  cases outcome with
  | panicked message => exact ⟨rfl, rfl⟩
  | returned a => exact ⟨rfl, List.append_nil events⟩

theorem emit_all_then (events more : List ε) (m : Act ε σ α) (s t : σ) (outcome : Outcome α)
    (ran : m s = ⟨outcome, t, more⟩) :
    (emitAll events >>= fun _ => m) s = ⟨outcome, t, events ++ more⟩ := by
  change bind (emitAll events) (fun _ => m) s = _
  rw [bind_returned (emitAll events) (fun _ => m) s s () events rfl, ran]

theorem with_local_ran (own after : τ) (m : Act ε (σ × τ) α) (s t : σ) (outcome : Outcome α)
    (events : List ε) (ran : m (s, own) = ⟨outcome, (t, after), events⟩) :
    withLocal own m s = ⟨outcome, t, events⟩ := by
  rw [withLocal, ran]

theorem bind_stopped (m : Act ε σ α) (f : α → Act ε σ β) (s t : σ) (message : String) (es : List ε)
    (ran : m s = ⟨.panicked message, t, es⟩) : (m >>= f) s = ⟨.panicked message, t, es⟩ :=
  bind_panicked m f s t message es ran

theorem bind_returned_iff (m : Act ε σ α) (f : α → Act ε σ β) (s u : σ) (b : β) (es : List ε) :
    (m >>= f) s = ⟨.returned b, u, es⟩ ↔ ∃ a t early late, m s = ⟨.returned a, t, early⟩ ∧
      f a t = ⟨.returned b, u, late⟩ ∧ es = early ++ late := by
  constructor
  · intro ran
    cases first : m s with
    | mk outcome t early =>
        cases outcome with
        | panicked message =>
            rw [bind_stopped m f s t message early first] at ran
            cases ran
        | returned a =>
            change bind m f s = _ at ran
            rw [bind_returned m f s t a early first] at ran
            refine ⟨a, t, early, (f a t).events, rfl, ?_, (congrArg Ran.events ran).symm⟩
            generalize f a t = rest at ran ⊢
            obtain ⟨outcome, v, late⟩ := rest
            cases ran
            rfl
  · rintro ⟨a, t, early, late, first, rest, rfl⟩
    change bind m f s = _
    rw [bind_returned m f s t a early first, rest]

theorem map_returned_iff (m : Act ε σ α) (f : α → β) (s u : σ) (b : β) (es : List ε) :
    (m >>= fun a => Pure.pure (f a)) s = ⟨.returned b, u, es⟩ ↔
      ∃ a, m s = ⟨.returned a, u, es⟩ ∧ b = f a := by
  constructor
  · intro ran
    obtain ⟨a, t, early, late, first, rest, rfl⟩ := (bind_returned_iff m _ s u b es).mp ran
    cases rest
    exact ⟨a, by rw [first, List.append_nil], rfl⟩
  · rintro ⟨a, ran, rfl⟩
    exact map_returned m f s u a es ran

theorem emit_all_returned_iff (events : List ε) (m : Act ε σ α) (s u : σ) (a : α) (es : List ε) :
    (emitAll events >>= fun _ => m) s = ⟨.returned a, u, es⟩ ↔
      ∃ more, m s = ⟨.returned a, u, more⟩ ∧ es = events ++ more := by
  constructor
  · intro ran
    obtain ⟨_, t, early, late, first, rest, rfl⟩ := (bind_returned_iff _ _ s u a es).mp ran
    cases first
    exact ⟨late, rest, rfl⟩
  · rintro ⟨more, ran, rfl⟩
    exact emit_all_then events more m s u _ ran

theorem with_local_returned_iff (own : τ) (m : Act ε (σ × τ) α) (s t : σ) (a : α) (es : List ε) :
    withLocal own m s = ⟨.returned a, t, es⟩ ↔ ∃ after, m (s, own) = ⟨.returned a, (t, after), es⟩ := by
  unfold withLocal
  obtain ⟨outcome, ⟨u, left⟩, events⟩ := m (s, own)
  constructor
  · intro ran
    cases ran
    exact ⟨left, rfl⟩
  · rintro ⟨after, ran⟩
    cases ran
    rfl

section Lens

variable (part : τ → σ) (put : σ → τ → τ)

theorem within_at (m : Act ε σ α) (t : τ) (s : σ) (outcome : Outcome α) (events : List ε)
    (ran : m (part t) = ⟨outcome, s, events⟩) :
    within part put m t = ⟨outcome, put s t, events⟩ := by
  rw [within, ran]

theorem within_returned_iff (m : Act ε σ α) (t u : τ) (a : α) (es : List ε) :
    within part put m t = ⟨.returned a, u, es⟩ ↔
      ∃ s, m (part t) = ⟨.returned a, s, es⟩ ∧ u = put s t := by
  unfold within
  obtain ⟨outcome, s, events⟩ := m (part t)
  constructor
  · intro ran
    cases ran
    exact ⟨s, rfl, rfl⟩
  · rintro ⟨s, ran, rfl⟩
    cases ran
    rfl

theorem within_congr_at (m n : Act ε σ α) (t : τ) (same : m (part t) = n (part t)) :
    within part put m t = within part put n t := by
  rw [within, within, same]

theorem within_pure (same : ∀ t, put (part t) t = t) (a : α) :
    within part put (Pure.pure a : Act ε σ α) = Pure.pure a := by
  funext t
  exact congrArg (fun t => Ran.mk (.returned a) t []) (same t)

theorem within_bind (read : ∀ s t, part (put s t) = s)
    (written : ∀ s s' t, put s' (put s t) = put s' t) (m : Act ε σ α) (f : α → Act ε σ β) :
    within part put (m >>= f) = within part put m >>= fun a => within part put (f a) := by
  funext t
  change within part put (bind m f) t = bind (within part put m) _ t
  unfold within bind
  dsimp only
  generalize m (part t) = ran
  obtain ⟨outcome, s, events⟩ := ran
  cases outcome with
  | panicked message => rfl
  | returned a =>
      dsimp only
      rw [read]
      generalize f a s = ran
      obtain ⟨outcome, s', more⟩ := ran
      dsimp only
      rw [written]

end Lens

theorem bind_congr_at (m n : Act ε σ α) (f : α → Act ε σ β) (s : σ) (same : m s = n s) :
    (m >>= f) s = (n >>= f) s := by
  change bind m f s = bind n f s
  unfold bind
  rw [same]

instance : LawfulMonad (Act ε σ) := by
  refine LawfulMonad.mk' (Act ε σ) ?identity ?pure_bind ?bind_assoc
  case identity =>
    intro α m
    funext s
    change bind m pure s = m s
    unfold bind
    obtain ⟨outcome, t, events⟩ := m s
    cases outcome with
    | returned a => simp [pure]
    | panicked message => rfl
  case pure_bind =>
    intro α β a f
    funext s
    change bind (pure a) f s = f a s
    simp [bind, pure]
  case bind_assoc =>
    intro α β γ m f g
    funext s
    change bind (bind m f) g s = bind m (fun a => bind (f a) g) s
    unfold bind
    obtain ⟨outcome, t, events⟩ := m s
    cases outcome with
    | panicked message => rfl
    | returned a =>
        dsimp only
        obtain ⟨outcome, u, more⟩ := f a t
        cases outcome with
        | panicked message => rfl
        | returned b => simp

end StructuredLog.Act
