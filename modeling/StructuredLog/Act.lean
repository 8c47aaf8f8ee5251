set_option autoImplicit false

namespace StructuredLog

-- What happened before a panic stays: the state as it was then and the events so far.
inductive Outcome (α : Type) where
  | returned (value : α)
  | panicked (message : String)
deriving DecidableEq, Repr

structure Ran (ε σ α : Type) where
  outcome : Outcome α
  state : σ
  events : List ε

def Act (ε σ α : Type) : Type := σ → Ran ε σ α

namespace Act

variable {ε σ τ α β : Type}

def pure (value : α) : Act ε σ α := fun s => ⟨.returned value, s, []⟩

def panic (message : String) : Act ε σ α := fun s => ⟨.panicked message, s, []⟩

def bind (m : Act ε σ α) (f : α → Act ε σ β) : Act ε σ β := fun s =>
  match m s with
  | ⟨.panicked message, s, events⟩ => ⟨.panicked message, s, events⟩
  | ⟨.returned value, s, events⟩ =>
      match f value s with
      | ⟨outcome, s, more⟩ => ⟨outcome, s, events ++ more⟩

instance : Monad (Act ε σ) where
  pure := pure
  bind := bind

def get : Act ε σ σ := fun s => ⟨.returned s, s, []⟩

def set (s : σ) : Act ε σ Unit := fun _ => ⟨.returned (), s, []⟩

def modify (f : σ → σ) : Act ε σ Unit := fun s => ⟨.returned (), f s, []⟩

def emit (event : ε) : Act ε σ Unit := fun s => ⟨.returned (), s, [event]⟩

def emitAll (events : List ε) : Act ε σ Unit := fun s => ⟨.returned (), s, events⟩

def within (part : τ → σ) (put : σ → τ → τ) (m : Act ε σ α) : Act ε τ α := fun t =>
  match m (part t) with
  | ⟨outcome, s, events⟩ => ⟨outcome, put s t, events⟩

def withLocal (own : τ) (m : Act ε (σ × τ) α) : Act ε σ α := fun s =>
  match m (s, own) with
  | ⟨outcome, (s, _), events⟩ => ⟨outcome, s, events⟩

def ensure (m : Act ε σ α) (after : Act ε σ Unit) : Act ε σ α := fun s =>
  match m s with
  | ⟨outcome, s, events⟩ =>
      match after s with
      | ⟨_, s, more⟩ => ⟨outcome, s, events ++ more⟩

def attempt (m : Act ε σ α) : Act ε σ (Outcome α) := fun s =>
  match m s with
  | ⟨outcome, s, events⟩ => ⟨.returned outcome, s, events⟩

theorem bind_returned (m : Act ε σ α) (f : α → Act ε σ β) (s t : σ) (a : α) (es : List ε)
    (h : m s = ⟨.returned a, t, es⟩) :
    bind m f s = ⟨(f a t).outcome, (f a t).state, es ++ (f a t).events⟩ := by
  simp [bind, h]

theorem bind_panicked (m : Act ε σ α) (f : α → Act ε σ β) (s t : σ) (message : String)
    (es : List ε) (h : m s = ⟨.panicked message, t, es⟩) :
    bind m f s = ⟨.panicked message, t, es⟩ := by
  simp [bind, h]

end Act

end StructuredLog
