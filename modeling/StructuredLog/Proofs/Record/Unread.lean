import StructuredLog.Proofs.Record.ComputedOnce

set_option autoImplicit false

namespace StructuredLog

open Template

def Contents.snapshot (header : Header) (c : Contents) : Snapshot :=
  ⟨header.level, header.category, header.label, header.timestamp, c.pieces, joined c.pieces, c.raw,
    c.properties⟩

def Source.callReports : Source → List Event
  | .text .. | .template _ => []
  | .deferred .. => [.deferredCalled]
  | .lazily callback => callback.events

-- A record as it was built, and the panic of the first read that needs its callback, if it has one.
structure Unread where
  header : Header
  ambient : Properties
  source : Source
  reason : String
  lacking : ∀ need, source.needs need = true → source.refusal .fresh = some reason

namespace Unread

open Record

variable (u : Unread)

def record : Record := u.source.record u.header u.ambient .fresh

def contents : Contents := u.source.contents u.ambient

def answer (zone : Time.Zone) (q : Question) : Answer :=
  u.contents.answer zone u.header u.record.isResolved q

theorem record_header : u.record.header = u.header :=
  Source.record_header u.header u.ambient u.source .fresh

theorem reported_lacking (need : Need) (needed : u.source.needs need = true) :
    u.source.reported u.ambient .fresh need = u.source.callReports := by
  obtain ⟨header, ambient, source, reason, lacking⟩ := u
  have refused := lacking need needed
  unfold Source.reported
  rw [if_pos needed]
  cases source with
  | text message explicit => cases needed
  | template parts => cases needed
  | lazily callback => rfl
  | deferred message callback =>
      cases callback with
      | returned explicit => cases refused
      | panicked fault => rfl

-- A reading panics where it needs what is missing, and else leaves the record as it was.
structure Gives {α : Type} (missing : Bool) (m : Reading α) (a : α) : Prop where
  there : missing = false → m u.record = ⟨.returned a, u.record, []⟩
  lacking : missing = true → ∃ r, m u.record = ⟨.panicked u.reason, r, u.source.callReports⟩

theorem gives_of_eq {α : Type} (m n : Reading α) (missing : Bool) (a : α)
    (same : m u.record = n u.record) (gives : u.Gives missing n a) : u.Gives missing m a :=
  ⟨fun there => same.trans (gives.there there), fun lacking =>
    (gives.lacking lacking).imp fun _ ran => same.trans ran⟩

theorem gives_pure {α : Type} (a : α) : u.Gives false (pure a : Reading α) a :=
  ⟨fun _ => rfl, nofun⟩

theorem gives_bind {α β : Type} (m : Reading α) (f : α → Reading β) (missing missing' : Bool)
    (a : α) (b : β) (first : u.Gives missing m a) (rest : u.Gives missing' (f a) b) :
    u.Gives (missing || missing') (m >>= f) b := by
  cases missing with
  | false => exact u.gives_of_eq _ _ _ _ (Act.bind_quiet m f _ _ _ (first.there rfl)) rest
  | true =>
      refine ⟨nofun, fun _ => ?_⟩
      obtain ⟨r, ran⟩ := first.lacking rfl
      exact ⟨r, Act.bind_stopped _ _ _ _ _ _ ran⟩

theorem gives_map {α β : Type} (m : Reading α) (f : α → β) (missing : Bool) (a : α)
    (first : u.Gives missing m a) : u.Gives missing (m >>= fun a => pure (f a)) (f a) := by
  have whole := u.gives_bind m (fun a => pure (f a)) missing false a (f a) first
    (u.gives_pure (f a))
  rwa [Bool.or_false] at whole

theorem gives_header {α : Type} (f : Header → Reading α) (missing : Bool) (a : α)
    (rest : u.Gives missing (f u.header) a) :
    u.Gives missing (Act.get >>= fun r => f r.header) a := by
  refine u.gives_of_eq _ _ _ _ ?_ rest
  rw [← u.record_header]
  exact Act.bind_quiet Act.get (fun r => f r.header) u.record u.record u.record rfl

theorem gives_of_read {α : Type} (m : Reading α) (need : Need) (a : α)
    (read : m u.record = ⟨.orPanic (u.source.fault .fresh need) a,
      u.source.record u.header u.ambient (u.source.next .fresh need),
      u.source.reported u.ambient .fresh need⟩) :
    u.Gives (u.source.needs need) m a := by
  constructor
  case there =>
    intro unneeded
    have needless := ne_true_of_eq_false unneeded
    have fault : u.source.fault .fresh need = none := if_neg needless
    have next : u.source.next .fresh need = .fresh := if_neg needless
    have reported : u.source.reported u.ambient .fresh need = [] := if_neg needless
    rw [read, fault, next, reported]
    rfl
  case lacking =>
    intro needed
    have fault : u.source.fault .fresh need = some u.reason :=
      (if_pos needed).trans (u.lacking need needed)
    rw [read, fault, u.reported_lacking need needed]
    exact ⟨_, rfl⟩

theorem gives_answer (zone : Time.Zone) (q : Question) :
    u.Gives (u.source.asks q) (ask zone q) (u.answer zone q) :=
  u.gives_of_read _ _ _ (Source.ask_at u.header u.ambient u.source .fresh zone q)

theorem gives_message : u.Gives (u.source.asks .message) readMessage u.contents.pieces :=
  u.gives_of_read _ _ _ (Source.read_message_at u.header u.ambient u.source .fresh)

theorem gives_text : u.Gives (u.source.asks .text) readText (joined u.contents.pieces) :=
  u.gives_map _ joined _ _ u.gives_message

theorem gives_raw : u.Gives (u.source.asks .rawDisplay) readRaw u.contents.raw :=
  u.gives_of_read _ _ _ (Source.read_raw_at u.header u.ambient u.source .fresh)

theorem gives_properties :
    u.Gives (u.source.asks .properties) readProperties u.contents.properties :=
  u.gives_of_read _ _ _ (Source.read_properties_at u.header u.ambient u.source .fresh)

theorem gives_snapshot :
    u.Gives (u.source.asks .snapshot) readSnapshot (u.contents.snapshot u.header) := by
  have read := read_snapshot _ _ u.contents _ _
    (Source.read_message_at u.header u.ambient u.source .fresh)
    (Source.open_after u.header u.ambient u.source .fresh)
  rw [Source.record_header] at read
  exact u.gives_of_read _ _ _ read

section Following

variable {σ τ α β : Type}

-- The same run with and without the record, which a panic may leave in another state.
inductive Follows : Ran Event (σ × Record) α → Ran Event σ α → Prop
  | returned (a : α) (s : σ) (events : List Event) :
      Follows ⟨.returned a, (s, u.record), events⟩ ⟨.returned a, s, events⟩
  | panicked (message : String) (s : σ) (r : Record) (events : List Event) :
      Follows ⟨.panicked message, (s, r), events⟩ ⟨.panicked message, s, events⟩

def Keeps (m : Act Event (σ × Record) α) (n : Act Event σ α) : Prop :=
  ∀ s, u.Follows (m (s, u.record)) (n s)

theorem keeps_pure (a : α) : u.Keeps (pure a : Act Event (σ × Record) α) (pure a) :=
  fun s => .returned a s []

theorem keeps_emit (event : Event) :
    u.Keeps (Act.emit event : Act Event (σ × Record) Unit) (Act.emit event) :=
  fun s => .returned () s [event]

theorem follows_bind (m : Act Event (σ × Record) α) (n : Act Event σ α)
    (f : α → Act Event (σ × Record) β) (g : α → Act Event σ β) (s : σ)
    (first : u.Follows (m (s, u.record)) (n s))
    (rest : ∀ a t, Act.Returns n s a t → u.Follows (f a (t, u.record)) (g a t)) :
    u.Follows ((m >>= f) (s, u.record)) ((n >>= g) s) := by
  change u.Follows (Act.bind m f (s, u.record)) (Act.bind n g s)
  unfold Act.bind
  generalize m (s, u.record) = ran at first
  generalize seen : n s = known at first
  cases first with
  | panicked message t r events => exact .panicked message t r events
  | returned a t events =>
      have ended := rest a t ⟨events, seen⟩
      dsimp only
      generalize f a (t, u.record) = ran at ended
      generalize g a t = seen at ended
      cases ended with
      | panicked message t r more => exact .panicked message t r (events ++ more)
      | returned b t more => exact .returned b t (events ++ more)

theorem keeps_bind (m : Act Event (σ × Record) α) (n : Act Event σ α)
    (f : α → Act Event (σ × Record) β) (g : α → Act Event σ β) (first : u.Keeps m n)
    (rest : ∀ a, u.Keeps (f a) (g a)) : u.Keeps (m >>= f) (n >>= g) :=
  fun s => u.follows_bind m n f g s (first s) fun a t _ => rest a t

theorem keeps_within (part : τ → σ) (put : σ → τ → τ) (m : Act Event (σ × Record) α)
    (n : Act Event σ α) (inner : u.Keeps m n) :
    u.Keeps (Act.within (fun s => (part s.1, s.2)) (fun p s => (put p.1 s.1, p.2)) m)
      (Act.within part put n) := by
  intro t
  have done := inner (part t)
  unfold Act.within
  generalize m (part t, u.record) = ran at done
  generalize n (part t) = seen at done
  cases done with
  | returned a s events => exact .returned a (put s t) events
  | panicked message s r events => exact .panicked message (put s t) r events

theorem with_local_at (m : Act Event (σ × Record) α) (n : Act Event σ α) (s : σ)
    (follows : u.Follows (m (s, u.record)) (n s)) : Act.withLocal u.record m s = n s := by
  unfold Act.withLocal
  generalize m (s, u.record) = ran at follows
  generalize n s = seen at follows
  cases follows with
  | returned a s events => rfl
  | panicked message s r events => rfl

theorem follows_read (m : Reading α) (missing : Bool) (a : α) (f : α → Act Event (σ × Record) β)
    (s : σ) (seen : Ran Event σ β) (gives : u.Gives missing m a)
    (rest : missing = false → u.Follows (f a (s, u.record)) seen) :
    u.Follows ((Act.within Prod.snd (fun r s => (s.1, r)) m >>= f) (s, u.record))
      (if missing then ⟨.panicked u.reason, s, u.source.callReports⟩ else seen) := by
  cases missing with
  | false =>
      have read := Act.within_at Prod.snd (fun r (s : σ × Record) => (s.1, r)) m (s, u.record) _ _ _
        (gives.there rfl)
      rw [Act.bind_quiet _ _ _ _ _ read]
      exact rest rfl
  | true =>
      obtain ⟨r, ran⟩ := gives.lacking rfl
      have read := Act.within_at Prod.snd (fun r (s : σ × Record) => (s.1, r)) m (s, u.record) _ _ _
        ran
      rw [Act.bind_stopped _ _ _ _ _ _ read]
      exact .panicked _ _ _ _

end Following

end Unread

end StructuredLog
