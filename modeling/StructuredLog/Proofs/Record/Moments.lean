import StructuredLog.Proofs.Context.Stack
import StructuredLog.Proofs.Json.Properties
import StructuredLog.Proofs.Record.ComputedOnce

set_option autoImplicit false

namespace StructuredLog

open Template

namespace Scopes

structure Sound (s : Scopes) : Prop where
  stacked : s.Stacked
  ordered : ∀ row ∈ s.stored, row.2.Ordered

def innermost (s : Scopes) : Properties := (s.stored.getLast?.map Prod.snd).getD []

theorem none_sound : Sound .none := ⟨none_stacked, fun _ member => nomatch member⟩

theorem set_sound (key : String) (value : Json) (s : Scopes) (sound : s.Sound) :
    (s.set key value).Sound := by
  refine ⟨set_stacked key value s sound.stacked, ?_⟩
  unfold set
  cases s.active with
  | nil => exact sound.ordered
  | cons id rest =>
      intro row member
      obtain ⟨old, there, rfl⟩ := List.mem_map.mp member
      by_cases here : old.1 = id
      · rw [if_pos here]
        exact Properties.insert_ordered key value old.2 (sound.ordered old there)
      · rw [if_neg here]
        exact sound.ordered old there

theorem entered_sound (context : Properties) (s : Scopes) (ordered : context.Ordered)
    (sound : s.Sound) : (s.entered context).Sound := by
  refine ⟨entered_stacked context s sound.stacked, ?_⟩
  intro row member
  rcases List.mem_append.mp member with old | new
  · exact sound.ordered row old
  · obtain rfl := List.mem_singleton.mp new
    exact ordered

-- Taking the top of the stack off is taking its number off: no number stands twice.
theorem left_active (id : Nat) (s : Scopes) (stacked : s.Stacked) :
    (s.left id).active = s.active.filter (· != id) := by
  change (if s.active.head? = some id then s.active.tail else s.active.filter (· != id)) = _
  by_cases top : s.active.head? = some id
  · rw [if_pos top]
    obtain ⟨rest, active⟩ := List.head?_eq_some_iff.mp top
    have below := stacked.ordered
    rw [active] at below ⊢
    have others : ∀ other ∈ rest, (other != id) = true := by
      intro other member
      have less := (List.pairwise_cons.mp below).1 other member
      exact bne_iff_ne.mpr (Nat.ne_of_lt less)
    simp [List.filter_eq_self.mpr others]
  · rw [if_neg top]

theorem left_sound (id : Nat) (s : Scopes) (sound : s.Sound) : (s.left id).Sound := by
  have active := left_active id s sound.stacked
  have stored : (s.left id).stored = s.stored.filter fun row => row.1 != id := rfl
  refine ⟨⟨?_, ?_, ?_⟩, ?_⟩
  · rw [active, stored, ← List.filter_reverse, ← sound.stacked.keys, List.filter_map]
    rfl
  · rw [active]
    exact sound.stacked.ordered.filter _
  · intro other member
    rw [active] at member
    exact sound.stacked.below other (List.mem_filter.mp member).1
  · intro row member
    exact sound.ordered row (List.mem_filter.mp member).1

theorem ambient_innermost (s : Scopes) (stacked : s.Stacked) : s.ambient = s.innermost := by
  obtain ⟨next, stored, active⟩ := s
  have keys : stored.map Prod.fst = active.reverse := stacked.keys
  have below : active.Pairwise (· > ·) := stacked.ordered
  cases stored using List.reverseRecOn with
  | nil =>
      obtain rfl : active = [] := List.reverse_eq_nil_iff.mp keys.symm
      rfl
  | append_singleton outer last =>
      have top : active = last.1 :: (outer.map Prod.fst).reverse := by
        have turned := congrArg List.reverse keys
        rw [List.reverse_reverse] at turned
        simpa using turned.symm
      subst top
      have others : ∀ row ∈ outer, ¬ (row.1 == last.1) = true := by
        intro row member
        have less := (List.pairwise_cons.mp below).1 row.1
          (List.mem_reverse.mpr (List.mem_map_of_mem member))
        simpa using Nat.ne_of_lt less
      simp [ambient, store, find?, innermost, List.find?_append, List.find?_eq_none.mpr others]

theorem innermost_ordered (s : Scopes) (sound : s.Sound) : s.innermost.Ordered := by
  unfold innermost
  cases last : s.stored.getLast? with
  | none => exact List.Pairwise.nil
  | some row => exact sound.ordered row (List.mem_of_getLast? last)

end Scopes

inductive Moment where
  | set (key : String) (value : Json)
  | enter (context : Properties)
  | leave (id : Nat)
  | read (q : Question)

namespace Moment

def onScopes {α : Type} (m : Act Event Scopes α) : Act Event (Scopes × Record) α :=
  Act.within Prod.fst (fun s w => (s, w.2)) m

def onRecord {α : Type} (m : Record.Reading α) : Act Event (Scopes × Record) α :=
  Act.within Prod.snd (fun r w => (w.1, r)) m

def run (zone : Time.Zone) : Moment → Act Event (Scopes × Record) Unit
  | .set key value => onScopes (Act.modify (Scopes.set key value))
  | .enter context => do
      let _ ← onScopes (Scopes.enter context)
      return ()
  | .leave id => onScopes (Scopes.leave id)
  | .read q => do
      let _ ← onRecord (Act.attempt (Record.ask zone q))
      return ()

def runAll (zone : Time.Zone) : List Moment → Act Event (Scopes × Record) Unit
  | [] => pure ()
  | moment :: rest => do
      moment.run zone
      runAll zone rest

def thenAsk (zone : Time.Zone) (moments : List Moment) (q : Question) :
    Act Event (Scopes × Record) Answer := do
  runAll zone moments
  onRecord (Record.ask zone q)

def answer (zone : Time.Zone) (moments : List Moment) (q : Question) (s : Scopes) (r : Record) :
    Outcome Answer := (thenAsk zone moments q (s, r)).outcome

def asked : Moment → List Question
  | .read q => [q]
  | _ => []

def scopes (s : Scopes) : Moment → Scopes
  | .set key value => s.set key value
  | .enter context => s.entered context
  | .leave id => s.left id
  | .read _ => s

def scopesAfter (moments : List Moment) (s : Scopes) : Scopes := moments.foldl scopes s

def Proper : Moment → Prop
  | .enter context => context.Ordered
  | _ => True

theorem scopes_sound (moment : Moment) (proper : moment.Proper) (s : Scopes) (sound : s.Sound) :
    (moment.scopes s).Sound := by
  cases moment with
  | set key value => exact s.set_sound key value sound
  | enter context => exact s.entered_sound context proper sound
  | leave id => exact s.left_sound id sound
  | read q => exact sound

theorem scopes_after_sound (moments : List Moment) (proper : ∀ moment ∈ moments, moment.Proper)
    (s : Scopes) (sound : s.Sound) : (scopesAfter moments s).Sound := by
  induction moments generalizing s with
  | nil => exact sound
  | cons moment rest ih =>
      obtain ⟨first, others⟩ := List.forall_mem_cons.mp proper
      exact ih others (moment.scopes s) (scopes_sound moment first s sound)

-- The context and the record go their own ways: a record is changed by reads of it only.
theorem run_apart (zone : Time.Zone) (moment : Moment) (s : Scopes) (r : Record) :
    Act.Returns (moment.run zone) (s, r) () (moment.scopes s, r.after zone moment.asked) := by
  cases moment with
  | set key value => exact ⟨_, rfl⟩
  | enter context => exact ⟨_, rfl⟩
  | leave id => exact ⟨_, rfl⟩
  | read q =>
      change Act.Returns _ (s, r) () (s, (Record.readAll zone [q] r).state)
      rw [(Record.read_all_cons zone q [] r).1]
      exact ⟨_, rfl⟩

theorem run_all_apart (zone : Time.Zone) (moments : List Moment) (s : Scopes) (r : Record) :
    Act.Returns (runAll zone moments) (s, r) ()
      (scopesAfter moments s, r.after zone (moments.flatMap asked)) := by
  induction moments generalizing s r with
  | nil => exact Act.returns_pure () (s, r)
  | cons moment rest ih =>
      have joined : r.after zone ((moment :: rest).flatMap asked) =
          (r.after zone moment.asked).after zone (rest.flatMap asked) :=
        (Record.read_all_append zone moment.asked (rest.flatMap asked) r).1
      rw [joined]
      exact Act.returns_bind _ _ _ _ _ _ _ (run_apart zone moment s r) (ih _ _)

theorem answer_apart (zone : Time.Zone) (moments : List Moment) (q : Question) (s : Scopes)
    (r : Record) :
    answer zone moments q s r = r.answer zone (moments.flatMap asked) q := by
  obtain ⟨events, ran⟩ := run_all_apart zone moments s r
  unfold answer thenAsk
  change (Act.bind (runAll zone moments) _ (s, r)).outcome = _
  rw [Act.bind_returned _ _ _ _ _ _ ran]
  rfl

end Moment

end StructuredLog
