import StructuredLog.Proofs.Context.Program
import StructuredLog.Proofs.Context.Stack

set_option autoImplicit false

namespace StructuredLog

namespace Walk

open Scopes

structure Good (place : Nat) (w : Walk) : Prop where
  held : place < w.engine.scopes.length
  stacked : Stacked (w.now place)
  depth : (w.now place).depth = w.entered
  seen : ∀ m ∈ w.seen, Stacked m.2 ∧ m.2.depth = m.1
  ends : ∀ m ∈ w.ends, m.2.active.head? = some m.1
  visits : ∀ v ∈ w.visits, Restored v.1 v.2
  matched : w.ends.map Prod.fst = w.visits.map fun v => v.1.next
  counted : w.visits.length + w.entered = (w.now place).next

-- What code may do to a good history: keep it good, and leave as many scopes as it entered.
structure Sound (place : Nat) (w w' : Walk) : Prop where
  good : Good place w'
  framed : Framed (w.now place) (w'.now place)
  entered : w'.entered = w.entered

theorem sound_refl (place : Nat) (w : Walk) (good : Good place w) : Sound place w w :=
  ⟨good, framed_refl _, rfl⟩

theorem sound_trans (place : Nat) (w w' w'' : Walk) (first : Sound place w w')
    (second : Sound place w' w'') : Sound place w w'' :=
  ⟨second.good, framed_trans _ _ _ first.framed second.framed,
    second.entered.trans first.entered⟩

theorem good_noted (place : Nat) (w : Walk) (good : Good place w) : Good place (noted place w) := by
  refine { good with seen := ?_ }
  intro m member
  rcases List.mem_append.mp member with old | new
  · exact good.seen m old
  · rw [List.mem_singleton.mp new]
    exact ⟨good.stacked, good.depth⟩

def replaced (place : Nat) (scopes : Scopes) (w : Walk) : Walk :=
  { w with engine := w.engine.putScopes place scopes }

theorem now_replaced (place : Nat) (scopes : Scopes) (w : Walk)
    (held : place < w.engine.scopes.length) : (replaced place scopes w).now place = scopes := by
  change ((w.engine.scopes.modify place fun _ => scopes)[place]?).getD .none = scopes
  rw [List.getElem?_modify_eq, List.getElem?_eq_getElem held]
  rfl

theorem good_replaced (place : Nat) (scopes : Scopes) (w : Walk) (good : Good place w)
    (stacked : Stacked scopes) (framed : Framed (w.now place) scopes)
    (next : scopes.next = (w.now place).next) : Good place (replaced place scopes w) := by
  have held : place < (w.engine.scopes.modify place fun _ => scopes).length := by
    rw [List.length_modify]
    exact good.held
  have now := now_replaced place scopes w good.held
  refine { good with held := held, stacked := ?_, depth := ?_, counted := ?_ }
  · rw [now]
    exact stacked
  · rw [now, depth, framed.active]
    exact good.depth
  · rw [now, next]
    exact good.counted

section Actions

variable {τ α β : Type} (place : Nat) (walk : τ → Walk)

def Safe (m : Act Event τ α) : Prop :=
  ∀ t, Good place (walk t) → Sound place (walk t) (walk (m t).state)

theorem safe_still (m : Act Event τ α) (still : ∀ t, walk (m t).state = walk t) :
    Safe place walk m := by
  intro t good
  rw [still]
  exact sound_refl place (walk t) good

theorem safe_bind (m : Act Event τ α) (f : α → Act Event τ β) (first : Safe place walk m)
    (rest : ∀ a, Safe place walk (f a)) : Safe place walk (m >>= f) := by
  intro t good
  have early := first t good
  change Sound place (walk t) (walk (Act.bind m f t).state)
  cases ran : m t with
  | mk outcome s events =>
      rw [ran] at early
      cases outcome with
      | panicked message =>
          rw [Act.bind_panicked m f t s message events ran]
          exact early
      | returned a =>
          rw [Act.bind_returned m f t s a events ran]
          exact sound_trans place _ _ _ early (rest a s early.good)

theorem safe_attempt (m : Act Event τ α) (safe : Safe place walk m) :
    Safe place walk (Act.attempt m) := safe

theorem safe_noted : Safe place id (Act.modify (noted place)) := fun w good =>
  ⟨good_noted place w good, framed_refl _, rfl⟩

end Actions

section Calls

variable (place : Nat) (call : Nat → Level → Act Event (Walk × Record) Unit)

theorem safe_deliver (platform : Platform) (m : Manager) :
    Safe place Prod.fst (Logger.deliver platform m : Act Event (Walk × Record) Delivery) :=
  fun _ good => ⟨{ good with }, framed_refl _, rfl⟩

theorem safe_notify_all (level : Level) (safe : ∀ n, Safe place Prod.fst (call n level))
    (subscribers : List Subscriber) : Safe place Prod.fst (notifyAll call level subscribers) := by
  induction subscribers with
  | nil => exact safe_still place Prod.fst _ fun _ => rfl
  | cons s rest ih => exact safe_bind place Prod.fst _ _ (safe s.listener) fun _ => ih

theorem safe_served (l : Logger) (level : Level) (safe : ∀ n, Safe place Prod.fst (call n level))
    (deliver : Act Event (Walk × Record) Delivery) (delivers : Safe place Prod.fst deliver) :
    Safe place Prod.fst
      (do let delivery ← deliver; Logger.notify call l.registry level; return delivery) := by
  refine safe_bind place Prod.fst _ _ delivers fun delivery => ?_
  refine safe_bind place Prod.fst _ _ ?_ fun _ => safe_still place Prod.fst _ fun _ => rfl
  refine safe_bind place Prod.fst _ _ (safe_still place Prod.fst _ fun _ => rfl) fun s => ?_
  exact safe_notify_all place call level safe _

theorem safe_with_local {α : Type} (r : Record) (m : Act Event (Walk × Record) α)
    (safe : Safe place Prod.fst m) : Safe place id (Act.withLocal r m) := fun w good =>
  safe (w, r) good

-- A log call leaves the scopes to its listeners.
theorem safe_log (l : Logger) (level : Level) (source : Source)
    (safe : ∀ n, Safe place Prod.fst (call n level)) : Safe place id (l.log call level source) := by
  refine safe_bind place id _ _ (safe_still place id _ fun _ => rfl) fun w => ?_
  cases found : l.family? (Host.engine w) with
  | none => exact safe_still place id _ fun _ => by simp only [found]; rfl
  | some f =>
      simp only [found]
      cases on : f.enabled with
      | false =>
          rw [if_neg Bool.false_ne_true]
          exact safe_still place id _ fun _ => rfl
      | true =>
          rw [if_pos rfl]
          refine safe_bind place id _ _ (safe_still place id (Act.emitAll _) fun _ => rfl) fun _ => ?_
          refine safe_with_local place _ _ ?_
          cases f.threshold.passes level with
          | false => exact safe_served place call l level safe _ (safe_still place _ _ fun _ => rfl)
          | true => exact safe_served place call l level safe _ (safe_deliver place _ f.transports)

theorem safe_listen (run : Record → Act Event Walk Json) (safe : ∀ r, Safe place id (run r)) :
    Safe place Prod.fst (listen run) := by
  refine safe_bind place Prod.fst _ _ (safe_still place Prod.fst _ fun _ => rfl) fun s => ?_
  refine safe_bind place Prod.fst _ _ ?_ fun _ => safe_still place Prod.fst _ fun _ => rfl
  exact fun t good => safe s.2 t.1 good

end Calls

theorem safe_write (place : Nat) (key : String) (value : Json) :
    Safe place id (Engine.onScopes place (Act.modify (Scopes.set key value))) := by
  intro w good
  have framed := set_framed key value (w.now place)
  have next := (set_active key value (w.now place)).2
  refine ⟨good_replaced place _ w good (set_stacked key value _ good.stacked) framed next, ?_, rfl⟩
  change Framed (w.now place) ((replaced place ((w.now place).set key value) w).now place)
  rw [now_replaced place _ w good.held]
  exact framed

section Visits

variable (place : Nat) (context : Properties)

def entering (w : Walk) : Walk := opened place (replaced place ((w.now place).entered context) w)

def leaving (before : Scopes) (w : Walk) : Walk :=
  closed place before
    (replaced place ((w.now place).left before.next) (ended place before.next w))

theorem visit_state (body : Act Event Walk Json) (w : Walk) :
    (visit place context body w).state =
      leaving place (w.now place) (body (entering place context w)).state := rfl

theorem entering_good (w : Walk) (good : Good place w) :
    Good place (entering place context w) ∧
      (entering place context w).now place = (w.now place).entered context := by
  have now := now_replaced place ((w.now place).entered context) w good.held
  refine ⟨good_noted place _ ?_, now⟩
  have held : place < (w.engine.scopes.modify place fun _ => (w.now place).entered context).length := by
    rw [List.length_modify]
    exact good.held
  refine { good with held := held, stacked := ?_, depth := ?_, counted := ?_ }
  · change Stacked ((replaced place _ w).now place)
    rw [now]
    exact entered_stacked context _ good.stacked
  · change ((replaced place _ w).now place).active.length = w.entered + 1
    rw [now, ← good.depth]
    rfl
  · change w.visits.length + (w.entered + 1) = ((replaced place _ w).now place).next
    have counted := good.counted
    rw [now]
    change _ = (w.now place).next + 1
    omega

theorem leaving_good (w inner : Walk) (good : Good place w)
    (sound : Sound place (entering place context w) inner) :
    Sound place w (leaving place (w.now place) inner) := by
  have framed := sound.framed
  rw [(entering_good place context w good).2] at framed
  obtain ⟨head, restored⟩ := left_restored context (w.now place) (inner.now place) good.stacked framed
  have entered : inner.entered = w.entered + 1 := sound.entered
  have now : (leaving place (w.now place) inner).now place =
      (inner.now place).left (w.now place).next :=
    now_replaced place _ (ended place (w.now place).next inner) sound.good.held
  refine ⟨good_noted place _ ?_, ?_, ?_⟩
  · have held : place < (inner.engine.scopes.modify place fun _ =>
        (inner.now place).left (w.now place).next).length := by
      rw [List.length_modify]
      exact sound.good.held
    refine ⟨held, ?_, ?_, sound.good.seen, ?_, ?_, ?_, ?_⟩
    · change Stacked ((leaving place (w.now place) inner).now place)
      rw [now]
      exact restored_stacked _ _ good.stacked restored
    · change ((leaving place (w.now place) inner).now place).active.length = inner.entered - 1
      have depth : (w.now place).active.length = w.entered := good.depth
      rw [now, restored.active, depth]
      omega
    · intro m member
      rcases List.mem_append.mp member with old | new
      · exact sound.good.ends m old
      · rw [List.mem_singleton.mp new]
        exact head
    · intro v member
      rcases List.mem_append.mp member with old | new
      · exact sound.good.visits v old
      · rw [List.mem_singleton.mp new]
        change Restored (w.now place) ((leaving place (w.now place) inner).now place)
        rw [now]
        exact restored
    · change (inner.ends ++ [_]).map Prod.fst = (inner.visits ++ [_]).map _
      rw [List.map_append, List.map_append, sound.good.matched]
      rfl
    · change (inner.visits ++ [_]).length + (inner.entered - 1) =
        ((leaving place (w.now place) inner).now place).next
      have counted := sound.good.counted
      rw [now, List.length_append, List.length_singleton]
      change _ = (inner.now place).next
      omega
  · rw [now]
    exact restored_framed _ _ restored
  · change inner.entered - 1 = w.entered
    omega

theorem safe_visit (body : Act Event Walk Json) (safe : Safe place id body) :
    Safe place id (visit place context body) := by
  intro w good
  change Sound place w (visit place context body w).state
  rw [visit_state]
  exact leaving_good place context w _ good
    (safe (entering place context w) (entering_good place context w good).1)

end Visits

end Walk

namespace Program

open Walk

theorem run_safe (place : Nat) (p : Program) : Safe place id (p.run place) := by
  induction p with
  | done value => exact safe_still place id _ fun _ => rfl
  | panic message => exact safe_still place id _ fun _ => rfl
  | set key value next ih =>
      refine safe_bind place id _ _ ?_ fun _ => safe_bind place id _ _ (safe_noted place) fun _ => ih
      exact safe_write place key value
  | get key next ih =>
      refine safe_bind place id _ _ (safe_still place id _ fun _ => rfl) fun w => ?_
      exact ih _
  | store next ih =>
      refine safe_bind place id _ _ (safe_still place id _ fun _ => rfl) fun w => ?_
      exact ih _
  | log l level source heard next ihHeard ihNext =>
      refine safe_bind place id _ _ ?_ fun delivery =>
        safe_bind place id _ _ (safe_noted place) fun _ => ihNext delivery
      exact safe_log place _ l level source fun n => safe_listen place _ fun r => ihHeard n r
  | scope context body next ihBody ihNext =>
      exact safe_bind place id _ _ (safe_visit place context _ ihBody) fun value => ihNext value
  | caught body next ihBody ihNext =>
      exact safe_bind place id _ _ (safe_attempt place id _ ihBody) fun outcome => ihNext outcome

theorem start_good (place : Nat) (e : Engine) (fresh : e.scopes[place]? = some .none) :
    Good place (Walk.start place e) := by
  have now : e.scopesAt place = .none := by
    rw [Engine.scopesAt, fresh]
    rfl
  refine good_noted place _ ⟨(List.getElem?_eq_some_iff.mp fresh).1, ?_, ?_, ?_, ?_, ?_, rfl, ?_⟩
  · change Scopes.Stacked (e.scopesAt place)
    rw [now]
    exact Scopes.none_stacked
  · change (e.scopesAt place).depth = 0
    rw [now]
    rfl
  · exact fun m member => nomatch member
  · exact fun m member => nomatch member
  · exact fun v member => nomatch member
  · change 0 + 0 = (e.scopesAt place).next
    rw [now]
    rfl

theorem scopes_stay_a_stack (place : Nat) (p : Program) (e : Engine)
    (fresh : e.scopes[place]? = some .none) :
    (∀ m ∈ (p.walk place e).seen, Scopes.Stacked m.2 ∧ m.2.depth = m.1) ∧
      (∀ m ∈ (p.walk place e).ends, m.2.active.head? = some m.1) ∧
      (∀ v ∈ (p.walk place e).visits, Scopes.Restored v.1 v.2) ∧
      (p.walk place e).ends.map Prod.fst = (p.walk place e).visits.map (fun v => v.1.next) ∧
      (p.walk place e).visits.length = ((p.walk place e).now place).next ∧
      ((p.walk place e).now place).active = [] ∧ ((p.walk place e).now place).stored = [] := by
  have sound := run_safe place p (Walk.start place e) (start_good place e fresh)
  have outside : (p.walk place e).entered = 0 := sound.entered
  have counted := sound.good.counted
  have active : ((p.walk place e).now place).active = [] :=
    List.length_eq_zero_iff.mp (sound.good.depth.trans outside)
  have keys := sound.good.stacked.keys
  refine ⟨sound.good.seen, sound.good.ends, sound.good.visits, sound.good.matched, ?_, active, ?_⟩
  · change (p.walk place e).visits.length + (p.walk place e).entered = _ at counted
    rw [outside] at counted
    exact counted
  · change ((p.walk place e).now place).stored.map Prod.fst =
      ((p.walk place e).now place).active.reverse at keys
    rw [active] at keys
    exact List.map_eq_nil_iff.mp keys

theorem scopes_stay_a_stack_over_a_caught_panic :
    ∃ w, w = walk 0
        (.scope [("a", .null)]
          (.caught (.scope [] (.set "b" .null (.panic "out")) .done) fun _ =>
            .set "a" (.bool true) (.done .null))
          .done) { Engine.empty 0 with scopes := [.none] } ∧
      w.seen.map Prod.fst = [0, 1, 2, 2, 1, 1, 0] ∧ w.ends.map Prod.fst = [1, 0] ∧
      (∀ m ∈ w.seen, Scopes.Stacked m.2 ∧ m.2.depth = m.1) ∧
      (∀ m ∈ w.ends, m.2.active.head? = some m.1) ∧
      (∀ v ∈ w.visits, Scopes.Restored v.1 v.2) ∧ (w.now 0).stored = [] := by
  obtain ⟨seen, ends, visits, _, _, _, stored⟩ := scopes_stay_a_stack 0
    (.scope [("a", .null)]
      (.caught (.scope [] (.set "b" .null (.panic "out")) .done) fun _ =>
        .set "a" (.bool true) (.done .null))
      .done) { Engine.empty 0 with scopes := [.none] } rfl
  exact ⟨_, rfl, rfl, rfl, seen, ends, visits, stored⟩

end Program

end StructuredLog
