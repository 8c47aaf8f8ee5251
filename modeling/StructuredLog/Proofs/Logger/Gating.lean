import Mathlib.Data.List.Nodup
import StructuredLog.Proofs.Ids
import StructuredLog.Proofs.Logger.Call
import StructuredLog.Proofs.Subscription.Registry
import StructuredLog.Proofs.Transport.Manager

set_option autoImplicit false

namespace StructuredLog

def roster (source : IdSource) (who : Nat) (subscribers : List (Nat × Bool)) : List Subscriber :=
  ((List.range subscribers.length).filter fun n => subscribers[n]? == some (who, true)).map fun n =>
    ⟨source.nth n, n⟩

theorem roster_subscribed (source : IdSource) (who other : Nat) (subscribers : List (Nat × Bool)) :
    roster source who (subscribers ++ [(other, true)]) = roster source who subscribers ++
      if other = who then [⟨source.nth subscribers.length, subscribers.length⟩] else [] := by
  have earlier : (List.range subscribers.length).filter
        (fun n => (subscribers ++ [(other, true)])[n]? == some (who, true)) =
      (List.range subscribers.length).filter fun n => subscribers[n]? == some (who, true) := by
    refine List.filter_congr ?_
    intro n bound
    rw [List.getElem?_append_left (List.mem_range.mp bound)]
  unfold roster
  rw [List.length_append, List.length_singleton, List.range_succ, List.filter_append, earlier,
    List.map_append]
  by_cases own : other = who
  · simp [own]
  · simp [own]

theorem roster_listener (source : IdSource) (who : Nat) (subscribers : List (Nat × Bool))
    (s : Subscriber) (member : s ∈ roster source who subscribers) :
    subscribers[s.listener]? = some (who, true) ∧ s.id = source.nth s.listener := by
  obtain ⟨n, kept, made⟩ := List.mem_map.mp member
  subst made
  simpa using (List.mem_filter.mp kept).2

theorem roster_unsubscribed (source : IdSource) (who handle : Nat)
    (subscribers : List (Nat × Bool)) :
    roster source who (subscribers.modify handle fun s => (s.1, false)) =
      (roster source who subscribers).filter fun s => s.listener != handle := by
  unfold roster
  rw [List.length_modify, List.filter_map, List.filter_filter]
  refine congrArg _ (List.filter_congr ?_)
  intro n _
  rw [List.getElem?_modify]
  by_cases gone : handle = n
  · cases subscribers[n]? with
    | none => simp [gone]
    | some s => simp [gone]
  · simp [gone, Ne.symm gone]

-- A handle takes off its own listener and no other, where the ids that were drawn are distinct.
theorem roster_own_handle (source : IdSource) (who handle : Nat) (on : Bool)
    (subscribers : List (Nat × Bool)) (held : subscribers[handle]? = some (who, on))
    (unique : ∀ i j, i < subscribers.length → j < subscribers.length →
      source.nth i = source.nth j → i = j) :
    roster source who (subscribers.modify handle fun s => (s.1, false)) =
      (roster source who subscribers).filter fun s => s.id != source.nth handle := by
  rw [roster_unsubscribed]
  refine List.filter_congr ?_
  intro s listed
  obtain ⟨registered, id⟩ := roster_listener source who subscribers s listed
  have inside := (List.getElem?_eq_some_iff.mp registered).1
  have bound := (List.getElem?_eq_some_iff.mp held).1
  by_cases same : s.listener = handle
  · simp [id, same]
  · have different : source.nth s.listener ≠ source.nth handle := fun ids =>
      same (unique _ _ inside bound ids)
    rw [id, bne_iff_ne.mpr same, bne_iff_ne.mpr different]

theorem roster_other_handle (source : IdSource) (who owner handle : Nat) (on : Bool)
    (subscribers : List (Nat × Bool)) (held : subscribers[handle]? = some (owner, on))
    (apart : owner ≠ who) :
    roster source who (subscribers.modify handle fun s => (s.1, false)) =
      roster source who subscribers := by
  rw [roster_unsubscribed]
  refine List.filter_eq_self.mpr ?_
  intro s listed
  obtain ⟨registered, _⟩ := roster_listener source who subscribers s listed
  have elsewhere : s.listener ≠ handle := by
    intro same
    rw [same, held] at registered
    exact apart (congrArg Prod.fst (Option.some.inj registered))
  simp [elsewhere]

theorem roster_hears {α : Type} (source : IdSource) (who n : Nat) (subscribers : List (Nat × Bool))
    (call : α) :
    (((roster source who subscribers).map fun s => (s.listener, call)).filter (·.1 == n)).map
        Prod.snd = if subscribers[n]? == some (who, true) then [call] else [] := by
  have once : ((List.range subscribers.length).filter
      fun m => subscribers[m]? == some (who, true)).Nodup := List.nodup_range.filter _
  unfold roster
  rw [List.map_map, List.filter_map, List.map_map]
  change (((List.range subscribers.length).filter
    fun m => subscribers[m]? == some (who, true)).filter (· == n)).map (fun _ => call) = _
  rw [List.filter_beq, List.map_replicate]
  by_cases held : subscribers[n]? == some (who, true)
  · have bound := (List.getElem?_eq_some_iff.mp (eq_of_beq held)).1
    have member : n ∈ (List.range subscribers.length).filter
        fun m => subscribers[m]? == some (who, true) :=
      List.mem_filter.mpr ⟨List.mem_range.mpr bound, held⟩
    rw [List.count_eq_one_of_mem once member, if_pos held]
    rfl
  · have absent : n ∉ (List.range subscribers.length).filter
        fun m => subscribers[m]? == some (who, true) := fun member =>
      held (List.mem_filter.mp member).2
    rw [List.count_eq_zero_of_not_mem absent, if_neg held]
    rfl

structure Setting where
  home : Nat
  scopes : Nat
  place : Nat
  manager : Manager
  watched : TransportRef
  source : IdSource
  clock : Nat
  distinct : manager.ids.Nodup
  attached : watched ∈ manager.refs

def Setting.family (c : Setting) (g : Gates) : Family :=
  ⟨g.label, g.enabled, g.threshold, c.manager, c.scopes, c.place⟩

-- The gates and the histories tell all of the engine that a later step can depend on.
structure Mirrors (c : Setting) (k : Kin) (g : Gates) (stored : List Snapshot)
    (told : Nat → List (Level × Record)) : Prop where
  clock : k.engine.clock = c.clock
  family : k.engine.families[c.home]? = some (c.family g)
  outside : k.engine.scopes[c.scopes]? = some .none
  leads : ∀ x ∈ c.manager.refs, x.Leads k.engine.transports
  watched : k.engine.transports[c.watched.slot]? =
    some ⟨c.watched.id, g.flag, .memory none stored false⟩
  drawn : k.engine.sources[c.place]? = some (c.source.skip g.subscribers.length)
  categories : k.members.map Logger.category = g.categories
  related : ∀ l ∈ k.members, l.family = c.home
  apart : (k.members.map Logger.registry).Nodup
  rosters : ∀ (who : Nat) (l : Logger), k.members[who]? = some l →
    k.engine.registries[l.registry]? = some ⟨roster c.source who g.subscribers, c.place⟩
  counted : k.handles.length = g.subscribers.length
  handles : ∀ (n who : Nat) (on : Bool), g.subscribers[n]? = some (who, on) →
    ∃ l, k.members[who]? = some l ∧ k.handles[n]? = some ⟨l.registry, c.source.nth n⟩
  heard : ∀ n : Nat, (k.heard.filter (·.1 == n)).map Prod.snd = told n

section Steps

variable (c : Setting) (k : Kin) (g : Gates) (stored : List Snapshot)
  (told : Nat → List (Level × Record))

theorem mirrors_member (mirrors : Mirrors c k g stored told) (who : Nat) :
    (k.members[who]? = none ∧ g.categories[who]? = none) ∨
      ∃ l, k.members[who]? = some l ∧ g.categories[who]? = some l.category ∧ l.family = c.home := by
  rw [← mirrors.categories, List.getElem?_map]
  cases member : k.members[who]? with
  | none => exact Or.inl ⟨rfl, rfl⟩
  | some l => exact Or.inr ⟨l, rfl, rfl, mirrors.related l (List.mem_of_getElem? member)⟩

theorem mirrors_on_member (mirrors : Mirrors c k g stored told) (who : Nat)
    (f : Logger → Kin → Kin) (f' : Gates → Gates)
    (changed : ∀ l, k.members[who]? = some l → l.family = c.home →
      Mirrors c (f l k) (f' g) stored told) :
    Mirrors c (Kin.onMember who f k) (g.onMember who f') stored told := by
  unfold Kin.onMember Gates.onMember
  rcases mirrors_member c k g stored told mirrors who with ⟨absent, beyond⟩ | ⟨l, member, category, home⟩
  · have outside : ¬who < g.categories.length := Nat.not_lt.mpr (List.getElem?_eq_none_iff.mp beyond)
    rw [absent, if_neg outside]
    exact mirrors
  · have inside : who < g.categories.length := (List.getElem?_eq_some_iff.mp category).1
    rw [member, if_pos inside]
    exact changed l member home

theorem mirrors_family (mirrors : Mirrors c k g stored told) (change : Family → Family)
    (label : String) (enabled : Bool) (threshold : Threshold)
    (changed : change (c.family g) =
      c.family { g with label := label, enabled := enabled, threshold := threshold }) :
    Mirrors c (k.onEngine (Engine.modifyFamily c.home change))
      { g with label := label, enabled := enabled, threshold := threshold } stored told := by
  refine { mirrors with family := ?_ }
  change (k.engine.families.modify c.home change)[c.home]? = _
  rw [List.getElem?_modify_eq, mirrors.family]
  exact congrArg some changed

theorem mirrors_set (mirrors : Mirrors c k g stored told) (who : Nat) (change : Family → Family)
    (label : String) (enabled : Bool) (threshold : Threshold)
    (changed : change (c.family g) =
      c.family { g with label := label, enabled := enabled, threshold := threshold }) :
    Mirrors c (Kin.onMember who (fun l => Kin.onEngine (Engine.modifyFamily l.family change)) k)
      (g.onMember who fun g => { g with label := label, enabled := enabled, threshold := threshold })
      stored told := by
  refine mirrors_on_member c k g stored told mirrors who _ _ ?_
  intro l _ home
  rw [home]
  exact mirrors_family c k g stored told mirrors change label enabled threshold changed

theorem mirrors_pool (mirrors : Mirrors c k g stored told) (pool : Pool) (flag : Bool)
    (stored' : List Snapshot) (leads : ∀ x ∈ c.manager.refs, x.Leads pool)
    (watched : pool[c.watched.slot]? = some ⟨c.watched.id, flag, .memory none stored' false⟩) :
    Mirrors c { k with engine := { k.engine with transports := pool } } { g with flag := flag }
      stored' told :=
  { mirrors with leads := leads, watched := watched }

theorem mirrors_transports (mirrors : Mirrors c k g stored told) (l : Logger)
    (home : l.family = c.home) : l.transports k.engine = c.manager := by
  rw [Logger.transports, Logger.family?, home, mirrors.family]
  rfl

theorem mirrors_flag (mirrors : Mirrors c k g stored told) (slot : Nat) (enabled : Bool) :
    Mirrors c (k.setPool (List.modify · slot fun t => { t with enabled := enabled }))
      { g with flag := if slot = c.watched.slot then enabled else g.flag } stored told := by
  refine mirrors_pool c k g stored told mirrors _ _ stored ?_ ?_
  · intro x member
    exact Manager.leads_modify k.engine.transports slot enabled x (mirrors.leads x member)
  · rw [Manager.modify_known _ slot _ enabled _ mirrors.watched]
    by_cases here : slot = c.watched.slot
    · simp [here]
    · simp [here]

theorem mirrors_switch (mirrors : Mirrors c k g stored told) (id : String) (enabled : Bool) :
    Mirrors c (k.setPool fun pool => (c.manager.setEnabled id enabled pool).2)
      { g with flag := if id = c.watched.id then enabled else g.flag } stored told := by
  refine mirrors_pool c k g stored told mirrors _ _ stored ?_ ?_
  · intro x member
    exact Manager.leads_set_enabled c.manager id enabled k.engine.transports x (mirrors.leads x member)
  · rw [Manager.set_enabled_known c.manager id enabled _ c.watched _ c.distinct mirrors.leads
      c.attached mirrors.watched]
    by_cases here : id = c.watched.id
    · simp [here]
    · simp [here]

theorem mirrors_switch_all (mirrors : Mirrors c k g stored told) (enabled : Bool) :
    Mirrors c (k.setPool (c.manager.setAllEnabled enabled)) { g with flag := enabled } stored
      told := by
  refine mirrors_pool c k g stored told mirrors _ _ stored ?_ ?_
  · intro x member
    exact Manager.leads_set_all_enabled c.manager enabled k.engine.transports x (mirrors.leads x member)
  · have reached : c.watched.slot ∈ c.manager.refs.map TransportRef.slot :=
      List.mem_map_of_mem c.attached
    rw [Manager.set_all_enabled_known c.manager.refs enabled _ _ _ mirrors.watched, if_pos reached]

theorem registry_exists (mirrors : Mirrors c k g stored told) (n : Nat) (m : Logger)
    (known : k.members[n]? = some m) : m.registry < k.engine.registries.length :=
  (List.getElem?_eq_some_iff.mp (mirrors.rosters n m known)).1

theorem newcomer_roster (mirrors : Mirrors c k g stored told) :
    roster c.source k.members.length g.subscribers = [] := by
  refine List.eq_nil_iff_forall_not_mem.mpr ?_
  intro s listed
  obtain ⟨owner, known, _⟩ := mirrors.handles _ _ _ (roster_listener _ _ _ s listed).1
  simp at known

theorem mirrors_child (mirrors : Mirrors c k g stored told) (l : Logger) (name : String)
    (home : l.family = c.home) :
    Mirrors c
      { k with
        engine := (l.child name k.engine).2, members := k.members ++ [(l.child name k.engine).1] }
      { g with categories := g.categories ++ [l.category ++ [name]] } stored told := by
  have place : ((l.family? k.engine).map Family.source).getD 0 = c.place := by
    rw [Logger.family?, home, mirrors.family]
    rfl
  refine { mirrors with categories := ?_, related := ?_, apart := ?_, rosters := ?_, handles := ?_ }
  · change (k.members ++ _).map Logger.category = _
    rw [List.map_append, mirrors.categories]
    rfl
  · intro m listed
    rcases List.mem_append.mp listed with old | new
    · exact mirrors.related m old
    · rw [List.mem_singleton.mp new]
      exact home
  · refine registry_apart k.members _ mirrors.apart ?_
    intro m listed
    obtain ⟨n, known⟩ := List.mem_iff_getElem?.mp listed
    exact registry_exists c k g stored told mirrors n m known
  · intro n m known
    change (k.engine.registries ++ [⟨[], _⟩])[m.registry]? = _
    change (k.members ++ [_])[n]? = some m at known
    rw [place]
    rcases concat_lookup k.members _ m n known with old | ⟨here, new⟩
    · rw [List.getElem?_append_left (registry_exists c k g stored told mirrors n m old)]
      exact mirrors.rosters n m old
    · subst n
      subst m
      change (k.engine.registries ++ [_])[k.engine.registries.length]? = _
      rw [List.getElem?_concat_length, newcomer_roster c k g stored told mirrors]
  · intro n owner on subscribed
    obtain ⟨m, known, handle⟩ := mirrors.handles n owner on subscribed
    have bound := (List.getElem?_eq_some_iff.mp known).1
    exact ⟨m, (List.getElem?_append_left bound).trans known, handle⟩

theorem mirrors_subscribe (mirrors : Mirrors c k g stored told) (who : Nat) (l : Logger)
    (member : k.members[who]? = some l) :
    Mirrors c
      { k with
        engine := (k.engine.subscribe l.registry k.handles.length).2
        handles := k.handles ++ [(k.engine.subscribe l.registry k.handles.length).1] }
      { g with subscribers := g.subscribers ++ [(who, true)] } stored told := by
  have subscribed : k.engine.subscribe l.registry k.handles.length =
      (⟨l.registry, c.source.nth g.subscribers.length⟩,
        { k.engine with
          sources := k.engine.sources.set c.place (c.source.skip (g.subscribers.length + 1))
          registries := k.engine.registries.modify l.registry
            (Registry.register ⟨c.source.nth g.subscribers.length, g.subscribers.length⟩) }) := by
    rw [Engine.subscribe_drawn l.registry k.handles.length k.engine _ _
      (mirrors.rosters who l member) mirrors.drawn, mirrors.counted]
    rfl
  rw [subscribed]
  refine { mirrors with drawn := ?_, rosters := ?_, counted := ?_, handles := ?_ }
  · change (k.engine.sources.set c.place _)[c.place]? = _
    have inside := (List.getElem?_eq_some_iff.mp mirrors.drawn).1
    rw [List.getElem?_set_self inside, List.length_append, List.length_singleton]
  · intro n m known
    change (k.engine.registries.modify l.registry _)[m.registry]? = _
    rw [List.getElem?_modify, mirrors.rosters n m known, roster_subscribed]
    by_cases own : who = n
    · subst n
      rw [member] at known
      cases known
      simp [Registry.register]
    · have different : l.registry ≠ m.registry := fun same =>
        own (registry_owner k.members mirrors.apart who n l m member known same)
      simp [own, different]
  · change (k.handles ++ [_]).length = (g.subscribers ++ [_]).length
    rw [List.length_append, List.length_append, mirrors.counted]
    rfl
  · intro n owner on listed
    change ∃ m, k.members[owner]? = some m ∧ (k.handles ++ [_])[n]? = _
    change (g.subscribers ++ [(who, true)])[n]? = _ at listed
    rcases concat_lookup g.subscribers _ (owner, on) n listed with old | ⟨here, new⟩
    · obtain ⟨m, known, handle⟩ := mirrors.handles n owner on old
      have inside := (List.getElem?_eq_some_iff.mp handle).1
      exact ⟨m, known, (List.getElem?_append_left inside).trans handle⟩
    · cases new
      refine ⟨l, member, ?_⟩
      rw [here, ← mirrors.counted, List.getElem?_concat_length]

theorem mirrors_unsubscribe (mirrors : Mirrors c k g stored told) (handle : Nat)
    (unique : ∀ i j, i < g.subscribers.length → j < g.subscribers.length →
      c.source.nth i = c.source.nth j → i = j) :
    Mirrors c (Kin.changed (.unsubscribe handle) k)
      { g with subscribers := g.subscribers.modify handle fun s => (s.1, false) } stored told := by
  cases listed : g.subscribers[handle]? with
  | none =>
      have beyond := List.getElem?_eq_none_iff.mp listed
      have absent : k.handles[handle]? = none := by
        rw [List.getElem?_eq_none_iff, mirrors.counted]
        exact beyond
      rw [List.modify_eq_self beyond, Kin.changed]
      simpa only [absent] using mirrors
  | some s =>
      obtain ⟨owner, on⟩ := s
      obtain ⟨l, member, held⟩ := mirrors.handles handle owner on listed
      have changed : Kin.changed (.unsubscribe handle) k =
          k.onEngine (Engine.unsubscribe ⟨l.registry, c.source.nth handle⟩) := by
        simp only [Kin.changed, held]
      rw [changed]
      refine { mirrors with drawn := ?_, rosters := ?_, counted := ?_, handles := ?_ }
      · rw [List.length_modify]
        exact mirrors.drawn
      · intro n m known
        change k.members[n]? = some m at known
        change (k.engine.registries.modify l.registry _)[m.registry]? = _
        by_cases own : owner = n
        · subst n
          rw [member] at known
          cases known
          rw [List.getElem?_modify_eq, mirrors.rosters owner l member,
            roster_own_handle c.source owner handle on g.subscribers listed unique]
          rfl
        · have different : l.registry ≠ m.registry := fun same =>
            own (registry_owner k.members mirrors.apart owner n l m member known same)
          rw [List.getElem?_modify_ne _ _ different, mirrors.rosters n m known,
            roster_other_handle c.source n owner handle on g.subscribers listed own]
      · rw [List.length_modify]
        exact mirrors.counted
      · intro n who registered later
        change (g.subscribers.modify handle _)[n]? = _ at later
        have before : ∃ was, g.subscribers[n]? = some (who, was) := by
          by_cases gone : handle = n
          · subst n
            rw [List.getElem?_modify_eq, listed] at later
            cases later
            exact ⟨on, listed⟩
          · rw [List.getElem?_modify_ne _ _ gone] at later
            exact ⟨registered, later⟩
        obtain ⟨was, earlier⟩ := before
        exact mirrors.handles n who was earlier

theorem mirrors_changed (mirrors : Mirrors c k g stored told) (step : FamilyStep)
    (unique : ∀ i j, i < g.subscribers.length → j < g.subscribers.length →
      c.source.nth i = c.source.nth j → i = j) :
    Mirrors c (Kin.changed step k) (g.after c.watched step) stored told := by
  cases step with
  | log who level message => exact mirrors
  | setThreshold who threshold =>
      exact mirrors_set c k g stored told mirrors who _ g.label g.enabled threshold rfl
  | setEnabled who enabled =>
      exact mirrors_set c k g stored told mirrors who _ g.label enabled g.threshold rfl
  | setLabel who label =>
      exact mirrors_set c k g stored told mirrors who _ label g.enabled g.threshold rfl
  | flag slot enabled =>
      have changed := mirrors_flag c k g stored told mirrors slot enabled
      simp only [Kin.changed, Gates.after]
      by_cases here : slot = c.watched.slot
      · rw [if_pos here] at changed ⊢
        exact changed
      · rw [if_neg here] at changed ⊢
        exact changed
  | switch who id enabled =>
      have changed := mirrors_switch c k g stored told mirrors id enabled
      simp only [Kin.changed, Gates.after]
      by_cases here : id = c.watched.id
      · rw [if_pos here] at changed ⊢
        refine mirrors_on_member c k g stored told mirrors who _ _ ?_
        intro l _ home
        rw [mirrors_transports c k g stored told mirrors l home]
        exact changed
      · rw [if_neg here] at changed ⊢
        unfold Kin.onMember
        rcases mirrors_member c k g stored told mirrors who with ⟨absent, _⟩ | ⟨l, member, _, home⟩
        · rw [absent]
          exact mirrors
        · rw [member]
          dsimp only
          rw [mirrors_transports c k g stored told mirrors l home]
          exact changed
  | switchAll who enabled =>
      simp only [Kin.changed, Gates.after]
      refine mirrors_on_member c k g stored told mirrors who _ _ ?_
      intro l _ home
      rw [mirrors_transports c k g stored told mirrors l home]
      exact mirrors_switch_all c k g stored told mirrors enabled
  | child who name =>
      simp only [Kin.changed, Gates.after, Kin.onMember]
      rcases mirrors_member c k g stored told mirrors who with
        ⟨absent, beyond⟩ | ⟨l, member, category, home⟩
      · rw [absent, beyond]
        exact mirrors
      · rw [member, category]
        exact mirrors_child c k g stored told mirrors l name home
  | subscribe who =>
      simp only [Kin.changed, Gates.after]
      refine mirrors_on_member c k g stored told mirrors who _ _ ?_
      intro l member _
      exact mirrors_subscribe c k g stored told mirrors who l member
  | unsubscribe handle => exact mirrors_unsubscribe c k g stored told mirrors handle unique

theorem threshold_passes (threshold : Threshold) (level : Level) :
    threshold.passes level = threshold.any fun lowest => lowest.rank ≤ level.rank := by
  cases threshold with
  | none => rfl
  | some lowest => rfl

theorem mirrors_log (mirrors : Mirrors c k g stored told) (who : Nat) (level : Level)
    (message : Eager) :
    ∃ next, Act.Returns (Kin.perform (.log who level message)) k () next ∧
      Mirrors c next g (stored ++ g.sent c.clock (.log who level message))
        (fun n => told n ++ g.told c.clock n (.log who level message)) := by
  rcases mirrors_member c k g stored told mirrors who with
    ⟨absent, beyond⟩ | ⟨l, member, category, home⟩
  · refine ⟨k, Kin.perform_log_absent who level message k absent, ?_⟩
    simpa only [Gates.sent, Gates.told, beyond, List.append_nil] using mirrors
  · have known : k.engine.families[l.family]? = some (c.family g) := home ▸ mirrors.family
    cases on : g.enabled with
    | false =>
        have dropped := Kin.log_disabled l level message.source k (c.family g) known on
        refine ⟨k, Kin.perform_log who l level message k k _ member dropped, ?_⟩
        simpa [Gates.sent, Gates.told, category, on] using mirrors
    | true =>
        have slots := Manager.slots_distinct c.manager _ c.distinct mirrors.leads
        obtain ⟨delivery, pool, ran, same, delivered⟩ :=
          Kin.log_enabled l level message k (c.family g) known on slots
        have header : Kin.heading l level (c.family g) k = ⟨level, l.category, g.label, c.clock⟩ := by
          rw [Kin.heading, mirrors.clock]
          rfl
        have ambient : Logger.ambient (c.family g) k.engine = [] := by
          change ((k.engine.scopes[c.scopes]?).map Scopes.ambient).getD [] = []
          rw [mirrors.outside]
          rfl
        have called : Kin.listeners l k = roster c.source who g.subscribers := by
          rw [Kin.listeners, mirrors.rosters who l member]
          rfl
        rw [header, ambient, called] at ran
        rw [header, ambient] at delivered
        refine ⟨_, Kin.perform_log who l level message k _ delivery member ran,
          { mirrors with leads := ?_, watched := ?_, heard := ?_ }⟩
        · intro x attached
          exact Manager.leads_same_flags k.engine.transports pool same x (mirrors.leads x attached)
        · have kept := delivered c.watched c.attached g.flag stored mirrors.watched
          change pool[c.watched.slot]? = _
          rw [kept]
          change some (Transport.mk _ _ (.memory none (stored ++
            if g.flag && g.threshold.passes level then _ else []) false)) = _
          simp only [Gates.sent, category, on, Bool.true_and, threshold_passes]
        · intro n
          have notified := roster_hears c.source who n g.subscribers
            (level, message.record ⟨level, l.category, g.label, c.clock⟩ [])
          change ((k.heard ++ _).filter (·.1 == n)).map Prod.snd = _
          rw [List.filter_append, List.map_append, mirrors.heard n, notified]
          simp only [Gates.told, category, on, Bool.true_and]

theorem mirrors_step (mirrors : Mirrors c k g stored told) (step : FamilyStep)
    (unique : ∀ i j, i < g.subscribers.length → j < g.subscribers.length →
      c.source.nth i = c.source.nth j → i = j) :
    ∃ next, Act.Returns (Kin.perform step) k () next ∧
      Mirrors c next (g.after c.watched step) (stored ++ g.sent c.clock step)
        (fun n => told n ++ g.told c.clock n step) := by
  cases step with
  | log who level message => exact mirrors_log c k g stored told mirrors who level message
  | _ =>
      refine ⟨_, Act.returns_modify _ k, ?_⟩
      simp only [Gates.sent, Gates.told, List.append_nil]
      exact mirrors_changed c k g stored told mirrors _ unique

theorem subscribers_after (watched : TransportRef) (step : FamilyStep) :
    (g.after watched step).subscribers.length ≤
      g.subscribers.length + if step.subscribes then 1 else 0 := by
  cases step <;> simp only [Gates.after, Gates.onMember, FamilyStep.subscribes] <;> grind

theorem mirrors_run (mirrors : Mirrors c k g stored told) (steps : List FamilyStep) (limit : Nat)
    (room : g.subscribers.length + steps.countP FamilyStep.subscribes ≤ limit)
    (unique : ∀ i j, i < limit → j < limit → c.source.nth i = c.source.nth j → i = j) :
    ∃ final, Act.Returns (Kin.run steps) k () final ∧
      Mirrors c final (g.afterAll c.watched steps) (stored ++ g.allSent c.watched c.clock steps)
        (fun n => told n ++ g.allTold c.watched c.clock n steps) := by
  induction steps generalizing k g stored told with
  | nil =>
      refine ⟨k, Act.returns_pure _ _, ?_⟩
      simpa only [Gates.afterAll, List.foldl_nil, Gates.allSent, Gates.allTold, List.append_nil]
        using mirrors
  | cons step rest ih =>
      rw [List.countP_cons] at room
      have growth := subscribers_after g c.watched step
      obtain ⟨next, performed, mirrors'⟩ := mirrors_step c k g stored told mirrors step
        (fun i j below below' => unique i j (by omega) (by omega))
      obtain ⟨final, ran, mirrors''⟩ := ih next _ _ _ mirrors' (by omega)
      refine ⟨final, Act.returns_bind _ _ _ _ _ _ _ performed ran, ?_⟩
      simpa only [Gates.afterAll, List.foldl_cons, Gates.allSent, Gates.allTold, List.append_assoc]
        using mirrors''

end Steps

def Setting.founded (options : LoggerOptions) (source : IdSource) (e : Engine)
    (watched : TransportRef) (attached : watched ∈ (Manager.ofList options.transports).refs) :
    Setting :=
  ⟨e.families.length, e.scopes.length, e.sources.length, Manager.ofList options.transports, watched,
    source, e.clock, Manager.of_list_distinct options.transports, attached⟩

theorem found_mirrors (options : LoggerOptions) (source : IdSource) (e : Engine)
    (watched : TransportRef) (flag : Bool) (kept : List Snapshot)
    (leads : ∀ x ∈ options.transports, x.Leads e.transports)
    (attached : watched ∈ (Manager.ofList options.transports).refs)
    (memory : e.transports[watched.slot]? = some ⟨watched.id, flag, .memory none kept false⟩) :
    Mirrors (Setting.founded options source e watched attached) (Kin.found options source e)
      (Gates.initial options flag) kept (fun _ => []) where
  clock := rfl
  family := List.getElem?_concat_length
  outside := List.getElem?_concat_length
  leads := fun x member => leads x (Manager.mem_of_list options.transports x member)
  watched := memory
  drawn := List.getElem?_concat_length
  categories := rfl
  related := by
    intro l member
    rw [List.mem_singleton.mp member]
    rfl
  apart := List.nodup_singleton _
  rosters := by
    intro who l member
    cases who with
    | zero =>
        cases member
        exact List.getElem?_concat_length
    | succ who => cases member
  counted := rfl
  handles := fun n who on listed => nomatch listed
  heard := fun _ => rfl

-- A run never panics; what the memory holds and what listeners heard is what the gates let through.
-- Ids that are drawn are distinct by assumption, those of a counting source are so.
theorem family_run_is_gated (options : LoggerOptions) (source : IdSource) (e : Engine)
    (watched : TransportRef) (flag : Bool) (kept : List Snapshot) (steps : List FamilyStep)
    (leads : ∀ x ∈ options.transports, x.Leads e.transports)
    (attached : watched ∈ (Manager.ofList options.transports).refs)
    (memory : e.transports[watched.slot]? = some ⟨watched.id, flag, .memory none kept false⟩)
    (unrepeated : ∀ ids issued, source = .drawn ids issued → ∀ i j,
      i < steps.countP FamilyStep.subscribes → j < steps.countP FamilyStep.subscribes →
      source.nth i = source.nth j → i = j) :
    ∃ final, Act.Returns (Kin.run steps) (Kin.found options source e) () final ∧
      final.engine.transports[watched.slot]? = some ⟨watched.id,
        ((Gates.initial options flag).afterAll watched steps).flag,
        .memory none (kept ++ (Gates.initial options flag).allSent watched e.clock steps) false⟩ ∧
      ∀ n, (final.heard.filter (·.1 == n)).map Prod.snd =
        (Gates.initial options flag).allTold watched e.clock n steps := by
  have unique : ∀ i j, i < steps.countP FamilyStep.subscribes →
      j < steps.countP FamilyStep.subscribes → source.nth i = source.nth j → i = j := by
    cases source with
    | counting label issued => exact fun i j _ _ => IdSource.counting_distinct label issued i j
    | drawn ids issued => exact unrepeated ids issued rfl
  obtain ⟨final, ran, mirrors⟩ := mirrors_run (Setting.founded options source e watched attached)
    _ _ kept _ (found_mirrors options source e watched flag kept leads attached memory) steps _
    (Nat.le_of_eq (Nat.zero_add _)) unique
  exact ⟨final, ran, mirrors.watched, mirrors.heard⟩

theorem family_run_is_gated_child_logs :
    ∃ final, Act.Returns
        (Kin.run [.child 0 "db", .subscribe 1, .subscribe 0, .log 1 .info (.text "up" []),
          .setThreshold 1 none, .log 1 .fatal (.text "hidden" []), .setThreshold 0 (some .warn),
          .unsubscribe 0, .log 1 .error (.text "down" []), .log 0 .info (.text "low" [])])
        (Kin.found ⟨"[L]", true, ["app"], [⟨"m", 0⟩], some .debug⟩ (.random 7)
          { Engine.empty 0 with transports := [⟨"m", true, .memory none [] false⟩] }) () final ∧
      (∃ kept, final.engine.transports[0]? = some ⟨"m", true, .memory none kept false⟩ ∧
        kept.map (fun s => (s.level, s.category, s.label)) =
          [(.info, ["app", "db"], "[L]"), (.error, ["app", "db"], "[L]")]) ∧
      ((final.heard.filter (·.1 == 0)).map Prod.snd).map Prod.fst = [.info, .fatal] ∧
      ((final.heard.filter (·.1 == 1)).map Prod.snd).map Prod.fst = [.info] := by
  have unrepeated : ∀ ids issued, IdSource.random 7 = .drawn ids issued → ∀ i j, i < 2 → j < 2 →
      (IdSource.random 7).nth i = (IdSource.random 7).nth j → i = j := by
    intro _ _ _
    have ids : ((List.range 2).map (IdSource.random 7).nth).Nodup := by decide +kernel
    intro i j below below' same
    have inside : i < ((List.range 2).map (IdSource.random 7).nth).length := by simpa using below
    refine (List.getElem?_inj inside ids).mp ?_
    simp [List.getElem?_range below, List.getElem?_range below', same]
  obtain ⟨final, ran, stored, heard⟩ := family_run_is_gated
    ⟨"[L]", true, ["app"], [⟨"m", 0⟩], some .debug⟩ (.random 7)
    { Engine.empty 0 with transports := [⟨"m", true, .memory none [] false⟩] } ⟨"m", 0⟩ true []
    [.child 0 "db", .subscribe 1, .subscribe 0, .log 1 .info (.text "up" []),
      .setThreshold 1 none, .log 1 .fatal (.text "hidden" []), .setThreshold 0 (some .warn),
      .unsubscribe 0, .log 1 .error (.text "down" []), .log 0 .info (.text "low" [])]
    (by
      intro x member
      rw [List.mem_singleton.mp member]
      rfl)
    (by decide) rfl unrepeated
  refine ⟨final, ran, ⟨_, stored, rfl⟩, ?_, ?_⟩
  · rw [heard]
    rfl
  · rw [heard]
    rfl

end StructuredLog
