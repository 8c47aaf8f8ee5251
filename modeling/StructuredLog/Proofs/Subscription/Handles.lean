import Mathlib.Data.List.Nodup
import StructuredLog.Proofs.Ids
import StructuredLog.Proofs.Subscription.Registry

set_option autoImplicit false

namespace StructuredLog

-- With a member that was dropped nothing can be done any more, but its handles are still there.
inductive HandleStep where
  | subscribe (who listener : Nat)
  | unsubscribe (handle : Nat)
  | clear (who : Nat)
  | drop (who : Nat)
  | child (who : Nat) (name : String)
deriving DecidableEq, Repr

structure Circle where
  engine : Engine
  members : List Logger
  present : List Bool
  handles : List Subscription

namespace Circle

def found (options : LoggerOptions) (source : IdSource) (e : Engine) : Circle :=
  let (root, e) := e.newLogger options source
  ⟨e, [root], [true], []⟩

def onMember (who : Nat) (f : Logger → Circle → Circle) (c : Circle) : Circle :=
  match c.members[who]?, c.present[who]? with
  | some l, some true => f l c
  | _, _ => c

def perform (c : Circle) : HandleStep → Circle
  | .subscribe who listener => c.onMember who fun l c =>
      let (s, e) := c.engine.subscribe l.registry listener
      { c with engine := e, handles := c.handles ++ [s] }
  | .unsubscribe handle =>
      match c.handles[handle]? with
      | none => c
      | some s => { c with engine := c.engine.unsubscribe s }
  | .clear who => c.onMember who fun l c =>
      { c with engine := c.engine.modifyRegistry l.registry .clear }
  | .drop who => c.onMember who fun l c =>
      { c with engine := c.engine.dropRegistry l.registry, present := c.present.set who false }
  | .child who name => c.onMember who fun l c =>
      let (child, e) := l.child name c.engine
      { c with engine := e, members := c.members ++ [child], present := c.present ++ [true] }

def run (steps : List HandleStep) (c : Circle) : Circle := steps.foldl perform c

end Circle

structure Row where
  owner : Nat
  entry : Subscriber
  standing : Bool
deriving DecidableEq, Repr

namespace Row

def withdrawn (row : Row) : Row := { row with standing := false }

def withdrawnOf (who : Nat) (row : Row) : Row := if row.owner = who then row.withdrawn else row

def face (row : Row) : Nat × Subscriber := (row.owner, row.entry)

end Row

structure Roll where
  present : List Bool
  rows : List Row
deriving DecidableEq, Repr

namespace Roll

def initial : Roll := ⟨[true], []⟩

def listed (who : Nat) (rows : List Row) : List Subscriber :=
  (rows.filter fun row => row.owner == who && row.standing).map Row.entry

def onMember (who : Nat) (f : Roll → Roll) (roll : Roll) : Roll :=
  if roll.present[who]? = some true then f roll else roll

def after (label : String) (issued : Nat) (roll : Roll) : HandleStep → Roll
  | .subscribe who listener => roll.onMember who fun roll =>
      { roll with
        rows := roll.rows ++
          [⟨who, ⟨IdSource.numbered label (issued + roll.rows.length + 1), listener⟩, true⟩] }
  | .unsubscribe handle => { roll with rows := roll.rows.modify handle Row.withdrawn }
  | .clear who => roll.onMember who fun roll =>
      { roll with rows := roll.rows.map (Row.withdrawnOf who) }
  | .drop who => roll.onMember who fun roll =>
      ⟨roll.present.set who false, roll.rows.map (Row.withdrawnOf who)⟩
  | .child who _ => roll.onMember who fun roll => { roll with present := roll.present ++ [true] }

def afterAll (label : String) (issued : Nat) (roll : Roll) (steps : List HandleStep) : Roll :=
  steps.foldl (after label issued) roll

end Roll

section Rows

variable (who : Nat) (before after rows : List Row) (row : Row)

theorem listed_append : Roll.listed who (before ++ after) =
    Roll.listed who before ++ Roll.listed who after := by
  simp [Roll.listed]

theorem mem_listed (s : Subscriber) : s ∈ Roll.listed who rows ↔
    ∃ row ∈ rows, row.owner = who ∧ row.standing = true ∧ row.entry = s := by
  simp [Roll.listed, and_assoc]

theorem listed_withdrawn : Roll.listed who (before ++ row.withdrawn :: after) =
    Roll.listed who before ++ Roll.listed who after := by
  simp [Roll.listed, Row.withdrawn]

theorem listed_standing (own : row.owner = who) (standing : row.standing = true) :
    Roll.listed who (before ++ row :: after) =
      Roll.listed who before ++ row.entry :: Roll.listed who after := by
  simp [Roll.listed, own, standing]

theorem listed_other (foreign : row.owner ≠ who ∨ row.standing = false) :
    Roll.listed who (before ++ row :: after) = Roll.listed who before ++ Roll.listed who after := by
  rcases foreign with apart | gone
  · simp [Roll.listed, apart]
  · simp [Roll.listed, gone]

theorem listed_apart (apart : row.entry.id ∉ rows.map fun row => row.entry.id) (s : Subscriber)
    (held : s ∈ Roll.listed who rows) : s.id ≠ row.entry.id := by
  obtain ⟨other, member, -, -, rfl⟩ := (mem_listed who rows s).mp held
  exact fun same => apart (same ▸ List.mem_map_of_mem (f := fun row => row.entry.id) member)

theorem listed_active (apart : row.entry.id ∉ (before ++ after).map fun row => row.entry.id) :
    (Roll.listed row.owner (before ++ row :: after)).any (fun s => s.id == row.entry.id) =
      row.standing := by
  cases standing : row.standing with
  | true =>
      rw [listed_standing row.owner before after row rfl standing]
      simp
  | false =>
      rw [listed_other row.owner before after row (Or.inr standing), ← listed_append,
        List.any_eq_false]
      intro s held
      simpa using listed_apart row.owner (before ++ after) row apart s held

theorem listed_unregistered (apart : row.entry.id ∉ (before ++ after).map fun row => row.entry.id) :
    (Roll.listed row.owner (before ++ row :: after)).filter (fun s => s.id != row.entry.id) =
      Roll.listed row.owner before ++ Roll.listed row.owner after := by
  have others : (Roll.listed row.owner before ++ Roll.listed row.owner after).filter
      (fun s => s.id != row.entry.id) = Roll.listed row.owner before ++ Roll.listed row.owner after := by
    rw [← listed_append]
    refine List.filter_eq_self.mpr ?_
    intro s held
    exact bne_iff_ne.mpr (listed_apart row.owner (before ++ after) row apart s held)
  cases standing : row.standing with
  | true =>
      rw [listed_standing row.owner before after row rfl standing]
      simpa using others
  | false =>
      rw [listed_other row.owner before after row (Or.inr standing)]
      exact others

@[simp]
theorem withdrawn_of_owner : (row.withdrawnOf who).owner = row.owner := by
  by_cases own : row.owner = who <;> simp [Row.withdrawnOf, Row.withdrawn, own]

@[simp]
theorem withdrawn_of_entry : (row.withdrawnOf who).entry = row.entry := by
  by_cases own : row.owner = who <;> simp [Row.withdrawnOf, Row.withdrawn, own]

@[simp]
theorem withdrawn_of_standing : (row.withdrawnOf who).standing = (row.owner != who && row.standing) := by
  by_cases own : row.owner = who <;> simp [Row.withdrawnOf, Row.withdrawn, own]

theorem listed_cleared : Roll.listed who (rows.map (Row.withdrawnOf who)) = [] := by
  refine List.eq_nil_iff_forall_not_mem.mpr ?_
  intro s held
  obtain ⟨later, member, own, standing, -⟩ := (mem_listed who _ s).mp held
  obtain ⟨row, -, rfl⟩ := List.mem_map.mp member
  rw [withdrawn_of_owner] at own
  simp [own] at standing

theorem listed_kept (gone : Nat) (apart : gone ≠ who) :
    Roll.listed who (rows.map (Row.withdrawnOf gone)) = Roll.listed who rows := by
  have entries : Row.entry ∘ Row.withdrawnOf gone = Row.entry :=
    funext fun row => withdrawn_of_entry gone row
  unfold Roll.listed
  rw [List.filter_map, List.map_map, entries]
  refine congrArg _ (List.filter_congr ?_)
  intro row _
  by_cases own : row.owner = who
  · simp [own, Ne.symm apart]
  · simp [beq_false_of_ne own]

theorem withdrawn_faces : (rows.map (Row.withdrawnOf who)).map Row.face = rows.map Row.face := by
  rw [List.map_map]
  refine List.map_congr_left ?_
  intro row _
  simp [Row.face]

theorem withdrawn_standing (later : Row) (member : later ∈ rows.map (Row.withdrawnOf who))
    (standing : later.standing = true) : later ∈ rows ∧ later.owner ≠ who := by
  obtain ⟨row, held, rfl⟩ := List.mem_map.mp member
  have elsewhere : row.owner ≠ who := by
    intro own
    simp [own] at standing
  rw [Row.withdrawnOf, if_neg elsewhere]
  exact ⟨held, elsewhere⟩

end Rows

-- The steps alone tell all of the engine that a later step or a handle can depend on.
structure Enrolled (label : String) (issued place : Nat) (c : Circle) (roll : Roll) : Prop where
  drawn : c.engine.sources[place]? = some (.counting label (issued + roll.rows.length))
  related : ∀ l ∈ c.members, (l.family? c.engine).map Family.source = some place
  apart : (c.members.map Logger.registry).Nodup
  present : c.present = roll.present
  together : c.members.length = roll.present.length
  registered : ∀ (who : Nat) (l : Logger), c.members[who]? = some l →
    c.engine.registries[l.registry]? = some ⟨Roll.listed who roll.rows, place⟩
  counted : c.handles.length = roll.rows.length
  held : ∀ (n owner : Nat) (entry : Subscriber),
    (roll.rows.map Row.face)[n]? = some (owner, entry) →
      entry.id = IdSource.numbered label (issued + n + 1) ∧
        ∃ l, c.members[owner]? = some l ∧ c.handles[n]? = some ⟨l.registry, entry.id⟩
  standing : ∀ row ∈ roll.rows, row.standing = true → roll.present[row.owner]? = some true

section Steps

variable (label : String) (issued place : Nat) (c : Circle) (roll : Roll)

theorem enrolled_row (enrolled : Enrolled label issued place c roll) (n : Nat) (row : Row)
    (known : roll.rows[n]? = some row) :
    row.entry.id = IdSource.numbered label (issued + n + 1) ∧
      ∃ l, c.members[row.owner]? = some l ∧ c.handles[n]? = some ⟨l.registry, row.entry.id⟩ := by
  refine enrolled.held n row.owner row.entry ?_
  rw [List.getElem?_map, known]
  rfl

theorem enrolled_ids (enrolled : Enrolled label issued place c roll) :
    roll.rows.map (fun row => row.entry.id) = (List.range roll.rows.length).map fun n =>
      IdSource.numbered label (issued + n + 1) := by
  refine List.ext_getElem? ?_
  intro n
  rw [List.getElem?_map, List.getElem?_map]
  cases known : roll.rows[n]? with
  | none =>
      have beyond := List.getElem?_eq_none_iff.mp known
      simp [beyond]
  | some row =>
      have inside := (List.getElem?_eq_some_iff.mp known).1
      have id := (enrolled_row label issued place c roll enrolled n row known).1
      simp [List.getElem?_range inside, id]

theorem enrolled_handles (enrolled : Enrolled label issued place c roll) :
    c.handles.map Subscription.id = roll.rows.map fun row => row.entry.id := by
  refine List.ext_getElem? ?_
  intro n
  rw [List.getElem?_map, List.getElem?_map]
  cases known : roll.rows[n]? with
  | none =>
      have beyond := List.getElem?_eq_none_iff.mp known
      rw [← enrolled.counted] at beyond
      rw [List.getElem?_eq_none_iff.mpr beyond]
      rfl
  | some row =>
      obtain ⟨-, l, -, held⟩ := enrolled_row label issued place c roll enrolled n row known
      rw [held]
      rfl

theorem enrolled_distinct (enrolled : Enrolled label issued place c roll) :
    (roll.rows.map fun row => row.entry.id).Nodup := by
  rw [enrolled_ids label issued place c roll enrolled]
  refine List.nodup_range.map ?_
  intro m n same
  have numbers := IdSource.numbered_injective label _ _ same
  omega

theorem enrolled_split (enrolled : Enrolled label issued place c roll) (handle : Nat)
    (inside : handle < roll.rows.length) :
    ∃ before row after, roll.rows = before ++ row :: after ∧ roll.rows[handle]? = some row ∧
      roll.rows.modify handle Row.withdrawn = before ++ row.withdrawn :: after ∧
      row.entry.id ∉ (before ++ after).map fun row => row.entry.id := by
  obtain ⟨before, row, after, parts, spot, modified⟩ :=
    List.exists_of_modify Row.withdrawn inside
  have distinct := enrolled_distinct label issued place c roll enrolled
  rw [parts, List.map_append, List.map_cons, List.nodup_middle, List.nodup_cons,
    ← List.map_append] at distinct
  refine ⟨before, row, after, parts, ?_, modified, distinct.1⟩
  rw [parts, ← spot, List.getElem?_append_right (Nat.le_refl _), Nat.sub_self]
  rfl

theorem registry_inside (enrolled : Enrolled label issued place c roll) (l : Logger)
    (listed : l ∈ c.members) : l.registry < c.engine.registries.length := by
  obtain ⟨who, known⟩ := List.mem_iff_getElem?.mp listed
  exact (List.getElem?_eq_some_iff.mp (enrolled.registered who l known)).1

theorem registered_modify (enrolled : Enrolled label issued place c roll) (who : Nat) (l : Logger)
    (member : c.members[who]? = some l) (f : Registry → Registry) (rows : List Row)
    (own : f ⟨Roll.listed who roll.rows, place⟩ = ⟨Roll.listed who rows, place⟩)
    (others : ∀ n, who ≠ n → Roll.listed n rows = Roll.listed n roll.rows) (n : Nat) (m : Logger)
    (known : c.members[n]? = some m) :
    (c.engine.registries.modify l.registry f)[m.registry]? = some ⟨Roll.listed n rows, place⟩ := by
  by_cases here : who = n
  · subst n
    rw [member] at known
    cases known
    rw [List.getElem?_modify_eq, enrolled.registered who l member]
    exact congrArg some own
  · have different : l.registry ≠ m.registry := fun same =>
      here (registry_owner c.members enrolled.apart who n l m member known same)
    rw [List.getElem?_modify_ne _ _ different, enrolled.registered n m known, others n here]

theorem enrolled_withdrawn (enrolled : Enrolled label issued place c roll)
    (registries : List Registry) (there present : List Bool) (rows : List Row)
    (same : there = present)
    (faces : rows.map Row.face = roll.rows.map Row.face)
    (together : present.length = roll.present.length)
    (registered : ∀ (who : Nat) (l : Logger), c.members[who]? = some l →
      registries[l.registry]? = some ⟨Roll.listed who rows, place⟩)
    (standing : ∀ row ∈ rows, row.standing = true → present[row.owner]? = some true) :
    Enrolled label issued place
      { c with engine := { c.engine with registries := registries }, present := there }
      ⟨present, rows⟩ := by
  have size : rows.length = roll.rows.length := by simpa using congrArg List.length faces
  exact
    { enrolled with
      drawn := size ▸ enrolled.drawn
      present := same
      together := enrolled.together.trans together.symm
      registered := registered
      counted := enrolled.counted.trans size.symm
      held := faces ▸ enrolled.held
      standing := standing }

theorem enrolled_unsubscribe (enrolled : Enrolled label issued place c roll) (handle : Nat) :
    Enrolled label issued place (c.perform (.unsubscribe handle))
      (roll.after label issued (.unsubscribe handle)) := by
  by_cases inside : handle < roll.rows.length
  · obtain ⟨before, row, after, parts, known, modified, apart⟩ :=
      enrolled_split label issued place c roll enrolled handle inside
    obtain ⟨-, l, member, held⟩ := enrolled_row label issued place c roll enrolled handle row known
    have performed : c.perform (.unsubscribe handle) =
        { c with engine := c.engine.unsubscribe ⟨l.registry, row.entry.id⟩ } := by
      simp only [Circle.perform, held]
    rw [performed, Roll.after, modified]
    refine enrolled_withdrawn label issued place c roll enrolled _ _ _ _ enrolled.present ?_ rfl
      ?_ ?_
    · rw [parts]
      simp [Row.face, Row.withdrawn]
    · refine registered_modify label issued place c roll enrolled row.owner l member _ _ ?_ ?_
      · rw [listed_withdrawn, parts, Registry.unregister,
          listed_unregistered before after row apart]
      · intro n elsewhere
        rw [listed_withdrawn, parts, listed_other n before after row (Or.inl elsewhere)]
    · intro other member standing
      refine enrolled.standing other ?_ standing
      rw [parts]
      rcases List.mem_append.mp member with early | late
      · exact List.mem_append_left _ early
      · cases late with
        | head => cases standing
        | tail _ late => exact List.mem_append_right _ (List.mem_cons_of_mem _ late)
  · have beyond := Nat.le_of_not_lt inside
    have absent : c.handles[handle]? = none := by
      rw [List.getElem?_eq_none_iff, enrolled.counted]
      exact beyond
    rw [Roll.after, List.modify_eq_self beyond, Circle.perform, absent]
    exact enrolled

theorem enrolled_cleared (enrolled : Enrolled label issued place c roll) (who : Nat) (l : Logger)
    (member : c.members[who]? = some l) (there present : List Bool) (same : there = present)
    (together : present.length = roll.present.length)
    (others : ∀ n, n ≠ who → present[n]? = roll.present[n]?) :
    Enrolled label issued place
      { c with engine := c.engine.modifyRegistry l.registry .clear, present := there }
      ⟨present, roll.rows.map (Row.withdrawnOf who)⟩ := by
  refine enrolled_withdrawn label issued place c roll enrolled _ _ _ _ same
    (withdrawn_faces who roll.rows) together ?_ ?_
  · refine registered_modify label issued place c roll enrolled who l member _ _ ?_ ?_
    · rw [listed_cleared]
      rfl
    · intro n elsewhere
      exact listed_kept n roll.rows who elsewhere
  · intro row withdrawn standing
    obtain ⟨listed, elsewhere⟩ := withdrawn_standing who roll.rows row withdrawn standing
    rw [others row.owner elsewhere]
    exact enrolled.standing row listed standing

theorem enrolled_subscribe (enrolled : Enrolled label issued place c roll) (who listener : Nat)
    (l : Logger) (member : c.members[who]? = some l) (here : roll.present[who]? = some true) :
    Enrolled label issued place
      { c with
        engine := (c.engine.subscribe l.registry listener).2
        handles := c.handles ++ [(c.engine.subscribe l.registry listener).1] }
      { roll with
        rows := roll.rows ++
          [⟨who, ⟨IdSource.numbered label (issued + roll.rows.length + 1), listener⟩, true⟩] } := by
  rw [Engine.subscribe_drawn l.registry listener c.engine _ _ (enrolled.registered who l member)
    enrolled.drawn]
  refine { enrolled with
    drawn := ?_, registered := ?_, counted := ?_, held := ?_, standing := ?_ }
  · change (c.engine.sources.set place _)[place]? = _
    have inside := (List.getElem?_eq_some_iff.mp enrolled.drawn).1
    rw [List.getElem?_set_self inside, List.length_append, List.length_singleton]
    rfl
  · refine registered_modify label issued place c roll enrolled who l member _ _ ?_ ?_
    · rw [listed_append]
      simp [Registry.register, Roll.listed, IdSource.draw]
    · intro n elsewhere
      rw [listed_append]
      simp [Roll.listed, elsewhere]
  · change (c.handles ++ [_]).length = (roll.rows ++ [_]).length
    rw [List.length_append, List.length_append, enrolled.counted]
    rfl
  · intro n owner entry known
    change _ ∧ ∃ m, c.members[owner]? = some m ∧ (c.handles ++ [_])[n]? = _
    rw [List.map_append] at known
    rcases concat_lookup (roll.rows.map Row.face) _ (owner, entry) n known with old | ⟨last, new⟩
    · obtain ⟨id, m, owned, handle⟩ := enrolled.held n owner entry old
      have inside := (List.getElem?_eq_some_iff.mp handle).1
      exact ⟨id, m, owned, (List.getElem?_append_left inside).trans handle⟩
    · cases new
      rw [List.length_map] at last
      subst last
      refine ⟨rfl, l, member, ?_⟩
      rw [← enrolled.counted, List.getElem?_concat_length]
      rfl
  · intro row listed standing
    rcases List.mem_append.mp listed with old | new
    · exact enrolled.standing row old standing
    · rw [List.mem_singleton.mp new]
      exact here

theorem newcomer_listed (enrolled : Enrolled label issued place c roll) :
    Roll.listed c.members.length roll.rows = [] := by
  refine List.eq_nil_iff_forall_not_mem.mpr ?_
  intro s held
  obtain ⟨row, listed, owner, -⟩ := (mem_listed _ _ s).mp held
  obtain ⟨n, known⟩ := List.mem_iff_getElem?.mp listed
  obtain ⟨-, l, member, -⟩ := enrolled_row label issued place c roll enrolled n row known
  have inside := (List.getElem?_eq_some_iff.mp member).1
  omega

theorem enrolled_child (enrolled : Enrolled label issued place c roll) (l : Logger) (name : String)
    (listed : l ∈ c.members) :
    Enrolled label issued place
      { c with
        engine := (l.child name c.engine).2
        members := c.members ++ [(l.child name c.engine).1]
        present := c.present ++ [true] }
      { roll with present := roll.present ++ [true] } := by
  have source := enrolled.related l listed
  refine { enrolled with
    related := ?_, apart := ?_, present := ?_, together := ?_, registered := ?_, held := ?_,
    standing := ?_ }
  · intro m member
    rcases List.mem_append.mp member with old | new
    · exact enrolled.related m old
    · rw [List.mem_singleton.mp new]
      exact source
  · exact registry_apart c.members _ enrolled.apart
      (registry_inside label issued place c roll enrolled)
  · exact congrArg (· ++ [true]) enrolled.present
  · change (c.members ++ [_]).length = (roll.present ++ [_]).length
    rw [List.length_append, List.length_append, enrolled.together]
    rfl
  · intro n m known
    change (c.engine.registries ++ [⟨[], _⟩])[m.registry]? = _
    rw [source, Option.getD_some]
    rcases concat_lookup c.members _ m n known with old | ⟨last, new⟩
    · have inside := registry_inside label issued place c roll enrolled m (List.mem_of_getElem? old)
      rw [List.getElem?_append_left inside]
      exact enrolled.registered n m old
    · subst last
      subst new
      change (c.engine.registries ++ [_])[c.engine.registries.length]? = _
      rw [List.getElem?_concat_length, newcomer_listed label issued place c roll enrolled]
  · intro n owner entry known
    obtain ⟨id, m, owned, handle⟩ := enrolled.held n owner entry known
    have inside := (List.getElem?_eq_some_iff.mp owned).1
    exact ⟨id, m, (List.getElem?_append_left inside).trans owned, handle⟩
  · intro row known standing
    have there := enrolled.standing row known standing
    have inside := (List.getElem?_eq_some_iff.mp there).1
    exact (List.getElem?_append_left inside).trans there

theorem enrolled_on_member (enrolled : Enrolled label issued place c roll) (who : Nat)
    (f : Logger → Circle → Circle) (f' : Roll → Roll)
    (changed : ∀ l, c.members[who]? = some l → roll.present[who]? = some true →
      Enrolled label issued place (f l c) (f' roll)) :
    Enrolled label issued place (c.onMember who f) (roll.onMember who f') := by
  unfold Circle.onMember Roll.onMember
  rw [enrolled.present]
  cases member : c.members[who]? with
  | none =>
      have beyond := List.getElem?_eq_none_iff.mp member
      rw [enrolled.together] at beyond
      rw [List.getElem?_eq_none_iff.mpr beyond, if_neg nofun]
      exact enrolled
  | some l =>
      cases here : roll.present[who]? with
      | none =>
          rw [if_neg nofun]
          exact enrolled
      | some there =>
          cases there with
          | false =>
              rw [if_neg nofun]
              exact enrolled
          | true =>
              rw [if_pos rfl]
              exact changed l member here

theorem enrolled_step (enrolled : Enrolled label issued place c roll) (step : HandleStep) :
    Enrolled label issued place (c.perform step) (roll.after label issued step) := by
  cases step with
  | subscribe who listener =>
      dsimp only [Circle.perform, Roll.after]
      refine enrolled_on_member label issued place c roll enrolled who _ _ ?_
      exact enrolled_subscribe label issued place c roll enrolled who listener
  | unsubscribe handle => exact enrolled_unsubscribe label issued place c roll enrolled handle
  | clear who =>
      dsimp only [Circle.perform, Roll.after]
      refine enrolled_on_member label issued place c roll enrolled who _ _ ?_
      intro l member _
      exact enrolled_cleared label issued place c roll enrolled who l member _ _ enrolled.present
        rfl fun _ _ => rfl
  | drop who =>
      dsimp only [Circle.perform, Roll.after]
      refine enrolled_on_member label issued place c roll enrolled who _ _ ?_
      intro l member _
      refine enrolled_cleared label issued place c roll enrolled who l member _ _
        (congrArg (List.set · who false) enrolled.present) List.length_set ?_
      intro n elsewhere
      exact List.getElem?_set_ne elsewhere.symm
  | child who name =>
      dsimp only [Circle.perform, Roll.after]
      refine enrolled_on_member label issued place c roll enrolled who _ _ ?_
      intro l member _
      exact enrolled_child label issued place c roll enrolled l name (List.mem_of_getElem? member)

theorem enrolled_run (enrolled : Enrolled label issued place c roll) (steps : List HandleStep) :
    Enrolled label issued place (c.run steps) (roll.afterAll label issued steps) := by
  induction steps generalizing c roll with
  | nil => exact enrolled
  | cons step rest ih =>
      exact ih _ _ (enrolled_step label issued place c roll enrolled step)

end Steps

theorem found_enrolled (options : LoggerOptions) (label : String) (issued : Nat) (e : Engine) :
    Enrolled label issued e.sources.length (Circle.found options (.counting label issued) e)
      Roll.initial where
  drawn := List.getElem?_concat_length
  related := by
    intro l member
    rw [List.mem_singleton.mp member]
    change ((e.families ++ [_])[e.families.length]?).map Family.source = _
    rw [List.getElem?_concat_length]
    rfl
  apart := List.nodup_singleton _
  present := rfl
  together := rfl
  registered := by
    intro who l member
    cases who with
    | zero =>
        cases member
        exact List.getElem?_concat_length
    | succ who => cases member
  counted := rfl
  held := fun n owner entry known => nomatch known
  standing := fun row listed => nomatch listed

-- Active exactly while the entry is in the registry of a member that was not dropped.
structure Circle.Answers (c : Circle) (s : Subscription) (row : Row) : Prop where
  own : ∃ l, c.members[row.owner]? = some l ∧ s = ⟨l.registry, row.entry.id⟩
  stands : c.engine.isActive s = row.standing
  active : c.engine.isActive s = true ↔ c.present[row.owner]? = some true ∧
    ∃ r, c.engine.registries[s.registry]? = some r ∧ row.entry ∈ r.subscribers
  live : c.engine.isActive s = true → ∃ before after source,
    c.engine.registries[s.registry]? = some ⟨before ++ row.entry :: after, source⟩ ∧
    c.engine.unsubscribe s = { c.engine with
      registries := c.engine.registries.set s.registry ⟨before ++ after, source⟩ }
  dead : c.engine.isActive s = false → c.engine.unsubscribe s = c.engine

structure Circle.Exact (c : Circle) (roll : Roll) : Prop where
  present : c.present = roll.present
  apart : (c.members.map Logger.registry).Nodup
  registered : ∀ (who : Nat) (l : Logger), c.members[who]? = some l →
    ∃ r, c.engine.registries[l.registry]? = some r ∧
      r.subscribers = Roll.listed who roll.rows ∧ r.ids.Nodup ∧
      r.ids.Sublist (c.handles.map Subscription.id)
  distinct : (c.handles.map Subscription.id).Nodup
  counted : c.handles.length = roll.rows.length
  answers : ∀ (n : Nat) (s : Subscription) (row : Row), c.handles[n]? = some s →
    roll.rows[n]? = some row → c.Answers s row

section Handles

variable (label : String) (issued place : Nat) (c : Circle) (roll : Roll)

theorem enrolled_answers (enrolled : Enrolled label issued place c roll) (n : Nat)
    (s : Subscription) (row : Row) (issue : c.handles[n]? = some s)
    (known : roll.rows[n]? = some row) : c.Answers s row := by
  obtain ⟨before, found, after, parts, here, -, apart⟩ := enrolled_split label issued place c roll
    enrolled n (List.getElem?_eq_some_iff.mp known).1
  obtain rfl : row = found := Option.some.inj (known.symm.trans here)
  obtain ⟨-, l, member, held⟩ := enrolled_row label issued place c roll enrolled n row known
  obtain rfl : s = ⟨l.registry, row.entry.id⟩ := Option.some.inj (issue.symm.trans held)
  have registry := enrolled.registered row.owner l member
  rw [parts] at registry
  have stands : c.engine.isActive ⟨l.registry, row.entry.id⟩ = row.standing := by
    rw [Engine.isActive, registry]
    exact listed_active before after row apart
  have unsubscribed : c.engine.unsubscribe ⟨l.registry, row.entry.id⟩ = { c.engine with
      registries := c.engine.registries.set l.registry
        ⟨Roll.listed row.owner before ++ Roll.listed row.owner after, place⟩ } := by
    rw [Engine.unsubscribe, Engine.modifyRegistry, List.modify_eq_set_getElem?, registry,
      ← listed_unregistered before after row apart]
    rfl
  refine ⟨⟨l, member, rfl⟩, stands, ?_, ?_, ?_⟩
  · rw [stands]
    constructor
    · intro standing
      have listed := List.mem_of_getElem? known
      refine ⟨enrolled.present ▸ enrolled.standing row listed standing, _, registry, ?_⟩
      rw [← parts]
      exact (mem_listed row.owner roll.rows row.entry).mpr ⟨row, listed, rfl, standing, rfl⟩
    · rintro ⟨-, r, lookup, listed⟩
      obtain rfl := Option.some.inj (registry.symm.trans lookup)
      rw [← listed_active before after row apart]
      exact List.any_eq_true.mpr ⟨row.entry, listed, beq_self_eq_true _⟩
  · intro active
    have standing := stands.symm.trans active
    rw [listed_standing row.owner before after row rfl standing] at registry
    exact ⟨_, _, place, registry, unsubscribed⟩
  · intro idle
    have fallen := stands.symm.trans idle
    rw [listed_other row.owner before after row (Or.inr fallen)] at registry
    obtain ⟨inside, entry⟩ := List.getElem?_eq_some_iff.mp registry
    rw [unsubscribed, ← entry, List.set_getElem_self]

theorem enrolled_exact (enrolled : Enrolled label issued place c roll) : c.Exact roll where
  present := enrolled.present
  apart := enrolled.apart
  registered := by
    intro who l member
    have ids : ((Roll.listed who roll.rows).map Subscriber.id).Sublist
        (c.handles.map Subscription.id) := by
      rw [enrolled_handles label issued place c roll enrolled, Roll.listed, List.map_map]
      exact List.filter_sublist.map _
    have distinct := enrolled_handles label issued place c roll enrolled ▸
      enrolled_distinct label issued place c roll enrolled
    exact ⟨_, enrolled.registered who l member, rfl, distinct.sublist ids, ids⟩
  distinct := enrolled_handles label issued place c roll enrolled ▸
    enrolled_distinct label issued place c roll enrolled
  counted := enrolled.counted
  answers := enrolled_answers label issued place c roll enrolled

end Handles

-- Each id is drawn once, and every handle ever issued acts on its own entry and on nothing else.
theorem handles_are_exact (options : LoggerOptions) (label : String) (issued : Nat) (e : Engine)
    (steps : List HandleStep) :
    ((Circle.found options (.counting label issued) e).run steps).Exact
      (Roll.initial.afterAll label issued steps) :=
  enrolled_exact label issued e.sources.length _ _
    (enrolled_run label issued e.sources.length _ _ (found_enrolled options label issued e) steps)

end StructuredLog
