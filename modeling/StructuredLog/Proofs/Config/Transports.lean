import Mathlib.Data.List.Forall2
import StructuredLog.Config.Build
import StructuredLog.Proofs.Ids
import StructuredLog.Proofs.Transport.Manager

set_option autoImplicit false

namespace StructuredLog.Config

def namedIds (entries : List TransportSettings) : List String :=
  entries.filterMap TransportSettings.explicitId

def unnamed (entries : List TransportSettings) : Nat :=
  entries.countP fun t => t.explicitId.isNone

structure TransportSettings.Makes (colors : Bool) (entry : TransportSettings) (t : Transport) :
    Prop where
  built : t = entry.build colors t.id
  kept : ∀ id, entry.explicitId = some id → t.id = id

structure TransportSettings.Held (colors : Bool) (pool : Pool) (entry : TransportSettings)
    (r : TransportRef) : Prop where
  built : pool[r.slot]? = some (entry.build colors r.id)
  flag : Manager.isEnabled pool r = entry.enabled
  kept : ∀ id, entry.explicitId = some id → r.id = id

-- One transport for each entry and nothing else, in the order of the entries.
structure Complete (colors : Bool) (entries : List TransportSettings) (m : Manager)
    (pool : Pool) : Prop where
  each : List.Forall₂ (TransportSettings.Held colors pool) entries m.refs
  distinct : m.ids.Nodup

def placed (start : Nat) : List Transport → List TransportRef
  | [] => []
  | t :: rest => ⟨t.id, start⟩ :: placed (start + 1) rest

theorem named_ids_cons (t : TransportSettings) (rest : List TransportSettings) :
    namedIds (t :: rest) = t.explicitId.toList ++ namedIds rest := by
  cases named : t.explicitId with
  | none => exact List.filterMap_cons_none named
  | some id => exact List.filterMap_cons_some named

theorem unnamed_cons_none (t : TransportSettings) (rest : List TransportSettings)
    (named : t.explicitId = none) : unnamed (t :: rest) = unnamed rest + 1 := by
  simp [unnamed, named]

theorem unnamed_cons_some (t : TransportSettings) (rest : List TransportSettings) (id : String)
    (named : t.explicitId = some id) : unnamed (t :: rest) = unnamed rest := by
  simp [unnamed, named]

theorem placed_ids (start : Nat) (ts : List Transport) :
    (placed start ts).map TransportRef.id = ts.map Transport.id := by
  induction ts generalizing start with
  | nil => rfl
  | cons t rest ih => exact congrArg (t.id :: ·) (ih (start + 1))

theorem add_transports_placed (ts : List Transport) (e : Engine) :
    addTransports ts e =
      (placed e.transports.length ts, { e with transports := e.transports ++ ts }) := by
  induction ts generalizing e with
  | nil => simp [addTransports, placed]
  | cons t rest ih => simp [addTransports, Engine.addTransport, placed, ih]

theorem then_ok_iff {α β : Type} (check : Except Error α) (next : Except Error β) (b : β) :
    (check >>= fun _ => next) = .ok b ↔ (∃ a, check = .ok a) ∧ next = .ok b := by
  cases check with
  | error fault => simp [bind, Except.bind]
  | ok a => simp [bind, Except.bind]

theorem fresh_cons_iff (id : String) (ids seen : List String) (unseen : id ∉ seen) :
    (ids.Nodup ∧ ∀ x ∈ ids, x ∉ id :: seen) ↔
      (id :: ids).Nodup ∧ ∀ x ∈ id :: ids, x ∉ seen := by
  rw [List.nodup_cons, List.forall_mem_cons]
  constructor
  · rintro ⟨distinct, apart⟩
    refine ⟨⟨fun again => apart id again List.mem_cons_self, distinct⟩, unseen, ?_⟩
    exact fun x member old => apart x member (List.mem_cons_of_mem id old)
  · rintro ⟨⟨once, distinct⟩, -, apart⟩
    refine ⟨distinct, fun x member known => ?_⟩
    rcases List.mem_cons.mp known with rfl | old
    · exact once member
    · exact apart x member old

-- Validation compares the named ids with one another only.
theorem validate_transports_ok_iff (seen : List String) (entries : List TransportSettings) :
    validateTransports seen entries = .ok () ↔
      (∀ t ∈ entries, t.validate = .ok ()) ∧ (namedIds entries).Nodup ∧
        ∀ id ∈ namedIds entries, id ∉ seen := by
  induction entries generalizing seen with
  | nil => simp [validateTransports, namedIds]
  | cons t rest ih =>
      rw [validateTransports, then_ok_iff, Unique.exists_iff, List.forall_mem_cons, and_assoc,
        named_ids_cons]
      refine and_congr_right fun _ => ?_
      cases named : t.explicitId with
      | none => exact ih seen
      | some id =>
          dsimp only
          by_cases repeated : id ∈ seen
          · simp [repeated]
          · rw [if_neg (by simpa using repeated), ih (id :: seen), fresh_cons_iff id _ seen repeated]
            rfl

theorem valid_parts (check : String → Except Diagnostics.Error Unit) (s : Settings)
    (valid : s.validateBy check = .ok ()) :
    (∃ threshold, s.logger.threshold = .ok threshold) ∧ (namedIds s.transports).Nodup := by
  obtain ⟨⟨_, logger⟩, later⟩ := (then_ok_iff _ _ _).mp valid
  obtain ⟨⟨_, transports⟩, -⟩ := (then_ok_iff _ _ _).mp later
  obtain ⟨read, -⟩ := (then_ok_iff _ _ _).mp logger
  exact ⟨read, ((validate_transports_ok_iff [] s.transports).mp transports).2.1⟩

theorem build_makes (colors : Bool) (t : TransportSettings) (id : String)
    (kept : ∀ named, t.explicitId = some named → id = named) :
    t.Makes colors (t.build colors id) := ⟨rfl, kept⟩

theorem build_transports_cons (colors : Bool) (source : IdSource) (t : TransportSettings)
    (rest : List TransportSettings) :
    (buildTransports colors source (t :: rest)).1 =
      t.build colors (source.generate t.explicitId).1 ::
        (buildTransports colors (source.generate t.explicitId).2 rest).1 := by
  simp only [buildTransports]

theorem build_transports_makes (colors : Bool) (source : IdSource)
    (entries : List TransportSettings) :
    List.Forall₂ (TransportSettings.Makes colors) entries
      (buildTransports colors source entries).1 := by
  induction entries generalizing source with
  | nil => exact .nil
  | cons t rest ih =>
      rw [build_transports_cons]
      have kept : ∀ id, t.explicitId = some id → (source.generate t.explicitId).1 = id := by
        intro id named
        rw [named]
        rfl
      exact .cons (build_makes colors t _ kept) (ih _)

theorem build_transports_ids (colors : Bool) (source : IdSource)
    (entries : List TransportSettings) :
    ((buildTransports colors source entries).1.map Transport.id).Perm
      (namedIds entries ++ (List.range (unnamed entries)).map source.nth) := by
  induction entries generalizing source with
  | nil => exact .nil
  | cons t rest ih =>
      rw [named_ids_cons]
      cases named : t.explicitId with
      | none =>
          have later : (source.nth ∘ Nat.succ) = source.draw.2.nth :=
            funext fun n => (source.nth_draw n).symm
          rw [unnamed_cons_none t rest named, List.range_succ_eq_map, List.map_cons, List.map_map,
            later, build_transports_cons, named]
          exact ((ih source.draw.2).cons _).trans List.perm_middle.symm
      | some id =>
          rw [unnamed_cons_some t rest id named, build_transports_cons, named]
          exact (ih source).cons id

theorem placed_held (colors : Bool) (before : Pool) (entries : List TransportSettings)
    (built : List Transport) (made : List.Forall₂ (TransportSettings.Makes colors) entries built) :
    List.Forall₂ (TransportSettings.Held colors (before ++ built)) entries
      (placed before.length built) := by
  induction made generalizing before with
  | nil => exact .nil
  | @cons entry t entries rest here _ ih =>
      have there : (before ++ t :: rest)[before.length]? = some t := by simp
      have later := ih (before ++ [t])
      rw [List.append_assoc, List.length_append] at later
      refine .cons ⟨there.trans (congrArg some here.built), ?_, here.kept⟩ later
      rw [Manager.isEnabled, there, here.built]
      rfl

theorem complete_iff_distinct (colors : Bool) (before : Pool) (entries : List TransportSettings)
    (built : List Transport) (made : List.Forall₂ (TransportSettings.Makes colors) entries built) :
    Complete colors entries (.ofList (placed before.length built)) (before ++ built) ↔
      (built.map Transport.id).Nodup := by
  have held := placed_held colors before entries built made
  rw [← placed_ids before.length built]
  constructor
  · intro complete
    rw [← Manager.of_list_full_iff, Manager.size, ← complete.each.length_eq, held.length_eq]
  · intro distinct
    refine ⟨?_, Manager.of_list_distinct _⟩
    rwa [Manager.of_list_keeps _ distinct]

theorem built_distinct_iff (colors : Bool) (source : IdSource) (entries : List TransportSettings)
    (fresh : ∀ m n, source.nth m = source.nth n → m = n) (distinct : (namedIds entries).Nodup) :
    ((buildTransports colors source entries).1.map Transport.id).Nodup ↔
      ∀ n < unnamed entries, source.nth n ∉ namedIds entries := by
  have drawn : ((List.range (unnamed entries)).map source.nth).Nodup :=
    List.Nodup.map fresh List.nodup_range
  rw [(build_transports_ids colors source entries).nodup_iff, List.nodup_append]
  constructor
  · rintro ⟨-, -, apart⟩ n below named
    exact apart _ named _ (List.mem_map_of_mem (List.mem_range.mpr below)) rfl
  · intro apart
    refine ⟨distinct, drawn, ?_⟩
    rintro id named _ given rfl
    obtain ⟨n, within, rfl⟩ := List.mem_map.mp given
    exact apart n (List.mem_range.mp within) named

theorem engine_new_logger_transports (options : LoggerOptions) (source : IdSource) (e : Engine) :
    (e.newLogger options source).1.transports (e.newLogger options source).2 =
      .ofList options.transports := by
  simp [Engine.newLogger, Logger.transports, Logger.family?, Engine.addRegistry, Engine.addScopes,
    Engine.addSource]

theorem new_logger_transports (colors : Bool) (source : IdSource) (s : Settings) (e : Engine)
    (read : ∃ threshold, s.logger.threshold = .ok threshold) :
    ∃ logger after, s.newLogger colors source e = .ok (logger, after) ∧
      logger.transports after =
        .ofList (placed e.transports.length (buildTransports colors source s.transports).1) ∧
      after.transports = e.transports ++ (buildTransports colors source s.transports).1 := by
  obtain ⟨threshold, known⟩ := read
  cases made : buildTransports colors source s.transports with
  | mk built later =>
      let options : LoggerOptions := ⟨s.logger.label, s.logger.enabled, s.logger.category,
        placed e.transports.length built, threshold⟩
      let furnished : Engine := { e with transports := e.transports ++ built }
      have runs : s.newLogger colors source e = .ok (furnished.newLogger options later) := by
        simp only [Settings.newLogger, Settings.options, made, known, add_transports_placed]
        rfl
      exact ⟨_, _, runs, engine_new_logger_transports options later furnished, rfl⟩

-- The fresh ids never repeat, but nothing keeps them away from the named ones.
theorem configured_transports_complete_iff (check : String → Except Diagnostics.Error Unit)
    (colors : Bool) (label : String) (s : Settings) (e : Engine)
    (valid : s.validateBy check = .ok ()) :
    ∃ logger after, s.newLogger colors (.counter label) e = .ok (logger, after) ∧
      (Complete colors s.transports (logger.transports after) after.transports ↔
        ∀ n < unnamed s.transports, IdSource.numbered label (n + 1) ∉ namedIds s.transports) := by
  obtain ⟨read, distinct⟩ := valid_parts check s valid
  obtain ⟨logger, after, made, manager, pool⟩ :=
    new_logger_transports colors (.counter label) s e read
  refine ⟨logger, after, made, ?_⟩
  rw [manager, pool, complete_iff_distinct colors e.transports s.transports _
    (build_transports_makes colors (.counter label) s.transports),
    built_distinct_iff colors (.counter label) s.transports (IdSource.counting_distinct label 0)
      distinct]
  simp only [IdSource.counter, IdSource.nth_counting, Nat.zero_add]

def withMemories (ids : List String) : Settings :=
  { Settings.standard with
    transports := ids.map fun id => { TransportSettings.standard with kind := .memory, id := id } }

theorem configured_transports_complete_iff_names_apart :
    ∃ logger after,
      (withMemories ["", "audit", ""]).newLogger true (.counter "t") (.empty 0) =
        .ok (logger, after) ∧
      Complete true (withMemories ["", "audit", ""]).transports (logger.transports after)
        after.transports := by
  obtain ⟨logger, after, made, complete⟩ :=
    configured_transports_complete_iff Diagnostics.Settings.checkFilter true "t"
      (withMemories ["", "audit", ""]) (.empty 0) rfl
  exact ⟨logger, after, made, complete.mpr (by decide)⟩

-- The unnamed entry is given the id that the other one names, and takes its place.
theorem named_transport_replaced :
    (∀ check, (withMemories ["t-1", ""]).validateBy check = .ok ()) ∧
    ∃ logger after,
      (withMemories ["t-1", ""]).newLogger true (.counter "t") (.empty 0) = .ok (logger, after) ∧
      (logger.transports after).ids = ["t-1"] ∧
      ¬ Complete true (withMemories ["t-1", ""]).transports (logger.transports after)
        after.transports := by
  obtain ⟨logger, after, made, manager, -⟩ :=
    new_logger_transports true (.counter "t") (withMemories ["t-1", ""]) (.empty 0) ⟨_, rfl⟩
  have ids : (logger.transports after).ids = ["t-1"] := by
    rw [manager]
    decide
  refine ⟨fun _ => rfl, logger, after, made, ids, fun complete => ?_⟩
  have held : (logger.transports after).refs.length = 1 := by
    simpa [Manager.ids] using congrArg List.length ids
  exact absurd (complete.each.length_eq.trans held) (by decide)

end StructuredLog.Config
