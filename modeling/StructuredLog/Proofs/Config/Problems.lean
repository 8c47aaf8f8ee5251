import StructuredLog.Proofs.Config.Validity

set_option autoImplicit false

namespace StructuredLog.Config

open Text

inductive Place where
  | level
  | category
  | id (i : Nat)
  | capacity (i : Nat)
  | sameId (i : Nat)
  | filter
deriving DecidableEq, Repr

def Place.ofTransport (i : Nat) : List Place := [.id i, .capacity i, .sameId i]

def Settings.places (s : Settings) : List Place :=
  [.level, .category] ++ ((List.range s.transports.length).flatMap Place.ofTransport ++ [.filter])

inductive Problem (check : String → Except Diagnostics.Error Unit) (s : Settings) :
    Place → Error → Prop
  | noLevel : allBlank s.logger.lowestLevel = true →
      Problem check s .level (.missing "logger.lowest_level")
  | unknownLevel : allBlank s.logger.lowestLevel = false →
      (∀ threshold, word s.logger.lowestLevel ∉ thresholdWords threshold) →
      Problem check s .level (.invalidValue "logger.lowest_level"
        ("unknown log level '" ++ s.logger.lowestLevel
          ++ "' (expected trace, debug, info, warn, error, fatal or off)"))
  | blankSegment (segment : String) : segment ∈ s.logger.category → allBlank segment = true →
      Problem check s .category
        (.invalidValue "logger.category" "category segments must not be empty")
  | blankInId (i : Nat) (t : TransportSettings) (c : Char) : s.transports[i]? = some t →
      c ∈ t.id.toList → isBlank c = true →
      Problem check s (.id i)
        (.invalidValue "transports.id" ("'" ++ t.id ++ "' must not contain whitespace"))
  | noCapacity (i : Nat) (t : TransportSettings) : s.transports[i]? = some t →
      t.kind = .memory → t.capacity = some 0 →
      Problem check s (.capacity i)
        (.invalidValue "transports.capacity" "capacity must be greater than 0")
  | strayCapacity (i n : Nat) (t : TransportSettings) : s.transports[i]? = some t →
      t.kind ≠ .memory → t.capacity = some n →
      Problem check s (.capacity i)
        (.conflict ("capacity only applies to memory transports, not " ++ t.kind.name))
  | sameId (i j : Nat) (t u : TransportSettings) : s.transports[i]? = some t → t.id ≠ "" →
      j < i → s.transports[j]? = some u → u.id = t.id →
      Problem check s (.sameId i)
        (.conflict ("transport id '" ++ t.id ++ "' is used more than once"))
  | badFilter (text : String) (fault : Diagnostics.Error) : s.diagnostics.filter = some text →
      check text = .error fault → Problem check s .filter (.diagnostics fault)

structure Settings.Acceptable (check : String → Except Diagnostics.Error Unit) (s : Settings) :
    Prop where
  level : allBlank s.logger.lowestLevel = false ∧
    ∃ threshold, word s.logger.lowestLevel ∈ thresholdWords threshold
  category : ∀ segment ∈ s.logger.category, allBlank segment = false
  ids : ∀ t ∈ s.transports, ∀ c ∈ t.id.toList, isBlank c = false
  capacities : ∀ t ∈ s.transports, ∀ n, t.capacity = some n → t.kind = .memory ∧ n ≠ 0
  distinct : ((s.transports.map TransportSettings.id).filter (· ≠ "")).Nodup
  filter : ∀ text, s.diagnostics.filter = some text → check text = .ok ()

section Order

variable (problem : Place → Error → Prop)

def Clear (places : List Place) : Prop := ∀ place ∈ places, ∀ e, ¬ problem place e

inductive FirstAmong : List Place → Error → Prop
  | here (place : Place) (rest : List Place) (e : Error) : problem place e →
      FirstAmong (place :: rest) e
  | later (place : Place) (rest : List Place) (e : Error) : (∀ other, ¬ problem place other) →
      FirstAmong rest e → FirstAmong (place :: rest) e

def Reports {α : Type} (x : Except Error α) (places : List Place) : Prop :=
  ∀ e, x = .error e ↔ FirstAmong problem places e

theorem clear_cons_iff (place : Place) (rest : List Place) :
    Clear problem (place :: rest) ↔ (∀ e, ¬ problem place e) ∧ Clear problem rest :=
  List.forall_mem_cons

theorem clear_iff_no_first (places : List Place) :
    Clear problem places ↔ ∀ e, ¬ FirstAmong problem places e := by
  induction places with
  | nil => exact iff_of_true nofun nofun
  | cons place rest ih =>
      rw [clear_cons_iff, ih]
      constructor
      · rintro ⟨fine, others⟩ e first
        cases first with
        | here _ _ _ wrong => exact fine e wrong
        | later _ _ _ _ first => exact others e first
      · intro none
        have fine : ∀ e, ¬ problem place e := fun e wrong => none e (.here place rest e wrong)
        exact ⟨fine, fun e first => none e (.later place rest e fine first)⟩

theorem first_append_iff (places more : List Place) (e : Error) :
    FirstAmong problem (places ++ more) e ↔
      FirstAmong problem places e ∨ Clear problem places ∧ FirstAmong problem more e := by
  induction places with
  | nil =>
      constructor
      · exact fun first => .inr ⟨nofun, first⟩
      · rintro (none | ⟨-, first⟩)
        · cases none
        · exact first
  | cons place rest ih =>
      rw [clear_cons_iff]
      constructor
      · intro first
        cases first with
        | here _ _ _ wrong => exact .inl (.here place rest e wrong)
        | later _ _ _ fine first =>
            rcases ih.mp first with early | ⟨clear, late⟩
            · exact .inl (.later place rest e fine early)
            · exact .inr ⟨⟨fine, clear⟩, late⟩
      · rintro (first | ⟨⟨fine, clear⟩, late⟩)
        · cases first with
          | here _ _ _ wrong => exact .here place _ e wrong
          | later _ _ _ fine early => exact .later place _ e fine (ih.mpr (.inl early))
        · exact .later place _ e fine (ih.mpr (.inr ⟨clear, late⟩))

theorem reports_ok_iff {α : Type} (x : Except Error α) (places : List Place)
    (reports : Reports problem x places) : (∃ a, x = .ok a) ↔ Clear problem places := by
  rw [clear_iff_no_first]
  cases x with
  | ok a => exact iff_of_true ⟨a, rfl⟩ fun e first => nomatch (reports e).mpr first
  | error e => exact iff_of_false nofun fun none => none e ((reports e).mp rfl)

theorem reports_nothing {α : Type} (a : α) : Reports problem (.ok a : Except Error α) [] :=
  fun _ => iff_of_false nofun nofun

theorem reports_place {α : Type} (x : Except Error α) (place : Place)
    (told : ∀ e, x = .error e ↔ problem place e) : Reports problem x [place] := by
  intro e
  rw [told]
  constructor
  · exact .here place [] e
  · intro first
    cases first with
    | here _ _ _ wrong => exact wrong
    | later _ _ _ _ none => cases none

theorem reports_past {α : Type} (x : Except Error α) (place : Place) (rest : List Place)
    (fine : ∀ e, ¬ problem place e) (reports : Reports problem x rest) :
    Reports problem x (place :: rest) := by
  intro e
  rw [reports]
  constructor
  · exact .later place rest e fine
  · intro first
    cases first with
    | here _ _ _ wrong => exact absurd wrong (fine e)
    | later _ _ _ _ first => exact first

theorem reports_guard {α : Type} (bad : Bool) (fault : Error) (x : Except Error α) (place : Place)
    (rest : List Place) (wrong : ∀ e, problem place e ↔ bad = true ∧ e = fault)
    (reports : bad = false → Reports problem x rest) :
    Reports problem (if bad then .error fault else x) (place :: rest) := by
  cases bad with
  | false =>
      exact reports_past problem x place rest (fun e met => nomatch (wrong e).mp met) (reports rfl)
  | true =>
      intro e
      constructor
      · rintro ⟨⟩
        exact .here place rest fault ((wrong fault).mpr ⟨rfl, rfl⟩)
      · intro first
        cases first with
        | here _ _ _ met =>
            obtain ⟨-, rfl⟩ := (wrong e).mp met
            rfl
        | later _ _ _ fine _ => exact absurd ((wrong fault).mpr ⟨rfl, rfl⟩) (fine fault)

theorem then_error_iff {α β : Type} (x : Except Error α) (y : Except Error β) (e : Error) :
    (x >>= fun _ => y) = .error e ↔ x = .error e ∨ (∃ a, x = .ok a) ∧ y = .error e := by
  cases x with
  | error fault => simp [bind, Except.bind]
  | ok a => simp [bind, Except.bind]

theorem reports_then {α β : Type} (x : Except Error α) (y : Except Error β)
    (places more : List Place) (first : Reports problem x places)
    (second : Clear problem places → Reports problem y more) :
    Reports problem (x >>= fun _ => y) (places ++ more) := by
  intro e
  rw [then_error_iff, first_append_iff, first e, reports_ok_iff problem x places first]
  exact or_congr_right (and_congr_right fun clear => second clear e)

end Order

section Checks

variable (check : String → Except Diagnostics.Error Unit) (s : Settings)

theorem threshold_error_iff (e : Error) :
    s.logger.threshold = .error e ↔ Problem check s .level e := by
  unfold LoggerSettings.threshold
  by_cases blank : allBlank s.logger.lowestLevel = true
  · rw [if_pos blank]
    constructor
    · rintro ⟨⟩
      exact .noLevel blank
    · intro wrong
      cases wrong with
      | noLevel _ => rfl
      | unknownLevel shown _ => rw [blank] at shown; cases shown
  · rw [if_neg blank]
    have shown : allBlank s.logger.lowestLevel = false := by simpa using blank
    cases read : Threshold.parse? s.logger.lowestLevel with
    | some threshold =>
        refine iff_of_false nofun fun wrong => ?_
        cases wrong with
        | noLevel blank' => exact blank blank'
        | unknownLevel _ unknown =>
            exact unknown threshold ((threshold_read_iff _ threshold).mp read)
    | none =>
        constructor
        · rintro ⟨⟩
          refine .unknownLevel shown fun threshold known => ?_
          rw [(threshold_read_iff _ threshold).mpr known] at read
          cases read
        · intro wrong
          cases wrong with
          | noLevel blank' => exact absurd blank' blank
          | unknownLevel _ _ => rfl

theorem category_problem_iff (e : Error) :
    Problem check s .category e ↔ s.logger.category.any allBlank = true ∧
      e = .invalidValue "logger.category" "category segments must not be empty" := by
  rw [List.any_eq_true]
  constructor
  · rintro ⟨⟩
    exact ⟨⟨_, ‹_›, ‹_›⟩, rfl⟩
  · rintro ⟨⟨segment, member, blank⟩, rfl⟩
    exact .blankSegment segment member blank

theorem logger_reports : Reports (Problem check s) s.logger.validate [.level, .category] := by
  refine reports_then _ s.logger.threshold _ [.level] [.category]
    (reports_place _ _ _ (threshold_error_iff check s)) fun _ => ?_
  exact reports_guard _ _ _ _ .category [] (category_problem_iff check s)
    fun _ => reports_nothing _ ()

theorem filter_reports :
    Reports (Problem check s) (validateDiagnosticsBy check s.diagnostics) [.filter] := by
  refine reports_place _ _ _ fun e => (diagnostics_error_iff check s.diagnostics e).trans ?_
  constructor
  · rintro ⟨text, fault, given, refused, rfl⟩
    exact .badFilter text fault given refused
  · rintro ⟨⟩
    exact ⟨_, _, ‹_›, ‹_›, rfl⟩

section Transport

variable (i : Nat) (t : TransportSettings) (there : s.transports[i]? = some t)

include there

theorem id_problem_iff (e : Error) :
    Problem check s (.id i) e ↔ t.id.toList.any isBlank = true ∧
      e = .invalidValue "transports.id" ("'" ++ t.id ++ "' must not contain whitespace") := by
  rw [List.any_eq_true]
  constructor
  · intro wrong
    cases wrong with
    | blankInId _ u c found member blank =>
        cases Option.some.inj (there.symm.trans found)
        exact ⟨⟨c, member, blank⟩, rfl⟩
  · rintro ⟨⟨c, member, blank⟩, rfl⟩
    exact .blankInId i t c there member blank

theorem capacity_problem_iff (e : Error) :
    Problem check s (.capacity i) e ↔
      (t.kind = .memory ∧ t.capacity = some 0 ∧
        e = .invalidValue "transports.capacity" "capacity must be greater than 0") ∨
      (t.kind ≠ .memory ∧ (∃ n, t.capacity = some n) ∧
        e = .conflict ("capacity only applies to memory transports, not " ++ t.kind.name)) := by
  constructor
  · intro wrong
    cases wrong with
    | noCapacity _ u found memory zero =>
        cases Option.some.inj (there.symm.trans found)
        exact .inl ⟨memory, zero, rfl⟩
    | strayCapacity _ n u found other given =>
        cases Option.some.inj (there.symm.trans found)
        exact .inr ⟨other, ⟨n, given⟩, rfl⟩
  · rintro (⟨memory, zero, rfl⟩ | ⟨other, ⟨n, given⟩, rfl⟩)
    · exact .noCapacity i t there memory zero
    · exact .strayCapacity i n t there other given

theorem transport_reports : Reports (Problem check s) t.validate [.id i, .capacity i] := by
  refine reports_guard _ _ _ _ (.id i) [.capacity i] (id_problem_iff check s i t there) fun _ => ?_
  refine reports_place _ _ _ fun e => ?_
  rw [capacity_problem_iff check s i t there]
  cases t.kind <;> cases t.capacity with
    | none => simp
    | some n => cases n <;> simp [eq_comm]

end Transport

theorem explicit_id_unspaced (t : TransportSettings)
    (unspaced : ∀ c ∈ t.id.toList, isBlank c = false) :
    t.explicitId = if t.id = "" then none else some t.id := by
  have whole : trimmed t.id = t.id := by
    rw [trimmed, trim_unspaced _ unspaced, String.ofList_toList]
  unfold TransportSettings.explicitId
  rw [whole]
  simp

def IdsBefore (i : Nat) (ids : List String) : Prop :=
  ∀ id, id ∈ ids ↔ id ≠ "" ∧ ∃ j u, j < i ∧ s.transports[j]? = some u ∧ u.id = id

section Seen

variable (i : Nat) (t : TransportSettings) (there : s.transports[i]? = some t)
  (seen : List String) (known : IdsBefore s i seen)

include there known

theorem same_id_problem_iff (e : Error) :
    Problem check s (.sameId i) e ↔ seen.contains t.id = true ∧
      e = .conflict ("transport id '" ++ t.id ++ "' is used more than once") := by
  rw [List.contains_iff_mem, known]
  constructor
  · intro wrong
    cases wrong with
    | sameId _ j t' u found named before other same =>
        cases Option.some.inj (there.symm.trans found)
        exact ⟨⟨named, j, u, before, other, same⟩, rfl⟩
  · rintro ⟨⟨named, j, u, before, other, same⟩, rfl⟩
    exact .sameId i j t u there named before other same

theorem ids_before_next :
    IdsBefore s (i + 1) (if t.id = "" then seen else t.id :: seen) := by
  have split (id : String) : (∃ j u, j < i + 1 ∧ s.transports[j]? = some u ∧ u.id = id) ↔
      (∃ j u, j < i ∧ s.transports[j]? = some u ∧ u.id = id) ∨ t.id = id := by
    constructor
    · rintro ⟨j, u, before, found, same⟩
      by_cases last : j = i
      · subst j
        cases Option.some.inj (there.symm.trans found)
        exact .inr same
      · exact .inl ⟨j, u, by omega, found, same⟩
    · rintro (⟨j, u, before, found, same⟩ | same)
      · exact ⟨j, u, by omega, found, same⟩
      · exact ⟨i, t, by omega, there, same⟩
  intro id
  rw [split, and_or_left, ← known]
  by_cases empty : t.id = ""
  · rw [if_pos empty]
    refine (or_iff_left fun both => ?_).symm
    exact both.1 (both.2.symm.trans empty)
  · rw [if_neg empty, List.mem_cons]
    constructor
    · rintro (rfl | old)
      · exact .inr ⟨empty, rfl⟩
      · exact .inl old
    · rintro (old | ⟨-, rfl⟩)
      · exact .inr old
      · exact .inl rfl

end Seen

-- Ids are compared as they are trimmed, which changes none of them: what is compared has no blanks.
theorem transports_report (i : Nat) (rest : List TransportSettings)
    (standing : s.transports.drop i = rest) (seen : List String) (known : IdsBefore s i seen) :
    Reports (Problem check s) (validateTransports seen rest)
      ((List.range' i rest.length).flatMap Place.ofTransport) := by
  induction rest generalizing i seen with
  | nil => exact reports_nothing _ ()
  | cons t rest ih =>
      have there : s.transports[i]? = some t := by
        rw [← List.head?_drop, standing]
        rfl
      have next : s.transports.drop (i + 1) = rest := by
        rw [← List.drop_drop, standing]
        rfl
      have later := ih (i + 1) next _ (ids_before_next s i t there seen known)
      have same := same_id_problem_iff check s i t there seen known
      rw [List.length_cons, List.range'_succ, List.flatMap_cons]
      change Reports (Problem check s) _ ([.id i, .capacity i] ++ .sameId i :: _)
      refine reports_then _ t.validate _ _ _ (transport_reports check s i t there) fun clear => ?_
      have unspaced : ∀ c ∈ t.id.toList, isBlank c = false := fun c member =>
        eq_false_of_ne_true fun blank =>
          clear (.id i) List.mem_cons_self _ (.blankInId i t c there member blank)
      rw [explicit_id_unspaced t unspaced]
      by_cases empty : t.id = ""
      · rw [if_pos empty] at later ⊢
        have unseen : t.id ∉ seen := fun old => ((known t.id).mp old).1 empty
        refine reports_past _ _ (.sameId i) _ (fun e wrong => ?_) later
        exact unseen (List.contains_iff_mem.mp ((same e).mp wrong).1)
      · rw [if_neg empty] at later ⊢
        exact reports_guard _ _ _ _ (.sameId i) _ same fun _ => later

theorem settings_report (check : String → Except Diagnostics.Error Unit) (s : Settings) :
    Reports (Problem check s) (s.validateBy check) s.places := by
  have none : IdsBefore s 0 [] := fun _ =>
    iff_of_false nofun fun ⟨_, _, _, before, _⟩ => nomatch before
  have transports := transports_report check s 0 s.transports rfl [] none
  rw [← List.range_eq_range'] at transports
  refine reports_then _ s.logger.validate _ _ _ (logger_reports check s) fun _ => ?_
  exact reports_then _ (validateTransports [] s.transports) _ _ _ transports
    fun _ => filter_reports check s

theorem distinct_ids_iff (ts : List TransportSettings) :
    ((ts.map TransportSettings.id).filter (· ≠ "")).Nodup ↔
      ∀ (i j : Nat) (t u : TransportSettings), ts[i]? = some t → t.id ≠ "" → j < i →
        ts[j]? = some u → u.id ≠ t.id := by
  unfold List.Nodup
  rw [List.pairwise_filter, List.pairwise_map, List.pairwise_iff_getElem]
  constructor
  · intro apart i j t u found named before other same
    obtain ⟨inside, rfl⟩ := List.getElem?_eq_some_iff.mp found
    obtain ⟨inside', rfl⟩ := List.getElem?_eq_some_iff.mp other
    have named' : ts[j].id ≠ "" := fun empty => named (same.symm.trans empty)
    exact apart j i inside' inside before (decide_eq_true named') (decide_eq_true named) same
  · intro apart j i inside' inside before _ named same
    exact apart i j _ _ (List.getElem?_eq_getElem inside) (of_decide_eq_true named) before
      (List.getElem?_eq_getElem inside') same

theorem acceptable_clear (acceptable : s.Acceptable check) (place : Place) (e : Error) :
    ¬ Problem check s place e := by
  intro wrong
  cases wrong with
  | noLevel blank => exact ne_true_of_eq_false acceptable.level.1 blank
  | unknownLevel _ unknown =>
      obtain ⟨threshold, known⟩ := acceptable.level.2
      exact unknown threshold known
  | blankSegment segment member blank =>
      exact ne_true_of_eq_false (acceptable.category segment member) blank
  | blankInId i t c found member blank =>
      exact ne_true_of_eq_false (acceptable.ids t (List.mem_of_getElem? found) c member) blank
  | noCapacity i t found _ zero =>
      exact (acceptable.capacities t (List.mem_of_getElem? found) 0 zero).2 rfl
  | strayCapacity i n t found other given =>
      exact other (acceptable.capacities t (List.mem_of_getElem? found) n given).1
  | sameId i j t u found named before other same =>
      exact (distinct_ids_iff s.transports).mp acceptable.distinct i j t u found named before other
        same
  | badFilter text fault given refused =>
      rw [acceptable.filter text given] at refused
      cases refused

theorem transport_places (i : Nat) (inside : i < s.transports.length) (place : Place)
    (member : place ∈ Place.ofTransport i) : place ∈ s.places := by
  have listed : place ∈ (List.range s.transports.length).flatMap Place.ofTransport :=
    List.mem_flatMap.mpr ⟨i, List.mem_range.mpr inside, member⟩
  exact List.mem_append_right _ (List.mem_append_left _ listed)

theorem clear_acceptable (clear : Clear (Problem check s) s.places) : s.Acceptable check := by
  have level := clear .level (by simp [Settings.places])
  have category := clear .category (by simp [Settings.places])
  have filter := clear .filter (by simp [Settings.places])
  have transport (i : Nat) (t : TransportSettings) (found : s.transports[i]? = some t)
      (place : Place) (member : place ∈ Place.ofTransport i) (e : Error) :
      ¬ Problem check s place e := by
    obtain ⟨inside, -⟩ := List.getElem?_eq_some_iff.mp found
    exact clear place (transport_places s i inside place member) e
  have shown : allBlank s.logger.lowestLevel = false :=
    eq_false_of_ne_true fun blank => level _ (.noLevel blank)
  constructor
  case level =>
    refine ⟨shown, Classical.byContradiction fun unknown => ?_⟩
    exact level _ (.unknownLevel shown (not_exists.mp unknown))
  case category =>
    intro segment member
    exact eq_false_of_ne_true fun blank => category _ (.blankSegment segment member blank)
  case ids =>
    intro t member c inside
    obtain ⟨i, found⟩ := List.getElem?_of_mem member
    refine eq_false_of_ne_true fun blank => ?_
    exact transport i t found (.id i) (by simp [Place.ofTransport]) _
      (.blankInId i t c found inside blank)
  case capacities =>
    intro t member n given
    obtain ⟨i, found⟩ := List.getElem?_of_mem member
    have fine := transport i t found (.capacity i) (by simp [Place.ofTransport])
    have memory : t.kind = .memory :=
      Classical.byContradiction fun other => fine _ (.strayCapacity i n t found other given)
    refine ⟨memory, ?_⟩
    rintro rfl
    exact fine _ (.noCapacity i t found memory given)
  case distinct =>
    refine (distinct_ids_iff s.transports).mpr fun i j t u found named before other same => ?_
    exact transport i t found (.sameId i) (by simp [Place.ofTransport]) _
      (.sameId i j t u found named before other same)
  case filter =>
    intro text given
    refine (ok_iff_no_error _).mpr fun fault refused => ?_
    exact filter _ (.badFilter text fault given refused)

-- Settings are accepted where nothing is wrong with them, and else the first problem is told.
theorem validation_reports_first_problem :
    (s.validateBy check = .ok () ↔ s.Acceptable check) ∧
      ∀ e, s.validateBy check = .error e ↔ FirstAmong (Problem check s) s.places e := by
  have reports := settings_report check s
  have accepted := reports_ok_iff _ _ _ reports
  rw [Unique.exists_iff] at accepted
  refine ⟨accepted.trans ⟨clear_acceptable check s, fun acceptable => ?_⟩, reports⟩
  exact fun place _ e => acceptable_clear check s acceptable place e

end Checks

end StructuredLog.Config
