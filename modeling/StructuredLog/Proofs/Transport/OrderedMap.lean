import StructuredLog.Proofs.Transport.Deliveries
import StructuredLog.Proofs.Transport.Manager

set_option autoImplicit false

namespace StructuredLog.Manager

-- To collect is to make a new manager.
inductive Change where
  | add (r : TransportRef)
  | extend (rs : List TransportRef)
  | collect (rs : List TransportRef)
  | remove (id : String)
  | release
deriving DecidableEq, Repr

def changed (m : Manager) : Change → Manager
  | .add r => m.add r
  | .extend rs => m.extend rs
  | .collect rs => .ofList rs
  | .remove id => (m.remove id).2
  | .release => .empty

def made (changes : List Change) : Manager := changes.foldl changed empty

namespace Change

def given : Change → List TransportRef
  | .add r => [r]
  | .extend rs => rs
  | .collect rs => rs
  | .remove _ => []
  | .release => []

def placed (rows : List TransportRef) (r : TransportRef) : List TransportRef :=
  if r.id ∈ rows.map TransportRef.id then rows.map fun x => if x.id = r.id then r else x
  else rows ++ [r]

-- The rows of the reference after a change: an id keeps the place at which it came.
def rowsAfter (rows : List TransportRef) : Change → List TransportRef
  | .add r => placed rows r
  | .extend rs => rs.foldl placed rows
  | .collect rs => rs.foldl placed []
  | .remove id => rows.filter fun x => x.id != id
  | .release => []

-- The transport added last under an id and not removed since, told by the changes alone.
def latestAfter (id : String) (found : Option TransportRef) : Change → Option TransportRef
  | .add r => if r.id = id then some r else found
  | .extend rs => ((rs.filter fun r => r.id == id).getLast?).or found
  | .collect rs => (rs.filter fun r => r.id == id).getLast?
  | .remove gone => if gone = id then none else found
  | .release => none

def rows (changes : List Change) : List TransportRef := changes.foldl rowsAfter []

def latest (id : String) (changes : List Change) : Option TransportRef :=
  changes.foldl (latestAfter id) none

end Change

-- Each transport once for each time it is listed. A transport that panics is the last.
inductive Sends (platform : Platform) :
    List TransportRef → Pool × Record → List Event → Pool × Record → Prop
  | nil (s : Pool × Record) : Sends platform [] s [] s
  | panicked (ref : TransportRef) (s t : Pool × Record) (message : String) (events : List Event) :
      sendTo platform ref.slot s = ⟨.panicked message, t, events⟩ → Sends platform [ref] s events t
  | returned (ref : TransportRef) (rest : List TransportRef) (s t u : Pool × Record) (d : Delivery)
      (early late : List Event) : sendTo platform ref.slot s = ⟨.returned d, t, early⟩ →
      Sends platform rest t late u →
      Sends platform (ref :: rest) s (Sent.told s.2.header.level ⟨ref, d, early⟩ ++ late) u

section Rows

variable (refs before after : List TransportRef) (x r : TransportRef) (key : String)

theorem absent_before (distinct : ((before ++ x :: after).map TransportRef.id).Nodup) :
    x.id ∉ before.map TransportRef.id := by
  rw [List.map_append, List.map_cons] at distinct
  exact fun present => (List.nodup_append.mp distinct).2.2 x.id present x.id List.mem_cons_self rfl

theorem absent_after (distinct : ((before ++ x :: after).map TransportRef.id).Nodup) :
    x.id ∉ after.map TransportRef.id := by
  rw [List.map_append, List.map_cons] at distinct
  exact (List.nodup_cons.mp (List.nodup_append.mp distinct).2.1).1

theorem put_present (same : x.id = r.id) (absent : x.id ∉ before.map TransportRef.id) :
    put r (before ++ x :: after) = before ++ r :: after := by
  induction before with
  | nil => rw [List.nil_append, put, if_pos same, List.nil_append]
  | cons b before ih =>
      rw [List.map_cons, List.mem_cons, not_or] at absent
      have other : b.id ≠ r.id := fun first => absent.1 (same.trans first.symm)
      rw [List.cons_append, put, if_neg other, ih absent.2, List.cons_append]

theorem drop_present (same : x.id = key) (absent : x.id ∉ before.map TransportRef.id) :
    drop key (before ++ x :: after) = before ++ after := by
  induction before with
  | nil => rw [List.nil_append, drop, if_pos same, List.nil_append]
  | cons b before ih =>
      rw [List.map_cons, List.mem_cons, not_or] at absent
      have other : b.id ≠ key := fun first => absent.1 (same.trans first.symm)
      rw [List.cons_append, drop, if_neg other, ih absent.2, List.cons_append]

theorem drop_absent (absent : key ∉ refs.map TransportRef.id) : drop key refs = refs := by
  induction refs with
  | nil => rfl
  | cons y ys ih =>
      rw [List.map_cons, List.mem_cons, not_or] at absent
      rw [drop, if_neg (Ne.symm absent.1), ih absent.2]

theorem split_at (present : key ∈ refs.map TransportRef.id) :
    ∃ before x after, refs = before ++ x :: after ∧ x.id = key := by
  obtain ⟨x, member, same⟩ := List.mem_map.mp present
  obtain ⟨before, after, split⟩ := List.append_of_mem member
  exact ⟨before, x, after, split, same⟩

theorem replaced_elsewhere (absent : key ∉ refs.map TransportRef.id) :
    refs.map (fun y => if y.id = key then r else y) = refs := by
  refine (List.map_congr_left ?_).trans (List.map_id refs)
  intro y member
  have other : y.id ≠ key := fun same => absent (same ▸ List.mem_map_of_mem member)
  exact if_neg other

theorem filter_elsewhere (absent : key ∉ refs.map TransportRef.id) :
    refs.filter (fun y => y.id != key) = refs := by
  refine List.filter_eq_self.mpr ?_
  intro y member
  exact bne_iff_ne.mpr fun same => absent (same ▸ List.mem_map_of_mem member)

theorem put_placed (distinct : (refs.map TransportRef.id).Nodup) :
    put r refs = Change.placed refs r := by
  unfold Change.placed
  by_cases present : r.id ∈ refs.map TransportRef.id
  · obtain ⟨before, x, after, rfl, same⟩ := split_at refs r.id present
    have early := absent_before before after x distinct
    have late := absent_after before after x distinct
    rw [if_pos present, put_present before after x r same early, List.map_append, List.map_cons,
      if_pos same, replaced_elsewhere before r r.id (same ▸ early),
      replaced_elsewhere after r r.id (same ▸ late)]
  · rw [if_neg present, put_absent r refs present]

theorem drop_filter (distinct : (refs.map TransportRef.id).Nodup) :
    drop key refs = refs.filter fun y => y.id != key := by
  by_cases present : key ∈ refs.map TransportRef.id
  · obtain ⟨before, x, after, rfl, same⟩ := split_at refs key present
    have early := absent_before before after x distinct
    have late := absent_after before after x distinct
    rw [drop_present before after x key same early, List.filter_append,
      List.filter_cons_of_neg (by simp [same]), filter_elsewhere before key (same ▸ early),
      filter_elsewhere after key (same ▸ late)]
  · rw [drop_absent refs key present, filter_elsewhere refs key present]

end Rows

section Finding

variable (m : Manager) (r : TransportRef) (key : String)

theorem get_none_iff : m.get? key = none ↔ key ∉ m.ids := by
  simp [get?, ids]

theorem get_add : (m.add r).get? key = if r.id = key then some r else m.get? key := by
  unfold add get?
  induction m.refs with
  | nil => by_cases asked : r.id = key <;> simp [put, asked]
  | cons x xs ih =>
      by_cases same : x.id = r.id
      · rw [put, if_pos same]
        by_cases asked : r.id = key
        · simp [asked]
        · simp [asked, same]
      · rw [put, if_neg same, List.find?_cons, List.find?_cons, ih]
        by_cases asked : x.id = key
        · have other : r.id ≠ key := fun here => same (asked.trans here.symm)
          simp [asked, other]
        · rw [beq_false_of_ne asked]

theorem get_extend (rs : List TransportRef) :
    (m.extend rs).get? key = ((rs.filter fun r => r.id == key).getLast?).or (m.get? key) := by
  induction rs generalizing m with
  | nil => rfl
  | cons r rs ih =>
      change ((m.add r).extend rs).get? key = _
      rw [ih, get_add]
      by_cases asked : r.id = key
      · rw [List.filter_cons_of_pos (by simp [asked]), if_pos asked]
        cases rs.filter fun r => r.id == key with
        | nil => rfl
        | cons x xs => rw [List.getLast?_cons_cons, List.getLast?_cons]; rfl
      · rw [List.filter_cons_of_neg (by simp [asked]), if_neg asked]

theorem get_remove (distinct : m.ids.Nodup) (gone : String) :
    (m.remove gone).2.get? key = if gone = key then none else m.get? key := by
  unfold remove get?
  dsimp only
  rw [drop_filter m.refs gone distinct]
  by_cases asked : gone = key
  · rw [if_pos asked]
    simp [asked]
  · rw [if_neg asked, List.find?_filter]
    have same : (fun x : TransportRef => decide ((x.id != gone) = true ∧ (x.id == key) = true)) =
        fun x => x.id == key := by
      funext x
      by_cases found : x.id = key
      · simp [found, Ne.symm asked]
      · simp [found]
    exact (congrArg (m.refs.find? ·) same)

theorem get_changed (distinct : m.ids.Nodup) (c : Change) :
    (m.changed c).get? key = c.latestAfter key (m.get? key) := by
  cases c with
  | add r => exact get_add m r key
  | extend rs => exact get_extend m key rs
  | collect rs => exact (get_extend empty key rs).trans Option.or_none
  | remove gone => exact get_remove m key distinct gone
  | release => rfl

end Finding

theorem extend_rows (rs : List TransportRef) (m : Manager) (distinct : m.ids.Nodup) :
    (m.extend rs).refs = rs.foldl Change.placed m.refs := by
  induction rs generalizing m with
  | nil => rfl
  | cons r rs ih =>
      have next : (m.add r).refs = Change.placed m.refs r := put_placed m.refs r distinct
      rw [List.foldl_cons, ← next]
      exact ih (m.add r) (put_distinct r m.refs distinct)

theorem changed_rows (m : Manager) (c : Change) (distinct : m.ids.Nodup) :
    (m.changed c).refs = c.rowsAfter m.refs := by
  cases c with
  | add r => exact put_placed m.refs r distinct
  | extend rs => exact extend_rows rs m distinct
  | collect rs => exact extend_rows rs empty List.nodup_nil
  | remove id => exact drop_filter m.refs id distinct
  | release => rfl

theorem changed_distinct (m : Manager) (c : Change) (distinct : m.ids.Nodup) :
    (m.changed c).ids.Nodup := by
  cases c with
  | add r => exact put_distinct r m.refs distinct
  | extend rs => exact extend_distinct rs m distinct
  | collect rs => exact of_list_distinct rs
  | remove id =>
      have rest : (m.changed (.remove id)).refs.Sublist m.refs := by
        rw [changed_rows m (.remove id) distinct]
        exact List.filter_sublist
      exact distinct.sublist (rest.map TransportRef.id)
  | release => exact List.nodup_nil

theorem made_follows (changes : List Change) :
    (made changes).ids.Nodup ∧ (made changes).refs = Change.rows changes ∧
      ∀ id, (made changes).get? id = Change.latest id changes := by
  induction changes using List.reverseRecOn with
  | nil => exact ⟨List.nodup_nil, rfl, fun _ => rfl⟩
  | append_singleton changes c ih =>
      obtain ⟨distinct, rows, found⟩ := ih
      have last : made (changes ++ [c]) = (made changes).changed c := by
        rw [made, List.foldl_append]
        rfl
      refine ⟨?_, ?_, ?_⟩
      · rw [last]
        exact changed_distinct _ c distinct
      · rw [last, changed_rows _ c distinct, rows, Change.rows, Change.rows, List.foldl_append]
        rfl
      · intro id
        rw [last, get_changed _ id distinct c, found, Change.latest, Change.latest, List.foldl_append]
        rfl

theorem made_given (changes : List Change) (x : TransportRef) (member : x ∈ (made changes).refs) :
    ∃ c ∈ changes, x ∈ c.given := by
  induction changes using List.reverseRecOn with
  | nil => cases member
  | append_singleton changes c ih =>
      have earlier (old : x ∈ (made changes).refs) : ∃ c' ∈ changes ++ [c], x ∈ c'.given := by
        obtain ⟨c', listed, given⟩ := ih old
        exact ⟨c', List.mem_append_left _ listed, given⟩
      have now (given : x ∈ c.given) : ∃ c' ∈ changes ++ [c], x ∈ c'.given :=
        ⟨c, List.mem_append_right _ (List.mem_singleton_self c), given⟩
      rw [made, List.foldl_append] at member
      cases c with
      | add r =>
          rcases mem_put r x _ member with new | old
          · exact now (List.mem_singleton.mpr new)
          · exact earlier old
      | extend rs => exact (mem_extend rs (made changes) x member).elim now earlier
      | collect rs => exact now (mem_of_list rs x member)
      | remove id =>
          have rest := drop_filter (made changes).refs id (made_follows changes).1
          change x ∈ drop id (made changes).refs at member
          rw [rest] at member
          exact earlier (List.mem_filter.mp member).1
      | release => cases member

theorem dispatch_on (platform : Platform) (ref : TransportRef) (rest : List TransportRef)
    (s t : Pool × Record)
    (d : Delivery) (early : List Event) (on : isEnabled s.1 ref = true)
    (ran : sendTo platform ref.slot s = ⟨.returned d, t, early⟩) :
    (dispatchAll platform (ref :: rest) s).state = (dispatchAll platform rest t).state ∧
      (dispatchAll platform (ref :: rest) s).events =
        Sent.told s.2.header.level ⟨ref, d, early⟩ ++ (dispatchAll platform rest t).events := by
  rw [dispatchAll, Act.bind_quiet Act.get _ s s s rfl]
  simp only [on, if_true]
  change (Act.bind _ _ s).state = _ ∧ (Act.bind _ _ s).events = _
  rw [Act.bind_returned _ _ s t d early ran]
  cases d with
  | ok done => simp [Sent.told, Sent.error?]
  | error e =>
      obtain ⟨state, events⟩ :=
        Act.map_ran (dispatchAll platform rest) (fun _ => (.error e : Delivery)) t
      change (Act.bind _ _ t).state = _ ∧ _ ++ (Act.bind _ _ t).events = _
      rw [Act.bind_returned _ _ t t () _ rfl, state, events]
      simp [Sent.told, Sent.error?]

-- No transport gets a second turn, whatever comes of the turns before.
theorem dispatch_sends (platform : Platform) (refs : List TransportRef) (s : Pool × Record) :
    ∃ sends, sends.Sublist refs ∧
      Sends platform sends s (dispatchAll platform refs s).events
        (dispatchAll platform refs s).state := by
  induction refs generalizing s with
  | nil => exact ⟨[], .slnil, .nil s⟩
  | cons ref rest ih =>
      cases on : isEnabled s.1 ref with
      | false =>
          rw [dispatch_off platform ref rest s on]
          obtain ⟨sends, listed, sent⟩ := ih s
          exact ⟨sends, listed.cons ref, sent⟩
      | true =>
          cases ran : sendTo platform ref.slot s with
          | mk outcome t early =>
              cases outcome with
              | panicked message =>
                  rw [dispatchAll, Act.bind_quiet Act.get _ s s s rfl]
                  simp only [on, if_true]
                  rw [Act.bind_stopped _ _ s t message early ran]
                  exact ⟨[ref], (List.nil_sublist rest).cons_cons ref, .panicked ref s t message early ran⟩
              | returned d =>
                  obtain ⟨sends, listed, sent⟩ := ih t
                  obtain ⟨state, events⟩ := dispatch_on platform ref rest s t d early on ran
                  rw [state, events]
                  exact ⟨ref :: sends, listed.cons_cons ref, .returned ref sends s t _ d early _ ran sent⟩

structure OrderedMap (m : Manager) : Prop where
  distinct : m.ids.Nodup
  appends : ∀ r, r.id ∉ m.ids → (m.add r).refs = m.refs ++ [r]
  replaces : ∀ before x after r, m.refs = before ++ x :: after → x.id = r.id →
    (m.add r).refs = before ++ r :: after
  removes : ∀ before x after, m.refs = before ++ x :: after →
    m.remove x.id = (some x, ⟨before ++ after⟩)
  spares : ∀ id, id ∉ m.ids → m.remove id = (none, m)
  dispatches : ∀ platform s, ∃ sends, sends.Sublist m.refs ∧ (sends.map TransportRef.id).Nodup ∧
    Sends platform sends s (m.dispatch platform s).events (m.dispatch platform s).state

structure Switched (m : Manager) (id : String) (enabled : Bool) (pool : Pool) : Prop where
  known : (m.setEnabled id enabled pool).1 = decide (id ∈ m.ids)
  own : ∀ x ∈ m.refs, (m.setEnabled id enabled pool).2[x.slot]? =
    (pool[x.slot]?).map fun t => if id = x.id then { t with enabled := enabled } else t
  others : ∀ slot, slot ∉ m.refs.map TransportRef.slot →
    (m.setEnabled id enabled pool).2[slot]? = pool[slot]?

theorem ordered_map_of_distinct (m : Manager) (distinct : m.ids.Nodup) : OrderedMap m := by
  have split (before after : List TransportRef) (x : TransportRef)
      (held : m.refs = before ++ x :: after) : x.id ∉ before.map TransportRef.id :=
    absent_before before after x (held ▸ distinct)
  constructor
  case distinct => exact distinct
  case appends => exact fun r absent => put_absent r m.refs absent
  case replaces =>
    intro before x after r held same
    rw [add, held]
    exact put_present before after x r same (split before after x held)
  case removes =>
    intro before x after held
    have found : m.get? x.id = some x := by
      rw [get?, held, List.find?_append, List.find?_cons_of_pos (by simp)]
      have early : before.find? (fun r => r.id == x.id) = none := by
        simpa using split before after x held
      rw [early]
      rfl
    rw [remove, found, held, drop_present before after x x.id rfl (split before after x held)]
  case spares =>
    intro id absent
    rw [remove, (get_none_iff m id).mpr absent, drop_absent m.refs id absent]
  case dispatches =>
    intro platform s
    obtain ⟨sends, listed, sent⟩ := dispatch_sends platform m.refs s
    exact ⟨sends, listed, distinct.sublist (listed.map TransportRef.id), sent⟩

theorem set_enabled_switched (m : Manager) (id : String) (enabled : Bool) (pool : Pool)
    (distinct : m.ids.Nodup) (leads : ∀ x ∈ m.refs, x.Leads pool) : Switched m id enabled pool := by
  constructor
  case known =>
    unfold setEnabled
    cases found : m.get? id with
    | none => exact (decide_eq_false ((get_none_iff m id).mp found)).symm
    | some r =>
        have present : id ∈ m.ids := by
          by_contra absent
          rw [(get_none_iff m id).mpr absent] at found
          cases found
        exact (decide_eq_true present).symm
  case own =>
    intro x member
    obtain ⟨t, known, -⟩ := Option.map_eq_some_iff.mp (leads x member)
    rw [set_enabled_known m id enabled pool x t distinct leads member known, known]
    rfl
  case others =>
    intro slot outside
    unfold setEnabled
    cases found : m.get? id with
    | none => rfl
    | some r =>
        have apart : r.slot ≠ slot := fun here =>
          outside (here ▸ List.mem_map_of_mem (List.mem_of_find?_eq_some found))
        exact List.getElem?_modify_ne _ _ apart

-- A pool is asked to hold the transports that were given under the ids they were given with.
theorem manager_is_an_ordered_map (changes : List Change) :
    OrderedMap (made changes) ∧ (made changes).refs = Change.rows changes ∧
      (∀ id, (made changes).get? id = Change.latest id changes) ∧
      ∀ pool, (∀ c ∈ changes, ∀ r ∈ c.given, r.Leads pool) →
        ∀ id enabled, Switched (made changes) id enabled pool := by
  obtain ⟨distinct, rows, found⟩ := made_follows changes
  refine ⟨ordered_map_of_distinct _ distinct, rows, found, ?_⟩
  intro pool given id enabled
  refine set_enabled_switched _ id enabled pool distinct ?_
  intro x member
  obtain ⟨c, listed, inside⟩ := made_given changes x member
  exact given c listed x inside

-- An id that was replaced keeps its place, one that was removed comes back at the end.
theorem manager_is_an_ordered_map_replaced_and_removed :
    let changes : List Change := [.collect [⟨"net", 0⟩, ⟨"disk", 1⟩, ⟨"net", 2⟩], .remove "disk",
      .extend [⟨"tape", 3⟩, ⟨"disk", 1⟩]]
    let pool : Pool := [⟨"net", true, .forwarding⟩, ⟨"disk", true, .forwarding⟩,
      ⟨"net", true, .forwarding⟩, ⟨"tape", true, .forwarding⟩]
    (∀ c ∈ changes, ∀ r ∈ c.given, r.Leads pool) ∧
      (made changes).refs = [⟨"net", 2⟩, ⟨"tape", 3⟩, ⟨"disk", 1⟩] ∧
      (made changes).get? "net" = some ⟨"net", 2⟩ ∧
      (made changes).remove "tape" = (some ⟨"tape", 3⟩, ⟨[⟨"net", 2⟩, ⟨"disk", 1⟩]⟩) ∧
      ((made changes).setEnabled "net" false pool).2[2]? = some ⟨"net", false, .forwarding⟩ ∧
      ((made changes).setEnabled "net" false pool).2[0]? = some ⟨"net", true, .forwarding⟩ := by
  intro changes pool
  have given : ∀ c ∈ changes, ∀ r ∈ c.given, r.Leads pool := by
    simp [changes, Change.given, TransportRef.Leads, pool]
  obtain ⟨ordered, rows, found, switched⟩ := manager_is_an_ordered_map changes
  have content : (made changes).refs = [⟨"net", 2⟩, ⟨"tape", 3⟩, ⟨"disk", 1⟩] :=
    rows.trans (by decide)
  have switch := switched pool given "net" false
  refine ⟨given, content, (found "net").trans (by decide),
    ordered.removes [⟨"net", 2⟩] ⟨"tape", 3⟩ [⟨"disk", 1⟩] content, ?_, ?_⟩
  · exact switch.own ⟨"net", 2⟩ (by simp [content])
  · exact switch.others 0 (by simp [content])

end StructuredLog.Manager
