import Mathlib.Data.List.Nodup
import Mathlib.Data.List.Perm.Subperm
import StructuredLog.Proofs.Transport.Dispatch

set_option autoImplicit false

namespace StructuredLog

def TransportRef.Leads (pool : Pool) (r : TransportRef) : Prop :=
  (pool[r.slot]?).map Transport.id = some r.id

namespace Manager

theorem put_ids (r : TransportRef) (refs : List TransportRef) :
    (put r refs).map TransportRef.id =
      if r.id ∈ refs.map TransportRef.id then refs.map TransportRef.id
      else refs.map TransportRef.id ++ [r.id] := by
  induction refs with
  | nil => rfl
  | cons x xs ih =>
      by_cases same : x.id = r.id
      · simp [put, same]
      · rw [put, if_neg same, List.map_cons, ih]
        by_cases later : r.id ∈ xs.map TransportRef.id
        · rw [if_pos later, if_pos (by simp [later])]
          rfl
        · have absent : r.id ∉ (x :: xs).map TransportRef.id := by
            simpa [Ne.symm same] using later
          rw [if_neg later, if_neg absent]
          rfl

theorem put_distinct (r : TransportRef) (refs : List TransportRef)
    (distinct : (refs.map TransportRef.id).Nodup) : ((put r refs).map TransportRef.id).Nodup := by
  rw [put_ids]
  by_cases present : r.id ∈ refs.map TransportRef.id
  · rwa [if_pos present]
  · rw [if_neg present, List.nodup_append]
    refine ⟨distinct, by simp, ?_⟩
    intro a member b last same
    rw [List.mem_singleton.mp last] at same
    exact present (same ▸ member)

theorem mem_put (r x : TransportRef) (refs : List TransportRef) (member : x ∈ put r refs) :
    x = r ∨ x ∈ refs := by
  induction refs with
  | nil => exact Or.inl (List.mem_singleton.mp member)
  | cons y ys ih =>
      by_cases same : y.id = r.id
      · rw [put, if_pos same] at member
        rcases List.mem_cons.mp member with new | old
        · exact Or.inl new
        · exact Or.inr (List.mem_cons_of_mem y old)
      · rw [put, if_neg same] at member
        rcases List.mem_cons.mp member with first | later
        · exact Or.inr (first ▸ List.mem_cons_self)
        · exact (ih later).imp_right (List.mem_cons_of_mem y)

theorem extend_distinct (rs : List TransportRef) (m : Manager) (distinct : m.ids.Nodup) :
    (m.extend rs).ids.Nodup := by
  induction rs generalizing m with
  | nil => exact distinct
  | cons r rs ih => exact ih (m.add r) (put_distinct r m.refs distinct)

theorem mem_extend (rs : List TransportRef) (m : Manager) (x : TransportRef)
    (member : x ∈ (m.extend rs).refs) : x ∈ rs ∨ x ∈ m.refs := by
  induction rs generalizing m with
  | nil => exact Or.inr member
  | cons r rs ih =>
      rcases ih (m.add r) member with later | earlier
      · exact Or.inl (List.mem_cons_of_mem r later)
      · rcases mem_put r x m.refs earlier with rfl | old
        · exact Or.inl List.mem_cons_self
        · exact Or.inr old

theorem of_list_distinct (rs : List TransportRef) : (ofList rs).ids.Nodup :=
  extend_distinct rs empty List.nodup_nil

theorem mem_of_list (rs : List TransportRef) (x : TransportRef) (member : x ∈ (ofList rs).refs) :
    x ∈ rs := by
  rcases mem_extend rs empty x member with given | old
  · exact given
  · cases old

theorem put_absent (r : TransportRef) (refs : List TransportRef)
    (absent : r.id ∉ refs.map TransportRef.id) : put r refs = refs ++ [r] := by
  induction refs with
  | nil => rfl
  | cons x xs ih =>
      rw [List.map_cons, List.mem_cons, not_or] at absent
      rw [put, if_neg (Ne.symm absent.1), ih absent.2]
      rfl

theorem extend_appends (rs : List TransportRef) (m : Manager)
    (distinct : (m.ids ++ rs.map TransportRef.id).Nodup) : (m.extend rs).refs = m.refs ++ rs := by
  induction rs generalizing m with
  | nil => exact (List.append_nil m.refs).symm
  | cons r rs ih =>
      have absent : r.id ∉ m.refs.map TransportRef.id := fun present =>
        (List.nodup_append.mp distinct).2.2 r.id present r.id List.mem_cons_self rfl
      have added : (m.add r).refs = m.refs ++ [r] := put_absent r m.refs absent
      have later : ((m.add r).ids ++ rs.map TransportRef.id).Nodup := by
        rw [ids, added, List.map_append, List.append_assoc]
        exact distinct
      change ((m.add r).extend rs).refs = _
      rw [ih (m.add r) later, added, List.append_assoc]
      rfl

theorem of_list_keeps (rs : List TransportRef) (distinct : (rs.map TransportRef.id).Nodup) :
    (ofList rs).refs = rs :=
  extend_appends rs empty distinct

-- A manager as long as the list it was made from has dropped nothing, so no id stood twice.
theorem of_list_full_iff (rs : List TransportRef) :
    (ofList rs).size = rs.length ↔ (rs.map TransportRef.id).Nodup := by
  constructor
  · intro full
    have within : (ofList rs).ids ⊆ rs.map TransportRef.id :=
      List.map_subset TransportRef.id (mem_of_list rs)
    have same : (ofList rs).ids.Perm (rs.map TransportRef.id) := by
      refine (List.subperm_of_subset (of_list_distinct rs) within).perm_of_length_le ?_
      rw [ids, List.length_map, List.length_map]
      exact Nat.le_of_eq full.symm
    exact same.nodup_iff.mp (of_list_distinct rs)
  · intro distinct
    rw [size, of_list_keeps rs distinct]

theorem same_id_same_ref (m : Manager) (distinct : m.ids.Nodup) (x y : TransportRef)
    (here : x ∈ m.refs) (there : y ∈ m.refs) (same : x.id = y.id) : x = y :=
  List.inj_on_of_nodup_map distinct here there same

theorem slots_distinct (m : Manager) (pool : Pool) (distinct : m.ids.Nodup)
    (leads : ∀ x ∈ m.refs, x.Leads pool) : (m.refs.map TransportRef.slot).Nodup := by
  rw [List.Nodup, List.pairwise_map]
  have apart : m.refs.Pairwise (fun x y => x.id ≠ y.id) := List.pairwise_map.mp distinct
  refine apart.imp_of_mem ?_
  intro x y here there different same
  have leadsX := leads x here
  have leadsY := leads y there
  unfold TransportRef.Leads at leadsX leadsY
  rw [same] at leadsX
  exact different (Option.some.inj (leadsX.symm.trans leadsY))

theorem leads_modify (pool : Pool) (slot : Nat) (enabled : Bool) (x : TransportRef)
    (leads : x.Leads pool) :
    x.Leads (pool.modify slot fun t => { t with enabled := enabled }) := by
  unfold TransportRef.Leads at leads ⊢
  rw [List.getElem?_modify]
  by_cases here : slot = x.slot
  · subst slot
    cases known : pool[x.slot]? with
    | none => simp [known] at leads
    | some t => simpa [known] using leads
  · simpa [here] using leads

theorem leads_set_enabled (m : Manager) (id : String) (enabled : Bool) (pool : Pool)
    (x : TransportRef) (leads : x.Leads pool) : x.Leads (m.setEnabled id enabled pool).2 := by
  unfold setEnabled
  cases m.get? id with
  | none => exact leads
  | some r => exact leads_modify pool r.slot enabled x leads

theorem leads_set_all_enabled (m : Manager) (enabled : Bool) (pool : Pool) (x : TransportRef)
    (leads : x.Leads pool) : x.Leads (m.setAllEnabled enabled pool) := by
  unfold setAllEnabled
  induction m.refs generalizing pool with
  | nil => exact leads
  | cons r rest ih => exact ih _ (leads_modify pool r.slot enabled x leads)

theorem leads_same_flags (pool next : Pool) (same : SameFlags pool next) (x : TransportRef)
    (leads : x.Leads pool) : x.Leads next := by
  have ids := congrArg (Option.map Prod.fst) (same x.slot)
  simp only [Option.map_map] at ids
  exact ids.trans leads

theorem modify_known (pool : Pool) (slot target : Nat) (enabled : Bool) (t : Transport)
    (known : pool[target]? = some t) :
    (pool.modify slot fun t => { t with enabled := enabled })[target]? =
      some (if slot = target then { t with enabled := enabled } else t) := by
  rw [List.getElem?_modify, known]
  rfl

theorem set_enabled_known (m : Manager) (id : String) (enabled : Bool) (pool : Pool)
    (x : TransportRef) (t : Transport) (distinct : m.ids.Nodup) (leads : ∀ y ∈ m.refs, y.Leads pool)
    (attached : x ∈ m.refs) (known : pool[x.slot]? = some t) :
    (m.setEnabled id enabled pool).2[x.slot]? =
      some (if id = x.id then { t with enabled := enabled } else t) := by
  unfold setEnabled
  cases found : m.get? id with
  | none =>
      have absent : id ≠ x.id := by
        intro same
        have missing := List.find?_eq_none.mp found x attached
        simp [same] at missing
      rw [if_neg absent]
      exact known
  | some r =>
      have hit : r.id = id := by simpa using List.find?_some found
      have member : r ∈ m.refs := List.mem_of_find?_eq_some found
      change (pool.modify r.slot fun t => { t with enabled := enabled })[x.slot]? = _
      rw [modify_known pool r.slot x.slot enabled t known]
      by_cases same : id = x.id
      · have here := same_id_same_ref m distinct r x member attached (hit.trans same)
        rw [here, if_pos rfl, if_pos same]
      · have apart : r.slot ≠ x.slot := by
          intro shared
          have leadsR := leads r member
          have leadsX := leads x attached
          unfold TransportRef.Leads at leadsR leadsX
          rw [shared] at leadsR
          exact same (hit.symm.trans (Option.some.inj (leadsR.symm.trans leadsX)))
        rw [if_neg apart, if_neg same]

theorem set_all_enabled_known (refs : List TransportRef) (enabled : Bool) (pool : Pool)
    (target : Nat) (t : Transport) (known : pool[target]? = some t) :
    (setAllEnabled enabled ⟨refs⟩ pool)[target]? =
      some (if target ∈ refs.map TransportRef.slot then { t with enabled := enabled } else t) := by
  unfold setAllEnabled
  induction refs generalizing pool t with
  | nil => simpa using known
  | cons r rest ih =>
      rw [List.foldl_cons, ih _ _ (modify_known pool r.slot target enabled t known)]
      by_cases here : r.slot = target
      · simp [here]
      · simp [here, Ne.symm here]

end Manager

end StructuredLog
