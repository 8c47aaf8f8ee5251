import Mathlib.Data.List.Nodup
import StructuredLog.Logger

set_option autoImplicit false

namespace StructuredLog

theorem concat_lookup {α : Type} (items : List α) (last found : α) (n : Nat)
    (lookup : (items ++ [last])[n]? = some found) :
    items[n]? = some found ∨ n = items.length ∧ last = found := by
  by_cases old : n < items.length
  · rw [List.getElem?_append_left old] at lookup
    exact Or.inl lookup
  · have bound := (List.getElem?_eq_some_iff.mp lookup).1
    rw [List.length_append, List.length_singleton] at bound
    have here : n = items.length := by omega
    subst n
    rw [List.getElem?_concat_length] at lookup
    exact Or.inr ⟨rfl, Option.some.inj lookup⟩

theorem registry_owner (members : List Logger) (apart : (members.map Logger.registry).Nodup)
    (m n : Nat) (x y : Logger) (here : members[m]? = some x) (there : members[n]? = some y)
    (same : x.registry = y.registry) : m = n := by
  have inside : m < (members.map Logger.registry).length := by
    rw [List.length_map]
    exact (List.getElem?_eq_some_iff.mp here).1
  refine (List.getElem?_inj inside apart).mp ?_
  rw [List.getElem?_map, List.getElem?_map, here, there, Option.map_some, Option.map_some, same]

theorem registry_apart (members : List Logger) (newcomer : Logger)
    (apart : (members.map Logger.registry).Nodup)
    (exist : ∀ l ∈ members, l.registry < newcomer.registry) :
    ((members ++ [newcomer]).map Logger.registry).Nodup := by
  rw [List.map_append, List.nodup_append]
  refine ⟨apart, List.nodup_singleton _, ?_⟩
  intro a old b new same
  obtain ⟨l, listed, registry⟩ := List.mem_map.mp old
  have below := exist l listed
  rw [List.map_singleton, List.mem_singleton] at new
  omega

namespace Engine

theorem modify_registry_known (registry place : Nat) (f : Registry → Registry) (e : Engine) :
    (e.modifyRegistry registry f).registries[place]? =
      (e.registries[place]?).map fun r => if registry = place then f r else r := by
  unfold modifyRegistry
  rw [List.getElem?_modify]
  by_cases here : registry = place
  · simp [here]
  · simp [here]

theorem subscribe_registries (registry listener : Nat) (e : Engine) :
    (e.subscribe registry listener).2.registries =
      e.registries.modify registry
        (.register ⟨(e.subscribe registry listener).1.id, listener⟩) := by
  unfold subscribe drawId
  cases known : e.registries[registry]? with
  | none =>
      have beyond := List.getElem?_eq_none_iff.mp known
      exact (List.modify_eq_self beyond).symm
  | some r =>
      dsimp only
      cases e.sources[r.source]? <;> rfl

theorem subscribe_drawn (registry listener : Nat) (e : Engine) (r : Registry) (source : IdSource)
    (known : e.registries[registry]? = some r) (drawn : e.sources[r.source]? = some source) :
    e.subscribe registry listener =
      (⟨registry, source.draw.1⟩,
        { e with
          sources := e.sources.set r.source source.draw.2
          registries := e.registries.modify registry (.register ⟨source.draw.1, listener⟩) }) := by
  unfold subscribe drawId
  rw [known]
  dsimp only
  rw [drawn]
  rfl

end Engine

end StructuredLog
