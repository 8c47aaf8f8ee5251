import StructuredLog.Codec.Document
import StructuredLog.Proofs.Json.Properties

set_option autoImplicit false

namespace StructuredLog

open Document

namespace Json

mutual
-- A document writes a value when it is the value, up to the order of an object's fields.
def Written : Json → Document → Prop
  | .null, d => d = .null
  | .bool b, d => d = .bool b
  | .number n, d => d = .number (some n)
  | .string s, d => d = .string (some s)
  | .array items, d => ∃ ds, d = .array ds ∧ ItemsWritten items ds
  | .object fields, d => ∃ ds listed, d = .object ds ∧ ds.Perm listed ∧ FieldsWritten fields listed
def ItemsWritten : List Json → List Document → Prop
  | [], ds => ds = []
  | item :: items, ds => ∃ d rest, ds = d :: rest ∧ Written item d ∧ ItemsWritten items rest
def FieldsWritten : List (String × Json) → List (Option String × Document) → Prop
  | [], ds => ds = []
  | (name, value) :: fields, ds =>
      ∃ d rest, ds = (some name, d) :: rest ∧ Written value d ∧ FieldsWritten fields rest
end

mutual
def Ordered : Json → Prop
  | .array items => ItemsOrdered items
  | .object fields => Properties.Ordered fields ∧ FieldsOrdered fields
  | _ => True
def ItemsOrdered : List Json → Prop
  | [] => True
  | item :: items => Ordered item ∧ ItemsOrdered items
def FieldsOrdered : List (String × Json) → Prop
  | [] => True
  | (_, value) :: fields => Ordered value ∧ FieldsOrdered fields
end

mutual
def Within (limit : Nesting) (depth : Nat) : Json → Prop
  | .array items => limit.allows depth ∧ ItemsWithin limit (depth + 1) items
  | .object fields => limit.allows depth ∧ FieldsWithin limit (depth + 1) fields
  | _ => True
def ItemsWithin (limit : Nesting) (depth : Nat) : List Json → Prop
  | [] => True
  | item :: items => Within limit depth item ∧ ItemsWithin limit depth items
def FieldsWithin (limit : Nesting) (depth : Nat) : List (String × Json) → Prop
  | [] => True
  | (_, value) :: fields => Within limit depth value ∧ FieldsWithin limit depth fields
end

mutual
theorem within_unlimited (depth : Nat) (j : Json) : j.Within none depth := by
  cases j with
  | null | bool | number | string => trivial
  | array items => exact ⟨rfl, items_within_unlimited (depth + 1) items⟩
  | object fields => exact ⟨rfl, fields_within_unlimited (depth + 1) fields⟩

theorem items_within_unlimited (depth : Nat) (items : List Json) :
    ItemsWithin none depth items := by
  cases items with
  | nil => trivial
  | cons item items => exact ⟨within_unlimited depth item, items_within_unlimited depth items⟩

theorem fields_within_unlimited (depth : Nat) (fields : List (String × Json)) :
    FieldsWithin none depth fields := by
  cases fields with
  | nil => trivial
  | cons field fields =>
      exact ⟨within_unlimited depth field.2, fields_within_unlimited depth fields⟩
end

mutual
theorem written_self (j : Json) : j.Written (ofJson j) := by
  cases j with
  | null | bool | number | string => rfl
  | array items => exact ⟨_, rfl, items_written_self items⟩
  | object fields => exact ⟨_, _, rfl, .refl _, fields_written_self fields⟩

theorem items_written_self (items : List Json) : ItemsWritten items (Document.ofItems items) := by
  cases items with
  | nil => rfl
  | cons item items => exact ⟨_, _, rfl, written_self item, items_written_self items⟩

theorem fields_written_self (fields : List (String × Json)) :
    FieldsWritten fields (Document.ofFields fields) := by
  cases fields with
  | nil => rfl
  | cons field fields => exact ⟨_, _, rfl, written_self field.2, fields_written_self fields⟩
end

end Json

namespace Document

variable (limit : Nesting)

theorem fields_cons_iff (depth : Nat) (key : Option String) (value : Document)
    (rest : List (Option String × Document)) (fields : List (String × Json)) :
    fields? limit depth ((key, value) :: rest) = some fields ↔
      ∃ k v found, key = some k ∧ value? limit depth value = some v ∧
        fields? limit depth rest = some found ∧ fields = (k, v) :: found := by
  constructor
  · intro read
    unfold fields? at read
    split at read
    · next k v found this others =>
        exact ⟨k, v, found, rfl, this, others, (Option.some.inj read).symm⟩
    · cases read
  · rintro ⟨k, v, found, rfl, this, others, rfl⟩
    unfold fields?
    rw [this, others]

-- Fields are read one by one, so their order does not matter to whether they have values.
theorem fields_perm (depth : Nat) (ds listed : List (Option String × Document))
    (same : ds.Perm listed) (fields : List (String × Json))
    (read : fields? limit depth listed = some fields) :
    ∃ found, fields? limit depth ds = some found ∧ found.Perm fields := by
  induction same generalizing fields with
  | nil => exact ⟨fields, read, .refl _⟩
  | cons d same ih =>
      obtain ⟨k, v, others, name, this, later, rfl⟩ := (fields_cons_iff limit depth _ _ _ _).mp read
      obtain ⟨found, read', kept⟩ := ih others later
      exact ⟨_, (fields_cons_iff limit depth _ _ _ _).mpr ⟨k, v, found, name, this, read', rfl⟩,
        kept.cons _⟩
  | swap a b l =>
      obtain ⟨ka, va, others, nameA, thisA, later, rfl⟩ :=
        (fields_cons_iff limit depth _ _ _ _).mp read
      obtain ⟨kb, vb, rest, nameB, thisB, last, rfl⟩ :=
        (fields_cons_iff limit depth _ _ _ _).mp later
      have inner := (fields_cons_iff limit depth _ _ _ _).mpr ⟨ka, va, rest, nameA, thisA, last, rfl⟩
      exact ⟨_, (fields_cons_iff limit depth _ _ _ _).mpr ⟨kb, vb, _, nameB, thisB, inner, rfl⟩,
        .swap _ _ _⟩
  | trans _ _ first second =>
      obtain ⟨middle, read', kept⟩ := second _ read
      obtain ⟨found, read'', kept'⟩ := first _ read'
      exact ⟨found, read'', kept'.trans kept⟩

mutual
-- A document of a value has a value, and the same one when every object of it is a map.
theorem value_written (depth : Nat) (j : Json) (d : Document) (written : j.Written d)
    (shallow : j.Within limit depth) :
    ∃ v, d.value? limit depth = some v ∧ (j.Ordered → v = j) := by
  cases j with
  | null | bool | number | string =>
      cases written
      exact ⟨_, rfl, fun _ => rfl⟩
  | array items =>
      obtain ⟨ds, rfl, written⟩ := written
      obtain ⟨roomy, shallow⟩ := shallow
      obtain ⟨found, read, same⟩ := values_written (depth + 1) items ds written shallow
      refine ⟨.array found, ?_, fun ordered => congrArg Json.array (same ordered)⟩
      rw [value?, if_pos roomy, read]
      rfl
  | object fields =>
      obtain ⟨ds, listed, rfl, moved, written⟩ := written
      obtain ⟨roomy, shallow⟩ := shallow
      obtain ⟨inner, read, same⟩ := fields_written (depth + 1) fields listed written shallow
      obtain ⟨found, read', kept⟩ := fields_perm limit (depth + 1) ds listed moved inner read
      refine ⟨.object (Properties.ofFields found), ?_, ?_⟩
      · rw [value?, if_pos roomy, read']
        rfl
      · rintro ⟨ascending, ordered⟩
        cases same ordered
        rw [Properties.of_fields_ordered found fields ascending kept]

theorem values_written (depth : Nat) (items : List Json) (ds : List Document)
    (written : Json.ItemsWritten items ds) (shallow : Json.ItemsWithin limit depth items) :
    ∃ vs, values? limit depth ds = some vs ∧ (Json.ItemsOrdered items → vs = items) := by
  cases items with
  | nil =>
      cases written
      exact ⟨[], rfl, fun _ => rfl⟩
  | cons item items =>
      obtain ⟨d, rest, rfl, this, others⟩ := written
      obtain ⟨v, read, same⟩ := value_written depth item d this shallow.1
      obtain ⟨vs, read', same'⟩ := values_written depth items rest others shallow.2
      refine ⟨v :: vs, ?_, fun ordered => by rw [same ordered.1, same' ordered.2]⟩
      unfold values?
      rw [read, read']

theorem fields_written (depth : Nat) (fields : List (String × Json))
    (ds : List (Option String × Document)) (written : Json.FieldsWritten fields ds)
    (shallow : Json.FieldsWithin limit depth fields) :
    ∃ fs, fields? limit depth ds = some fs ∧ (Json.FieldsOrdered fields → fs = fields) := by
  cases fields with
  | nil =>
      cases written
      exact ⟨[], rfl, fun _ => rfl⟩
  | cons field fields =>
      obtain ⟨name, value⟩ := field
      obtain ⟨d, rest, rfl, this, others⟩ := written
      obtain ⟨v, read, same⟩ := value_written depth value d this shallow.1
      obtain ⟨fs, read', same'⟩ := fields_written depth fields rest others shallow.2
      exact ⟨(name, v) :: fs,
        (fields_cons_iff limit depth _ d rest _).mpr ⟨name, v, fs, rfl, read, read', rfl⟩,
        fun ordered => by rw [same ordered.1, same' ordered.2]⟩
end

end Document

end StructuredLog
