import StructuredLog.Codec.Message
import StructuredLog.Proofs.Json.Written

set_option autoImplicit false

namespace StructuredLog.Codec

open Document

def Decodes {α : Type} (decode : Document → Option α) (j : Json) (x : α) : Prop :=
  ∀ d, j.Written d → decode d = some x

-- A field that has its standard value may be left out, and fields of other names may be put in.
inductive Loosened (names : List String) (standard : List (String × Json))
    (writes : String → Json → Document → Prop) :
    List (String × Json) → List (Option String × Document) → Prop
  | nil : Loosened names standard writes [] []
  | keep (name : String) (value : Json) (d : Document) (fields : List (String × Json))
      (ds : List (Option String × Document)) (written : writes name value d)
      (rest : Loosened names standard writes fields ds) :
      Loosened names standard writes ((name, value) :: fields) ((some name, d) :: ds)
  | drop (name : String) (value : Json) (fields : List (String × Json))
      (ds : List (Option String × Document)) (usual : (name, value) ∈ standard)
      (rest : Loosened names standard writes fields ds) :
      Loosened names standard writes ((name, value) :: fields) ds
  | extra (name : String) (d : Document) (fields : List (String × Json))
      (ds : List (Option String × Document)) (unknown : name ∉ names)
      (rest : Loosened names standard writes fields ds) :
      Loosened names standard writes fields ((some name, d) :: ds)

def Loose (names : List String) (standard : List (String × Json))
    (writes : String → Json → Document → Prop) (fields : List (String × Json)) (d : Document) :
    Prop :=
  ∃ ds listed, d = .object ds ∧ ds.Perm listed ∧ Loosened names standard writes fields listed

def Found (standard : List (String × Json)) (writes : String → Json → Document → Prop)
    (fields : List (String × Json)) (name : String) (entry : Option Document) : Prop :=
  match Properties.find? name fields, entry with
  | none, entry => entry = none
  | some value, none => (name, value) ∈ standard
  | some value, some d => writes name value d

theorem text_decodes (s : String) : Decodes asText (.string s) s := by
  rintro d rfl
  rfl

theorem flag_decodes (b : Bool) : Decodes asFlag (.bool b) b := by
  rintro d rfl
  rfl

theorem natural_decodes (n : Nat) (small : n < Number.wordBound) :
    Decodes asNatural (.nat n) n := by
  rintro d rfl
  have fits : 0 ≤ (n : Int) ∧ (n : Int) < Number.wordBound :=
    ⟨Int.natCast_nonneg n, Int.ofNat_lt.mpr small⟩
  rw [asNatural, Number.unsigned?, if_pos fits, Int.toNat_natCast]

theorem named_decodes {α : Type} (ofName? : String → Option α) (name : String) (x : α)
    (named : ofName? name = some x) : Decodes (view.named ofName?) (.string name) x := by
  rintro d rfl
  exact named

theorem every_some {κ α : Type} (P : κ → α → Prop) (decode : κ → Option α) (ks : List κ)
    (each : ∀ k ∈ ks, ∃ a, decode k = some a ∧ P k a) :
    ∃ as, View.every decode ks = some as ∧ List.Forall₂ P ks as := by
  induction ks with
  | nil => exact ⟨[], rfl, .nil⟩
  | cons k ks ih =>
      obtain ⟨a, read, holds⟩ := each k List.mem_cons_self
      obtain ⟨as, read', holds'⟩ := ih fun k member => each k (List.mem_cons_of_mem _ member)
      refine ⟨a :: as, ?_, .cons holds holds'⟩
      rw [View.every, read, read']

theorem items_decode {α : Type} (decode : Document → Option α) (write : α → Json) (xs : List α)
    (ds : List Document) (each : ∀ x ∈ xs, Decodes decode (write x) x)
    (written : Json.ItemsWritten (xs.map write) ds) : View.every decode ds = some xs := by
  induction xs generalizing ds with
  | nil =>
      cases written
      rfl
  | cons x xs ih =>
      obtain ⟨d, rest, rfl, this, others⟩ := written
      rw [View.every, each x List.mem_cons_self d this,
        ih rest (fun x member => each x (List.mem_cons_of_mem _ member)) others]

theorem list_decodes {α : Type} (decode : Document → Option α) (write : α → Json) (xs : List α)
    (each : ∀ x ∈ xs, Decodes decode (write x) x) :
    Decodes (view.list decode) (.array (xs.map write)) xs := by
  rintro d ⟨ds, rfl, written⟩
  exact items_decode decode write xs ds each written

theorem texts_decode (ss : List String) : Decodes (view.list asText) (.ofTexts ss) ss :=
  list_decodes asText .string ss fun s _ => text_decodes s

section Only

variable {κ : Type} (isKey : κ → Bool)

theorem only_perm (ds listed : List (κ × Document)) (same : ds.Perm listed)
    (entry : Option Document) (only : View.only isKey listed = some entry) :
    View.only isKey ds = some entry := by
  have kept := same.filter fun d => isKey d.1
  unfold View.only at only ⊢
  match filtered : listed.filter fun d => isKey d.1 with
  | [] =>
      rw [filtered] at only kept
      rw [kept.eq_nil]
      exact only
  | [d] =>
      rw [filtered] at only kept
      rw [List.perm_singleton.mp kept]
      exact only
  | _ :: _ :: _ =>
      rw [filtered] at only
      cases only

theorem only_other (key : κ) (d : Document) (ds : List (κ × Document))
    (other : isKey key = false) : View.only isKey ((key, d) :: ds) = View.only isKey ds := by
  unfold View.only
  rw [List.filter_cons_of_neg (by simpa using other)]

theorem only_first (key : κ) (d : Document) (ds : List (κ × Document)) (this : isKey key = true)
    (others : View.only isKey ds = some none) :
    View.only isKey ((key, d) :: ds) = some (some d) := by
  have kept : ((key, d) :: ds).filter (fun d => isKey d.1) =
      (key, d) :: ds.filter fun d => isKey d.1 := List.filter_cons_of_pos this
  unfold View.only at others ⊢
  rw [kept]
  match filtered : ds.filter fun d => isKey d.1 with
  | [] => rw [filtered]
  | [_] | _ :: _ :: _ =>
      rw [filtered] at others
      cases others

end Only

section Loosened

variable (names : List String) (standard : List (String × Json))
  (writes : String → Json → Document → Prop)

theorem found_other (fields : List (String × Json)) (first : String) (value : Json) (name : String)
    (entry : Option Document) (other : first ≠ name)
    (found : Found standard writes fields name entry) :
    Found standard writes ((first, value) :: fields) name entry := by
  unfold Found
  rw [Properties.find?, if_neg other]
  exact found

theorem found_absent (fields : List (String × Json)) (name : String) (entry : Option Document)
    (absent : name ∉ fields.map Prod.fst) (found : Found standard writes fields name entry) :
    entry = none := by
  unfold Found at found
  rw [Properties.find_absent name fields absent] at found
  exact found

-- What is put in has other names than the fields of the type.
theorem loosened_only (fields : List (String × Json)) (ds : List (Option String × Document))
    (loosened : Loosened names standard writes fields ds) (once : (fields.map Prod.fst).Nodup)
    (name : String) (known : name ∈ names) :
    ∃ entry, View.only (· == some name) ds = some entry ∧
      Found standard writes fields name entry := by
  induction loosened with
  | nil => exact ⟨none, rfl, rfl⟩
  | keep first value d fields ds written rest ih =>
      obtain ⟨fresh, once⟩ := List.nodup_cons.mp once
      obtain ⟨entry, only, found⟩ := ih once
      by_cases this : first = name
      · subst first
        rw [found_absent standard writes fields name entry fresh found] at only
        refine ⟨some d, only_first _ _ d ds (beq_self_eq_true _) only, ?_⟩
        simpa [Found, Properties.find?] using written
      · refine ⟨entry, ?_, found_other standard writes fields first value name entry this found⟩
        rw [only_other _ _ d ds (by simpa using this)]
        exact only
  | drop first value fields ds usual rest ih =>
      obtain ⟨fresh, once⟩ := List.nodup_cons.mp once
      obtain ⟨entry, only, found⟩ := ih once
      by_cases this : first = name
      · subst first
        rw [found_absent standard writes fields name entry fresh found] at only
        refine ⟨none, only, ?_⟩
        simpa [Found, Properties.find?] using usual
      · exact ⟨entry, only, found_other standard writes fields first value name entry this found⟩
  | extra first d fields ds unknown rest ih =>
      obtain ⟨entry, only, found⟩ := ih once
      refine ⟨entry, ?_, found⟩
      rw [only_other _ _ d ds]
      · exact only
      · simpa using fun this : first = name => unknown (this ▸ known)

theorem loosened_named (fields : List (String × Json)) (ds : List (Option String × Document))
    (loosened : Loosened names standard writes fields ds) : ds.all fun d => d.1.isSome := by
  induction loosened with
  | nil => rfl
  | keep first value d fields ds written rest ih => exact ih
  | drop first value fields ds usual rest ih => exact ih
  | extra first d fields ds unknown rest ih => exact ih

theorem loose_fields (fields : List (String × Json)) (d : Document)
    (loose : Loose names standard writes fields d) (once : (fields.map Prod.fst).Nodup) :
    ∃ entries, asFields names d = some entries ∧
      List.Forall₂ (Found standard writes fields) names entries := by
  obtain ⟨ds, listed, rfl, same, loosened⟩ := loose
  have named : ds.all fun d => d.1.isSome := by
    rw [same.all_eq]
    exact loosened_named names standard writes fields listed loosened
  rw [asFields, if_pos named]
  refine every_some _ _ names fun name known => ?_
  obtain ⟨entry, only, found⟩ :=
    loosened_only names standard writes fields listed loosened once name known
  exact ⟨entry, only_perm _ ds listed same entry only, found⟩

end Loosened

theorem written_loose (names : List String) (standard : List (String × Json))
    (writes : String → Json → Document → Prop) (fields : List (String × Json)) (d : Document)
    (covers : ∀ f ∈ fields, ∀ d, f.2.Written d → writes f.1 f.2 d)
    (written : (Json.object fields).Written d) : Loose names standard writes fields d := by
  obtain ⟨ds, listed, rfl, same, written⟩ := written
  refine ⟨ds, listed, rfl, same, ?_⟩
  clear same
  induction fields generalizing listed with
  | nil =>
      cases written
      exact .nil
  | cons field fields ih =>
      obtain ⟨d, rest, rfl, this, others⟩ := written
      exact .keep field.1 field.2 d fields rest (covers field List.mem_cons_self d this)
        (ih (fun f member => covers f (List.mem_cons_of_mem _ member)) rest others)

theorem written_plain (names : List String) (standard : List (String × Json))
    (fields : List (String × Json)) (d : Document) (written : (Json.object fields).Written d) :
    Loose names standard (fun _ => Json.Written) fields d :=
  written_loose names standard _ fields d (fun _ _ _ this => this) written

theorem found_written (fields : List (String × Json)) (name : String) (value : Json)
    (entry : Option Document) (member : (name, value) ∈ fields)
    (once : (fields.map Prod.fst).Nodup)
    (found : Found [] (fun _ => Json.Written) fields name entry) :
    ∃ d, entry = some d ∧ value.Written d := by
  unfold Found at found
  rw [Properties.find_member fields name value member once] at found
  cases entry with
  | none => cases found
  | some d => exact ⟨d, rfl, found⟩

theorem entries_written (fields some_fields : List (String × Json))
    (entries : List (Option Document)) (inside : ∀ f ∈ some_fields, f ∈ fields) (once : (fields.map Prod.fst).Nodup)
    (found : List.Forall₂ (Found [] (fun _ => Json.Written) fields)
      (some_fields.map Prod.fst) entries) :
    ∃ ds, entries = ds.map some ∧ Json.ItemsWritten (some_fields.map Prod.snd) ds := by
  induction some_fields generalizing entries with
  | nil =>
      cases found
      exact ⟨[], rfl, rfl⟩
  | cons field rest ih =>
      obtain _ | ⟨this, others⟩ := found
      obtain ⟨ds, rfl, written⟩ :=
        ih _ (fun f member => inside f (List.mem_cons_of_mem _ member)) others
      obtain ⟨d, rfl, here⟩ :=
        found_written fields field.1 field.2 _ (inside field List.mem_cons_self) once this
      exact ⟨d :: ds, rfl, d, ds, rfl, here, written⟩

theorem fields_read (names : List String) (fields : List (String × Json)) (d : Document)
    (written : (Json.object fields).Written d) (all : fields.map Prod.fst = names)
    (once : names.Nodup) :
    ∃ ds, asFields names d = some (ds.map some) ∧ Json.ItemsWritten (fields.map Prod.snd) ds := by
  subst names
  obtain ⟨entries, read, found⟩ := loose_fields (fields.map Prod.fst) [] (fun _ => Json.Written)
    fields d (written_plain _ _ fields d written) once
  obtain ⟨ds, rfl, items⟩ :=
    entries_written fields fields entries (fun _ member => member) once found
  exact ⟨ds, read, items⟩

end StructuredLog.Codec
