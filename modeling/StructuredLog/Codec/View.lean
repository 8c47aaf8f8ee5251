set_option autoImplicit false

namespace StructuredLog

-- The decoders of the types are written once, over any view.
structure View (ν : Type) where
  text : ν → Option String
  flag : ν → Option Bool
  natural : ν → Option Nat
  isAbsent : ν → Bool
  constant : ν → Option String
  items : ν → Option (List ν)
  fields : List String → ν → Option (List (Option ν))

namespace View

variable {ν α : Type}

def every (decode : ν → Option α) : List ν → Option (List α)
  | [] => some []
  | d :: ds =>
      match decode d, every decode ds with
      | some a, some as => some (a :: as)
      | _, _ => none

def list (view : View ν) (decode : ν → Option α) (d : ν) : Option (List α) :=
  (view.items d).bind (every decode)

def optional (view : View ν) (decode : ν → Option α) (d : ν) : Option (Option α) :=
  if view.isAbsent d then some none else (decode d).map some

def named (view : View ν) (ofName? : String → Option α) (d : ν) : Option α :=
  (view.constant d).bind ofName?

def orElse (standard : α) (decode : ν → Option α) : Option ν → Option α
  | none => some standard
  | some d => decode d

def inOrder (names : List String) (ds : List ν) : List (Option ν) :=
  (List.range names.length).map fun i => ds[i]?

def only {κ : Type} (isKey : κ → Bool) (fields : List (κ × ν)) : Option (Option ν) :=
  match fields.filter fun f => isKey f.1 with
  | [] => some none
  | [f] => some (some f.2)
  | _ => none

end View

end StructuredLog
