set_option autoImplicit false

namespace StructuredLog.Config.Toml

inductive Value where
  | string (s : String)
  | integer (i : Int)
  | float
  | boolean (b : Bool)
  | moment
  | array (items : List Value)
  | table (fields : List (String × Value))

-- A table is implied while only longer headers or keys have named it.
inductive Item where
  | value (v : Value)
  | table (implied dotted : Bool) (entries : List (String × Item))
  | tables (all : List (List (String × Item)))

abbrev Entries := List (String × Item)

def find? (key : String) (es : Entries) : Option Item :=
  (es.find? fun e => e.1 == key).map Prod.snd

def put (key : String) (item : Item) : Entries → Entries
  | [] => [(key, item)]
  | (k, old) :: rest => if k = key then (key, item) :: rest else (k, old) :: put key item rest

-- A path of dotted keys does not lead through a table that has a header of its own; any path leads
-- into the last table of an array of tables.
def descend (dotted : Bool) (change : Bool → Entries → Option Entries) :
    List String → Bool → Entries → Option Entries
  | [], isDotted, es => change isDotted es
  | key :: path, _, es =>
      match find? key es with
      | none =>
          (descend dotted change path dotted []).map fun inner =>
            put key (.table true dotted inner) es
      | some (.value _) => none
      | some (.table implied isDotted inner) =>
          if dotted && !implied then none
          else
            (descend dotted change path isDotted inner).map fun inner =>
              put key (.table implied isDotted inner) es
      | some (.tables all) =>
          match all.getLast? with
          | none => none
          | some last =>
              (descend dotted change path false last).map fun last =>
                put key (.tables (all.dropLast ++ [last])) es

def assign (path : List String) (key : String) (v : Value) (es : Entries) : Option Entries :=
  descend true (fun isDotted inner =>
    if isDotted == path.isEmpty || (find? key inner).isSome then none
    else some (inner ++ [(key, .value v)])) path false es

def openTable (key : String) (es : Entries) : Option Entries :=
  match find? key es with
  | none => some (es ++ [(key, .table false false [])])
  | some (.table true false inner) => some (put key (.table false false inner) es)
  | some _ => none

def openNext (key : String) (es : Entries) : Option Entries :=
  match find? key es with
  | none => some (es ++ [(key, .tables [[]])])
  | some (.tables all) => some (put key (.tables (all ++ [[]])) es)
  | some _ => none

def splitLast : List String → Option (List String × String)
  | [] => none
  | [key] => some ([], key)
  | key :: rest => (splitLast rest).map fun (path, last) => (key :: path, last)

mutual
def Item.toValue : Item → Value
  | .value v => v
  | .table _ _ entries => .table (entriesToFields entries)
  | .tables all => .array (allToValues all)
def entriesToFields : List (String × Item) → List (String × Value)
  | [] => []
  | (key, item) :: rest => (key, item.toValue) :: entriesToFields rest
def allToValues : List (List (String × Item)) → List Value
  | [] => []
  | entries :: rest => .table (entriesToFields entries) :: allToValues rest
end

end StructuredLog.Config.Toml
