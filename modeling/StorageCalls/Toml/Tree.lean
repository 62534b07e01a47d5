namespace StorageCalls.Toml

inductive Value where
  | text (s : String)
  | integer (n : Int)
  | boolean (b : Bool)
  | float
  | datetime
  | array (items : List Value)
  | table (entries : List (String × Value))

instance : Inhabited Value := ⟨.table []⟩

def lookup (entries : List (String × Value)) (key : String) : Option Value :=
  List.lookup key entries

inductive Origin where
  | header
  | implied
  | dotted
  deriving DecidableEq

inductive Node where
  | leaf (value : Value)
  | table (origin : Origin) (entries : List (String × Node))
  | tables (elements : List (List (String × Node)))

abbrev Entries := List (String × Node)

mutual

def Node.value : Node → Value
  | .leaf v => v
  | .table _ entries => .table (entryValues entries)
  | .tables elements => .array (elementValues elements)

def entryValues : List (String × Node) → List (String × Value)
  | [] => []
  | (key, node) :: rest => (key, node.value) :: entryValues rest

def elementValues : List (List (String × Node)) → List Value
  | [] => []
  | entries :: rest => .table (entryValues entries) :: elementValues rest

end

namespace Entries

def alter (key : String) (f : Option Node → Option Node) : Entries → Option Entries
  | [] => do return [(key, ← f none)]
  | (k, node) :: rest =>
    if k = key then do return (k, ← f (some node)) :: rest
    else do return (k, node) :: (← alter key f rest)

def alterLast (f : Entries → Option Entries) : List Entries → Option (List Entries)
  | [] => none
  | [entries] => do return [← f entries]
  | entries :: rest => do return entries :: (← alterLast f rest)

/-- Puts a value at a new key. The table that it gets into must be `writable`: the one whose header
was read last, or one made by dotted keys. -/
def put (writable : Bool) (value : Value) : List String → Entries → Option Entries
  | [], _ => none
  | [key], entries =>
    if writable then
      alter key (fun
        | none => some (.leaf value)
        | some _ => none) entries
    else none
  | key :: path, entries =>
    alter key (fun
      | none => (put true value path []).map (.table .dotted)
      | some (.table .dotted sub) => (put true value path sub).map (.table .dotted)
      | some (.table .implied sub) => (put false value path sub).map (.table .implied)
      | some (.tables elements) => (alterLast (put false value path) elements).map .tables
      | some _ => none) entries

def putAll (pairs : List (List String × Value)) (entries : Entries) : Option Entries :=
  pairs.foldlM (fun entries pair => put true pair.2 pair.1 entries) entries

def descend (f : Option Node → Option Node) : List String → Entries → Option Entries
  | [], _ => none
  | [key], entries => alter key f entries
  | key :: path, entries =>
    alter key (fun
      | none => (descend f path []).map (.table .implied)
      | some (.table origin sub) => (descend f path sub).map (.table origin)
      | some (.tables elements) => (alterLast (descend f path) elements).map .tables
      | some (.leaf _) => none) entries

/-- Defines a table; so far it may only have been implied. -/
def define (fill : Entries → Option Entries) : List String → Entries → Option Entries :=
  descend fun
    | none => (fill []).map (.table .header)
    | some (.table .implied sub) => (fill sub).map (.table .header)
    | some _ => none

def append (fill : Entries → Option Entries) : List String → Entries → Option Entries :=
  descend fun
    | none => do return .tables [← fill []]
    | some (.tables elements) => do return .tables (elements ++ [← fill []])
    | some _ => none

end Entries

end StorageCalls.Toml
