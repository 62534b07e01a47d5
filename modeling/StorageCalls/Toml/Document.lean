import StorageCalls.Toml.Scalar
import StorageCalls.Toml.Tree

namespace StorageCalls.Toml

mutual

def value : (fuel nesting : Nat) → Reader Value
  | 0, _, _ => none
  | fuel + 1, nesting, s =>
    match s with
    | '"' :: _ | '\'' :: _ => (string s).map fun (t, s) => (.text t, s)
    | '[' :: s =>
      match nesting with
      | 0 => none
      | nesting + 1 => (items fuel nesting [] s).map fun (vs, s) => (.array vs, s)
    | '\x7b' :: s =>
      match nesting with
      | 0 => none
      | nesting + 1 => do
        let (ps, s) ← pairs fuel nesting [] s
        return (.table (entryValues (← Entries.putAll ps [])), s)
    | s => scalar s

def items : (fuel nesting : Nat) → List Value → Reader (List Value)
  | 0, _, _, _ => none
  | fuel + 1, nesting, acc, s =>
    match dropGaps false s with
    | ']' :: s => some (acc.reverse, s)
    | s => do
      let (v, s) ← value fuel nesting s
      match dropGaps false s with
      | ',' :: s => items fuel nesting (v :: acc) s
      | ']' :: s => return ((v :: acc).reverse, s)
      | _ => none

def pairs : (fuel nesting : Nat) → List (List String × Value) → Reader (List (List String × Value))
  | 0, _, _, _ => none
  | fuel + 1, nesting, acc, s =>
    match dropBlanks s, acc with
    | '\x7d' :: s, [] => some ([], s)
    | s, acc => do
      let (path, s) ← key s
      let (v, s) ← value fuel nesting (dropBlanks (← after? '=' s))
      match dropBlanks s with
      | ',' :: s => pairs fuel nesting ((path, v) :: acc) s
      | '\x7d' :: s => return (((path, v) :: acc).reverse, s)
      | _ => none

end

inductive Line where
  | table (path : List String)
  | element (path : List String)
  | pair (path : List String) (value : Value)

def header (close : String) (s : List Char) : Option (List String × List Char) := do
  let (path, s) ← key s
  return (path, ← afterLine? (← afterWord? close s))

def line (s : List Char) : Option (Option Line × List Char) :=
  match s with
  | '#' :: _ => do return (none, ← afterLine? s)
  | '[' :: '[' :: s => do
    let (path, s) ← header "]]" s
    return (some (.element path), s)
  | '[' :: s => do
    let (path, s) ← header "]" s
    return (some (.table path), s)
  | s =>
    match afterNewline? s with
    | some s => some (none, s)
    | none => do
      let (path, s) ← key s
      let s := dropBlanks (← after? '=' s)
      let (v, s) ← value (2 * s.length + 2) (nestingLimit - 1) s
      return (some (.pair path v), ← afterLine? s)

def lines : Nat → List Line → List Char → Option (List Line)
  | 0, _, _ => none
  | fuel + 1, acc, s =>
    match dropBlanks s with
    | [] => some acc.reverse
    | s => do
      let (l, s) ← line s
      lines fuel (l.toList ++ acc) s

structure Section where
  fresh : Bool
  path : List String
  pairs : List (List String × Value)

def sections : List Line → List (List String × Value) × List Section
  | [] => ([], [])
  | .pair path v :: rest =>
    let (ps, ss) := sections rest
    ((path, v) :: ps, ss)
  | .table path :: rest =>
    let (ps, ss) := sections rest
    ([], ⟨false, path, ps⟩ :: ss)
  | .element path :: rest =>
    let (ps, ss) := sections rest
    ([], ⟨true, path, ps⟩ :: ss)

def Section.addTo (entries : Entries) (s : Section) : Option Entries :=
  if s.fresh then Entries.append (Entries.putAll s.pairs) s.path entries
  else Entries.define (Entries.putAll s.pairs) s.path entries

/-- The entries of the document's own table. A byte order mark may come first. -/
def parse (text : String) : Option (List (String × Value)) := do
  let s := match text.toList with
    | '\uFEFF' :: s => s
    | s => s
  let (pairs, sections) := sections (← lines (s.length + 1) [] s)
  let root ← Entries.putAll pairs []
  return entryValues (← sections.foldlM Section.addTo root)

end StorageCalls.Toml
