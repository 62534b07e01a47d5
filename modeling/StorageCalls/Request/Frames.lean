namespace StorageCalls

structure Frame where
  id : Nat
  label : String
  deriving DecidableEq, Repr

structure Frames where
  entries : List Frame
  next : Nat
  deriving DecidableEq, Repr

namespace Frames

def empty : Frames := ⟨[], 0⟩

/-- Frames whose label begins so belong to the client itself and are no call sites. -/
def internalMark : String := "depot_client::"

def Frame.isInternal (f : Frame) : Bool := internalMark.toList.isPrefixOf f.label.toList

def enter (fs : Frames) (label : String) : Frames :=
  ⟨fs.entries ++ [⟨fs.next, label⟩], fs.next + 1⟩

def dropFirst (id : Nat) : List Frame → List Frame
  | [] => []
  | f :: fs => if f.id = id then fs else f :: dropFirst id fs

/-- Leaves the innermost frame of the given number. -/
def leave (fs : Frames) (id : Nat) : Frames :=
  ⟨(dropFirst id fs.entries.reverse).reverse, fs.next⟩

def labels (fs : Frames) : List String :=
  (fs.entries.filter fun f => !Frame.isInternal f).map (·.label)

def callSite (fs : Frames) : Option String := fs.labels.getLast?

/-- All call sites, one a line. -/
def signature (fs : Frames) : String := "\n".intercalate fs.labels

end Frames

end StorageCalls
