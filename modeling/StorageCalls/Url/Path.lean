import StorageCalls.Text.Split

namespace StorageCalls.Url.Path

open Text

def isSingleDot (segment : List Char) : Bool :=
  [".", "%2e", "%2E"].any (·.toList == segment)

def isDoubleDot (segment : List Char) : Bool :=
  ["..", "%2e%2e", "%2e%2E", "%2E%2e", "%2E%2E", "%2e.", "%2E.", ".%2e", ".%2E"].any
    (·.toList == segment)

def upToSlash (path : List Char) : List Char :=
  (path.reverse.dropWhile (· != '/')).reverse

def startsWithDrive (segment : List Char) : Bool :=
  match segment with
  | letter :: mark :: rest =>
    letter.isAlpha && (mark == ':' || mark == '|') && (rest.isEmpty || rest.head? == some '\\')
  | _ => false

/-- The path without its last segment. The slash at its end belongs to the segment before,
unless that is the only slash or follows a drive. -/
def dropSegment (path : List Char) : List Char :=
  let front := path.dropLast
  let segment := (front.reverse.takeWhile (· != '/')).reverse
  if endsWith path '/' && front.contains '/' && !startsWithDrive segment then upToSlash front
  else upToSlash path

def withSlash (path : List Char) : List Char :=
  if endsWith path '/' then path else path ++ ['/']

def push (path segment : List Char) (last : Bool) : List Char :=
  if isDoubleDot segment then
    if last then dropSegment path else withSlash (dropSegment path)
  else if isSingleDot segment then withSlash path
  else if last then path ++ segment
  else path ++ segment ++ ['/']

def pushAll (path : List Char) : List (List Char) → List Char
  | [] => path
  | [segment] => push path segment true
  | segment :: segments => pushAll (push path segment false) segments

def isPathEnd (c : Char) : Bool :=
  c == '?' || c == '#'

def resolve (special : Bool) (start cs : List Char) : List Char :=
  let isSlash (c : Char) : Bool := c == '/' || (special && c == '\\')
  pushAll start (splitAtEach isSlash (cs.takeWhile (!isPathEnd ·)))

end StorageCalls.Url.Path
