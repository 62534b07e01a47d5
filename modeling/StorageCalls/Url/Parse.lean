import StorageCalls.Url.Host
import StorageCalls.Url.Path

namespace StorageCalls

structure Url where
  scheme : List Char
  host : Option Url.Host
  port : Option Nat
  path : List Char
  deriving DecidableEq

namespace Url

open Text

def isSchemeChar (c : Char) : Bool :=
  c.isAlphanum || c == '+' || c == '-' || c == '.'

def splitScheme? (cs : List Char) : Option (List Char × List Char) :=
  match cs with
  | [] => none
  | c :: _ =>
    match cs.dropWhile isSchemeChar with
    | ':' :: rest =>
      if c.isAlpha then some ((cs.takeWhile isSchemeChar).map Char.toLower, rest) else none
    | _ => none

def defaultPorts : List (String × Option Nat) :=
  [("ftp", some 21), ("file", none), ("http", some 80), ("https", some 443), ("ws", some 80),
    ("wss", some 443)]

def isSpecial (scheme : List Char) : Bool :=
  defaultPorts.any (·.1.toList == scheme)

def isDefaultPort (scheme : List Char) (port : Nat) : Bool :=
  defaultPorts.any fun (name, default) => name.toList == scheme && default == some port

def splitUser (authority : List Char) : Option (List Char × List Char) :=
  if authority.contains '@' then
    let after := (authority.reverse.takeWhile (· != '@')).reverse
    some (authority.take (authority.length - after.length - 1), after)
  else none

/-- The host text, up to a colon that no bracket encloses, and what follows. -/
def splitHost : (bracket : Bool) → List Char → List Char × List Char
  | _, [] => ([], [])
  | bracket, c :: cs =>
    if c = ':' ∧ ¬ bracket then ([], c :: cs)
    else
      let bracket := if c = '[' then true else if c = ']' then false else bracket
      let (host, rest) := splitHost bracket cs
      (c :: host, rest)

def isPortEnd (c : Char) : Bool :=
  c == '/' || c == '\\' || c == '?' || c == '#'

def readPort (cs : List Char) : Except Fault (Option Nat × List Char) :=
  let digits := cs.takeWhile (!isPortEnd ·)
  let value := ofDigits 10 (digits.map (fun c => c.toNat - 48))
  if digits.all Char.isDigit ∧ value ≤ 65535 then
    .ok (if digits.isEmpty then none else some value, cs.dropWhile (!isPortEnd ·))
  else .error .port

/-- The host, the port and what follows them. An empty name stands for no host, which user
information and port rule out. -/
def readAuthority (special : Bool) (cs : List Char) :
    Except Fault (Option Host × Option Nat × List Char) := do
  let isEnd (c : Char) : Bool := c == '/' || c == '?' || c == '#' || (special && c == '\\')
  let authority := cs.takeWhile (!isEnd ·)
  let tail := cs.dropWhile (!isEnd ·)
  let (user, hostPort) := (splitUser authority).getD ([], authority)
  if authority.contains '@' && user.isEmpty && hostPort.isEmpty && !tail.isEmpty then
    throw .emptyHost
  let (hostText, rest) := splitHost false hostPort
  let host ←
    if special then
      if hostText.isEmpty then throw .emptyHost else Host.ofDomainChars? hostText
    else Host.ofNameChars? hostText
  let absent := host == .name []
  if absent && !rest.isEmpty then throw .emptyHost
  let (port, remaining) ←
    match rest with
    | ':' :: digits => readPort (digits ++ tail)
    | _ => pure (none, tail)
  if absent && !user.isEmpty && user != [':'] then throw .emptyHost
  return (if absent then none else some host, port, remaining)

/-- The host of a `file` URL, up to a slash; a drive is none. -/
def readFileHost (cs : List Char) : Except Fault (Option Host × List Char) := do
  let isEnd (c : Char) : Bool := c == '/' || c == '\\' || c == '?' || c == '#'
  let text := cs.takeWhile (!isEnd ·)
  if text.isEmpty || (text.length == 2 && Path.startsWithDrive text) then return (none, cs)
  let host ← Host.ofDomainChars? text
  return (if host == .name "localhost".toList then none else some host, cs.dropWhile (!isEnd ·))

def isSlash (c : Char) : Bool :=
  c == '/' || c == '\\'

def ofScheme (scheme cs : List Char) : Except Fault Url := do
  if scheme = "file".toList then
    match cs with
    | a :: b :: rest =>
      if isSlash a && isSlash b then
        let (host, remaining) ← readFileHost rest
        return ⟨scheme, host, none, Path.resolve true ['/'] (remaining.dropWhile isSlash)⟩
      else return ⟨scheme, none, none, Path.resolve true ['/'] (cs.dropWhile isSlash)⟩
    | _ => return ⟨scheme, none, none, Path.resolve true ['/'] (cs.dropWhile isSlash)⟩
  else if isSpecial scheme then
    let (host, port, remaining) ← readAuthority true (cs.dropWhile isSlash)
    let remaining := if remaining.head?.any isSlash then remaining.drop 1 else remaining
    return ⟨scheme, host, port.filter (!isDefaultPort scheme ·), Path.resolve true ['/'] remaining⟩
  else
    match cs with
    | '/' :: '/' :: rest =>
      let (host, port, remaining) ← readAuthority false rest
      let path :=
        match remaining with
        | [] => []
        | c :: _ =>
          if Path.isPathEnd c then []
          else Path.resolve false (if c = '/' then [] else ['/']) remaining
      return ⟨scheme, host, port, path⟩
    | '/' :: rest => return ⟨scheme, none, none, Path.resolve false ['/'] rest⟩
    | rest => return ⟨scheme, none, none, rest.takeWhile (!Path.isPathEnd ·)⟩

def isControlOrSpace (c : Char) : Bool :=
  c.toNat ≤ 0x20

def isTabOrNewline (c : Char) : Bool :=
  c == '\t' || c == '\n' || c == '\r'

/-- Controls and spaces at the two ends and tabs and line ends anywhere are left out. -/
def clean (cs : List Char) : List Char :=
  let front := cs.dropWhile isControlOrSpace
  (front.reverse.dropWhile isControlOrSpace).reverse.filter (!isTabOrNewline ·)

def parse (cs : List Char) : Except Fault Url :=
  match splitScheme? (clean cs) with
  | none => .error .relative
  | some (scheme, rest) => ofScheme scheme rest

end Url

end StorageCalls
