import StorageCalls.Text.Quoted
import StorageCalls.Text.Split
import StorageCalls.Url.Parse

namespace StorageCalls

inductive AddressScheme where
  | tcp
  | unix
  | tls
  deriving DecidableEq, Repr

namespace AddressScheme

def name : AddressScheme → String
  | .tcp => "tcp"
  | .unix => "unix"
  | .tls => "tls"

def ofName? (s : String) : Option AddressScheme :=
  [.tcp, .unix, .tls].find? (fun scheme => scheme.name == s)

end AddressScheme

/-- Why a text is not the address of a storage node. A malformed one is no URL, an unsuitable one
is a URL without the parts that its scheme needs, or with another scheme. -/
inductive AddressFault where
  | blank
  | malformed (address : String) (fault : Url.Fault)
  | unsuitable (address : String)
  deriving DecidableEq

def AddressFault.message : AddressFault → String
  | .blank => "storage address is blank"
  | .malformed address fault =>
    "invalid storage address " ++ Text.quoted address ++ ": " ++ fault.message
  | .unsuitable address => "invalid storage address " ++ Text.quoted address

structure StorageAddress where
  raw : String
  scheme : AddressScheme
  target : String
  deriving DecidableEq

namespace StorageAddress

/-- What is dialed: host and port, or for a socket the address as it was given. -/
def target? (raw : String) (url : Url) : AddressScheme → Option String
  | .tcp | .tls => do
    let host ← url.host
    let port ← url.port
    return String.ofList (host.toChars ++ ':' :: Nat.toDigits 10 port)
  | .unix => if url.path.all (· == '/') then none else some raw

def parse (address : String) : Except AddressFault StorageAddress :=
  let raw := Text.trim address
  if raw.isEmpty then .error .blank
  else
    match Url.parse raw.toList with
    | .error fault => .error (.malformed address fault)
    | .ok url =>
      match AddressScheme.ofName? (String.ofList url.scheme) with
      | none => .error (.unsuitable address)
      | some scheme =>
        match target? raw url scheme with
        | none => .error (.unsuitable address)
        | some target => .ok ⟨raw, scheme, target⟩

end StorageAddress

end StorageCalls
