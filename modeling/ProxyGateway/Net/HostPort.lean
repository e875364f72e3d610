import ProxyGateway.Error
import ProxyGateway.Net.Ip
import ProxyGateway.Text.Blank
import ProxyGateway.Text.Cut

namespace ProxyGateway.Net

structure HostPort where
  host : String
  port : Option UInt16
deriving DecidableEq, Repr

def portOrError (s : List Char) : Except Error UInt16 :=
  match Text.readPort (String.ofList s) with
  | some p => .ok p
  | none => .error (.parse ("invalid port: " ++ String.ofList s))

/-- Takes a text apart at the port: a bracketed host, a bare IPv6 address without a port, or
anything before the last colon. -/
def splitHostPort (text : String) : Except Error HostPort :=
  let s := Text.trimChars text.toList
  let shown := String.ofList s
  match s with
  | [] => .error (.parse "empty address")
  | '[' :: rest =>
    match Text.cutFirst ']' rest with
    | none => .error (.parse ("missing ']' in address " ++ shown))
    | some (host, []) => .ok ⟨String.ofList host, none⟩
    | some (host, ':' :: port) => (portOrError port).map fun p => ⟨String.ofList host, some p⟩
    | some (_, _) => .error (.parse ("garbage after ']' in " ++ shown))
  | _ =>
    if (readIpv6 shown).isSome then .ok ⟨shown, none⟩
    else match Text.cutLast ':' s with
      | some (host, port) => (portOrError port).map fun p => ⟨String.ofList host, some p⟩
      | none => .ok ⟨shown, none⟩

def joinHostPort (host : String) (port : UInt16) : String :=
  if ':' ∈ host.toList then "[" ++ host ++ "]:" ++ Text.decimal port.toNat
  else host ++ ":" ++ Text.decimal port.toNat

structure SocketAddress where
  ip : Ip
  port : UInt16
deriving DecidableEq, Repr

/-- The scope that may follow an IPv6 address inside the brackets. -/
def dropScope : List Char → Option (List Char)
  | '%' :: rest =>
    let ds := rest.takeWhile fun c => (Text.digitValue 10 c).isSome
    match Text.digits 10 ds with
    | some n => if n < 4294967296 then some (rest.drop ds.length) else none
    | none => none
  | s => some s

def takePortAtEnd (s : List Char) : Option UInt16 := do
  let s ← takeChar ':' s
  let n ← Text.digits 10 s
  if n < 65536 then some (UInt16.ofNat n) else none

/-- A literal address with a port; an IPv6 address stands in brackets. -/
def readSocketAddress (text : String) : Option SocketAddress :=
  match takeIpv4 text.toList with
  | some (ip, rest) => (takePortAtEnd rest).map (⟨.v4 ip, ·⟩)
  | none =>
    match text.toList with
    | '[' :: s => do
      let (ip, s) ← takeIpv6 s
      let s ← dropScope s
      let s ← takeChar ']' s
      (takePortAtEnd s).map (⟨.v6 ip, ·⟩)
    | _ => none

def SocketAddress.toText (a : SocketAddress) : String :=
  match a.ip with
  | .v4 ip => ip.toText ++ ":" ++ Text.decimal a.port.toNat
  | .v6 ip => "[" ++ ip.toText ++ "]:" ++ Text.decimal a.port.toNat

end ProxyGateway.Net
