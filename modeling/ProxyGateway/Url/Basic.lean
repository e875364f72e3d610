import ProxyGateway.Net.Ip
import ProxyGateway.Text.Ascii
import ProxyGateway.Text.Blank
import ProxyGateway.Url.Domain
import ProxyGateway.Url.Percent
/-!
Links: a scheme, whom to ask, and what for. The special schemes are those of the web; their links
always name a host, which is a domain name or an address in any of its spellings, and a backslash
in them is a slash. The host of any other scheme is kept as it was written. A path holds no dot
segments.
-/
namespace ProxyGateway

namespace Url

def defaultPort? (scheme : String) : Option UInt16 :=
  match scheme with
  | "http" | "ws" => some 80
  | "https" | "wss" => some 443
  | "ftp" => some 21
  | _ => none

def isSpecial (scheme : String) : Bool := (defaultPort? scheme).isSome || scheme == "file"

inductive Host where
  | v4 (ip : Net.Ipv4)
  | v6 (ip : Net.Ipv6)
  | name (text : String)
deriving DecidableEq, Repr

def Host.toText : Host → String
  | .v4 ip => ip.toText
  | .v6 ip => ip.toText
  | .name text => text

def Host.inLink : Host → String
  | .v4 ip => ip.toText
  | .v6 ip => "[" ++ ip.groupForm ++ "]"
  | .name text => text

structure Authority where
  username : String
  /-- A password that is not empty. -/
  password : Option String
  host : Option Host
  /-- A port other than the one that the scheme implies. -/
  port : Option UInt16
deriving DecidableEq, Repr

inductive Flaw where
  | noScheme
  | noHost
  | badName
  | badCharacter
  | badIpv4
  | badIpv6
  | badPort
deriving DecidableEq, Repr

def Flaw.message : Flaw → String
  | .noScheme => "relative URL without a base"
  | .noHost => "empty host"
  | .badName => "invalid international domain name"
  | .badCharacter => "invalid domain character"
  | .badIpv4 => "invalid IPv4 address"
  | .badIpv6 => "invalid IPv6 address"
  | .badPort => "invalid port number"

end Url

structure Url where
  scheme : String
  authority : Option Url.Authority
  path : String
  query : Option String
  fragment : Option String
deriving DecidableEq, Repr

namespace Url

/-- A slash, or a backslash where that is one too. -/
def isSlash (special : Bool) (c : Char) : Bool := c == '/' || (special && c == '\\')

def endsAuthority (special : Bool) (c : Char) : Bool := isSlash special c || c == '?' || c == '#'

def isBreak (c : Char) : Bool := c == '\t' || c == '\n' || c == '\r'

/-- The text without control characters and blanks at its ends and without breaks inside. -/
def clean (s : List Char) : List Char :=
  (Text.dropEnd (·.toNat ≤ 0x20) (Text.dropStart (·.toNat ≤ 0x20) s)).filter (!isBreak ·)

def isLetter (c : Char) : Bool := ('a' ≤ c && c ≤ 'z') || ('A' ≤ c && c ≤ 'Z')

def splitScheme (s : List Char) : Option (String × List Char) :=
  match Text.cutFirst ':' s with
  | some (c :: cs, rest) =>
    if isLetter c && cs.all fun c => isWord c || c == '+' || c == '-' || c == '.' then
      some (String.ofList ((c :: cs).map Text.lowerChar), rest)
    else none
  | _ => none

def splitUser (special : Bool) (s : List Char) : Option (List Char × List Char) :=
  let chunk := s.takeWhile (!endsAuthority special ·)
  (Text.cutLast '@' chunk).map fun (user, host) => (user, host ++ s.drop chunk.length)

def readUser (user : List Char) : String × Option String :=
  let encoded (s : List Char) := String.ofList (escape inUserinfo s)
  match Text.cutFirst ':' user with
  | some (name, []) => (encoded name, none)
  | some (name, password) => (encoded name, some (encoded password))
  | none => (encoded user, none)

/-- The characters up to the end of the host; a colon inside brackets belongs to it. -/
def spanHost (special : Bool) : (inside : Bool) → List Char → List Char × List Char
  | _, [] => ([], [])
  | inside, c :: rest =>
    if endsAuthority special c || (c == ':' && !inside) then ([], c :: rest)
    else
      let inside := if c == '[' then true else if c == ']' then false else inside
      let (host, tail) := spanHost special inside rest
      (c :: host, tail)

def bracketed? (s : List Char) : Option (Except Flaw Host) :=
  match s with
  | '[' :: rest =>
    match rest.getLast? with
    | some ']' =>
      match Net.readIpv6 (String.ofList rest.dropLast) with
      | some ip => some (.ok (.v6 ip))
      | none => some (.error .badIpv6)
    | _ => some (.error .badIpv6)
  | _ => none

def isRefused (c : Char) : Bool :=
  c.toNat == 0 || isBreak c ||
    [' ', '#', '/', ':', '<', '>', '?', '@', '[', '\\', ']', '^', '|'].contains c

def plainHost (s : List Char) : Except Flaw (Option Host) :=
  match bracketed? s with
  | some r => r.map some
  | none =>
    if s.any isRefused then .error .badCharacter
    else if s = [] then .ok none
    else .ok (some (.name (String.ofList (escape isControl s))))

/-- A part of a dotted address: in base sixteen behind `0x`, in base eight behind a zero. -/
def readPart (s : List Char) : Option Nat :=
  let (base, s) := match s with
    | '0' :: 'x' :: rest | '0' :: 'X' :: rest => (16, some rest)
    | ['0'] => (10, some ['0'])
    | '0' :: rest => (8, some rest)
    | [] => (10, none)
    | _ => (10, some s)
  match s with
  | none => none
  | some [] => some 0
  | some digits => Text.digits base digits

/-- The parts between the points; one point may stand at the end. -/
def pointParts (s : List Char) : List (List Char) :=
  let parts := Text.splitAll '.' s
  if 1 < parts.length ∧ parts.getLast? = some [] then parts.dropLast else parts

/-- A name whose last part is a number can only be an address. -/
def endsInNumber (s : List Char) : Bool :=
  match (pointParts s).getLast? with
  | some part =>
    (part ≠ [] && part.all fun c => '0' ≤ c && c ≤ '9') || (readPart part).isSome
  | none => false

/-- An address of up to four parts; the last one fills the bytes that are left. -/
def readDotted (s : List Char) : Option Net.Ipv4 := do
  let parts := pointParts s
  if parts.length > 4 then none
  let numbers ← parts.mapM readPart
  let last ← numbers.getLast?
  let heads := numbers.dropLast
  if heads.any (255 < ·) ∨ Nat.pow 256 (4 - heads.length) ≤ last then none
  let n := heads.foldr (fun h acc => (acc.1 + h * Nat.pow 256 acc.2, acc.2 + 1))
    (last, 4 - heads.length) |>.1
  some ⟨UInt8.ofNat (n / 16777216), UInt8.ofNat (n / 65536 % 256), UInt8.ofNat (n / 256 % 256),
    UInt8.ofNat (n % 256)⟩

def webHost (s : List Char) : Except Flaw Host :=
  match bracketed? s with
  | some r => r
  | none =>
    match (Text.Utf8.decode? (unescape (Text.Utf8.encode s))).bind Domain.toAscii with
    | none => .error .badName
    | some "" => .error .noHost
    | some name =>
      if endsInNumber name.toList then
        match readDotted name.toList with
        | some ip => .ok (.v4 ip)
        | none => .error .badIpv4
      else .ok (.name name)

/-- A port up to the path; without digits it is the implied one. -/
def readPort (scheme : String) (s : List Char) : Except Flaw (Option UInt16 × List Char) :=
  let ds := s.takeWhile fun c => '0' ≤ c && c ≤ '9'
  let rest := s.drop ds.length
  let n := (Text.digits 10 ds).getD 0
  if 65535 < n then .error .badPort
  else match rest.head? with
    | some c =>
      if c = '/' ∨ c = '\\' ∨ c = '?' ∨ c = '#' then finish ds n rest else .error .badPort
    | none => finish ds n rest
where
  finish (ds : List Char) (n : Nat) (rest : List Char) :
      Except Flaw (Option UInt16 × List Char) :=
    let port := UInt16.ofNat n
    if ds = [] ∨ defaultPort? scheme = some port then .ok (none, rest) else .ok (some port, rest)

def readAuthority (scheme : String) (s : List Char) :
    Except Flaw (Authority × List Char) := do
  let special := isSpecial scheme
  let (user, s) := match splitUser special s with
    | some (user, rest) => (some user, rest)
    | none => (none, s)
  if user = some [] ∧ (s.head?.any (endsAuthority special)) then throw .noHost
  let (username, password) := readUser (user.getD [])
  let (text, rest) := spanHost special false s
  if special ∧ text = [] then throw .noHost
  let host ← if special then some <$> webHost text else plainHost text
  if host = none ∧ rest.head? = some ':' then throw .noHost
  let (port, rest) ← match rest with
    | ':' :: tail => readPort scheme tail
    | _ => pure (none, rest)
  if host = none ∧ (username ≠ "" ∨ password.isSome) then throw .noHost
  pure (⟨username, password, host, port⟩, rest)

def isDot (s : List Char) : Bool := s == ['.'] || s.map Text.lowerChar == ['%', '2', 'e']

def isDoubleDot (s : List Char) : Bool :=
  ["..", ".%2e", "%2e.", "%2e%2e"].contains (String.ofList (s.map Text.lowerChar))

/-- A segment such as `c:`, which no double dot takes away. -/
def isDrive (s : List Char) : Bool :=
  match s with
  | [c, d] => isLetter c && (d == ':' || d == '|')
  | c :: d :: e :: _ => isLetter c && (d == ':' || d == '|') && (e == '\\' || e == '?' || e == '#')
  | _ => false

/-- The segments before a double dot, the last of them in front. -/
def stepBack (before : List (List Char)) : List (List Char) :=
  match before with
  | last :: rest => if isDrive last then before else rest
  | [] => []

def joinSegments (before : List (List Char)) (last : List Char) : List Char :=
  '/' :: ['/'].intercalate (before.reverse ++ [last])

/-- Reads segments up to the query; `before` holds those that are complete, the last in front, and
`current` the characters of the one that is open, in reverse order. -/
def readSegments (special : Bool) (before : List (List Char)) (current : List Char) :
    List Char → List Char × List Char
  | [] => (close before current.reverse, [])
  | c :: rest =>
    if isSlash special c then
      let segment := current.reverse
      let before :=
        if isDoubleDot segment then stepBack before
        else if isDot segment then before
        else segment :: before
      readSegments special before [] rest
    else if c = '?' ∨ c = '#' then (close before current.reverse, c :: rest)
    else readSegments special before ((escape inPath [c]).reverse ++ current) rest
where
  close (before : List (List Char)) (segment : List Char) : List Char :=
    if isDoubleDot segment then joinSegments (stepBack before) []
    else if isDot segment then joinSegments before []
    else joinSegments before segment

/-- The path behind an authority. Only a special scheme needs one. -/
def readPath (special : Bool) (s : List Char) : List Char × List Char :=
  match s with
  | c :: rest =>
    if isSlash special c then readSegments special [] [] rest
    else if special then readSegments special [] [] s
    else if c = '?' ∨ c = '#' then ([], s)
    else readSegments special [] [] s
  | [] => if special then (['/'], []) else ([], [])

/-- A path that no slash begins is kept as one piece. -/
def readOpaque (s : List Char) : List Char × List Char :=
  match s with
  | '/' :: rest => readSegments false [] [] rest
  | _ =>
    let text := s.takeWhile fun c => c ≠ '?' ∧ c ≠ '#'
    (escape isControl text, s.drop text.length)

def readTail (special : Bool) (s : List Char) : Option String × Option String :=
  let (before, fragment) := match Text.cutFirst '#' s with
    | some (before, fragment) => (before, some (String.ofList (escape inFragment fragment)))
    | none => (s, none)
  let query := match before with
    | '?' :: query =>
      some (String.ofList (escape (if special then inSpecialQuery else inQuery) query))
    | _ => none
  (query, fragment)

def fileHost (s : List Char) : Except Flaw (Option Host) :=
  if s = [] ∨ isDrive s then .ok none
  else (webHost s).map fun h => if h = .name "localhost" then none else some h

/-- Whom a link asks, and what follows: for a file the host may be missing, for the other special
schemes any number of slashes may precede it, and the others have one only behind two slashes. -/
def readWhom (scheme : String) (s : List Char) :
    Except Flaw (Option Authority × List Char × List Char) := do
  if scheme = "file" then
    match s with
    | c :: d :: rest =>
      if isSlash true c && isSlash true d then
        let text := rest.takeWhile (!endsAuthority true ·)
        let host ← fileHost text
        let rest := if isDrive text then rest else rest.drop text.length
        pure (some ⟨"", none, host, none⟩, readPath true rest)
      else pure (some ⟨"", none, none, none⟩, readPath true s)
    | _ => pure (some ⟨"", none, none, none⟩, readPath true s)
  else if isSpecial scheme then
    let (authority, rest) ← readAuthority scheme (s.dropWhile (isSlash true))
    pure (some authority, readPath true rest)
  else match s with
    | '/' :: '/' :: rest =>
      let (authority, rest) ← readAuthority scheme rest
      pure (some authority, readPath false rest)
    | _ => pure (none, readOpaque s)

def read (text : String) : Except Flaw Url := do
  match splitScheme (clean text.toList) with
  | none => throw .noScheme
  | some (scheme, s) =>
    let (authority, path, rest) ← readWhom scheme s
    let (query, fragment) := readTail (isSpecial scheme) rest
    pure ⟨scheme, authority, String.ofList path, query, fragment⟩

def host? (u : Url) : Option Host := u.authority.bind (·.host)

def username (u : Url) : String := (u.authority.map (·.username)).getD ""

def password? (u : Url) : Option String := u.authority.bind (·.password)

def port? (u : Url) : Option UInt16 := (u.authority.bind (·.port)).or (defaultPort? u.scheme)

def target (u : Url) : String :=
  match u.query with
  | some q => u.path ++ "?" ++ q
  | none => u.path

def Authority.user (a : Authority) : String :=
  match a.password with
  | some p => a.username ++ ":" ++ p ++ "@"
  | none => if a.username = "" then "" else a.username ++ "@"

def Authority.endpoint (a : Authority) : String :=
  let host := (a.host.map Host.inLink).getD ""
  match a.port with
  | some p => host ++ ":" ++ Text.decimal p.toNat
  | none => host

def toText (u : Url) : String :=
  let whom := match u.authority with
    | some a => "//" ++ a.user ++ a.endpoint
    | none => if (Text.stripStart ['/', '/'] u.path.toList).isSome then "/." else ""
  let fragment := match u.fragment with
    | some f => "#" ++ f
    | none => ""
  u.scheme ++ ":" ++ whom ++ u.target ++ fragment

end Url

end ProxyGateway
