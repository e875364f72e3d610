import ProxyGateway.Error
import ProxyGateway.Http.MediaType
import ProxyGateway.Json.Basic
import ProxyGateway.Text.Blank
import ProxyGateway.Text.Cut

namespace ProxyGateway.Control

structure Request where
  method : String
  target : String
  headers : List (String × String)
  body : String

structure Answer where
  status : Nat
  body : Option Json

namespace Answer

def bare (status : Nat) : Answer := ⟨status, none⟩

def ok (j : Json) : Answer := ⟨200, some j⟩

def message (status : Nat) (text : String) : Answer :=
  ⟨status, some (.obj [("message", .str text)])⟩

def ofError (e : Error) : Answer := message e.status e.message

def notFound (what : String) : Answer := message 404 (what ++ " not found")

def added (isNew : Bool) : Answer :=
  ⟨if isNew then 201 else 200, some (.obj [("added", .bool isNew)])⟩

def withoutBody (a : Answer) : Answer := { a with body := none }

end Answer

def isShown (c : Char) : Bool := c == '\t' || (32 ≤ c.toNat && c.toNat < 127)

namespace Request

/-- The path, without the query. A target may name the host before it; behind a host alone stands
the root. -/
def path (r : Request) : String :=
  let s := r.target.toList.takeWhile fun c => c ≠ '?' ∧ c ≠ '#'
  if s.head? = some '/' then String.ofList s
  else match Text.cutWord [':', '/', '/'] s with
    | none => String.ofList s
    | some (_, rest) =>
      let tail := rest.dropWhile (· ≠ '/')
      if tail = [] then "/" else String.ofList tail

/-- The value of the first header of a name in any letter case, if it can be shown. -/
def header? (r : Request) (name : String) : Option String :=
  (r.headers.find? fun h => Text.sameLetters h.1 name).bind fun h =>
    if h.2.toList.all isShown then some h.2 else none

/-- The token behind the scheme of the authorization. -/
def bearerToken? (r : Request) : Option String := do
  let value ← r.header? "authorization"
  let (scheme, token) ← Text.cutFirst ' ' value.toList
  if Text.sameLetters (String.ofList scheme) "bearer" then
    some (String.ofList (Text.trimChars token))
  else none

def openPaths : List String := ["/", "/version"]

def isGranted (r : Request) (secret : String) : Bool :=
  secret == "" || openPaths.contains r.path || r.bearerToken? == some secret

def hasJson (r : Request) : Bool :=
  match (r.header? "content-type").bind Http.MediaType.ofText? with
  | some m => m.isJson
  | none => false

end Request

end ProxyGateway.Control
