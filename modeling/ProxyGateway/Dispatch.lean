import ProxyGateway.Pool.Basic
import ProxyGateway.Rule.Table
/-!
How a connection finds its way out. Its route says whether it goes straight to its destination, is
turned away, or goes through a node of the pool: the one that a learned rule names if that is
alive, else the best one. When the first attempt fails the best other node takes over, and when
that succeeds the table learns to go through it.
-/
namespace ProxyGateway

inductive Candidate where
  | direct
  | reject
  | node (n : Node)

namespace Candidate

def action : Candidate → Action
  | direct => .direct
  | reject => .reject
  | node n => n.adapter.action

def identity? : Candidate → Option String
  | direct | reject => none
  | node n => some n.identity

end Candidate

namespace Dispatch

def resolve (lookUp : String → Except Error Net.Ip) (f : Flow) : Flow :=
  if f.ip.isSome || f.host == "" then f
  else match lookUp f.host with
    | .ok ip => { f with ip := some ip }
    | .error _ => f

def pick (r : Route) (alive : List Node) : Option Candidate :=
  match r.action with
  | .direct => some .direct
  | .reject => some .reject
  | .proxy =>
    let pinned := r.pin.bind fun identity => alive.find? (·.identity == identity)
    (pinned.or alive.head?).map .node

def fallback (failed : Candidate) (alive : List Node) : Option Node :=
  alive.find? fun n => some n.identity != failed.identity?

/-- A node that served a connection in place of a candidate that had failed. -/
structure Takeover where
  failed : Candidate
  node : Node

structure Attempt (α : Type) where
  dialed : List Candidate
  result : Except Error α
  takeover : Option Takeover

def noUsableProxy : Error := .connection "no usable proxy"

/-- Dials the first candidate and, when that fails, the fallback. The nodes alive may differ between
the two, and a connection that is to be turned away is not tried again. -/
def connect (r : Route) (atFirst later : List Node) (dial : Candidate → Except Error α) :
    Attempt α :=
  match pick r atFirst with
  | none => ⟨[], .error noUsableProxy, none⟩
  | some first =>
    match dial first with
    | .ok line => ⟨[first], .ok line, none⟩
    | .error e =>
      if first.action = .reject then ⟨[first], .error e, none⟩
      else match fallback first later with
        | none => ⟨[first], .error noUsableProxy, none⟩
        | some n =>
          match dial (.node n) with
          | .ok line => ⟨[first, .node n], .ok line, some ⟨first, n⟩⟩
          | .error e => ⟨[first, .node n], .error e, none⟩

/-- The rules that lead connections like `f` through an adapter: one for the address and one for
the name, unless the name is the address written out. -/
def lessons (f : Flow) (a : Adapter) : List Rule :=
  let byAddress := f.ip.toList.map fun ip => (Rule.dstIp ip a.action).pinnedTo a.identity
  let address := (f.ip.map (·.toText)).getD ""
  let byName :=
    if f.host = "" ∨ f.host = address then []
    else match Rule.new .domain f.host a.action with
      | .ok r => [r.pinnedTo a.identity]
      | .error _ => []
  byAddress ++ byName

/-- Learns from a takeover. Rules pinned to the node that has failed are taken over, other rules
stay as they are. -/
def learn (t : RuleTable) (f : Flow) (o : Takeover) : RuleTable :=
  let rules := lessons f o.node.adapter
  match o.failed.identity? with
  | some stale => rules.foldl (fun (t : RuleTable) r => (t.repin r stale).1) t
  | none => (t.addAll rules).1

end Dispatch

end ProxyGateway
