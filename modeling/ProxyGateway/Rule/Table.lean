import ProxyGateway.Rule.Basic
/-!
The table of rules. It holds at most one rule for a key, and the first that was written stays,
unless it is pinned to an adapter that has just failed. A connection goes the way of a rule that
applies to it; where several apply, the order of the table decides, and nothing may depend on it.
-/
namespace ProxyGateway

/-- Where a connection goes: what to do with it, and the adapter that a learned rule names. -/
structure Route where
  action : Action
  pin : Option String
deriving DecidableEq, Repr

def Route.default : Route := ⟨.direct, none⟩

def routeAmong (order : List Rule) (f : Flow) : Route :=
  match order.find? (·.appliesTo f) with
  | some r => ⟨r.action, r.pin⟩
  | none => .default

structure RuleTable where
  rules : List Rule
  keys_distinct : (rules.map Rule.key).Nodup

namespace RuleTable

def empty : RuleTable := ⟨[], List.nodup_nil⟩

instance : Inhabited RuleTable := ⟨empty⟩

def find? (t : RuleTable) (key : String) : Option Rule := t.rules.find? (·.key == key)

def erase (t : RuleTable) (key : String) : RuleTable :=
  ⟨t.rules.filter (·.key != key), t.keys_distinct.sublist (List.filter_sublist.map Rule.key)⟩

theorem key_notMem_erase (t : RuleTable) (key : String) :
    key ∉ (t.erase key).rules.map Rule.key := by
  simp only [erase, List.mem_map, List.mem_filter, not_exists, not_and, and_imp]
  intro r _ h
  simpa using h

def put (t : RuleTable) (r : Rule) : RuleTable :=
  ⟨r :: (t.erase r.key).rules, by
    rw [List.map_cons, List.nodup_cons]
    exact ⟨key_notMem_erase t r.key, (t.erase r.key).keys_distinct⟩⟩

/-- Adds a rule unless its key is taken; says whether it was added. -/
def add (t : RuleTable) (r : Rule) : RuleTable × Bool :=
  match t.find? r.key with
  | some _ => (t, false)
  | none => (t.put r, true)

/-- Adds a rule also where the one in its place is pinned to `stale`. -/
def repin (t : RuleTable) (r : Rule) (stale : String) : RuleTable × Bool :=
  match t.find? r.key with
  | some old => if old.pin = some stale then (t.put r, true) else (t, false)
  | none => (t.put r, true)

/-- Adds rules in turn; says how many were new. -/
def addAll (t : RuleTable) : List Rule → RuleTable × Nat
  | [] => (t, 0)
  | r :: rs =>
    let (t, added) := t.add r
    let (t, n) := t.addAll rs
    (t, if added then n + 1 else n)

def remove (t : RuleTable) (key : String) : RuleTable × Option RuleInfo :=
  match t.find? key with
  | some r => (t.erase key, some r.info)
  | none => (t, none)

def route (t : RuleTable) (f : Flow) : Route := routeAmong t.rules f

/-- The written rules in the order of their payloads. -/
def infos (t : RuleTable) : List RuleInfo :=
  (t.rules.map Rule.info).mergeSort fun a b => a.payload ≤ b.payload

/-- The table of a list of written rules; those that make no rule are left out. -/
def ofInfos (infos : List RuleInfo) : RuleTable :=
  (empty.addAll (infos.filterMap fun i => (Rule.ofInfo i).toOption)).1

def size (t : RuleTable) : Nat := t.rules.length

end RuleTable

end ProxyGateway
