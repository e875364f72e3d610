import ProxyGateway.Store.Basic

namespace ProxyGateway.Store

structure Flusher where
  store : Nat
  every : Nat
  due : Nat

structure Session where
  root : String
  disk : Disk
  stores : List Store
  flushers : List Flusher
  now : Nat

namespace Session

def start (root : String) (disk : Disk) (path : String) : Session :=
  ⟨root, disk, [openOn disk path], [], 0⟩

def current (s : Session) : Store := s.stores.getLast?.getD ⟨"", [], false⟩

def update (s : Session) (f : Store → Store) : Session :=
  { s with stores := s.stores.dropLast ++ [f s.current] }

def reopen (s : Session) : Session :=
  { s with stores := s.stores ++ [openOn s.disk s.current.path] }

def flushStore (s : Session) (n : Nat) : Session × Except Error Unit :=
  match s.stores[n]? with
  | none => (s, .ok ())
  | some store =>
    let (disk, store, r) := store.flush s.root .none s.disk
    ({ s with disk, stores := s.stores.set n store }, r)

def flush (s : Session) : Session × Except Error Unit := s.flushStore (s.stores.length - 1)

def startFlusher (s : Session) (every : Nat) : Session :=
  { s with flushers := s.flushers ++ [⟨s.stores.length - 1, every, s.now + every⟩] }

/-- Lets time pass. Between two steps nothing changes a store, so one flush does for all that are
due. -/
def advance (s : Session) (millis : Nat) : Session :=
  let now := s.now + millis
  let due := s.flushers.filter (·.due ≤ now)
  let s := due.foldl (fun (s : Session) f => (s.flushStore f.store).1) { s with now }
  { s with flushers := s.flushers.map fun f =>
      if f.due ≤ now then { f with due := f.due + ((now - f.due) / f.every + 1) * f.every } else f }

/-- Every task flushes once more and ends. -/
def stop (s : Session) : Session :=
  let s' := s.flushers.foldl (fun (s : Session) f => (s.flushStore f.store).1) s
  { s' with flushers := [] }

end Session

end ProxyGateway.Store
