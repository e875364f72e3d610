import ProxyGateway.Dns
import ProxyGateway.Engine.Basic
import ProxyGateway.Store.Basic

namespace ProxyGateway

structure Gateway where
  config : Config
  disk : Disk
  store : Store
  engine : Engine
  users : List Credentials

namespace Gateway

/-- How often the store is flushed, in milliseconds. -/
def flushPeriod : Nat := 60000

def new (c : Config) (disk : Disk) : Except Error Gateway := do
  let store := Store.openOn disk c.storePath
  if c.dns.enable then
    let _ ← Dns.Resolver.ofTexts c.dns.nameservers
  let stored := store.loadRules.toOption.getD []
  pure ⟨c, disk, store, Engine.new c.probe c.dns.enable [] stored, ← c.credentials⟩

def controlAddress? (g : Gateway) : Option Net.SocketAddress :=
  g.config.externalController.bind Net.readSocketAddress

def secret (g : Gateway) : String := g.config.secret.getD ""

/-- Registers mappings in turn, leaving out those that make no adapter; says how many were new. -/
def registerMappings (e : Engine) : List Yaml.Mapping → Engine × Nat
  | [] => (e, 0)
  | m :: rest =>
    match e.registerMapping m with
    | .error _ => registerMappings e rest
    | .ok (e, added) =>
      let (e, n) := registerMappings e rest
      (e, if added then n + 1 else n)

def registerListed (g : Gateway) : Gateway × Nat :=
  let (engine, m) := registerMappings g.engine g.config.proxies
  let (engine, n) := engine.registerLinks ("\n".intercalate g.config.links)
  ({ g with engine }, m + n)

def storeRules (g : Gateway) : Gateway :=
  let engine := g.engine.storeRules
  { g with engine, store := g.store.saveRules engine.stored }

def flush (g : Gateway) (root : String) (t : Store.Trouble) : Gateway × Except Error Unit :=
  let (disk, store, r) := g.store.flush root t g.disk
  ({ g with disk, store }, r)

/-- The end of a run: the rules are handed to the store, and the store is written. -/
def finish (g : Gateway) (root : String) (t : Store.Trouble) : Gateway × Except Error Unit :=
  g.storeRules.flush root t

end Gateway

end ProxyGateway
