import ProxyGateway.CommandLine
import ProxyGateway.Gateway
/-!
The command line: reads a configuration and its store, checks them, and lists the nodes that a
gateway with them starts with. Sockets are opened by the program that embeds the library.
-/
namespace ProxyGateway.CommandLine

def readFile? (path : String) : IO (Option Bytes) := do
  try
    let b ← IO.FS.readBinFile path
    return some b.toList
  catch _ => return none

def fail (text : String) : IO UInt32 := do
  (← IO.getStderr).putStrLn ("error: " ++ text)
  return 1

/-- The files that a gateway finds: its store, if there is one. -/
def diskOf (path : String) (file : Option Bytes) : Disk :=
  let p := Path.ofText path
  match file, Disk.empty.makeFolders p.dropLast with
  | some b, .ok d => (d.write p b).toOption.getD d
  | _, _ => .empty

def startUp (o : CommandLine) (c : Config) : IO UInt32 := do
  let store ← readFile? (o.located c.storePath)
  match Gateway.new c (diskOf c.storePath store) with
  | .error e => fail e.message
  | .ok g =>
    let (g, added) := g.registerListed
    let out ← IO.getStdout
    out.putStrLn ("registered " ++ Text.decimal added ++ " nodes, loaded " ++
      Text.decimal g.engine.rules.size ++ " rules")
    for n in g.engine.pool.all do
      out.putStrLn (n.identity ++ " " ++ n.adapter.toText)
    return 0

end ProxyGateway.CommandLine

open ProxyGateway ProxyGateway.CommandLine

def main (arguments : List String) : IO UInt32 := do
  match CommandLine.ofArguments arguments with
  | .error misuse =>
    (← IO.getStderr).putStrLn ("error: " ++ misuse.message)
    return 2
  | .ok o =>
    match ← readFile? (o.located o.config) with
    | none => fail (Error.io "No such file or directory (os error 2)").message
    | some b =>
      match Config.ofBytes b with
      | .error e => fail e.message
      | .ok c =>
        let c := o.apply c
        match c.validate with
        | .error e => fail e.message
        | .ok _ =>
          if o.check then
            (← IO.getStdout).putStrLn "Configuration test passed"
            return 0
          else startUp o c
