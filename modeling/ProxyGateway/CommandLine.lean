import ProxyGateway.Config

namespace ProxyGateway

structure CommandLine where
  config : String
  directory : Option String
  mixedPort : Option UInt16
  externalController : Option String
  secret : Option String
  check : Bool
deriving DecidableEq, Repr

namespace CommandLine

def default : CommandLine := ⟨"config.yaml", none, none, none, none, false⟩

inductive Misuse where
  | unknown (argument : String)
  | noValue (option : String)
  | badPort (value : String)
  | badFlag (option : String)
deriving DecidableEq, Repr

def Misuse.message : Misuse → String
  | unknown a => "unexpected argument '" ++ a ++ "' found"
  | noValue o => "a value is required for '" ++ o ++ "' but none was supplied"
  | badPort v => "invalid value '" ++ v ++ "' for '--mixed-port'"
  | badFlag o => "unexpected value for '" ++ o ++ "' found; no more were expected"

inductive Slot where
  | config
  | directory
  | mixedPort
  | externalController
  | secret
deriving DecidableEq, Repr

def Slot.ofLong? (name : String) : Option Slot :=
  match name with
  | "--config" => some .config
  | "--directory" => some .directory
  | "--mixed-port" => some .mixedPort
  | "--ext-ctl" => some .externalController
  | "--secret" => some .secret
  | _ => none

def Slot.ofShort? (c : Char) : Option Slot :=
  if c = 'c' ∨ c = 'f' then some .config
  else if c = 'd' then some .directory
  else none

def fill (o : CommandLine) (slot : Slot) (value : String) : Except Misuse CommandLine :=
  match slot with
  | .config => .ok { o with config := value }
  | .directory => .ok { o with directory := some value }
  | .externalController => .ok { o with externalController := some value }
  | .secret => .ok { o with secret := some value }
  | .mixedPort =>
    match Text.readPort value with
    | some p => .ok { o with mixedPort := some p }
    | none => .error (.badPort value)

/-- Letters behind one hyphen: flags up to an option, whose value follows at once. -/
def readLetters (o : CommandLine) (argument : String) :
    List Char → Except Misuse (CommandLine × Option Slot)
  | [] => .ok (o, none)
  | c :: rest =>
    if c = 't' then readLetters { o with check := true } argument rest
    else match Slot.ofShort? c, rest with
      | some slot, [] => .ok (o, some slot)
      | some slot, '=' :: value => (o.fill slot (String.ofList value)).map (·, none)
      | some slot, value => (o.fill slot (String.ofList value)).map (·, none)
      | none, _ => .error (.unknown argument)

/-- One argument; what it leaves is an option whose value is the next one. -/
def readArgument (o : CommandLine) (argument : String) :
    Except Misuse (CommandLine × Option Slot) :=
  match argument.toList with
  | '-' :: '-' :: _ =>
    let name := String.ofList (argument.toList.takeWhile (· ≠ '='))
    let value := (Text.cutFirst '=' argument.toList).map fun (_, v) => String.ofList v
    match Slot.ofLong? name, value with
    | some slot, some v => (o.fill slot v).map (·, none)
    | some slot, none => .ok (o, some slot)
    | none, some _ => .error (if name = "--test" then .badFlag name else .unknown argument)
    | none, none => if name = "--test" then .ok ({ o with check := true }, none)
      else .error (.unknown argument)
  | '-' :: letters => if letters = [] then .error (.unknown argument)
    else readLetters o argument letters
  | _ => .error (.unknown argument)

def readAll (o : CommandLine) : List String → Except Misuse CommandLine
  | [] => .ok o
  | argument :: rest => do
    match ← o.readArgument argument, rest with
    | (o, none), rest => readAll o rest
    | (o, some slot), value :: rest => readAll (← o.fill slot value) rest
    | (_, some _), [] => throw (.noValue argument)

def ofArguments (arguments : List String) : Except Misuse CommandLine :=
  default.readAll arguments

def apply (o : CommandLine) (c : Config) : Config :=
  { c with
    mixedPort := (o.mixedPort.map (·.toNat)).getD c.mixedPort
    externalController := o.externalController.or c.externalController
    secret := o.secret.or c.secret }

/-- A path as seen from the working directory. -/
def located (o : CommandLine) (path : String) : String :=
  match o.directory, path.toList with
  | some _, '/' :: _ | none, _ => path
  | some d, _ => d ++ "/" ++ path

end CommandLine

end ProxyGateway
