import ProxyGateway.Json.Reader
/-!
Reading JSON into a form: fields that are known by name, each of a kind of its own. The form may be
filled in as an object, in which unknown names are skipped and no known one is repeated, or as a
list in the order of the fields. What is read is judged as it comes, so the first fault decides
whether the text is no JSON or does not fit the form.
-/
namespace ProxyGateway.Json

inductive FieldKind where
  | text
  | textOrNull
  | anything
deriving DecidableEq, Repr

structure FormField where
  name : String
  kind : FieldKind
  needed : Bool
  /-- Whether a list may end before it. -/
  optional : Bool
deriving DecidableEq, Repr

inductive Refusal where
  | malformed
  | misfit
deriving DecidableEq, Repr

def orMalformed : Except Flaw α → Except Refusal α
  | .ok a => .ok a
  | .error _ => .error .malformed

/-- How deep a field may nest: one level less than a whole text. -/
def fieldDepth : Nat := 127

/-- A value that is no text: a list or an object is not even looked into. -/
def refuseValue (s : List Char) : Except Refusal α :=
  match s with
  | '[' :: _ | '\x7b' :: _ => .error .misfit
  | s => do
    let _ ← orMalformed (readValue (s.length + 1) fieldDepth s)
    .error .misfit

def readField (kind : FieldKind) (s : List Char) : Except Refusal (Json × List Char) :=
  match kind, s with
  | .anything, s => orMalformed (readValue (s.length + 1) fieldDepth s)
  | .textOrNull, 'n' :: _ => orMalformed (readWord "null" .null s)
  | _, '"' :: rest => orMalformed ((readText rest).map fun (t, rest) => (.str t, rest))
  | _, s => refuseValue s

def skipValue (s : List Char) : Except Refusal (List Char) :=
  orMalformed ((readValue (s.length + 1) (s.length + 1) s).map (·.2))

def dropColon (s : List Char) : Except Refusal (List Char) :=
  match skipSpace s with
  | ':' :: rest => .ok (skipSpace rest)
  | _ => .error .malformed

/-- The members of an object, from a name on; `fuel` bounds their number. -/
def readEntries (form : List FormField) (got : Fields Json) :
    (fuel : Nat) → List Char → Except Refusal (Fields Json × List Char)
  | 0, _ => .error .malformed
  | fuel + 1, s => do
    let '"' :: rest := s | throw .malformed
    let (name, rest) ← orMalformed (readText rest)
    let (got, rest) ← match form.find? (·.name == name) with
      | some field => do
        if (Fields.get? got name).isSome then throw .misfit
        let (value, rest) ← readField field.kind (← dropColon rest)
        pure (Fields.put name value got, rest)
      | none => do pure (got, ← skipValue (← dropColon rest))
    match skipSpace rest with
    | ',' :: rest => readEntries form got fuel (skipSpace rest)
    | '\x7d' :: rest => pure (got, rest)
    | _ => throw .malformed

def readObject (form : List FormField) (s : List Char) :
    Except Refusal (Fields Json × List Char) := do
  let (got, rest) ← match skipSpace s with
    | '\x7d' :: rest => pure ([], rest)
    | s => readEntries form [] (s.length + 1) s
  if form.any fun f => f.needed && (Fields.get? got f.name).isNone then throw .misfit
  pure (got, rest)

def readList (form : List FormField) (first : Bool) (s : List Char) :
    Except Refusal (Fields Json × List Char) :=
  match form with
  | [] =>
    match skipSpace s with
    | ']' :: rest => .ok ([], rest)
    | _ => .error .malformed
  | field :: fields =>
    match skipSpace s with
    | ']' :: rest => if (field :: fields).all (·.optional) then .ok ([], rest) else .error .misfit
    | s => do
      let s ← match first, s with
        | true, s => pure s
        | false, ',' :: rest =>
          match skipSpace rest with
          | ']' :: _ => throw .malformed
          | rest => pure rest
        | false, _ => throw .malformed
      let (value, rest) ← readField field.kind s
      let (got, rest) ← readList fields false rest
      pure (Fields.put field.name value got, rest)

/-- The fields of a form that a text fills in. What follows the form does not matter. -/
def readForm (form : List FormField) (text : String) : Except Refusal (Fields Json) :=
  match skipSpace text.toList with
  | '\x7b' :: rest => (readObject form rest).map (·.1)
  | '[' :: rest => (readList form true rest).map (·.1)
  | s => refuseValue s

end ProxyGateway.Json
