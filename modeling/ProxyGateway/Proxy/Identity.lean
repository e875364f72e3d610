import ProxyGateway.Digest
import ProxyGateway.Json.Basic
import ProxyGateway.Proxy.Kind
import ProxyGateway.Proxy.Record
/-!
The identity of a proxy: the digest of a canonical text of its record. The text holds the kind, the
server, the port and all options but the names, with the entries of every mapping in the order of
their keys and every key written as a text.
-/
namespace ProxyGateway.Identity

/-- The options that say nothing about the proxy. -/
def excluded : List String := ["name", "unique-id", "unique_id"]

/-- Fields as a JSON object whose values are written already. -/
def objectText (fs : Fields String) : String :=
  "\x7b" ++ ",".intercalate (fs.map fun (k, v) => Json.quote k ++ ":" ++ v) ++ "\x7d"

mutual

def valueText : Yaml → Except Error String
  | .null => .ok "null"
  | .bool b => .ok (if b then "true" else "false")
  | .num n => .ok (Yaml.numberText n)
  | .str s => .ok (Json.quote s)
  | .seq items => do
    let parts ← itemTexts items
    pure ("[" ++ ",".intercalate parts ++ "]")
  | .map entries => do
    let fs ← entryTexts entries
    pure (objectText (Fields.ofList fs))
  | .tagged tag _ => .error (.config ("unsupported option value with tag " ++ tag))

def itemTexts : List Yaml → Except Error (List String)
  | [] => .ok []
  | v :: rest => do
    let t ← valueText v
    let ts ← itemTexts rest
    pure (t :: ts)

/-- Keys are compared by their texts, so a number and its text are one key. -/
def entryTexts : List (Yaml × Yaml) → Except Error (List (String × String))
  | [] => .ok []
  | (k, v) :: rest => do
    let key ← match k with
      | .str s => pure s
      | k => valueText k
    let value ← valueText v
    let more ← entryTexts rest
    pure ((key, value) :: more)

end

def recordFields (r : ProxyRecord) : Except Error (Fields String) := do
  let kind ← ProxyKind.ofText r.kind
  let options ← (r.options.filter fun e => !excluded.contains e.1).mapM fun (k, v) => do
    pure (k, ← valueText v)
  pure (Fields.ofList (options ++ [("type", Json.quote kind.tag), ("server", Json.quote r.server),
    ("port", Text.decimal r.port.toNat)]))

def canonicalText (r : ProxyRecord) : Except Error String := (recordFields r).map objectText

def ofRecord (r : ProxyRecord) : Except Error String :=
  (canonicalText r).map fun t => Text.hex (Digest.sha256 (Bytes.ofText t))

theorem length_ofRecord {r : ProxyRecord} {s : String} (made : ofRecord r = .ok s) :
    s.length = 64 := by
  obtain ⟨text, _, rfl⟩ := map_eq_ok.1 made
  rw [Text.length_hex, Digest.length_sha256]

theorem ofRecord_ne_empty {r : ProxyRecord} {s : String} (made : ofRecord r = .ok s) : s ≠ "" := by
  rintro rfl
  exact absurd (length_ofRecord made) (by decide)

end ProxyGateway.Identity
