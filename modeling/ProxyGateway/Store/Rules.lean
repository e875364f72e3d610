import ProxyGateway.Rule.Table
import ProxyGateway.Yaml.Basic

namespace ProxyGateway.RuleInfo

def fieldNames : List String := ["rule", "payload", "adapter", "proxy"]

def textOf? (v : Yaml) : Option String :=
  match v.untag with
  | .str s => some s
  | _ => none

def pinOf? (v : Yaml) : Option (Option String) :=
  match v with
  | .null => some none
  | v => (textOf? v).map some

def ofItems? : List Yaml → Option RuleInfo
  | rule :: payload :: adapter :: rest => do
    let rule ← textOf? rule
    let payload ← textOf? payload
    let adapter ← textOf? adapter
    match rest with
    | [] => some ⟨rule, payload, adapter, none⟩
    | [pin] => (pinOf? pin).map fun p => ⟨rule, payload, adapter, p⟩
    | _ => none
  | _ => none

/-- A rule by the names of its fields, each of which stands once; other names are ignored. -/
def ofEntries? (entries : Yaml.Mapping) : Option RuleInfo := do
  let named ← entries.mapM fun (k, v) => (textOf? k).map (·, v)
  let known := named.filter fun e => fieldNames.contains e.1
  if (known.map (·.1)).eraseDups.length < known.length then none
  let rule ← (known.lookup "rule").bind textOf?
  let payload ← (known.lookup "payload").bind textOf?
  let adapter ← (known.lookup "adapter").bind textOf?
  let pin ← match known.lookup "proxy" with
    | some v => pinOf? v
    | none => some none
  some ⟨rule, payload, adapter, pin⟩

def ofYaml? (v : Yaml) : Option RuleInfo :=
  match v.untag with
  | .seq items => ofItems? items
  | .map entries => ofEntries? entries
  | _ => none

/-- A rule without a pin does not mention one. -/
def toYaml (i : RuleInfo) : Yaml :=
  let pin := match i.proxy with
    | some p => [(Yaml.str "proxy", Yaml.str p)]
    | none => []
  .map ([(.str "rule", .str i.rule), (.str "payload", .str i.payload),
    (.str "adapter", .str i.adapter)] ++ pin)

end ProxyGateway.RuleInfo
