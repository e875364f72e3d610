import Mathlib.Data.Bool.AllAny
import Mathlib.Data.List.Basic
import ProxyGateway.Proofs.ShareLink.Basic
import ProxyGateway.Proofs.Url.Form

namespace ProxyGateway.ShareLink.ShadowsocksR

open Text.Base64 (Form)

inductive Parameter where
  | remarks
  | obfs
  | protocol
deriving DecidableEq, Repr

def Parameter.name : Parameter → String
  | remarks => "remarks"
  | obfs => "obfsparam"
  | protocol => "protoparam"

structure Content where
  host : String
  port : UInt16
  protocol : String
  cipher : String
  obfs : String
  password : String
  remarks : Option String
  obfsParam : Option String
  protocolParam : Option String

namespace Content

def record (c : Content) : ProxyRecord :=
  ⟨c.remarks.filter (· ≠ ""), "ssr", c.host, c.port,
    [("cipher", .str c.cipher), ("obfs", .str c.obfs)] ++
      optional "obfs-param" (c.obfsParam.map .str) ++
      [("password", .str c.password), ("protocol", .str c.protocol)] ++
      optional "protocol-param" (c.protocolParam.map .str) ++ [("udp", .bool true)]⟩

/-- No field holds a mark between the parts of a link, and only the host may hold colons. -/
structure Lawful (c : Content) : Prop where
  host : ∀ mark ∈ ['[', ']', '?'], mark ∉ c.host.toList
  fields : ∀ text ∈ [c.protocol, c.cipher, c.obfs], ':' ∉ text.toList ∧ '?' ∉ text.toList
  password : c.password ≠ ""

def parameters (c : Content) : List (Parameter × String) :=
  (c.remarks.map fun v => (.remarks, v)).toList ++ (c.obfsParam.map fun v => (.obfs, v)).toList ++
    (c.protocolParam.map fun v => (.protocol, v)).toList

def bare (c : Content) : Content :=
  { c with remarks := none, obfsParam := none, protocolParam := none }

def add (c : Content) : Parameter × String → Content
  | (.remarks, v) => { c with remarks := some v }
  | (.obfs, v) => { c with obfsParam := some v }
  | (.protocol, v) => { c with protocolParam := some v }

theorem add_comm {c d : Content} {p q : Parameter × String} (first : p ∈ c.parameters)
    (second : q ∈ c.parameters) : (d.add p).add q = (d.add q).add p := by
  simp only [parameters, List.mem_append, Option.mem_toList, Option.map_eq_some_iff] at first second
  obtain (⟨v, given, rfl⟩ | ⟨v, given, rfl⟩) | ⟨v, given, rfl⟩ := first <;>
    obtain (⟨w, given', rfl⟩ | ⟨w, given', rfl⟩) | ⟨w, given', rfl⟩ := second <;>
    first
    | rfl
    | (cases given.symm.trans given'; rfl)

theorem addAll_parameters (c : Content) : c.parameters.foldl add c.bare = c := by
  obtain ⟨host, port, protocol, cipher, obfs, password, remarks, obfsParam, protocolParam⟩ := c
  cases remarks <;> cases obfsParam <;> cases protocolParam <;> rfl

theorem addAll_perm {c : Content} {ps : List (Parameter × String)} (perm : ps.Perm c.parameters) :
    ps.foldl add c.bare = c := by
  rw [perm.foldl_eq' (fun p first q second d =>
    add_comm (perm.subset first) (perm.subset second)) c.bare, addAll_parameters]

end Content

section fields

variable {front last s : List Char}

theorem fieldsFromRight_step (free : ':' ∉ last) (n : Nat) (acc : List (List Char)) :
    fieldsFromRight (n + 1) (front ++ ':' :: last) acc = fieldsFromRight n front (last :: acc) := by
  have cut : Text.cutLast ':' (front ++ ':' :: last) = some (front, last) :=
    Text.cutLast_eq_some.2 ⟨rfl, free⟩
  rw [fieldsFromRight, cut]

theorem fieldsFromRight_few {n : Nat} (few : s.count ':' < n) (acc : List (List Char)) :
    fieldsFromRight n s acc = none := by
  induction n generalizing s acc with
  | zero => cases few
  | succ n ih =>
    rw [fieldsFromRight]
    cases cut : Text.cutLast ':' s with
    | none => rfl
    | some parts =>
      obtain ⟨rest, last⟩ := parts
      obtain ⟨rfl, _⟩ := Text.cutLast_eq_some.1 cut
      rw [List.count_append, List.count_cons_self] at few
      exact ih (by omega) (last :: acc)

theorem length_splitAll (s : List Char) : (Text.splitAll ':' s).length = s.count ':' + 1 := by
  induction s with
  | nil => rfl
  | cons c s ih =>
    by_cases colon : c = ':'
    · rw [Text.splitAll, if_pos colon, List.length_cons, ih, colon, List.count_cons_self]
    · rw [Text.splitAll, if_neg colon, List.count_cons_of_ne colon]
      cases parts : Text.splitAll ':' s with
      | nil => simp [parts] at ih
      | cons part parts' => rw [← ih, parts, List.length_cons, List.length_cons]

end fields

section main

def hostText (bracketed : Bool) (host : String) : String :=
  if bracketed then "[" ++ host ++ "]" else host

def mainText (bracketed : Bool) (f : Form) (c : Content) : String :=
  hostText bracketed c.host ++ ":" ++ Text.decimal c.port.toNat ++ ":" ++ c.protocol ++ ":" ++
    c.cipher ++ ":" ++ c.obfs ++ ":" ++ coded f c.password

theorem unbracket_hostText (bracketed : Bool) {host : String} (opening : '[' ∉ host.toList)
    (closing : ']' ∉ host.toList) : unbracket (hostText bracketed host) = host := by
  have stays : ∀ d ∈ host.toList, ['[', ']'].contains d = false := by
    intro d member
    rw [← Bool.not_eq_true, List.contains_iff_mem]
    intro mark
    obtain rfl | rfl := by simpa using mark
    · exact opening member
    · exact closing member
  have ends (front cut : List Char) (all : ∀ d ∈ front, ['[', ']'].contains d)
      (all' : ∀ d ∈ cut, ['[', ']'].contains d) {s : String}
      (chars : s.toList = front ++ (host.toList ++ cut)) : unbracket s = host := by
    rw [unbracket, Text.trimEndOf, Text.trimStartOf, String.toList_ofList, chars,
      Text.dropEnds_append all stays all', String.ofList_toList]
  cases bracketed with
  | false => exact ends [] [] (by simp) (by simp) (by simp [hostText])
  | true => exact ends ['['] [']'] (by simp) (by simp) (by simp [hostText])

theorem digit_of_mem_decimal {n : Nat} {d : Char} (member : d ∈ (Text.decimal n).toList) :
    d.isDigit := by
  rw [Text.decimal_toList] at member
  exact Text.isDigit_of_mem_numeral member

variable {c : Content}

theorem question_not_mem_mainText (lawful : c.Lawful) (bracketed : Bool) (f : Form) :
    '?' ∉ (mainText bracketed f c).toList := by
  have host : '?' ∉ (hostText bracketed c.host).toList := by
    have plain := lawful.host '?' (by decide)
    cases bracketed <;> simp [hostText, plain]
  have port : '?' ∉ (Text.decimal c.port.toNat).toList :=
    fun member => absurd (digit_of_mem_decimal member) (by decide)
  have protocol := (lawful.fields c.protocol (by simp)).2
  have cipher := (lawful.fields c.cipher (by simp)).2
  have obfs := (lawful.fields c.obfs (by simp)).2
  have password : '?' ∉ (coded f c.password).toList := not_mem_coded f _ (by decide)
  simp [mainText, host, port, protocol, cipher, obfs, password]

theorem fieldsFromRight_mainText (lawful : c.Lawful) (bracketed : Bool) (f : Form) :
    fieldsFromRight 5 (mainText bracketed f c).toList [] =
      some [(hostText bracketed c.host).toList, (Text.decimal c.port.toNat).toList,
        c.protocol.toList, c.cipher.toList, c.obfs.toList, (coded f c.password).toList] := by
  have chars : (mainText bracketed f c).toList =
      (((((hostText bracketed c.host).toList ++ ':' :: (Text.decimal c.port.toNat).toList) ++
        ':' :: c.protocol.toList) ++ ':' :: c.cipher.toList) ++ ':' :: c.obfs.toList) ++
        ':' :: (coded f c.password).toList := by
    simp [mainText]
  have port : ':' ∉ (Text.decimal c.port.toNat).toList :=
    fun member => absurd (digit_of_mem_decimal member) (by decide)
  rw [chars, fieldsFromRight_step (not_mem_coded f _ (by decide)),
    fieldsFromRight_step (lawful.fields c.obfs (by simp)).1,
    fieldsFromRight_step (lawful.fields c.cipher (by simp)).1,
    fieldsFromRight_step (lawful.fields c.protocol (by simp)).1, fieldsFromRight_step port]
  rfl

end main

section parameters

theorem addParameter_record (c : Content) (f : Form) (p : Parameter × String) :
    addParameter c.record p.1.name (coded f p.2) = (c.add p).record := by
  obtain ⟨parameter, value⟩ := p
  obtain ⟨host, port, protocol, cipher, obfs, password, remarks, obfsParam, protocolParam⟩ := c
  unfold addParameter
  rw [decodeBase64_coded_getD]
  cases parameter with
  | remarks =>
    have named : (if value = "" then none else some value) = (some value).filter (· ≠ "") := by
      by_cases empty : value = "" <;> simp [Option.filter, empty]
    simp only [Parameter.name, ProxyRecord.named, named]
    rfl
  | obfs => cases obfsParam <;> cases protocolParam <;> rfl
  | protocol => cases obfsParam <;> cases protocolParam <;> rfl

def codedParameter (filled : Parameter → Bool) (p : Parameter × String) : String × String :=
  (p.1.name, coded ⟨true, filled p.1⟩ p.2)

def parameterText (filled : Parameter → Bool) (p : Parameter × String) : String :=
  p.1.name ++ "=" ++ coded ⟨true, filled p.1⟩ p.2

theorem addParameters_record (filled : Parameter → Bool) (ps : List (Parameter × String))
    (c : Content) :
    (ps.map (codedParameter filled)).foldl (fun r (k, v) => addParameter r k v) c.record =
      (ps.foldl Content.add c).record := by
  induction ps generalizing c with
  | nil => rfl
  | cons p ps ih =>
    rw [List.map_cons, List.foldl_cons, List.foldl_cons, ← ih, ← addParameter_record c]
    rfl

theorem read_parameterTexts (filled : Parameter → Bool) (ps : List (Parameter × String)) :
    Url.Form.read ("&".intercalate (ps.map (parameterText filled))) =
      ps.map (codedParameter filled) := by
  have texts : ps.map (parameterText filled) =
      (ps.map (codedParameter filled)).map fun q => q.1 ++ "=" ++ q.2 := by
    rw [List.map_map]
    rfl
  rw [texts]
  apply Url.Form.read_joined
  intro q member
  obtain ⟨⟨parameter, value⟩, _, rfl⟩ := List.mem_map.1 member
  have name : ∀ mark ∈ ['&', '=', '%', '+'], mark ∉ parameter.name.toList := by
    cases parameter <;> exact List.all_iff_forall_prop.1 (by decide)
  exact Url.Form.says_parts ⟨name _ (by decide), name _ (by decide)⟩
    (not_mem_coded _ _ (by decide))
    (Url.Form.decodePart_plain (name _ (by decide)) (name _ (by decide)))
    (Url.Form.decodePart_plain (not_mem_coded _ _ (by decide)) (plus_not_mem_coded _ _))

end parameters

section read

def parts (decoded : String) : List Char × List Char :=
  (Text.cutWord ['/', '?'] decoded.toList).getD (decoded.toList, [])

theorem cutWord_front {front : List Char} (free : '?' ∉ front) (rest : List Char) :
    Text.cutWord ['/', '?'] (front ++ '/' :: '?' :: rest) = some (front, rest) := by
  induction front with
  | nil => simp [Text.cutWord, Text.stripStart]
  | cons d front ih =>
    rw [List.mem_cons, not_or] at free
    have no_mark : Text.stripStart ['/', '?'] (d :: (front ++ '/' :: '?' :: rest)) = none := by
      rw [Text.stripStart_eq_none]
      rintro ⟨tail, start⟩
      cases front with
      | nil => simp at start
      | cons e front =>
        simp only [List.cons_append, List.nil_append, List.cons.injEq] at start
        exact free.2 (start.2.1 ▸ List.mem_cons_self)
    rw [List.cons_append, Text.cutWord, no_mark, ih free.2, Option.map_some]

theorem parts_whole {decoded : String} (free : '?' ∉ decoded.toList) :
    parts decoded = (decoded.toList, []) := by
  have none : Text.cutWord ['/', '?'] decoded.toList = none := by
    rw [Text.cutWord_eq_none]
    exact fun mark => free (mark.subset (by decide))
  rw [parts, none, Option.getD_none]

variable {link decoded : String}

theorem read_of_fields {main parameters host port protocol cipher obfs secret : List Char}
    {number : UInt16} {password : String} (of_body : decodeBase64 (body link) = some decoded)
    (of_parts : parts decoded = (main, parameters))
    (of_main : fieldsFromRight 5 main [] = some [host, port, protocol, cipher, obfs, secret])
    (of_port : Text.readPort (String.ofList port) = some number)
    (of_password : decodeBase64 (String.ofList secret) = some password) :
    read link = .ok ((Url.Form.read (String.ofList parameters)).foldl
      (fun r (k, v) => addParameter r k v)
      (Content.record ⟨unbracket (String.ofList host), number, String.ofList protocol,
        String.ofList cipher, String.ofList obfs, password, none, none, none⟩)) := by
  unfold parts at of_parts
  unfold read
  cases cut : Text.cutWord ['/', '?'] decoded.toList with
  | none =>
    rw [cut] at of_parts
    obtain ⟨rfl, rfl⟩ := Prod.mk.inj of_parts
    simp only [of_body, cut, of_main, of_port, of_password]
    rfl
  | some both =>
    rw [cut, Option.getD_some] at of_parts
    subst of_parts
    simp only [of_body, cut, of_main, of_port, of_password]
    rfl

theorem read_of_few (of_body : decodeBase64 (body link) = some decoded)
    (few : (Text.splitAll ':' (parts decoded).1).length < 6) :
    read link = .error (.parse "ssr link has too few fields") := by
  rw [length_splitAll, parts] at few
  unfold read
  cases cut : Text.cutWord ['/', '?'] decoded.toList with
  | none =>
    rw [cut] at few
    have none := fieldsFromRight_few (Nat.lt_of_succ_lt_succ few) []
    simp only [of_body, cut, Option.getD_none] at none ⊢
    rw [none]
    rfl
  | some both =>
    rw [cut] at few
    have none := fieldsFromRight_few (Nat.lt_of_succ_lt_succ few) []
    simp only [of_body, cut, Option.getD_some] at none ⊢
    rw [none]
    rfl

end read

/-- What the format leaves open: brackets around the host, the forms of Base64, and the order of the
parameters. -/
structure Spelling where
  bracketed : Bool
  outer : Form
  inner : Form
  filled : Parameter → Bool
  order : List (Parameter × String)

namespace Spelling

variable {c : Content} {w : Spelling}

def text (w : Spelling) (c : Content) : String :=
  if w.order.isEmpty then mainText w.bracketed w.inner c
  else mainText w.bracketed w.inner c ++ "/?" ++
    "&".intercalate (w.order.map (parameterText w.filled))

def link (w : Spelling) (c : Content) : String := "ssr" ++ "://" ++ coded w.outer (w.text c)

theorem parts_text (lawful : c.Lawful) :
    ∃ parameters, parts (w.text c) = ((mainText w.bracketed w.inner c).toList, parameters) ∧
      Url.Form.read (String.ofList parameters) = w.order.map (codedParameter w.filled) := by
  have free := question_not_mem_mainText lawful w.bracketed w.inner
  unfold text
  cases order : w.order with
  | nil => exact ⟨[], parts_whole free, rfl⟩
  | cons p ps =>
    refine ⟨("&".intercalate ((p :: ps).map (parameterText w.filled))).toList, ?_, ?_⟩
    · have mark : "/?".toList = ['/', '?'] := rfl
      rw [List.isEmpty_cons, if_neg Bool.false_ne_true, parts, String.toList_append,
        String.toList_append, List.append_assoc, mark, List.cons_append, List.cons_append,
        List.nil_append, cutWord_front free, Option.getD_some]
    · rw [String.ofList_toList, read_parameterTexts]

theorem text_ne_empty (w : Spelling) (c : Content) : w.text c ≠ "" := by
  have colon : ':' ∈ (w.text c).toList := by
    unfold text
    split <;> simp [mainText]
  intro nothing
  rw [nothing] at colon
  cases colon

theorem read_link (lawful : c.Lawful) (perm : w.order.Perm c.parameters) :
    read (w.link c) = .ok c.record := by
  obtain ⟨parameters, split, pairs⟩ := @parts_text c w lawful
  have of_body : decodeBase64 (body (w.link c)) = some (w.text c) := by
    rw [link, body_link (by decide), decodeBase64_coded w.outer (text_ne_empty w c)]
  have of_port :
      Text.readPort (String.ofList (Text.decimal c.port.toNat).toList) = some c.port := by
    rw [String.ofList_toList, Text.readPort_decimal]
  have of_password : decodeBase64 (String.ofList (coded w.inner c.password).toList) =
      some c.password := by
    rw [String.ofList_toList, decodeBase64_coded w.inner lawful.password]
  have host : unbracket (String.ofList (hostText w.bracketed c.host).toList) = c.host := by
    rw [String.ofList_toList]
    exact unbracket_hostText w.bracketed (lawful.host _ (by decide)) (lawful.host _ (by decide))
  rw [read_of_fields of_body split (fieldsFromRight_mainText lawful _ _) of_port of_password, pairs,
    host, addParameters_record]
  simp only [String.ofList_toList]
  exact congrArg (fun d : Content => Except.ok d.record) (Content.addAll_perm perm)

end Spelling

/-- A link of the format is read as what it was made of, and one with too few fields is refused. -/
theorem format_is_read :
    (∀ (c : Content) (w : Spelling), c.Lawful → w.order.Perm c.parameters →
      ShareLink.read (w.link c) = .ok c.record) ∧
    ∀ link decoded, schemeOf link = some "ssr" →
      decodeBase64 (body (trimmed link)) = some decoded →
      (Text.splitAll ':' (parts decoded).1).length < 6 →
      ShareLink.read link = .error (.parse "ssr link has too few fields") := by
  refine ⟨fun c w lawful perm => ?_, fun link decoded named of_body few => ?_⟩
  · rw [← Spelling.read_link lawful perm]
    exact read_of_link (solid_last_coded w.outer _) .shadowsocksR
  · rw [read_of_scheme named .shadowsocksR]
    exact read_of_few of_body few

/-- A host in brackets, a password whose Base64 ends in the slash that a mark begins with, an empty
parameter, and a link whose colons stand behind that mark. -/
theorem slash_before_mark_is_read :
    ShareLink.read "ssr://Wzo6MV06ODA6cDptOm86UHo4Ly8_b2Jmc3BhcmFtPSZyZW1hcmtzPTVwZWw" =
      .ok ⟨some "日", "ssr", "::1", 80, [("cipher", .str "m"), ("obfs", .str "o"),
        ("obfs-param", .str ""), ("password", .str "???"), ("protocol", .str "p"),
        ("udp", .bool true)]⟩ ∧
    ShareLink.read " SSR://YToxLz9iOmM6ZDplOmY6Zw==" =
      .error (.parse "ssr link has too few fields") := by
  let c : Content := ⟨"::1", 80, "p", "m", "o", "???", some "日", some "", none⟩
  let w : Spelling := ⟨true, ⟨true, false⟩, ⟨false, true⟩, fun _ => true,
    [(.obfs, ""), (.remarks, "日")]⟩
  have lawful : c.Lawful := ⟨List.all_iff_forall_prop.1 (by decide), by decide, by decide⟩
  have perm : w.order.Perm c.parameters := by decide
  have link : w.link c = "ssr://Wzo6MV06ODA6cDptOm86UHo4Ly8_b2Jmc3BhcmFtPSZyZW1hcmtzPTVwZWw" := by
    decide +kernel
  obtain ⟨reads, refuses⟩ := format_is_read
  refine ⟨?_, refuses _ "a:1/?b:c:d:e:f:g" ?_ ?_ ?_⟩
  · rw [← link]
    exact reads c w lawful perm
  · decide +kernel
  · decide +kernel
  · decide +kernel

end ProxyGateway.ShareLink.ShadowsocksR
