import ProxyGateway.Proofs.Text.Base64
import ProxyGateway.Proofs.Text.Trim
import ProxyGateway.Proofs.Url.Percent
import ProxyGateway.ShareLink.Reader

namespace ProxyGateway.ShareLink

def optional (key : String) (value : Option Yaml) : Fields Yaml :=
  (value.map fun v => (key, v)).toList

theorem names_optional (key : String) (value : Option Yaml) :
    ((optional key value).map (·.1)).Sublist [key] := by
  cases value <;> simp [optional]

theorem forall_mem_optional {key : String} {value : Option Yaml} {p : String × Yaml → Prop} :
    (∀ e ∈ optional key value, p e) ↔ ∀ v, value = some v → p (key, v) := by
  cases value <;> simp [optional]

theorem filter_filled {value : Option String} (filled : value ≠ some "") :
    value.filter (· ≠ "") = value := by
  cases value with
  | none => rfl
  | some s =>
    have some_text : s ≠ "" := fun empty => filled (congrArg some empty)
    simp [Option.filter, some_text]

theorem getD_filter (s : String) : ((some s).filter (· ≠ "")).getD "" = s := by
  by_cases empty : s = "" <;> simp [Option.filter, empty]

theorem readUrl_eq_ok {link : String} {u : Url} : readUrl link = .ok u ↔ Url.read link = .ok u := by
  unfold readUrl
  split <;> simp_all

theorem endpoint_eq_ok {u : Url} {server : String} {port : UInt16} :
    endpoint u = .ok (server, port) ↔
      ∃ host, u.host? = some host ∧ host.toText = server ∧ u.port? = some port := by
  unfold endpoint
  split <;> simp_all

def trimmed (link : String) : String := Text.trim (Text.trimEndOf ['\r', '\n'] link)

theorem trimmed_eq_trim (link : String) : trimmed link = Text.trim link := by
  have blanks : ∀ c, ['\r', '\n'].contains c → Text.isBlank c := by
    intro c mark
    obtain rfl | rfl := by simpa using mark
    all_goals decide
  rw [trimmed, Text.trim, Text.trimEndOf, String.toList_ofList, Text.trimChars_dropEnd blanks,
    Text.trim]

def schemeOf (link : String) : Option String :=
  (Text.cutWord [':', '/', '/'] (trimmed link).toList).map fun parts =>
    String.ofList (parts.1.map Text.lowerChar)

/-- The readers of the links that have a written form here. -/
inductive Read (link : String) : String → Except Error ProxyRecord → Prop where
  | vmess : Read link "vmess" (Vmess.read link)
  | trojan : Read link "trojan" (Trojan.read link)
  | shadowsocks : Read link "ss" (Shadowsocks.read link)
  | shadowsocksR : Read link "ssr" (ShadowsocksR.read link)

theorem read_of_scheme {link scheme : String} {result : Except Error ProxyRecord}
    (named : schemeOf link = some scheme) (reader : Read (trimmed link) scheme result) :
    read link = result := by
  obtain ⟨⟨front, rest⟩, cut, same⟩ := Option.map_eq_some_iff.1 named
  unfold trimmed at cut reader
  cases reader <;> simp only [read, cut, same]

theorem read_trim (link : String) : read (Text.trim link) = read link := by
  have same : trimmed (Text.trim link) = trimmed link := by
    rw [trimmed_eq_trim, trimmed_eq_trim, Text.trim_trim]
  unfold trimmed at same
  unfold read
  rw [same]

theorem cutWord_scheme {scheme : List Char} (no_colon : ':' ∉ scheme) (rest : List Char) :
    Text.cutWord [':', '/', '/'] (scheme ++ ':' :: '/' :: '/' :: rest) = some (scheme, rest) := by
  induction scheme with
  | nil => simp [Text.cutWord, Text.stripStart]
  | cons c scheme ih =>
    rw [List.mem_cons, not_or] at no_colon
    simp [Text.cutWord, Text.stripStart, no_colon.1, ih no_colon.2]

section written

variable {scheme rest : String}

theorem cutWord_link (no_colon : ':' ∉ scheme.toList) :
    Text.cutWord [':', '/', '/'] (scheme ++ "://" ++ rest).toList =
      some (scheme.toList, rest.toList) := by
  have mark : "://".toList = [':', '/', '/'] := rfl
  rw [String.toList_append, String.toList_append, mark, List.append_assoc]
  exact cutWord_scheme no_colon rest.toList

theorem body_link (no_colon : ':' ∉ scheme.toList) : body (scheme ++ "://" ++ rest) = rest := by
  rw [body, cutWord_link no_colon]
  exact String.ofList_toList

theorem trimmed_eq_self {link : String} (first : ∀ c ∈ link.toList.head?, Text.isBlank c = false)
    (last : ∀ c ∈ link.toList.getLast?, Text.isBlank c = false) : trimmed link = link := by
  rw [trimmed_eq_trim, Text.trim_eq_self first last]

/-- A link that was put together is read by the reader of its scheme. -/
theorem read_of_link {result : Except Error ProxyRecord}
    (last : ∀ c ∈ rest.toList.getLast?, Text.isBlank c = false)
    (reader : Read (scheme ++ "://" ++ rest) scheme result) :
    read (scheme ++ "://" ++ rest) = result := by
  have known : ':' ∉ scheme.toList ∧ scheme.toList.map Text.lowerChar = scheme.toList ∧
      ∀ c ∈ scheme.toList.head?, Text.isBlank c = false := by
    refine ⟨by cases reader <;> decide, by cases reader <;> decide, ?_⟩
    cases reader <;> (rintro c ⟨⟩; decide)
  have named : scheme ≠ "" := by cases reader <;> decide
  obtain ⟨no_colon, small, first⟩ := known
  have same : trimmed (scheme ++ "://" ++ rest) = scheme ++ "://" ++ rest := by
    have parts : (scheme ++ "://" ++ rest).toList =
        scheme.toList ++ [':', '/'] ++ '/' :: rest.toList := by
      rw [String.toList_append, String.toList_append, show "://".toList = [':', '/', '/'] from rfl]
      simp
    refine trimmed_eq_self (fun c start => ?_) fun c at_end => ?_
    · rw [parts, List.append_assoc, List.head?_append] at start
      obtain ⟨d, tail, front⟩ := List.exists_cons_of_ne_nil fun nothing =>
        named (String.toList_eq_nil_iff.1 nothing)
      rw [front] at first start
      exact first c start
    · rw [parts, List.getLast?_append, List.getLast?_cons, Option.some_or] at at_end
      cases tail : rest.toList.getLast? with
      | some d =>
        rw [tail] at at_end
        exact last c (tail.trans at_end)
      | none =>
        rw [tail] at at_end
        cases at_end
        decide
  have scheme_is : schemeOf (scheme ++ "://" ++ rest) = some scheme := by
    rw [schemeOf, same, cutWord_link no_colon]
    simp only [Option.map_some, small, String.ofList_toList]
  exact read_of_scheme scheme_is (by rwa [same])

/-- A link that ends in a name ends in nothing that is trimmed. -/
theorem solid_fragment (front : List Char) (name : String) {c : Char}
    (last : c ∈ (front ++ '#' :: (Url.encodeComponent name).toList).getLast?) :
    Text.isBlank c = false := by
  rw [List.getLast?_append, List.getLast?_cons, Option.some_or] at last
  have inside : c ∈ '#' :: (Url.encodeComponent name).toList :=
    List.mem_of_getLast? (by rw [List.getLast?_cons]; exact last)
  obtain rfl | inside := List.mem_cons.1 inside
  · decide
  · exact (Url.inComponent inside).free.2.2

end written

section base64

open Text.Base64

/-- What Base64 is made of is neither trimmed nor a mark between the parts of a link. -/
theorem apart_of_mem_write {f : Form} {bytes : Bytes} {c : Char} (member : c ∈ f.write bytes) :
    Text.isBlank c = false ∧ c ∉ [':', '@', '#', '?', '&', '%'] := by
  have letters : ∀ n < 64, (Text.isBlank (urlSafe.letter n) = false ∧
      urlSafe.letter n ∉ [':', '@', '#', '?', '&', '%']) ∧
      Text.isBlank (standard.letter n) = false ∧
      standard.letter n ∉ [':', '@', '#', '?', '&', '%'] := by decide
  obtain rfl | ⟨n, small, rfl⟩ := letter_of_mem_encode member
  · decide
  · unfold Form.alphabet
    split
    · exact (letters n small).1
    · exact (letters n small).2

def coded (f : Form) (s : String) : String := String.ofList (f.write (Bytes.ofText s))

theorem coded_toList (f : Form) (s : String) : (coded f s).toList = f.write (Bytes.ofText s) :=
  String.toList_ofList

theorem not_mem_coded (f : Form) (s : String) {mark : Char}
    (listed : mark ∈ [':', '@', '#', '?', '&', '%']) : mark ∉ (coded f s).toList := by
  rw [coded_toList]
  exact fun member => (apart_of_mem_write member).2 listed

theorem plus_not_mem_coded (filled : Bool) (s : String) :
    '+' ∉ (coded ⟨true, filled⟩ s).toList := by
  rw [coded_toList]
  intro member
  have letters : ∀ n < 64, '+' ≠ urlSafe.letter n := by decide
  obtain mark | ⟨n, small, same⟩ := letter_of_mem_encode member
  · exact absurd mark (by decide)
  · exact letters n small same

theorem solid_last_coded (f : Form) (s : String) :
    ∀ c ∈ (coded f s).toList.getLast?, Text.isBlank c = false := by
  intro c last
  rw [coded_toList] at last
  exact (apart_of_mem_write (List.mem_of_getLast? last)).1

def solid (s : String) : List Char := s.toList.filter (!Text.isBlank ·)

/-- Exactly the forms of a text are taken for it, wherever white space stands in them. -/
theorem decodeBase64_eq_some {s t : String} :
    decodeBase64 s = some t ↔ t ≠ "" ∧ ∃ f : Form, solid s = f.write (Bytes.ofText t) := by
  unfold decodeBase64 solid
  split
  · rename_i nothing
    simp only [nothing, reduceCtorEq, false_iff, not_and, not_exists]
    intro filled f empty
    have same : f.write (Bytes.ofText t) = f.write (Bytes.ofText "") := empty.symm
    exact filled (Text.Utf8.ofText_inj (Form.write_inj same))
  · rename_i letters filled
    rw [Option.bind_eq_some_iff]
    constructor
    · rintro ⟨bytes, any, text⟩
      rw [Text.Utf8.decode_eq_some] at text
      obtain ⟨f, same⟩ := decodeAny_eq_some.1 any
      refine ⟨?_, f, same.trans (congrArg f.write text)⟩
      rintro rfl
      exact filled (same.trans (congrArg f.write text))
    · rintro ⟨-, f, same⟩
      exact ⟨Bytes.ofText t, decodeAny_eq_some.2 ⟨f, same⟩, Text.Utf8.decode_ofText t⟩

theorem solid_coded (f : Form) (s : String) : solid (coded f s) = f.write (Bytes.ofText s) := by
  unfold solid
  rw [coded_toList]
  exact List.filter_eq_self.2 fun c member => by rw [(apart_of_mem_write member).1]; rfl

theorem decodeBase64_coded (f : Form) {s : String} (some : s ≠ "") :
    decodeBase64 (coded f s) = .some s :=
  decodeBase64_eq_some.2 ⟨some, f, solid_coded f s⟩

/-- Of an empty text no form is read, and that gives an empty text. -/
theorem decodeBase64_coded_getD (f : Form) (s : String) :
    (decodeBase64 (coded f s)).getD "" = s := by
  by_cases empty : s = ""
  · subst empty
    rfl
  · rw [decodeBase64_coded f empty, Option.getD_some]

theorem decodeBase64_encodeBase64 {s : String} (some : s ≠ "") :
    decodeBase64 (encodeBase64 (Bytes.ofText s)) = .some s :=
  decodeBase64_coded ⟨false, true⟩ some

theorem solid_no_colon {f : Form} {s : String} {bytes : Bytes} (same : solid s = f.write bytes) :
    ':' ∉ s.toList := by
  intro colon
  have kept : ':' ∈ solid s := List.mem_filter.2 ⟨colon, by decide⟩
  rw [same] at kept
  exact (apart_of_mem_write kept).2 (by decide)

theorem decodeBase64_colon {s : String} (colon : ':' ∈ s.toList) : decodeBase64 s = none := by
  by_contra read
  obtain ⟨t, read⟩ := Option.ne_none_iff_exists'.1 read
  obtain ⟨_, f, same⟩ := decodeBase64_eq_some.1 read
  exact solid_no_colon same colon

end base64

end ProxyGateway.ShareLink
