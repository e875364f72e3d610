import ProxyGateway.Proofs.Proxy.Adapter
import ProxyGateway.Proofs.ShareLink.Basic
import ProxyGateway.Proofs.Url.Percent

namespace ProxyGateway.ShareLink.Shadowsocks

structure Content where
  name : String
  server : String
  port : UInt16
  cipher : String
  password : String
  plugin : Option String
  pluginOptions : Option String

namespace Content

def record (c : Content) : ProxyRecord :=
  ⟨if c.name = "" then none else some c.name, "ss", c.server, c.port,
    [("cipher", .str c.cipher), ("password", .str c.password)] ++
      optional "plugin" (c.plugin.map .str) ++ optional "plugin-opts" (c.pluginOptions.map .str) ++
      [("udp", .bool true)]⟩

structure Lawful (c : Content) : Prop where
  cipher : ':' ∉ c.cipher.toList
  server : '@' ∉ c.server.toList

/-- What a written link says: nothing of the plugin. -/
def written (c : Content) (name : String) : Content :=
  { c with name, plugin := none, pluginOptions := none }

def plug (c : Content) (value : String) : Content :=
  let (plugin, options) := splitOff ';' value.toList
  { c with
    plugin := some (String.ofList plugin)
    pluginOptions := (options.map String.ofList).or c.pluginOptions }

end Content

section read

theorem addPlugin_record (c : Content) (value : String) :
    addPlugin c.record value = (c.plug value).record := by
  obtain ⟨name, server, port, cipher, password, plugin, pluginOptions⟩ := c
  obtain ⟨parts, split⟩ : ∃ parts, splitOff ';' value.toList = parts := ⟨_, rfl⟩
  obtain ⟨front, options⟩ := parts
  simp only [addPlugin, Content.plug, split]
  cases options <;> cases plugin <;> cases pluginOptions <;> rfl

def addPlugins (pairs : List (String × String)) (r : ProxyRecord) : ProxyRecord :=
  pairs.foldl (fun r (k, v) => if k = "plugin" ∧ v ≠ "" then addPlugin r v else r) r

theorem addPlugins_record (pairs : List (String × String)) (c : Content) :
    ∃ d : Content, addPlugins pairs c.record = d.record ∧
      d.cipher = c.cipher ∧ d.server = c.server ∧ d.port = c.port := by
  induction pairs generalizing c with
  | nil => exact ⟨c, rfl, rfl, rfl, rfl⟩
  | cons pair pairs ih =>
    obtain ⟨k, v⟩ := pair
    unfold addPlugins
    rw [List.foldl_cons]
    dsimp only
    split
    · rw [addPlugin_record]
      exact ih (c.plug v)
    · exact ih c

def userText (user : String) : Except Error String :=
  match decodeBase64 user with
  | some decoded => if ':' ∈ decoded.toList then .ok decoded else unescaped user
  | none => unescaped user

theorem credentials_eq (user : String) :
    credentials user = (userText user).bind fun text =>
      match Text.cutFirst ':' text.toList with
      | some (cipher, password) => .ok (String.ofList cipher, String.ofList password)
      | none => .error (.parse "ss link missing cipher or password") := by
  unfold credentials userText
  cases decodeBase64 user with
  | none => rfl
  | some decoded =>
    dsimp only
    split <;> rfl

/-- The part of a link that says who and where, once it is plain. -/
def mainText (main : List Char) : Except Error (List Char) :=
  if '@' ∈ main then .ok (Text.dropEnd (· == '/') main)
  else match decodeBase64 (String.ofList main) with
    | some decoded => .ok decoded.toList
    | none => .error (.parse "ss link is not valid base64")

def readMain (name query : String) (main : List Char) : Except Error ProxyRecord := do
  let some (user, behind) := Text.cutLast '@' main | throw (.parse "ss link missing '@'")
  let (cipher, password) ← credentials (String.ofList user)
  let place ← Net.splitHostPort (String.ofList behind)
  let some port := place.port | throw (.parse "ss link missing port")
  let bare : Content := ⟨name, place.host, port, cipher, password, none, none⟩
  pure (addPlugins (Url.Form.read query) bare.record)

theorem read_eq {link : String} {rest main : List Char} {name query : Option (List Char)}
    (of_name : splitOff '#' (body link).toList = (rest, name))
    (of_query : splitOff '?' rest = (main, query)) :
    read link = (unescaped (String.ofList (name.getD []))).bind fun name =>
      (mainText main).bind (readMain name (String.ofList (query.getD []))) := by
  unfold read mainText
  simp only [of_name, of_query]
  cases unescaped (String.ofList (name.getD [])) with
  | error => rfl
  | ok name =>
    split
    · rfl
    · cases decodeBase64 (String.ofList main) <;> rfl

theorem no_colon_of_credentials {user cipher password : String}
    (read : credentials user = .ok (cipher, password)) : ':' ∉ cipher.toList := by
  rw [credentials_eq] at read
  obtain ⟨text, _, read⟩ := bind_eq_ok.1 read
  split at read
  · rename_i cut
    obtain ⟨rfl, _⟩ := Prod.mk.inj (Except.ok.inj read)
    rw [String.toList_ofList]
    exact (Text.cutFirst_eq_some.1 cut).2
  · cases read

theorem parts_of_readMain {name query : String} {main : List Char} {r : ProxyRecord}
    (read : readMain name query main = .ok r) :
    ∃ (c : Content) (user behind : List Char) (password : String), r = c.record ∧
      Text.cutLast '@' main = some (user, behind) ∧
      credentials (String.ofList user) = .ok (c.cipher, password) ∧
      Net.splitHostPort (String.ofList behind) = .ok ⟨c.server, some c.port⟩ := by
  unfold readMain at read
  split at read
  · rename_i user behind cut
    obtain ⟨⟨cipher, password⟩, of_user, read⟩ := bind_eq_ok.1 read
    obtain ⟨⟨host, port⟩, of_place, read⟩ := bind_eq_ok.1 read
    cases port with
    | some port =>
      obtain rfl := Except.ok.inj read
      obtain ⟨c, record, same_cipher, same_server, same_port⟩ :=
        addPlugins_record (Url.Form.read query) ⟨name, host, port, cipher, password, none, none⟩
      refine ⟨c, user, behind, password, record, cut, ?_, ?_⟩
      · rw [of_user, same_cipher]
      · rw [of_place, same_server, same_port]
    | none => cases read
  · cases read

/-- The server stands behind the last at sign. -/
theorem server_of_readMain {name query : String} {main : List Char} {r : ProxyRecord} {d : Char}
    (read : readMain name query main = .ok r) (member : d ∈ r.server.toList) :
    d ∈ main ∧ d ≠ '@' := by
  obtain ⟨c, user, behind, _, rfl, cut, _, place⟩ := parts_of_readMain read
  obtain ⟨rfl, no_at⟩ := Text.cutLast_eq_some.1 cut
  have inside := Net.mem_of_splitHostPort place member
  rw [String.toList_ofList] at inside
  refine ⟨List.mem_append_right user (List.mem_cons_of_mem '@' inside), ?_⟩
  rintro rfl
  exact no_at inside

theorem content_of_readMain {name query : String} {main : List Char} {r : ProxyRecord}
    (read : readMain name query main = .ok r) : ∃ c : Content, c.Lawful ∧ r = c.record := by
  obtain ⟨c, _, _, _, rfl, _, of_user, _⟩ := parts_of_readMain read
  refine ⟨c, ⟨no_colon_of_credentials of_user, fun member => ?_⟩, rfl⟩
  exact (server_of_readMain read member).2 rfl

theorem content_of_read {link : String} {r : ProxyRecord} (done : read link = .ok r) :
    ∃ c : Content, c.Lawful ∧ r = c.record := by
  rw [read_eq rfl rfl] at done
  obtain ⟨name, _, done⟩ := bind_eq_ok.1 done
  obtain ⟨main, _, done⟩ := bind_eq_ok.1 done
  exact content_of_readMain done

end read

section write

variable {c : Content}

theorem text?_record (c : Content) :
    c.record.text? "cipher" = some c.cipher ∧ c.record.text? "password" = some c.password :=
  ⟨rfl, rfl⟩

theorem splitOff_cut {mark : Char} {front : List Char} (free : mark ∉ front) (rest : List Char) :
    splitOff mark (front ++ mark :: rest) = (front, some rest) := by
  rw [splitOff, Text.cutFirst_eq_some.2 ⟨rfl, free⟩]

theorem splitOff_whole {mark : Char} {s : List Char} (free : mark ∉ s) :
    splitOff mark s = (s, none) := by
  rw [splitOff, Text.cutFirst_eq_none.2 free]

def user (c : Content) : String :=
  Url.encodeComponent c.cipher ++ ":" ++ Url.encodeComponent c.password

theorem decode_user (c : Content) :
    Url.decodeComponent (user c) = .ok (c.cipher ++ ":" ++ c.password) := by
  have colon (rest : Bytes) : Url.unescape (Bytes.ofText ":" ++ rest) =
      Bytes.ofText ":" ++ Url.unescape rest := Url.unescape_other (by decide) rest
  have last := Url.unescape_component c.password []
  rw [List.append_nil, show Url.unescape [] = [] from rfl, List.append_nil] at last
  rw [Url.decodeComponent, Text.Utf8.decode_eq_ok, user]
  simp only [Text.Utf8.ofText_append, List.append_assoc]
  rw [Url.unescape_component, colon, last]

def secret (c : Content) : String := c.cipher ++ ":" ++ c.password

theorem colon_mem_secret (c : Content) : ':' ∈ (secret c).toList := by simp [secret]

theorem cutFirst_secret (lawful : c.Lawful) :
    Text.cutFirst ':' (secret c).toList = some (c.cipher.toList, c.password.toList) :=
  Text.cutFirst_eq_some.2 ⟨by simp [secret], lawful.cipher⟩

theorem credentials_of_userText (lawful : c.Lawful) {user : String}
    (plain : userText user = .ok (secret c)) : credentials user = .ok (c.cipher, c.password) := by
  rw [credentials_eq, plain]
  simp only [Except.bind, cutFirst_secret lawful, String.ofList_toList]

theorem userText_of_colon {user : String} (colon : ':' ∈ user.toList) :
    userText user = unescaped user := by
  rw [userText, decodeBase64_colon colon]

theorem credentials_user (lawful : c.Lawful) :
    credentials (user c) = .ok (c.cipher, c.password) := by
  refine credentials_of_userText lawful ?_
  rw [userText_of_colon (by simp [user]), unescaped, decode_user]
  rfl

/-- A server that the text of a link has a place for: it is found again in front of its port, and
nothing of it starts the parameters or the name. -/
structure Placed (server : String) : Prop where
  joinable : Net.Joinable server
  query : '?' ∉ server.toList
  fragment : '#' ∉ server.toList

theorem digits_of_port (port : UInt16) {d : Char} (member : d ∈ Text.numeral 10 port.toNat) :
    (Text.digitValue 10 d).isSome :=
  (Text.digitValue_isSome_of_digits
    (Text.digits_numeral (by decide : 1 < 10) (by decide) port.toNat)).2 d member

theorem joinHostPort_front (host : String) (port : UInt16) :
    ∃ front, (Net.joinHostPort host port).toList = front ++ ':' :: Text.numeral 10 port.toNat ∧
      ∀ d ∈ front, d ∈ host.toList ∨ d = '[' ∨ d = ']' := by
  by_cases colon : ':' ∈ host.toList
  · refine ⟨'[' :: (host.toList ++ [']']), ?_, fun d member => ?_⟩
    · rw [Net.joinHostPort_toList_of_colon colon, String.toList_ofList]
      simp
    · rw [List.mem_cons, List.mem_append, List.mem_singleton] at member
      obtain opens | inside | closes := member
      exacts [.inr (.inl opens), .inl inside, .inr (.inr closes)]
  · refine ⟨host.toList, ?_, fun d member => .inl member⟩
    rw [Net.joinHostPort_toList_of_no_colon colon, String.toList_ofList]

theorem not_mem_joinHostPort {host : String} {mark : Char} (free : mark ∉ host.toList)
    (other : mark ≠ '[' ∧ mark ≠ ']' ∧ mark ≠ ':' ∧ Text.digitValue 10 mark = none)
    (port : UInt16) : mark ∉ (Net.joinHostPort host port).toList := by
  obtain ⟨opens, closes, colon, digit⟩ := other
  obtain ⟨front, chars, all⟩ := joinHostPort_front host port
  rw [chars, List.mem_append, List.mem_cons]
  rintro (member | same | member)
  · obtain inside | same | same := all mark member
    exacts [free inside, opens same, closes same]
  · exact colon same
  · exact Option.isSome_iff_ne_none.1 (digits_of_port port member) digit

theorem not_mem_user {mark : Char} (other : ¬ Url.InComponent mark ∧ mark ≠ ':') :
    mark ∉ (user c).toList := by
  have colon : ":".toList = [':'] := rfl
  rw [user, String.toList_append, String.toList_append, colon, List.mem_append, List.mem_append,
    List.mem_singleton]
  rintro ((cipher | same) | password)
  · exact other.1 (Url.inComponent cipher)
  · exact other.2 same
  · exact other.1 (Url.inComponent password)

def atPlace (user : List Char) (c : Content) : List Char :=
  user ++ '@' :: (Net.joinHostPort c.server c.port).toList

theorem not_mem_atPlace {user : List Char} {mark : Char} (absent : mark ∉ user)
    (free : mark ∉ c.server.toList)
    (other : mark ≠ '[' ∧ mark ≠ ']' ∧ mark ≠ ':' ∧ mark ≠ '@' ∧ Text.digitValue 10 mark = none) :
    mark ∉ atPlace user c := by
  obtain ⟨opens, closes, colon, at_sign, digit⟩ := other
  rw [atPlace, List.mem_append, List.mem_cons]
  rintro (inside | same | inside)
  · exact absent inside
  · exact at_sign same
  · exact not_mem_joinHostPort free ⟨opens, closes, colon, digit⟩ c.port inside

/-- The digits of a port end the place, whatever the server ends in. -/
theorem digit_of_last_atPlace {user : List Char} {d : Char}
    (last : d ∈ (atPlace user c).getLast?) : d = ':' ∨ (Text.digitValue 10 d).isSome := by
  obtain ⟨front, chars, _⟩ := joinHostPort_front c.server c.port
  rw [atPlace, chars, ← List.cons_append, ← List.append_assoc, List.getLast?_append,
    List.getLast?_cons, Option.some_or] at last
  have inside : d ∈ ':' :: Text.numeral 10 c.port.toNat := List.mem_of_getLast? (by
    rw [List.getLast?_cons]; exact last)
  exact (List.mem_cons.1 inside).imp_right (digits_of_port c.port)

theorem mainText_atPlace (user : List Char) (c : Content) :
    mainText (atPlace user c) = .ok (atPlace user c) := by
  have at_sign : '@' ∈ atPlace user c := List.mem_append_right _ List.mem_cons_self
  have kept : Text.dropEnd (· == '/') (atPlace user c) = atPlace user c := by
    refine Text.dropEnd_eq_self fun d last => beq_eq_false_iff_ne.2 ?_
    rintro rfl
    obtain same | digit := digit_of_last_atPlace last
    · exact absurd same (by decide)
    · exact absurd digit (by decide)
  rw [mainText, if_pos at_sign, kept]

/-- A place is found again, whatever the user in front of it is. -/
theorem readMain_atPlace (apart : '@' ∉ c.server.toList) (joinable : Net.Joinable c.server)
    (name : String) (user : List Char) :
    readMain name "" (atPlace user c) = (credentials (String.ofList user)).map fun told =>
      (⟨name, c.server, c.port, told.1, told.2, none, none⟩ : Content).record := by
  have at_sign : '@' ∉ (Net.joinHostPort c.server c.port).toList :=
    not_mem_joinHostPort apart (by decide) c.port
  have cut : Text.cutLast '@' (atPlace user c) = some _ := Text.cutLast_eq_some.2 ⟨rfl, at_sign⟩
  have place : Net.splitHostPort (Net.joinHostPort c.server c.port) = .ok ⟨c.server, some c.port⟩ :=
    Net.splitHostPort_joinHostPort_iff.2 joinable
  simp only [readMain, cut, String.ofList_toList]
  cases credentials (String.ofList user) with
  | error => rfl
  | ok told =>
    simp only [place, bind, Except.bind]
    rfl

def main (c : Content) : List Char := atPlace (user c).toList c

theorem not_mem_main {mark : Char} (free : mark ∉ c.server.toList)
    (other : ¬ Url.InComponent mark ∧ mark ≠ '[' ∧ mark ≠ ']' ∧ mark ≠ ':' ∧ mark ≠ '@' ∧
      Text.digitValue 10 mark = none) : mark ∉ main c :=
  not_mem_atPlace (not_mem_user ⟨other.1, other.2.2.2.1⟩) free other.2

theorem readMain_main (lawful : c.Lawful) (joinable : Net.Joinable c.server) (name : String) :
    readMain name "" (main c) = .ok (c.written name).record := by
  rw [main, readMain_atPlace lawful.server joinable, String.ofList_toList, credentials_user lawful]
  rfl

theorem write_record (c : Content) (name : String) :
    write name c.server c.port c.record = "ss" ++ "://" ++
      String.ofList (main c ++ '#' :: (Url.encodeComponent name).toList) := by
  obtain ⟨cipher, password⟩ := text?_record c
  rw [write, cipher, password, ← String.toList_inj]
  have scheme : "ss://".toList = "ss".toList ++ "://".toList := rfl
  simp [main, atPlace, user, scheme]

/-- The name, the user and the place of a written link are found where they were put. -/
theorem read_write_eq (query : '?' ∉ c.server.toList) (fragment : '#' ∉ c.server.toList)
    (name : String) : read (write name c.server c.port c.record) = readMain name "" (main c) := by
  have of_body : body (write name c.server c.port c.record) =
      String.ofList (main c ++ '#' :: (Url.encodeComponent name).toList) := by
    rw [write_record, body_link (by decide)]
  have of_name := splitOff_cut (not_mem_main fragment (by decide)) (Url.encodeComponent name).toList
  have of_query := splitOff_whole (not_mem_main query (by decide))
  have decoded : unescaped (String.ofList (Url.encodeComponent name).toList) = .ok name := by
    rw [String.ofList_toList, unescaped, Url.decodeComponent_encodeComponent]
  rw [← String.toList_ofList (l := main c ++ _), ← of_body] at of_name
  rw [read_eq of_name of_query]
  simp only [Option.getD_some, Option.getD_none, decoded, main, mainText_atPlace, Except.bind]

theorem read_write (lawful : c.Lawful) (placed : Placed c.server) (name : String) :
    read (write name c.server c.port c.record) = .ok (c.written name).record := by
  rw [read_write_eq placed.query placed.fragment]
  exact readMain_main lawful placed.joinable name

theorem readLink_write_eq (c : Content) (name : String) :
    ShareLink.read (write name c.server c.port c.record) =
      read (write name c.server c.port c.record) := by
  rw [write_record]
  refine read_of_link (fun d last => ?_) .shadowsocks
  rw [String.toList_ofList] at last
  exact solid_fragment (main c) name last

theorem readLink_write (lawful : c.Lawful) (placed : Placed c.server) (name : String) :
    ShareLink.read (write name c.server c.port c.record) = .ok (c.written name).record := by
  rw [readLink_write_eq]
  exact read_write lawful placed name

end write

section carried

/-- The record without what a link has no place for. -/
def carried (r : ProxyRecord) : ProxyRecord :=
  { r with options := (r.options.erase "plugin").erase "plugin-opts" }

theorem carried_record (c : Content) (name : String) :
    (carried c.record).named name = (c.written name).record := by
  obtain ⟨old, server, port, cipher, password, plugin, pluginOptions⟩ := c
  cases plugin <;> cases pluginOptions <;> rfl

end carried

section told

open Identity (HoldsTag tree)

theorem ordered_record (c : Content) : c.record.options.Ordered := by
  have all : ["cipher", "password", "plugin", "plugin-opts", "udp"].Pairwise (· < ·) := by decide
  refine all.sublist ?_
  simp only [Content.record, List.map_append]
  exact (((List.Sublist.refl ["cipher", "password"]).append (names_optional _ _)).append
    (names_optional _ _)).append (.refl ["udp"])

theorem plain_record (c : Content) : ∀ e ∈ c.record.options, ¬ HoldsTag e.2 := by
  simp only [Content.record, List.forall_mem_append, List.forall_mem_cons, forall_mem_optional]
  simp

theorem get?_record (c : Content) :
    c.record.options.get? "plugin" = c.plugin.map .str ∧
      c.record.options.get? "plugin-opts" = c.pluginOptions.map .str := by
  obtain ⟨name, server, port, cipher, password, plugin, pluginOptions⟩ := c
  cases plugin <;> cases pluginOptions <;> exact ⟨rfl, rfl⟩

theorem options_of_sameProxy {c : Content} {name : String}
    (same : Identity.SameProxy c.record (c.written name).record) :
    (c.written name).record.options = c.record.options := by
  have missing {key : String} {value : Option String} (shown : key ∉ Identity.hidden)
      (here : c.record.options.get? key = value.map .str)
      (there : (c.written name).record.options.get? key = none) : value = none := by
    have told := same.option (ordered_record c) (ordered_record (c.written name)) shown
    rw [here, there] at told
    cases value with
    | none => rfl
    | some => cases told
  have plugin := missing (by decide) (get?_record c).1 rfl
  have options := missing (by decide) (get?_record c).2 rfl
  unfold Content.record
  rw [plugin, options]
  rfl

theorem rewritten (c : Content) (name : String) :
    Adapter.Rewritten c.record (c.written name).record :=
  ⟨rfl, rfl, rfl, plain_record _, options_of_sameProxy⟩

end told

end ProxyGateway.ShareLink.Shadowsocks
