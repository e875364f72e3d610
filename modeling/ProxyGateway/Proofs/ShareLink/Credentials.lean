import ProxyGateway.Proofs.ShareLink.Shadowsocks

namespace ProxyGateway.ShareLink.Shadowsocks

section marks

variable {mark : Char} {front : List Char}

theorem splitOff_append (free : mark ∉ front) (rest : List Char) :
    splitOff mark (front ++ rest) = (front ++ (splitOff mark rest).1, (splitOff mark rest).2) := by
  cases cut : Text.cutFirst mark rest with
  | none =>
    have absent := Text.cutFirst_eq_none.1 cut
    rw [splitOff_whole absent, splitOff_whole (by simp [free, absent])]
  | some parts =>
    obtain ⟨before, behind⟩ := parts
    obtain ⟨rfl, absent⟩ := Text.cutFirst_eq_some.1 cut
    rw [splitOff_cut absent, ← List.append_assoc, splitOff_cut (by simp [free, absent])]

theorem splitOff_front (mark : Char) (s : List Char) :
    mark ∉ (splitOff mark s).1 ∧ (splitOff mark s).1 ⊆ s := by
  cases cut : Text.cutFirst mark s with
  | none =>
    have absent := Text.cutFirst_eq_none.1 cut
    rw [splitOff_whole absent]
    exact ⟨absent, List.Subset.refl s⟩
  | some parts =>
    obtain ⟨before, behind⟩ := parts
    obtain ⟨rfl, absent⟩ := Text.cutFirst_eq_some.1 cut
    rw [splitOff_cut absent]
    exact ⟨absent, List.subset_append_left _ _⟩

end marks

variable {c : Content} {name : String} {r : ProxyRecord}

/-- The server stands in front of the parameters and of the name, if nothing of these begins before
an at sign. -/
theorem marks_of_read {link : String} {front behind : List Char}
    (chars : (body link).toList = front ++ behind) (at_sign : '@' ∈ front)
    (no_query : '?' ∉ front) (no_name : '#' ∉ front) (done : read link = .ok r) :
    '?' ∉ r.server.toList ∧ '#' ∉ r.server.toList := by
  have of_name := splitOff_append no_name behind
  rw [← chars] at of_name
  rw [read_eq of_name (splitOff_append no_query _), mainText,
    if_pos (List.mem_append_left _ at_sign)] at done
  obtain ⟨name, _, done⟩ := bind_eq_ok.1 done
  obtain ⟨plain, of_main, done⟩ := bind_eq_ok.1 done
  obtain rfl := Except.ok.inj of_main
  have inside {d : Char} (member : d ∈ r.server.toList) :
      d ∈ front ++ (splitOff '?' (splitOff '#' behind).1).1 :=
    (Text.dropEnd_isPrefix _ _).mem (server_of_readMain done member).1
  obtain ⟨name_free, _⟩ := splitOff_front '#' behind
  obtain ⟨query_free, part⟩ := splitOff_front '?' (splitOff '#' behind).1
  constructor
  · intro member
    obtain early | late := List.mem_append.1 (inside member)
    exacts [no_query early, query_free late]
  · intro member
    obtain early | late := List.mem_append.1 (inside member)
    exacts [no_name early, name_free (part late)]

theorem marks_of_read_write (done : read (write name c.server c.port c.record) = .ok r) :
    '?' ∉ r.server.toList ∧ '#' ∉ r.server.toList := by
  have chars : (body (write name c.server c.port c.record)).toList = ((user c).toList ++ ['@']) ++
      ((Net.joinHostPort c.server c.port).toList ++ '#' :: (Url.encodeComponent name).toList) := by
    rw [write_record, body_link (by decide), String.toList_ofList]
    simp [main, atPlace]
  apply marks_of_read chars (by simp) _ _ done
  · simp [not_mem_user (by decide : _ ∧ '?' ≠ ':')]
  · simp [not_mem_user (by decide : _ ∧ '#' ≠ ':')]

theorem joinable_of_readMain (apart : '@' ∉ c.server.toList)
    (done : readMain name "" (main c) = .ok r) (server : r.server = c.server)
    (port : r.port = c.port) : Net.Joinable c.server := by
  obtain ⟨d, user, behind, _, rfl, cut, _, split⟩ := parts_of_readMain done
  have cut' : Text.cutLast '@' (main c) = some _ :=
    Text.cutLast_eq_some.2 ⟨rfl, not_mem_joinHostPort apart (by decide) c.port⟩
  rw [cut'] at cut
  obtain ⟨_, rfl⟩ := Prod.mk.inj (Option.some.inj cut)
  have same_server : d.server = c.server := server
  have same_port : d.port = c.port := port
  rw [String.ofList_toList, same_server, same_port] at split
  exact Net.splitHostPort_joinHostPort_iff.1 split

theorem lawful_of_read (done : read (write name c.server c.port c.record) = .ok r)
    (server : r.server = c.server) (port : r.port = c.port)
    (cipher : r.text? "cipher" = some c.cipher) : c.Lawful ∧ Placed c.server := by
  obtain ⟨query, fragment⟩ := marks_of_read_write done
  obtain ⟨d, lawful, rfl⟩ := content_of_read done
  have same_cipher : d.cipher = c.cipher :=
    Option.some.inj ((text?_record d).1.symm.trans cipher)
  have same_server : d.server = c.server := server
  have apart : '@' ∉ c.server.toList := same_server ▸ lawful.server
  rw [server] at query fragment
  rw [read_write_eq query fragment] at done
  exact ⟨⟨same_cipher ▸ lawful.cipher, apart⟩, joinable_of_readMain apart done server port, query,
    fragment⟩

theorem record_written (c : Content) (named : name ≠ "") : (c.written name).record =
    ⟨some name, "ss", c.server, c.port,
      [("cipher", .str c.cipher), ("password", .str c.password), ("udp", .bool true)]⟩ := by
  simp [Content.record, Content.written, named, optional]

section adapter

variable {a : Adapter}

def contentOf (a : Adapter) : Content where
  name := a.name
  server := a.host
  port := a.port
  cipher := (a.record.text? "cipher").getD ""
  password := (a.record.text? "password").getD ""
  plugin := none
  pluginOptions := none

theorem shareLink_eq (kind : a.kind = .shadowsocks) :
    a.shareLink = .ok (write a.name a.host a.port (contentOf a).record) := by
  obtain ⟨cipher, password⟩ := text?_record (contentOf a)
  simp only [Adapter.shareLink, kind, write, cipher, password, Option.getD_some]
  rfl

theorem placed_of_plain {host : String}
    (marks : ∀ mark ∈ [']', '#', '?', '@'], mark ∉ host.toList)
    (first : ∀ d ∈ host.toList.head?, d ≠ '[' ∧ Text.isBlank d = false) : Placed host := by
  refine ⟨?_, marks _ (by decide), marks _ (by decide)⟩
  unfold Net.Joinable
  split
  · exact marks _ (by decide)
  · exact first

/-- The link of an adapter is read as the proxy of that adapter exactly if its cipher holds no colon
and its host has a place in a link; otherwise nothing with that server, port and cipher is read. -/
theorem exported_credentials_are_read (kind : a.kind = .shadowsocks) (named : a.name ≠ "") :
    let cipher := (a.record.text? "cipher").getD ""
    let password := (a.record.text? "password").getD ""
    let r : ProxyRecord := ⟨some a.name, "ss", a.host, a.port,
      [("cipher", .str cipher), ("password", .str password), ("udp", .bool true)]⟩
    ∃ link, a.shareLink = .ok link ∧
      (':' ∉ cipher.toList → (∀ mark ∈ [']', '#', '?', '@'], mark ∉ a.host.toList) →
        (∀ d ∈ a.host.toList.head?, d ≠ '[' ∧ Text.isBlank d = false) →
        ShareLink.read link = .ok r) ∧
      (ShareLink.read link = .ok r ↔
        ':' ∉ cipher.toList ∧ '@' ∉ a.host.toList ∧ Placed a.host) ∧
      ∀ s, ShareLink.read link = .ok s → s.server = a.host → s.port = a.port →
        s.text? "cipher" = some cipher → s = r := by
  intro cipher password r
  have record : ((contentOf a).written a.name).record = r := record_written (contentOf a) named
  have same_reader := readLink_write_eq (contentOf a) a.name
  have kept (lawful : (contentOf a).Lawful) (placed : Placed a.host) :
      ShareLink.read (write a.name a.host a.port (contentOf a).record) = .ok r :=
    record ▸ readLink_write lawful placed a.name
  refine ⟨_, shareLink_eq kind, fun no_colon marks first => ?_, ⟨fun done => ?_, ?_⟩, ?_⟩
  · exact kept ⟨no_colon, marks _ (by decide)⟩ (placed_of_plain marks first)
  · obtain ⟨lawful, placed⟩ := lawful_of_read (same_reader.symm.trans done) rfl rfl rfl
    exact ⟨lawful.cipher, lawful.server, placed⟩
  · rintro ⟨no_colon, no_at, placed⟩
    exact kept ⟨no_colon, no_at⟩ placed
  · intro s done server port same
    obtain ⟨lawful, placed⟩ := lawful_of_read (same_reader.symm.trans done) server port same
    rw [kept lawful placed] at done
    exact (Except.ok.inj done).symm

/-- A cipher with marks and escapes of its own, a number as a password, a name with a line end in
it, and a host in brackets. -/
theorem marked_cipher_is_read :
    let r : ProxyRecord := ⟨some "日本 #1\n?", "SS", "2001:db8::1", 8388,
      [("cipher", .str "é%41@?#/ b"), ("password", .num (.whole 1080))]⟩
    ∃ a link, Adapter.ofRecord r = .ok a ∧ a.shareLink = .ok link ∧
      ShareLink.read link = .ok ⟨some "日本 #1\n?", "ss", "2001:db8::1", 8388,
        [("cipher", .str "é%41@?#/ b"), ("password", .str "1080"), ("udp", .bool true)]⟩ := by
  intro r
  have plain : ∀ e ∈ r.options, ¬ Identity.HoldsTag e.2 := by simp [r]
  have valid : r.validate = .ok () :=
    ProxyRecord.validate_eq_ok.2 ⟨by decide, by decide, by decide⟩
  have known : ProxyKind.ofText "SS" = .ok .shadowsocks := rfl
  have marks : ∀ mark ∈ [']', '#', '?', '@'], mark ∉ "2001:db8::1".toList := by simp
  have first : ∀ d ∈ "2001:db8::1".toList.head?, d ≠ '[' ∧ Text.isBlank d = false := by
    rintro d ⟨⟩
    decide
  obtain ⟨a, made⟩ := Adapter.exists_made valid known (placed_of_plain marks first).joinable plain
  obtain ⟨host, port⟩ := made.endpoint (placed_of_plain marks first).joinable
  have kind : a.kind = .shadowsocks := Except.ok.inj (made.kind.symm.trans known)
  have name : a.name = "日本 #1\n?" := made.name
  have named : a.name ≠ "" := by
    rw [name]
    decide
  obtain ⟨link, written, reads, _⟩ := exported_credentials_are_read kind named
  simp only [made.record, host, name, port] at reads
  exact ⟨a, link, Adapter.ofRecord_eq_ok.2 made, written, reads (by decide) marks first⟩

end adapter

end ProxyGateway.ShareLink.Shadowsocks
