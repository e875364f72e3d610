import ProxyGateway.Proofs.ShareLink.Shadowsocks
/-!
The spellings of one link: cipher and password in Base64 in front of the place, both escaped there,
or all of it in Base64. Main statement: the first two are read as what they were written from, and
the third one exactly if no escape stands in the cipher or the password, because its text is
unescaped once more.
-/
namespace ProxyGateway.ShareLink.Shadowsocks

open Text.Base64 (Form)

variable {c : Content}

def placeText (user : String) (c : Content) : String :=
  user ++ "@" ++ Net.joinHostPort c.server c.port

def codedUserLink (f : Form) (c : Content) : String := "ss://" ++ placeText (coded f (secret c)) c

def escapedUserLink (c : Content) : String := "ss://" ++ placeText (user c) c

def codedLink (f : Form) (c : Content) : String := "ss://" ++ coded f (placeText (secret c) c)

theorem placeText_toList (user : String) (c : Content) :
    (placeText user c).toList = atPlace user.toList c := by
  simp [placeText, atPlace]

theorem readLink_main {rest : String} (no_query : '?' ∉ rest.toList) (no_name : '#' ∉ rest.toList)
    (solid : ∀ d ∈ rest.toList.getLast?, Text.isBlank d = false) :
    ShareLink.read ("ss://" ++ rest) = (mainText rest.toList).bind (readMain "" "") := by
  have scheme : "ss://" ++ rest = "ss" ++ "://" ++ rest := by
    rw [← String.toList_inj]
    simp
  have of_name : splitOff '#' (body ("ss" ++ "://" ++ rest)).toList = (rest.toList, none) := by
    rw [body_link (by decide), splitOff_whole no_name]
  have nameless : unescaped "" = .ok "" := rfl
  rw [scheme, read_of_link solid .shadowsocks, read_eq of_name (splitOff_whole no_query)]
  simp only [Option.getD_none, String.ofList_nil, nameless, Except.bind]

/-- A link that shows its place says what its user does. -/
theorem readLink_placeText (lawful : c.Lawful) (placed : Placed c.server) {user : String}
    (no_query : '?' ∉ user.toList) (no_name : '#' ∉ user.toList)
    (told : credentials user = .ok (c.cipher, c.password)) :
    ShareLink.read ("ss://" ++ placeText user c) = .ok (c.written "").record := by
  have chars := placeText_toList user c
  have solid : ∀ d ∈ (placeText user c).toList.getLast?, Text.isBlank d = false := fun d last => by
    rw [chars] at last
    obtain rfl | digit := digit_of_last_atPlace last
    · decide
    · exact Net.isBlank_of_digit digit
  rw [readLink_main (chars ▸ not_mem_atPlace no_query placed.query (by decide))
    (chars ▸ not_mem_atPlace no_name placed.fragment (by decide)) solid, chars, mainText_atPlace]
  simp only [Except.bind, readMain_atPlace lawful.server placed.joinable, String.ofList_toList, told]
  rfl

theorem credentials_coded (f : Form) (lawful : c.Lawful) :
    credentials (coded f (secret c)) = .ok (c.cipher, c.password) := by
  have some : secret c ≠ "" := fun nothing => by
    have colon := colon_mem_secret c
    rw [nothing] at colon
    cases colon
  refine credentials_of_userText lawful ?_
  rw [userText, decodeBase64_coded f some]
  exact if_pos (colon_mem_secret c)

theorem mainText_coded (f : Form) {s : String} (some : s ≠ "") :
    mainText (coded f s).toList = .ok s.toList := by
  rw [mainText, if_neg (not_mem_coded f s (by decide)), String.ofList_toList,
    decodeBase64_coded f some]

/-- A link that is in Base64 as a whole says what its cipher and password do as they stand. -/
theorem readLink_coded (f : Form) (lawful : c.Lawful) (placed : Placed c.server) :
    ShareLink.read (codedLink f c) = (credentials (secret c)).map fun told =>
      (⟨"", c.server, c.port, told.1, told.2, none, none⟩ : Content).record := by
  have some : placeText (secret c) c ≠ "" := fun nothing => by
    have chars := placeText_toList (secret c) c
    rw [nothing] at chars
    exact absurd (List.append_eq_nil_iff.1 chars.symm).2 nofun
  rw [codedLink, readLink_main (not_mem_coded f _ (by decide)) (not_mem_coded f _ (by decide))
    (solid_last_coded f _), mainText_coded f some, placeText_toList]
  simp only [Except.bind, readMain_atPlace lawful.server placed.joinable, String.ofList_toList]

/-- Cipher and password as they stand are unescaped, so they are found again if that leaves them as
they are. -/
theorem credentials_secret_iff (lawful : c.Lawful) :
    credentials (secret c) = .ok (c.cipher, c.password) ↔
      Url.decodeComponent (secret c) = .ok (secret c) := by
  have of_colon := userText_of_colon (colon_mem_secret c)
  constructor
  · intro told
    rw [credentials_eq, of_colon] at told
    obtain ⟨text, plain, told⟩ := bind_eq_ok.1 told
    have same : text = secret c := by
      split at told
      · rename_i cut
        obtain ⟨cipher, password⟩ := Prod.mk.inj (Except.ok.inj told)
        rw [secret, ← cipher, ← password, ← String.toList_inj, (Text.cutFirst_eq_some.1 cut).1]
        simp
      · cases told
    rw [same, unescaped] at plain
    split at plain
    · rename_i decoded
      rwa [Except.ok.inj plain] at decoded
    · cases plain
  · intro plain
    refine credentials_of_userText lawful ?_
    rw [of_colon, unescaped, plain]

theorem holdsEscape_secret (c : Content) : Url.holdsEscape (Bytes.ofText (secret c)) =
    (Url.holdsEscape (Bytes.ofText c.cipher) || Url.holdsEscape (Bytes.ofText c.password)) := by
  have parts : Bytes.ofText (secret c) =
      Bytes.ofText c.cipher ++ 0x3A :: Bytes.ofText c.password := by
    simp only [secret, Text.Utf8.ofText_append, List.append_assoc]
    rfl
  rw [parts, Url.holdsEscape_append (by decide) (by decide)]

def NamedHost (host : String) : Prop := ∀ d ∈ host.toList, Url.isWord d ∨ d = '.' ∨ d = '-'

theorem NamedHost.free {host : String} (named : NamedHost host) {mark : Char}
    (other : Url.isWord mark = false ∧ mark ≠ '.' ∧ mark ≠ '-') : mark ∉ host.toList := by
  intro member
  obtain word | dot | hyphen := named mark member
  · exact absurd word (by rw [other.1]; exact Bool.false_ne_true)
  · exact other.2.1 dot
  · exact other.2.2 hyphen

theorem NamedHost.placed {host : String} (named : NamedHost host) : Placed host := by
  refine ⟨?_, named.free (by decide), named.free (by decide)⟩
  rw [Net.Joinable, if_neg (named.free (by decide))]
  intro d first
  have member := List.mem_of_head? first
  refine ⟨?_, ?_⟩
  · rintro rfl
    exact named.free (by decide) member
  · obtain word | rfl | rfl := named d member
    · exact (Url.inComponent_of_isWord word).free.2.2
    · decide
    · decide

/-- The three spellings of a link are read alike exactly if nothing in its cipher and password can
be taken for an escape; the first two are always read as what they were written from. -/
theorem spellings_agree_iff {cipher host : String} (no_colon : ':' ∉ cipher.toList)
    (named : NamedHost host) (password : String) (port : UInt16) (inUser inWhole : Form) :
    let c : Content := ⟨"", host, port, cipher, password, none, none⟩
    let r : ProxyRecord := ⟨none, "ss", host, port,
      [("cipher", .str cipher), ("password", .str password), ("udp", .bool true)]⟩
    ShareLink.read (codedUserLink inUser c) = .ok r ∧ ShareLink.read (escapedUserLink c) = .ok r ∧
    (ShareLink.read (codedLink inWhole c) = .ok r ↔
      Url.holdsEscape (Bytes.ofText cipher) = false ∧
      Url.holdsEscape (Bytes.ofText password) = false) := by
  intro c r
  have lawful : c.Lawful := ⟨no_colon, named.free (by decide)⟩
  have placed : Placed c.server := named.placed
  have in_user : ShareLink.read (codedUserLink inUser c) = .ok r :=
    readLink_placeText lawful placed (not_mem_coded _ _ (by decide)) (not_mem_coded _ _ (by decide))
      (credentials_coded inUser lawful)
  have escaped : ShareLink.read (escapedUserLink c) = .ok r :=
    readLink_placeText lawful placed (not_mem_user (by decide)) (not_mem_user (by decide))
      (credentials_user lawful)
  have found : ShareLink.read (codedLink inWhole c) = .ok r ↔
      credentials (secret c) = .ok (cipher, password) := by
    rw [readLink_coded inWhole lawful placed]
    cases credentials (secret c) with
    | error e => exact iff_of_false nofun nofun
    | ok told =>
      obtain ⟨a, b⟩ := told
      constructor
      · intro same
        have record := Except.ok.inj same
        have of_cipher : some a = some cipher := congrArg (·.text? "cipher") record
        have of_password : some b = some password := congrArg (·.text? "password") record
        rw [Option.some.inj of_cipher, Option.some.inj of_password]
      · intro told
        rw [told]
        rfl
  refine ⟨in_user, escaped, ?_⟩
  rw [found, credentials_secret_iff lawful, Url.decodeComponent_eq_self_iff, holdsEscape_secret,
    Bool.or_eq_false_iff]

/-- A password with every mark of a link, and with a percent sign that starts no escape. -/
theorem marked_password_is_kept :
    ':' ∉ "aes-128-gcm".toList ∧ NamedHost "s-1.example" ∧
    Url.holdsEscape (Bytes.ofText "aes-128-gcm") = false ∧
    Url.holdsEscape (Bytes.ofText "p@s:s/w?r#d 5%") = false ∧
    ShareLink.read "ss://YWVzLTEyOC1nY206cEBzOnMvdz9yI2QgNSVAcy0xLmV4YW1wbGU6ODM4OA" =
      .ok ⟨none, "ss", "s-1.example", 8388,
        [("cipher", .str "aes-128-gcm"), ("password", .str "p@s:s/w?r#d 5%"),
          ("udp", .bool true)]⟩ := by
  have no_colon : ':' ∉ "aes-128-gcm".toList := by decide
  have letters : "s-1.example".toList.all (fun d => Url.isWord d || d == '.' || d == '-') = true := by
    decide
  have named : NamedHost "s-1.example" := fun d member => by
    simpa [or_assoc] using List.all_eq_true.1 letters d member
  have no_escape : Url.holdsEscape (Bytes.ofText "aes-128-gcm") = false := by decide +kernel
  have no_escape' : Url.holdsEscape (Bytes.ofText "p@s:s/w?r#d 5%") = false := by decide +kernel
  have link : codedLink ⟨true, false⟩
      ⟨"", "s-1.example", 8388, "aes-128-gcm", "p@s:s/w?r#d 5%", none, none⟩ =
      "ss://YWVzLTEyOC1nY206cEBzOnMvdz9yI2QgNSVAcy0xLmV4YW1wbGU6ODM4OA" := by decide +kernel
  refine ⟨no_colon, named, no_escape, no_escape', ?_⟩
  rw [← link]
  exact (spellings_agree_iff no_colon named "p@s:s/w?r#d 5%" 8388 ⟨true, false⟩
    ⟨true, false⟩).2.2.2 ⟨no_escape, no_escape'⟩

/-- A password that looks like an escape is another one when the whole link is in Base64. -/
theorem escape_in_password_is_undone :
    let c : Content := ⟨"", "c", 80, "a", "%41", none, none⟩
    (ShareLink.read (codedUserLink ⟨false, true⟩ c)).toOption.bind (·.text? "password") =
      some "%41" ∧
    (ShareLink.read (codedLink ⟨false, true⟩ c)).toOption.bind (·.text? "password") =
      some "A" := by
  decide +kernel

end ProxyGateway.ShareLink.Shadowsocks
