import ProxyGateway.Proofs.Http.Written
import ProxyGateway.Proofs.Inbound.Pieces
import ProxyGateway.Proofs.Net.HostPort
import ProxyGateway.Proofs.Text.Base64
/-!
Who is let in where there are users. Main statements: nobody gets a connection or a word of success
who has not given the name and the password of a user, in either protocol, and a user who asks for
a connection as either protocol has it is let in, unless the request has more header lines than are
read.
-/
namespace ProxyGateway.Inbound

open Http (HeadText Header RequestHead Strict)
open Net (Address)
open Net.Exchange

/-- The value of an authorization that carries a name and a password; the name holds no colon. -/
inductive Carries (u p : String) : Bytes → Prop where
  | basic {text scheme : String} {code : List Char} (known : scheme = "Basic " ∨ scheme = "basic ")
      (split : Text.trimChars text.toList = scheme.toList ++ code)
      (coded : Text.trimChars code =
        Text.Base64.encode Text.Base64.standard true (Bytes.ofText (u ++ ":" ++ p)))
      (plain : ':' ∉ u.toList) : Carries u p (Bytes.ofText text)

def FirstCarries (u p : String) (headers : List Header) : Prop :=
  ∃ h, headers.find? (·.key == authorizationKey) = some h ∧ Carries u p h.value

/-- What a client has said gives the name and the password of a user: behind an offer of the method
for that, or in the head of a request. -/
inductive Authenticated (users : List Credentials) : Bytes → Prop where
  | socks {methods : Bytes} (v : UInt8) (rest : Bytes) {u p : String} (fits : methods.length < 256)
      (offered : Socks.byPassword ∈ methods) (user_fits : (Bytes.ofText u).length < 256)
      (password_fits : (Bytes.ofText p).length < 256) (known : ⟨u, p⟩ ∈ users) :
      Authenticated users (Socks.version :: (lengthed methods ++
        (v :: (lengthed (Bytes.ofText u) ++ lengthed (Bytes.ofText p)) ++ rest)))
  | http {lines text rest : Bytes} {head : RequestHead} {u p : String}
      (empty : Http.EmptyLines Http.Lax lines) (whole : HeadText Http.Lax head text)
      (named : FirstCarries u p head.headers) (known : ⟨u, p⟩ ∈ users) :
      Authenticated users (lines ++ (text ++ rest))

def Granted (told : Bytes) : Prop :=
  Socks.reply Socks.succeeded <:+: told ∨ Bytes.ofText "HTTP/1.1 200" <:+: told

instance (told : Bytes) : Decidable (Granted told) := inferInstanceAs (Decidable (_ ∨ _))

/-- A client is let in: it is told of success, and becomes a flow and a line. -/
def Visit.LetIn (v : Visit) (f : Flow) (content : Bytes) : Prop :=
  Granted v.reply ∧ ∃ c, v.result = .ok c ∧ c.flow = f ∧ c.line.Yields content

inductive Socks.Asks (u p : String) (a : Address) (port : UInt16) : Bytes → Prop where
  | connect {methods place : Bytes} (v reserved : UInt8) (fits : methods.length < 256)
      (offered : byPassword ∈ methods) (user_fits : (Bytes.ofText u).length < 256)
      (password_fits : (Bytes.ofText p).length < 256) (placed : a.encode port = .ok place) :
      Socks.Asks u p a port (version :: (lengthed methods ++
        (v :: (lengthed (Bytes.ofText u) ++ lengthed (Bytes.ofText p)) ++
          version :: 1 :: reserved :: place)))

inductive Authority (host : String) (port : UInt16) : String → Prop where
  | plain {ds : List Char} (bare : Net.Plain host.toList)
      (digits : Text.digits 10 ds = some port.toNat) :
      Authority host port (String.ofList (host.toList ++ ':' :: ds))
  | bracketed {ds : List Char} (closed : ']' ∉ host.toList)
      (digits : Text.digits 10 ds = some port.toNat) :
      Authority host port (String.ofList ('[' :: (host.toList ++ ']' :: ':' :: ds)))

structure AsksTunnel (u p host : String) (port : UInt16) (head : RequestHead) : Prop where
  method : head.method = Bytes.ofText "CONNECT"
  target : Authority host port head.target
  named : FirstCarries u p head.headers

theorem stripBasic_eq_some {s code : List Char} :
    (Text.stripStart "Basic ".toList s).or (Text.stripStart "basic ".toList s) = some code ↔
      ∃ scheme : String, (scheme = "Basic " ∨ scheme = "basic ") ∧ s = scheme.toList ++ code := by
  rw [Option.or_eq_some_iff, Text.stripStart_eq_some, Text.stripStart_eq_some]
  constructor
  · rintro (start | ⟨_, start⟩)
    · exact ⟨"Basic ", .inl rfl, start⟩
    · exact ⟨"basic ", .inr rfl, start⟩
  · rintro ⟨scheme, rfl | rfl, start⟩
    · exact .inl start
    · refine .inr ⟨?_, start⟩
      rw [start]
      rfl

theorem credentialsOf?_eq_some {value u p : String} :
    credentialsOf? value = some (u, p) ↔ Carries u p (Bytes.ofText value) := by
  simp only [credentialsOf?, Option.bind_eq_bind, Option.bind_eq_some_iff, Prod.exists,
    stripBasic_eq_some, Text.Base64.decode_eq_some Text.Base64.Alphabet.lawful_standard,
    Text.Utf8.decode_eq_some, Text.cutFirst_eq_some]
  constructor
  · rintro ⟨code, ⟨scheme, known, split⟩, _, coded, text, rfl, user, password, ⟨halves, plain⟩, same⟩
    cases same
    have whole : text = String.ofList user ++ ":" ++ String.ofList password := by
      rw [← String.toList_inj, halves]
      simp
    rw [whole] at coded
    exact .basic known split coded (by rwa [String.toList_ofList])
  · intro carries
    generalize written : Bytes.ofText value = bytes at carries
    cases carries with
    | basic known split coded plain =>
      obtain rfl := Text.Utf8.ofText_inj written
      refine ⟨_, ⟨_, known, split⟩, _, coded, _, rfl, u.toList, p.toList, ⟨?_, plain⟩, ?_⟩
      · simp
      · rw [String.ofList_toList, String.ofList_toList]

theorem authorized_iff {users : List Credentials} {headers : List Header} :
    authorized users headers = true ↔ ∃ u p, FirstCarries u p headers ∧ ⟨u, p⟩ ∈ users := by
  unfold authorized FirstCarries
  constructor
  · intro admitted
    split at admitted
    · cases admitted
    · rename_i h first
      split at admitted
      · rename_i u p read
        obtain ⟨text, decoded, carried⟩ := Option.bind_eq_some_iff.1 read
        rw [Text.Utf8.decode_eq_some] at decoded
        refine ⟨u, p, ⟨h, first, ?_⟩, Socks.admit_iff.1 admitted⟩
        rw [decoded]
        exact credentialsOf?_eq_some.1 carried
      · cases admitted
  · rintro ⟨u, p, ⟨h, first, carries⟩, known⟩
    obtain ⟨text, decoded⟩ : ∃ text, h.value = Bytes.ofText text := by
      generalize h.value = value at carries
      cases carries
      exact ⟨_, rfl⟩
    rw [decoded] at carries
    rw [first]
    dsimp only
    rw [decoded, Text.Utf8.decode_ofText, Option.bind_some, credentialsOf?_eq_some.2 carries]
    exact Socks.admit_iff.2 known

/-- Where a handshake fails, and where a request is refused, nobody has been told of success. -/
theorem not_granted_refusals {users : List Credentials} (some : users ≠ []) :
    ∀ told ∈ Socks.refusals users, ¬ Granted told := by
  rw [Socks.refusals, Socks.welcome, if_neg some]
  decide

/-- Of the answers to a request one alone tells of success. -/
theorem granted_answers :
    Granted established ∧ ¬ Granted authenticationRequired ∧ ¬ Granted badRequest := by
  decide +kernel

theorem not_granted_refusal (e : Error) : ¬ Granted (refusal e) := by
  obtain ⟨_, unknown, bad⟩ := granted_answers
  cases e with
  | auth text => exact unknown
  | _ => exact bad

section soundness

variable {users : List Credentials} {source : Net.SocketAddress} {data : Bytes}

theorem authenticated_of_socks (some : users ≠ []) {o : Ending Accepted}
    (go : Goes (acceptSocks users source) data o)
    (done : Granted o.sent ∨ ∃ a, o.result = .ok a) : Authenticated users data := by
  obtain ⟨result, sent, unread⟩ := o
  cases result with
  | ok a =>
    obtain ⟨address, port, text, said, rfl, _, _⟩ := acceptSocks_goes_ok.1 go
    cases said with
    | said reserved fits offered named placed =>
      rw [Socks.wanted, if_neg some] at offered
      cases named with
      | none nobody => exact absurd nobody some
      | pair v filled known user_fits password_fits =>
        rename_i methods place u p
        have read : Authenticated users _ :=
          .socks v (Socks.version :: 1 :: reserved :: (place ++ unread)) fits offered user_fits
            password_fits known
        simpa only [List.append_assoc, List.cons_append] using read
  | error e =>
    have told : sent ∈ Socks.refusals users := by
      rw [acceptSocks_eq, goes_bind] at go
      obtain ⟨_, _, _, _, _, second, _⟩ | ⟨e, _, stop⟩ := go
      · obtain ⟨_, _, finished⟩ := goes_write_bind.1 second
        obtain ⟨failed, _, _⟩ := goes_pure.1 finished
        cases failed
      · exact Socks.goes_handshake_error stop
    obtain granted | ⟨a, failed⟩ := done
    · exact absurd granted (not_granted_refusals some sent told)
    · cases failed

theorem authenticated_of_granted (some : users ≠ []) {n : Nat} {r : ProxyRequest}
    (asked : ProxyRequest.ofHead users (data.take n) = .ok r) : Authenticated users data := by
  obtain ⟨head, rest, read, named, _⟩ := ofHead_eq_ok.1 asked
  have more := Http.takeRequest_append read (data.drop n)
  rw [List.take_append_drop] at more
  obtain ⟨_, lines, text, empty, whole, split⟩ := Http.takeRequest_eq_ok.1 more
  obtain ⟨u, p, first, known⟩ := authorized_iff.1 (named some)
  rw [split]
  exact .http empty whole first known

theorem not_granted_of_httpVerdict {e : Error} {told : Bytes}
    (verdict : httpVerdict users source data = (.error e, told)) : ¬ Granted told := by
  unfold httpVerdict at verdict
  split at verdict
  · split at verdict
    · obtain ⟨_, rfl⟩ := Prod.mk.inj verdict
      exact granted_answers.2.2
    · obtain ⟨_, rfl⟩ := Prod.mk.inj verdict
      decide
  · split at verdict
    · obtain ⟨_, rfl⟩ := Prod.mk.inj verdict
      exact not_granted_refusal _
    · cases verdict

theorem authenticated_of_http (some : users ≠ []) {o : Ending Accepted}
    (go : Goes (acceptHttp users source) data o)
    (done : Granted o.sent ∨ ∃ a, o.result = .ok a) : Authenticated users data := by
  have verdict := (acceptHttp_goes go).symm
  obtain ⟨result, sent, unread⟩ := o
  cases result with
  | ok a =>
    obtain ⟨n, r, _, _, asked, _⟩ := httpVerdict_ok verdict
    exact authenticated_of_granted some asked
  | error e =>
    obtain granted | ⟨a, failed⟩ := done
    · exact absurd granted (not_granted_of_httpVerdict verdict)
    · cases failed

end soundness

theorem splitHostPort_authority {host target : String} {port : UInt16}
    (place : Authority host port target) : Net.splitHostPort target = .ok ⟨host, some port⟩ := by
  cases place with
  | plain bare digits =>
    rw [Net.splitHostPort_plain bare digits, String.ofList_toList]
  | bracketed closed digits =>
    rw [Net.splitHostPort_bracketed closed digits, String.ofList_toList]

theorem ofHead_tunnel {users : List Credentials} {u p host : String} {port : UInt16}
    {head : RequestHead} {text : Bytes} (known : ⟨u, p⟩ ∈ users)
    (whole : HeadText Strict head text) (asks : AsksTunnel u p host port head)
    (few : head.headers.length ≤ maxHeaders) :
    ProxyRequest.ofHead users text = .ok ⟨host, port, none⟩ := by
  have read := Http.takeRequest_strict whole few []
  rw [List.append_nil] at read
  refine ofHead_eq_ok.2 ⟨head, [], read, fun _ => authorized_iff.2 ⟨u, p, asks.named, known⟩, ?_⟩
  have connect : isConnect (Bytes.ofText "CONNECT") = true := by decide
  rw [asks.method, if_pos connect]
  unfold tunnel
  rw [splitHostPort_authority asks.target]
  rfl

/-- Where there are users, a client that gets a connection or a word of success has given the name
and the password of one. A user who gives them and asks as the protocol has it is let in, as long as
the head of a request has no more lines than are read and ends within its limit. -/
theorem access_by_credentials {users : List Credentials} (some : users ≠ [])
    (source : Net.SocketAddress) (socket : Stream) :
    (Granted (visit users source socket).reply ∨ (∃ c, (visit users source socket).result = .ok c) →
      Authenticated users socket.flatten) ∧
    ∀ u p, ⟨u, p⟩ ∈ users →
      (∀ a port text rest, Socks.Asks u p a port text → socket.flatten = text ++ rest →
        (visit users source socket).LetIn (socksFlow source a port) rest) ∧
      (∀ host port head text rest, HeadText Strict head text → AsksTunnel u p host port head →
        head.headers.length ≤ maxHeaders → text.length ≤ maxHead →
        socket.flatten = text ++ rest →
        (visit users source socket).LetIn (requestFlow source ⟨host, port, none⟩) rest) := by
  refine ⟨?_, fun u p known => ⟨?_, ?_⟩⟩
  · intro done
    obtain ⟨o, go, told, outcome⟩ := visit_goes users source socket
    have ended : Granted o.sent ∨ ∃ a, o.result = .ok a := by
      rw [← told]
      refine done.imp_right ?_
      rintro ⟨c, accepted⟩
      have handed : content o = .ok (c.flow, c.line.unread) := by
        rw [← outcome, Visit.outcome, accepted]
        rfl
      obtain ⟨a, result, _⟩ := map_eq_ok.1 handed
      exact ⟨a, result⟩
    obtain ⟨_, rfl⟩ | ⟨_, on⟩ | ⟨_, _, on⟩ := accept_goes go
    · have silent : ¬ Granted [] := by decide
      obtain granted | ⟨_, failed⟩ := ended
      · exact absurd granted silent
      · cases failed
    · exact authenticated_of_socks some on ended
    · exact authenticated_of_http some on ended
  · intro a port text rest asks split
    have said : Socks.Handshake users a port text := by
      cases asks with
      | connect v reserved fits offered user_fits password_fits placed =>
        refine .said reserved fits ?_ (.pair v some known user_fits password_fits) placed
        rwa [Socks.wanted, if_neg some]
    obtain ⟨c, accepted, flow, yields, told⟩ := visit_socks source said split
    refine ⟨.inl ?_, c, accepted, flow, yields⟩
    rw [told]
    exact (List.suffix_append _ _).isInfix
  · intro host port head text rest whole asks few fits split
    have found : Http.headEnd socket.flatten = .some text.length := by
      rw [split]
      exact Http.headEnd_strict whole rest
    have start : socket.flatten.take text.length = text := by rw [split, List.take_left]
    have behind : socket.flatten.drop text.length = rest := by rw [split, List.drop_left]
    have asked : ProxyRequest.ofHead users (socket.flatten.take text.length) =
        .ok ⟨host, port, none⟩ := by
      rw [start]
      exact ofHead_tunnel known whole asks few
    obtain ⟨c, accepted, flow, yields, told⟩ := visit_http source found fits asked
    rw [behind] at yields
    refine ⟨?_, c, accepted, flow, yields⟩
    rw [told]
    exact granted_answers.1

section runs

/-- Where a client comes from, who is let in, and how a request names that user. -/
def client : Net.SocketAddress := ⟨.v4 .loopback, 50000⟩

def onlyUser : List Credentials := [⟨"u", "p"⟩]

def byUser : Header := ⟨authorizationKey, Bytes.ofText "Basic dTpw"⟩

def tunnelHead (others : List Header) : RequestHead :=
  ⟨Bytes.ofText "CONNECT", "a:443", byUser :: others⟩

def tunnelText (others : List Header) : Bytes :=
  Bytes.ofText "CONNECT a:443 HTTP/1.1" ++
    (Http.crlf ++ ((byUser :: others).flatMap Http.written ++ Http.crlf))

theorem asksTunnel_tunnelHead (others : List Header) :
    AsksTunnel "u" "p" "a" 443 (tunnelHead others) where
  method := rfl
  target := by
    have bare : Net.Plain "a".toList := by
      intro c member
      obtain rfl := List.mem_singleton.1 member
      decide
    have digits : Text.digits 10 "443".toList = some (443 : UInt16).toNat := by decide
    exact .plain bare digits
  named := by
    have split : Text.trimChars "Basic dTpw".toList = "Basic ".toList ++ "dTpw".toList := by
      decide
    have carries : Carries "u" "p" (Bytes.ofText "Basic dTpw") :=
      .basic (.inl rfl) split (by decide) (by decide)
    refine ⟨byUser, ?_, carries⟩
    exact List.find?_cons_of_pos (by decide)

theorem headText_tunnelText {others : List Header} (fine : ∀ h ∈ others, h.WellFormed) :
    HeadText Strict (tunnelHead others) (tunnelText others) := by
  have all_fine : ∀ h ∈ byUser :: others, h.WellFormed := by
    intro h member
    obtain rfl | among := List.mem_cons.1 member
    · decide
    · exact fine h among
  have named : Http.IsWord Http.isToken (Bytes.ofText "CONNECT") := by decide
  have aimed : Http.IsWord Http.isTarget (Bytes.ofText "a:443") := by decide
  have first : Bytes.ofText "CONNECT a:443 HTTP/1.1" = Bytes.ofText "CONNECT" ++
      Http.space :: (Bytes.ofText "a:443" ++ Http.space :: (Http.versionStart ++ [49])) := by
    decide
  unfold tunnelText
  rw [first]
  exact .text (.line named aimed (.inr rfl)) rfl (Http.headerLines_written all_fine)

def socksText : Bytes :=
  [5, 1, 2, 1, 1, 117, 1, 112, 5, 1, 0, 3, 1, 97, 1, 187]

theorem user_is_let_in :
    (visit onlyUser client [socksText.take 3, socksText.drop 3 ++ Bytes.ofText "hi"]).LetIn
        (socksFlow client (.domain "a") 443) (Bytes.ofText "hi") ∧
      (visit onlyUser client [tunnelText [] ++ Bytes.ofText "hi"]).LetIn
        (requestFlow client ⟨"a", 443, none⟩) (Bytes.ofText "hi") := by
  have some : onlyUser ≠ [] := nofun
  have known : (⟨"u", "p"⟩ : Credentials) ∈ onlyUser := List.mem_cons_self
  constructor
  · have offered : Socks.byPassword ∈ [Socks.byPassword] := List.mem_cons_self
    have asks : Socks.Asks "u" "p" (.domain "a") 443 socksText :=
      .connect 1 0 (by decide) offered (by decide) (by decide) (by rfl)
    exact ((access_by_credentials some client _).2 "u" "p" known).1 _ _ _ _ asks (by decide)
  · exact ((access_by_credentials some client _).2 "u" "p" known).2 "a" 443 (tunnelHead []) _ _
      (headText_tunnelText nofun) (asksTunnel_tunnelHead []) (by decide) (by decide)
      List.flatten_singleton

def crowd : List Header := List.replicate 64 ⟨Bytes.ofText "X", Bytes.ofText "y"⟩

theorem crowded_tunnel_is_refused :
    HeadText Strict (tunnelHead crowd) (tunnelText crowd) ∧
      AsksTunnel "u" "p" "a" 443 (tunnelHead crowd) ∧ (tunnelText crowd).length ≤ maxHead ∧
      (visit onlyUser client [tunnelText crowd]).outcome =
        .error (.protocol "Invalid HTTP request: too many headers") ∧
      ¬ Granted (visit onlyUser client [tunnelText crowd]).reply := by
  have fine : ∀ h ∈ crowd, h.WellFormed := by
    intro h member
    obtain rfl := List.eq_of_mem_replicate member
    decide
  have whole := headText_tunnelText fine
  have found := Http.headEnd_strict whole []
  have fits : (tunnelText crowd).length ≤ maxHead := by decide +kernel
  have refused : ProxyRequest.ofHead onlyUser (tunnelText crowd) =
      .error (.protocol "Invalid HTTP request: too many headers") := by decide +kernel
  have flat : [tunnelText crowd].flatten = tunnelText crowd := List.flatten_singleton
  have verdict : ((visit onlyUser client [tunnelText crowd]).outcome,
      (visit onlyUser client [tunnelText crowd]).reply) = _ :=
    visit_verdict client (by rw [flat]; nofun) (by rw [flat]; nofun)
  rw [List.append_nil] at found
  rw [flat, httpVerdict_eq client found fits, List.take_length, refused] at verdict
  obtain ⟨outcome, told⟩ := Prod.mk.inj verdict
  refine ⟨whole, asksTunnel_tunnelHead crowd, fits, outcome, ?_⟩
  rw [told]
  exact not_granted_refusal _

end runs

end ProxyGateway.Inbound
