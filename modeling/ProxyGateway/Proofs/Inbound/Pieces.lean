import ProxyGateway.Proofs.Inbound.Handshake
import ProxyGateway.Proofs.Inbound.Line
import ProxyGateway.Proofs.Inbound.Request
/-!
The pieces in which the bytes of a client come. Main statement: they change neither what the client
is told nor what becomes of it, and the line of a client that is let in yields every byte behind
the handshake.
-/
namespace ProxyGateway.Inbound

open Net (Exchange Address)
open Net.Exchange

def socksFlow (source : Net.SocketAddress) (a : Address) (port : UInt16) : Flow :=
  let f := { withSource source (Flow.new .tcp .socks5) with port }
  match a with
  | .domain host => { f with host }
  | .literal ip => { f with ip := some ip }

theorem acceptSocks_eq (users : List Credentials) (source : Net.SocketAddress) :
    acceptSocks users source = (do
      let (a, port) ← Socks.handshake users
      Exchange.write (Socks.reply Socks.succeeded)
      pure ⟨socksFlow source a port, []⟩) := by
  unfold acceptSocks socksFlow
  congr 1
  funext ⟨a, port⟩
  cases a <;> rfl

section goes

variable {users : List Credentials} {source : Net.SocketAddress} {data sent unread : Bytes}

theorem acceptSocks_goes_ok {a : Accepted} :
    Goes (acceptSocks users source) data ⟨.ok a, sent, unread⟩ ↔
      ∃ address port text, Socks.Handshake users address port text ∧ data = text ++ unread ∧
        sent = Socks.welcome users ++ Socks.reply Socks.succeeded ∧
        a = ⟨socksFlow source address port, []⟩ := by
  rw [acceptSocks_eq, goes_bind]
  constructor
  · rintro (⟨⟨address, port⟩, early, rest, late, first, second, rfl⟩ | ⟨_, failed, _⟩)
    · obtain ⟨rfl, text, said, rfl⟩ := Socks.goes_handshake_ok.1 first
      obtain ⟨nothing, rfl, done⟩ := goes_write_bind.1 second
      obtain ⟨same, rfl, rfl⟩ := goes_pure.1 done
      cases same
      exact ⟨address, port, text, said, rfl, by rw [List.append_nil], rfl⟩
    · cases failed
  · rintro ⟨address, port, text, said, rfl, rfl, rfl⟩
    refine .inl ⟨(address, port), _, unread, _, Socks.goes_handshake_ok.2 ⟨rfl, text, said, rfl⟩,
      goes_write_bind.2 ⟨[], (List.append_nil _).symm, .finish⟩, rfl⟩

theorem blockwise_acceptSocks (users : List Credentials) (source : Net.SocketAddress) :
    Blockwise (acceptSocks users source) := by
  rw [acceptSocks_eq]
  exact .bind (Socks.blockwise_handshake users) fun _ =>
    .bind (blockwise_write _) fun _ => .finish

/-- The first byte decides how a client is served. -/
theorem accept_goes {o : Ending Accepted} (go : Goes (accept users source) data o) :
    (data = [] ∧ o = ⟨.error noMore, [], []⟩) ∨
      (data.head? = some Socks.version ∧ Goes (acceptSocks users source) data o) ∨
      data ≠ [] ∧ data.head? ≠ some Socks.version ∧ Goes (acceptHttp users source) data o := by
  cases go with
  | silent => exact .inl ⟨rfl, rfl⟩
  | peek on =>
    rename_i b rest
    dsimp only at on
    split at on
    · rename_i socks
      exact .inr (.inl ⟨congrArg some socks, on⟩)
    · rename_i other
      exact .inr (.inr ⟨nofun, fun same => other (Option.some.inj same), on⟩)

theorem accept_goes_socks {o : Ending Accepted} (first : data.head? = some Socks.version)
    (on : Goes (acceptSocks users source) data o) : Goes (accept users source) data o := by
  cases data with
  | nil => cases first
  | cons b rest => exact .peek (by rwa [if_pos (Option.some.inj first)])

/-- Whatever the reads bring, a client is told the same and comes to the same. -/
theorem accept_same {o o' : Ending Accepted} (go : Goes (accept users source) data o)
    (go' : Goes (accept users source) data o') : content o = content o' ∧ o.sent = o'.sent := by
  cases go with
  | silent =>
    cases go' with
    | silent => exact ⟨rfl, rfl⟩
  | peek on =>
    rename_i b rest
    cases go' with
    | peek on' =>
      dsimp only at on on'
      by_cases socks : b = Socks.version
      · rw [if_pos socks] at on on'
        rw [(blockwise_acceptSocks users source).goes_unique on on']
        exact ⟨rfl, rfl⟩
      · rw [if_neg socks] at on on'
        have verdict := (acceptHttp_goes on).trans (acceptHttp_goes on').symm
        exact Prod.mk.inj verdict

end goes

/-- What is handed on of a client that said these bytes: its flow, and what its line yields. -/
inductive HandedOn (users : List Credentials) (source : Net.SocketAddress) :
    (data : Bytes) → Flow → (content : Bytes) → Prop where
  | socks {a : Address} {port : UInt16} {text rest : Bytes}
      (said : Socks.Handshake users a port text) :
      HandedOn users source (text ++ rest) (socksFlow source a port) rest
  | http {data : Bytes} {n : Nat} {r : ProxyRequest} (other : data.head? ≠ some Socks.version)
      (ends : Http.headEnd data = some n) (asked : ProxyRequest.ofHead users (data.take n) = .ok r) :
      HandedOn users source data (requestFlow source r) (r.forward.getD [] ++ data.drop n)

theorem httpVerdict_ok {users : List Credentials} {source : Net.SocketAddress}
    {data told content : Bytes} {f : Flow}
    (verdict : httpVerdict users source data = (.ok (f, content), told)) :
    ∃ n r, Http.headEnd data = some n ∧ n ≤ maxHead ∧
      ProxyRequest.ofHead users (data.take n) = .ok r ∧ f = requestFlow source r ∧
      content = r.forward.getD [] ++ data.drop n ∧
      told = if r.forward = none then established else [] := by
  unfold httpVerdict at verdict
  split at verdict
  · split at verdict <;> cases verdict
  · rename_i n here
    split at verdict
    · cases verdict
    · rename_i r asked
      obtain ⟨same, rfl⟩ := Prod.mk.inj verdict
      obtain ⟨rfl, rfl⟩ := Prod.mk.inj (Except.ok.inj same)
      have fits := (Http.headEnd_eq_some.1 here).1
      have found := Http.headEnd_append here (data.drop maxHead)
      rw [List.take_append_drop] at found
      rw [List.length_take] at fits
      exact ⟨n, r, found, by omega, asked, rfl, rfl, rfl⟩

theorem handedOn_of_accept {users : List Credentials} {source : Net.SocketAddress} {data : Bytes}
    {o : Ending Accepted} {f : Flow} {bytes : Bytes} (go : Goes (accept users source) data o)
    (ok : content o = .ok (f, bytes)) : HandedOn users source data f bytes := by
  obtain ⟨_, rfl⟩ | ⟨_, on⟩ | ⟨_, other, on⟩ := accept_goes go
  · cases ok
  · obtain ⟨r, sent, unread⟩ := o
    cases r with
    | error e => cases ok
    | ok a =>
      cases ok
      obtain ⟨address, port, text, said, rfl, _, rfl⟩ := acceptSocks_goes_ok.1 on
      exact .socks said
  · have verdict := acceptHttp_goes on
    rw [ok] at verdict
    obtain ⟨n, r, ends, _, asked, same_flow, same, _⟩ := httpVerdict_ok verdict.symm
    rw [same_flow, same]
    exact .http other ends asked

def Visit.outcome (v : Visit) : Except Error (Flow × Bytes) :=
  v.result.map fun c => (c.flow, c.line.unread)

/-- A visit is a run against all bytes of the client. -/
theorem visit_goes (users : List Credentials) (source : Net.SocketAddress) (socket : Stream) :
    ∃ o, Goes (accept users source) socket.flatten o ∧ (visit users source socket).reply = o.sent ∧
      (visit users source socket).outcome = content o := by
  refine ⟨_, Net.settle_goes (accept users source) (.ofSocket socket), rfl, ?_⟩
  unfold Visit.outcome visit content Settled.ending
  generalize (accept users source).settle (.ofSocket socket) = s
  obtain ⟨result, sent, left⟩ := s
  cases result with
  | error e => rfl
  | ok a =>
    simp only [Except.map, Accepted.handed]
    rw [Line.handOver_unread]

/-- The pieces in which the bytes of a client come change neither what it is told nor what becomes
of it, and no byte behind its handshake is lost, repeated or moved. -/
theorem visit_ignores_cuts (users : List Credentials) (source : Net.SocketAddress)
    (socket : Stream) :
    let cut := visit users source socket
    let whole := visit users source [socket.flatten]
    cut.reply = whole.reply ∧ cut.result.map (·.flow) = whole.result.map (·.flow) ∧
      ∀ c, cut.result = .ok c → ∃ content,
        HandedOn users source socket.flatten c.flow content ∧ c.line.Yields content := by
  intro cut whole
  obtain ⟨o, go, told, outcome⟩ := visit_goes users source socket
  obtain ⟨o', go', told', outcome'⟩ := visit_goes users source [socket.flatten]
  rw [List.flatten_singleton] at go'
  obtain ⟨same, same_told⟩ := accept_same go go'
  have flow_of (v : Visit) : v.result.map (·.flow) = v.outcome.map (·.1) := by
    unfold Visit.outcome
    cases v.result <;> rfl
  refine ⟨?_, ?_, ?_⟩
  · rw [told, told', same_told]
  · rw [flow_of, flow_of, outcome, outcome', same]
  · intro c accepted
    refine ⟨c.line.unread, handedOn_of_accept go ?_, c.line.yields_unread⟩
    rw [← outcome, Visit.outcome]
    exact congrArg (Except.map _) accepted

theorem visit_socks {users : List Credentials} (source : Net.SocketAddress) {socket : Stream}
    {a : Address} {port : UInt16} {text rest : Bytes} (said : Socks.Handshake users a port text)
    (split : socket.flatten = text ++ rest) :
    ∃ c, (visit users source socket).result = .ok c ∧ c.flow = socksFlow source a port ∧
      c.line.Yields rest ∧
      (visit users source socket).reply = Socks.welcome users ++ Socks.reply Socks.succeeded := by
  obtain ⟨o, go, told, outcome⟩ := visit_goes users source socket
  have served : Goes (acceptSocks users source) socket.flatten ⟨.ok ⟨socksFlow source a port, []⟩,
      Socks.welcome users ++ Socks.reply Socks.succeeded, rest⟩ :=
    acceptSocks_goes_ok.2 ⟨a, port, text, said, split, rfl, rfl⟩
  have first : socket.flatten.head? = some Socks.version := by
    cases said
    rw [split]
    rfl
  obtain ⟨same, same_told⟩ := accept_same go (accept_goes_socks first served)
  rw [← outcome, Visit.outcome] at same
  obtain ⟨c, result, handed⟩ := map_eq_ok.1 same
  obtain ⟨flow, unread⟩ : c.flow = _ ∧ c.line.unread = rest := Prod.mk.inj handed
  exact ⟨c, result, flow, unread ▸ c.line.yields_unread, told.trans same_told⟩

/-- What becomes of a client that is none of SOCKS, and what it is told. -/
theorem visit_verdict {users : List Credentials} (source : Net.SocketAddress) {socket : Stream}
    (filled : socket.flatten ≠ []) (other : socket.flatten.head? ≠ some Socks.version) :
    ((visit users source socket).outcome, (visit users source socket).reply) =
      httpVerdict users source socket.flatten := by
  obtain ⟨o, go, told, outcome⟩ := visit_goes users source socket
  obtain ⟨nothing, _⟩ | ⟨socks, _⟩ | ⟨_, _, on⟩ := accept_goes go
  · exact absurd nothing filled
  · exact absurd socks other
  · rw [told, outcome]
    exact acceptHttp_goes on

theorem httpVerdict_eq {users : List Credentials} (source : Net.SocketAddress) {data : Bytes}
    {n : Nat} (found : Http.headEnd data = some n) (fits : n ≤ maxHead) :
    httpVerdict users source data = match ProxyRequest.ofHead users (data.take n) with
      | .error e => (.error e, refusal e)
      | .ok r => (.ok (requestFlow source r, r.forward.getD [] ++ data.drop n),
          if r.forward = none then established else []) := by
  have here : Http.headEnd (data.take maxHead) = some n := by
    have long := (Http.headEnd_eq_some.1 found).1
    refine Http.headEnd_congr found ?_ (by rw [List.length_take]; omega)
    rw [List.take_take, Nat.min_eq_left fits]
  unfold httpVerdict
  cases asked : ProxyRequest.ofHead users (data.take n) with
  | error e => simp only [here, asked]
  | ok r => simp only [here, asked]

theorem visit_http {users : List Credentials} (source : Net.SocketAddress) {socket : Stream}
    {n : Nat} {r : ProxyRequest} (found : Http.headEnd socket.flatten = some n)
    (fits : n ≤ maxHead) (asked : ProxyRequest.ofHead users (socket.flatten.take n) = .ok r) :
    ∃ c, (visit users source socket).result = .ok c ∧ c.flow = requestFlow source r ∧
      c.line.Yields (r.forward.getD [] ++ socket.flatten.drop n) ∧
      (visit users source socket).reply = if r.forward = none then established else [] := by
  obtain ⟨filled, other⟩ : socket.flatten ≠ [] ∧ socket.flatten.head? ≠ some Socks.version := by
    obtain ⟨head, rest, read, _⟩ := ofHead_eq_ok.1 asked
    obtain ⟨nonempty, other⟩ := first_of_takeRequest read
    refine ⟨fun nothing => nonempty (by rw [nothing, List.take_nil]), ?_⟩
    rwa [List.head?_take, if_neg (fun zero => nonempty (by rw [zero, List.take_zero]))] at other
  have verdict : (_, (visit users source socket).reply) = _ := visit_verdict source filled other
  rw [httpVerdict_eq source found fits, asked] at verdict
  obtain ⟨ok, told⟩ := Prod.mk.inj verdict
  obtain ⟨c, result, same⟩ := map_eq_ok.1 ok
  obtain ⟨flow, unread⟩ := Prod.mk.inj same
  exact ⟨c, result, flow, unread ▸ c.line.yields_unread, told⟩

end ProxyGateway.Inbound
