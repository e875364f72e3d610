import ProxyGateway.Inbound.Mixed
import ProxyGateway.Proofs.Http.Boundary
import ProxyGateway.Proofs.Net.Exchange

namespace ProxyGateway.Inbound

open Net (Exchange)
open Net.Exchange (Ending Goes goes_bind goes_fail goes_pure goes_write_bind)

/-- What an accepted client amounts to: the flow, and all bytes that its stream will yield. -/
def Accepted.handed (unread : Bytes) (a : Accepted) : Flow × Bytes := (a.flow, a.replay ++ unread)

def content (o : Ending Accepted) : Except Error (Flow × Bytes) := o.result.map (·.handed o.unread)

def tooLarge : Error := .protocol "HTTP header too large"

def noMore : Error := .protocol "Unexpected EOF"

/-- How the search for a head ends, by all bytes of a client and the number of them that count. -/
inductive HeadSearch (limit : Nat) (whole : Bytes) : Ending (Bytes × Bytes) → Prop where
  | found {n : Nat} {body unread : Bytes} (here : Http.headEnd (whole.take limit) = some n)
      (behind : body ++ unread = whole.drop n) :
      HeadSearch limit whole ⟨.ok (whole.take n, body), [], unread⟩
  | long {unread : Bytes} (nowhere : Http.headEnd (whole.take limit) = none)
      (full : limit ≤ whole.length) : HeadSearch limit whole ⟨.error tooLarge, badRequest, unread⟩
  | short {unread : Bytes} (nowhere : Http.headEnd (whole.take limit) = none)
      (ended : whole.length < limit) : HeadSearch limit whole ⟨.error noMore, [], unread⟩

theorem receiveHead_goes {room : Nat} {got data : Bytes} {o : Ending (Bytes × Bytes)}
    (go : Goes (receiveHead room got) data o) :
    HeadSearch (got.length + room) (got ++ data) o := by
  fun_induction receiveHead room got generalizing data o with
  | case1 room got n found =>
    obtain ⟨r, sent, unread⟩ := o
    obtain ⟨rfl, rfl, rfl⟩ := goes_pure.1 go
    have fits := (Http.headEnd_eq_some.1 found).1
    have start : got.take n = (got ++ unread).take n := (List.take_append_of_le_length fits).symm
    rw [start]
    refine .found ?_ (List.drop_append_of_le_length fits).symm
    rw [List.take_length_add_append]
    exact Http.headEnd_append found _
  | case2 got nowhere =>
    obtain ⟨r, sent, unread⟩ := o
    obtain ⟨late, rfl, stop⟩ := goes_write_bind.1 go
    obtain ⟨rfl, rfl, rfl⟩ := goes_fail.1 stop
    rw [List.append_nil]
    refine .long ?_ (by rw [List.length_append]; omega)
    rw [Nat.add_zero, List.take_left]
    exact nowhere
  | case3 got nowhere room ih =>
    cases go with
    | receiveSome some fits on =>
      rename_i part rest
      have more := ih part on
      have same : (got ++ part).length + (room - (part.length - 1)) = got.length + (room + 1) := by
        have filled := List.length_pos_iff.2 some
        rw [List.length_append]
        omega
      rwa [same, List.append_assoc] at more
    | ended nothing =>
      obtain rfl | zero := nothing
      · rw [List.append_nil]
        refine .short ?_ (by omega)
        rw [List.take_of_length_le (by omega)]
        exact nowhere
      · cases zero

def requestFlow (source : Net.SocketAddress) (r : ProxyRequest) : Flow :=
  let kind := if r.forward = none then FlowKind.connect else FlowKind.http
  { withSource source (Flow.new .tcp kind) with port := r.port }.withDestination r.host

def httpVerdict (users : List Credentials) (source : Net.SocketAddress) (data : Bytes) :
    Except Error (Flow × Bytes) × Bytes :=
  match Http.headEnd (data.take maxHead) with
  | none =>
    if maxHead ≤ data.length then (.error tooLarge, badRequest) else (.error noMore, [])
  | some n =>
    match ProxyRequest.ofHead users (data.take n) with
    | .error e => (.error e, refusal e)
    | .ok r =>
      (.ok (requestFlow source r, r.forward.getD [] ++ data.drop n),
        if r.forward = none then established else [])

theorem acceptHttp_goes {users : List Credentials} {source : Net.SocketAddress} {data : Bytes}
    {o : Ending Accepted} (go : Goes (acceptHttp users source) data o) :
    (content o, o.sent) = httpVerdict users source data := by
  obtain ⟨r, sent, unread⟩ := o
  obtain ⟨⟨head, body⟩, early, rest, late, first, second, rfl⟩ | ⟨e, rfl, stop⟩ := goes_bind.1 go
  · have search := receiveHead_goes first
    rw [List.nil_append, List.length_nil, Nat.zero_add] at search
    cases search with
    | found here behind =>
      rename_i n
      unfold httpVerdict
      rw [here]
      dsimp only at second ⊢
      cases asked : ProxyRequest.ofHead users (data.take n) with
      | error e =>
        rw [asked] at second
        obtain ⟨answer, rfl, stop⟩ := goes_write_bind.1 second
        obtain ⟨rfl, rfl, rfl⟩ := goes_fail.1 stop
        rw [List.nil_append, List.append_nil]
        rfl
      | ok r =>
        rw [asked] at second
        dsimp only at second ⊢
        cases form : r.forward with
        | none =>
          rw [form] at second
          obtain ⟨answer, rfl, done⟩ := goes_write_bind.1 second
          obtain ⟨rfl, rfl, rfl⟩ := goes_pure.1 done
          simp [content, Except.map, Accepted.handed, requestFlow, form, behind]
        | some forward =>
          rw [form] at second
          obtain ⟨rfl, rfl, rfl⟩ := goes_pure.1 second
          simp [content, Except.map, Accepted.handed, requestFlow, form, ← behind]
  · have search := receiveHead_goes stop
    rw [List.nil_append, List.length_nil, Nat.zero_add] at search
    unfold httpVerdict
    cases search with
    | long nowhere full =>
      rw [nowhere]
      dsimp only
      rw [if_pos full]
      rfl
    | short nowhere ended =>
      rw [nowhere]
      dsimp only
      rw [if_neg (by omega)]
      rfl

/-- A request is granted when its head can be read, names a user where there are users, and asks
for something that can be granted. -/
theorem ofHead_eq_ok {users : List Credentials} {bytes : Bytes} {r : ProxyRequest} :
    ProxyRequest.ofHead users bytes = .ok r ↔ ∃ head rest,
      Http.takeRequest maxHeaders bytes = .ok (head, rest) ∧
      (users ≠ [] → authorized users head.headers = true) ∧
      (if isConnect head.method then tunnel head.target else absolute head) = .ok r := by
  unfold ProxyRequest.ofHead
  constructor
  · intro granted
    cases whole : Http.takeRequest maxHeaders bytes with
    | error stop =>
      rw [whole] at granted
      cases stop <;> cases granted
    | ok pair =>
      obtain ⟨head, rest⟩ := pair
      rw [whole] at granted
      change (if users ≠ [] ∧ (!authorized users head.headers) = true then _ else _) = _ at granted
      split at granted
      · cases granted
      · rename_i admitted
        refine ⟨head, rest, rfl, ?_, granted⟩
        intro some
        rw [not_and, Bool.not_eq_true', Bool.not_eq_false] at admitted
        exact admitted some
  · rintro ⟨head, rest, whole, named, asked⟩
    have admitted : ¬ (users ≠ [] ∧ (!authorized users head.headers) = true) := by
      rintro ⟨some, unknown⟩
      rw [named some] at unknown
      cases unknown
    rw [whole]
    change (if users ≠ [] ∧ (!authorized users head.headers) = true then _ else _) = _
    rw [if_neg admitted]
    exact asked

/-- Where there are users, a request that names none of them is refused for that. -/
theorem ofHead_unknown {users : List Credentials} {bytes rest : Bytes} {head : Http.RequestHead}
    (read : Http.takeRequest maxHeaders bytes = .ok (head, rest)) (some : users ≠ [])
    (unknown : authorized users head.headers = false) :
    ProxyRequest.ofHead users bytes = .error (.auth "Proxy authentication required") := by
  have refused : users ≠ [] ∧ (!authorized users head.headers) = true := ⟨some, by rw [unknown]; rfl⟩
  unfold ProxyRequest.ofHead
  rw [read]
  change (if users ≠ [] ∧ (!authorized users head.headers) = true then _ else _) = _
  rw [if_pos refused]
  rfl

/-- No head starts as a SOCKS client does. -/
theorem first_of_takeRequest {room : Nat} {bytes rest : Bytes} {head : Http.RequestHead}
    (read : Http.takeRequest room bytes = .ok (head, rest)) :
    bytes ≠ [] ∧ bytes.head? ≠ some Socks.version := by
  obtain ⟨_, lines, text, empty, whole, rfl⟩ := Http.takeRequest_eq_ok.1 read
  cases empty with
  | nil =>
    cases whole with
    | text first =>
      obtain ⟨b, tail, start, token⟩ := first.head
      rw [start]
      refine ⟨nofun, fun same => ?_⟩
      obtain rfl := Option.some.inj same
      revert token
      decide
  | cons ends =>
    obtain rfl | rfl := ends
    · exact ⟨nofun, fun same => absurd (Option.some.inj same) (by decide)⟩
    · exact ⟨nofun, fun same => absurd (Option.some.inj same) (by decide)⟩

end ProxyGateway.Inbound
