import ProxyGateway.Proofs.Http.Written
import ProxyGateway.Proofs.Inbound.Pieces
/-!
Two readers of one head: the search for its mark, which also says where the body begins, and the
reader of its lines, which stops at the first empty one. Main statement: they agree exactly where
what the second reads ends in the mark. A head whose last lines end in a bare line feed is read
further than it goes, and what follows it is lost.
-/
namespace ProxyGateway.Inbound

open Net.Exchange (Stream)

/-- What the reader of the lines leaves of a granted head is the start of the body. -/
theorem size_of_granted {users : List Credentials} {data : Bytes} {n : Nat} {r : ProxyRequest}
    (found : Http.headEnd data = some n)
    (granted : ProxyRequest.ofHead users (data.take n) = .ok r) :
    ∃ head size, Http.takeRequest maxHeaders (data.take n) = .ok (head, (data.take n).drop size) ∧
      size ≤ n ∧ Http.takeRequest maxHeaders data = .ok (head, data.drop size) := by
  obtain ⟨head, left, read, _⟩ := ofHead_eq_ok.1 granted
  have size : (data.take n).length = n := by
    rw [List.length_take, Nat.min_eq_left (Http.headEnd_eq_some.1 found).1]
  have left_eq : left = (data.take n).drop (n - left.length) := by
    have behind := List.suffix_iff_eq_drop.1 (Http.suffix_of_takeRequest read)
    rwa [size] at behind
  have behind : left ++ data.drop n = data.drop (n - left.length) := by
    calc left ++ data.drop n
        = (data.take n).drop (n - left.length) ++ data.drop n := by rw [← left_eq]
      _ = (data.take n ++ data.drop n).drop (n - left.length) :=
        (List.drop_append_of_le_length (by omega)).symm
      _ = data.drop (n - left.length) := by rw [List.take_append_drop]
  refine ⟨head, n - left.length, ?_, Nat.sub_le .., ?_⟩
  · rw [← left_eq]
    exact read
  · have whole := Http.takeRequest_append read (data.drop n)
    rwa [List.take_append_drop, behind] at whole

/-- The body of a client begins where its head was read to an end exactly when the head ends in
the mark, and it does where every line ends in CRLF. -/
theorem body_follows_head_iff {users : List Credentials} (source : Net.SocketAddress)
    {socket : Stream} {n : Nat} {r : ProxyRequest}
    (found : Http.headEnd socket.flatten = some n)
    (granted : ProxyRequest.ofHead users (socket.flatten.take n) = .ok r) :
    ∃ head size,
      Http.takeRequest maxHeaders (socket.flatten.take n) =
        .ok (head, (socket.flatten.take n).drop size) ∧
      size ≤ n ∧ (size = n ↔ Http.headMark <:+ socket.flatten.take size) ∧
      (∀ lines text rest, Http.EmptyLines Http.Lax lines → Http.HeadText Http.Strict head text →
        socket.flatten = lines ++ (text ++ rest) → size = n) ∧
      (n ≤ maxHead → ∃ c, (visit users source socket).result = .ok c ∧
        (c.line.Yields (r.forward.getD [] ++ socket.flatten.drop size) ↔ size = n)) := by
  obtain ⟨head, size, read, before, read_all⟩ := size_of_granted found granted
  obtain ⟨fits, mark, least⟩ := Http.headEnd_eq_some.1 found
  have meets : size = n ↔ Http.headMark <:+ socket.flatten.take size := by
    constructor
    · rintro rfl
      exact mark
    · intro ends
      by_contra differ
      exact least size (Nat.lt_of_le_of_ne before differ) ends
  refine ⟨head, size, read, before, meets, ?_, ?_⟩
  · intro lines text rest empty whole split
    have few := (Http.takeRequest_eq_ok.1 read).1
    have again : Http.takeRequest maxHeaders socket.flatten = .ok (head, rest) :=
      Http.takeRequest_eq_ok.2 ⟨few, lines, text, empty, whole.weaken fun _ => .inl, split⟩
    have same : socket.flatten.drop size = rest :=
      (Prod.mk.inj (Except.ok.inj (read_all.symm.trans again))).2
    have start : socket.flatten.take size = lines ++ text := by
      rw [← List.append_assoc, ← same] at split
      have cut := List.take_append_drop size socket.flatten
      exact List.append_cancel_right (cut.trans split)
    obtain ⟨_, ends, _⟩ := Http.headEnd_eq_some.1 (Http.headEnd_strict whole [])
    rw [List.append_nil, List.take_length] at ends
    rw [meets, start]
    exact ends.trans (List.suffix_append lines text)
  · intro small
    obtain ⟨c, accepted, _, yields, _⟩ := visit_http source found small granted
    refine ⟨c, accepted, ?_, ?_⟩
    · intro other
      have same := List.append_cancel_left (other.unique yields)
      have lengths := congrArg List.length same
      rw [List.length_drop, List.length_drop] at lengths
      omega
    · rintro rfl
      exact yields

def plainRequest : Bytes := Bytes.ofText "CONNECT a:443 HTTP/1.1\r\n\r\nhello"

theorem plainRequest_keeps_body :
    Http.headEnd [plainRequest].flatten = some 26 ∧
      ProxyRequest.ofHead [] ([plainRequest].flatten.take 26) = .ok ⟨"a", 443, none⟩ ∧
      ∃ c, (visit [] ⟨.v4 .loopback, 50000⟩ [plainRequest]).result = .ok c ∧
        c.line.Yields (Bytes.ofText "hello") := by
  have found : Http.headEnd [plainRequest].flatten = some 26 := by decide
  have granted : ProxyRequest.ofHead [] ([plainRequest].flatten.take 26) =
      .ok ⟨"a", 443, none⟩ := by decide +kernel
  refine ⟨found, granted, ?_⟩
  obtain ⟨head, size, read, before, _, _, served⟩ :=
    body_follows_head_iff ⟨.v4 .loopback, 50000⟩ found granted
  obtain ⟨c, accepted, yields⟩ := served (by decide)
  have whole : Http.takeRequest maxHeaders ([plainRequest].flatten.take 26) =
      .ok (⟨Bytes.ofText "CONNECT", "a:443", []⟩, []) := by decide +kernel
  have nothing : ([plainRequest].flatten.take 26).drop size = [] :=
    (Prod.mk.inj (Except.ok.inj (read.symm.trans whole))).2
  have size_eq : size = 26 := by
    have long : ([plainRequest].flatten.take 26).length = 26 := by decide
    rw [List.drop_eq_nil_iff, long] at nothing
    omega
  have body : [plainRequest].flatten.drop 26 = Bytes.ofText "hello" := by decide
  have all := yields.2 size_eq
  rw [size_eq, body] at all
  exact ⟨c, accepted, all⟩

def bareRequest : Bytes := Bytes.ofText "CONNECT a:443 HTTP/1.1\n\nhello\r\n\r\n"

theorem bareRequest_loses_body :
    Http.headEnd bareRequest = some 33 ∧
      ProxyRequest.ofHead [] (bareRequest.take 33) = .ok ⟨"a", 443, none⟩ ∧
      Http.takeRequest maxHeaders (bareRequest.take 33) =
        .ok (⟨Bytes.ofText "CONNECT", "a:443", []⟩, Bytes.ofText "hello\r\n\r\n") ∧
      ∃ c, (visit [] ⟨.v4 .loopback, 50000⟩ [bareRequest]).result = .ok c ∧ c.line.Yields [] := by
  have found : Http.headEnd bareRequest = some 33 := by decide
  have granted : ProxyRequest.ofHead [] (bareRequest.take 33) = .ok ⟨"a", 443, none⟩ := by
    decide +kernel
  refine ⟨found, granted, by decide +kernel, ?_⟩
  have flat : [bareRequest].flatten = bareRequest := List.flatten_singleton
  obtain ⟨c, accepted, _, yields, _⟩ :=
    visit_http ⟨.v4 .loopback, 50000⟩ (flat.symm ▸ found) (by decide) (flat.symm ▸ granted)
  have nothing_behind : [bareRequest].flatten.drop 33 = [] := by decide
  rw [nothing_behind] at yields
  exact ⟨c, accepted, yields⟩

end ProxyGateway.Inbound
