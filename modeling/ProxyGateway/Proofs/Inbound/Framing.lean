import ProxyGateway.Http.Framing
import ProxyGateway.Proofs.Http.Written
import ProxyGateway.Proofs.Inbound.Request
import ProxyGateway.Proofs.Url.Target
/-!
The head that is sent on in place of a client's. Main statements: it reads back as the same request
with the headers that are kept, and it announces the body as the client did unless the client sends
the body in chunks, since the header that says so is left out while the body is sent on as it is.
-/
namespace ProxyGateway.Inbound

open Http (Header HeadText IsWord RequestHead Strict headerLines_written wellFormed_of_headerLines
  written)

inductive Announced where
  | chunked
  | sized (lengths : List Bytes)
  | bodiless
deriving DecidableEq, Repr

def encodingKey : Bytes := Bytes.ofText "transfer-encoding"

def lengthKey : Bytes := Bytes.ofText "content-length"

def saysChunked (h : Header) : Bool := h.key == encodingKey && Http.endsChunked [h.value]

/-- Chunks come before a length, and without either there is no body. -/
def announced (headers : List Header) : Announced :=
  if headers.any saysChunked then .chunked
  else match headers.filter (·.key == lengthKey) with
    | [] => .bodiless
    | hs => .sized (hs.map (·.value))

theorem announced_eq_chunked {headers : List Header} :
    announced headers = .chunked ↔ headers.any saysChunked = true := by
  unfold announced
  split
  · rename_i chunks
    exact ⟨fun _ => chunks, fun _ => rfl⟩
  · rename_i no_chunks
    constructor
    · intro same
      split at same <;> cases same
    · exact fun chunks => absurd chunks no_chunks

/-- Headers that differ in no length announce the same unless one of them says that chunks come. -/
theorem announced_congr {headers others : List Header}
    (same : headers.filter (·.key == lengthKey) = others.filter (·.key == lengthKey))
    (chunks : headers.any saysChunked = others.any saysChunked) :
    announced headers = announced others := by
  unfold announced
  rw [same, chunks]

def kept (headers : List Header) : List Header := headers.filter fun h => !hopByHop.contains h.key

def closing : Header := ⟨Bytes.ofText "Connection", Bytes.ofText "close"⟩

/-- Leaving out headers of other names leaves the lengths as they are. -/
theorem lengths_of_filter {keep : Header → Bool} (stays : ∀ h, h.key = lengthKey → keep h = true)
    (headers : List Header) :
    (headers.filter keep).filter (·.key == lengthKey) =
      headers.filter (·.key == lengthKey) := by
  rw [List.filter_filter]
  refine List.filter_congr fun h _ => ?_
  by_cases length : h.key = lengthKey
  · rw [stays h length, Bool.and_true]
  · rw [beq_eq_false_iff_ne.2 length, Bool.false_and]

theorem kept_lengths (headers : List Header) :
    (kept headers ++ [closing]).filter (·.key == lengthKey) =
      headers.filter (·.key == lengthKey) := by
  have no_length : [closing].filter (·.key == lengthKey) = [] := by decide
  have stays : hopByHop.contains lengthKey = false := by decide
  rw [List.filter_append, no_length, List.append_nil, kept]
  refine lengths_of_filter (fun h length => ?_) headers
  rw [length, stays, Bool.not_false]

theorem kept_no_chunks (headers : List Header) :
    (kept headers ++ [closing]).any saysChunked = false := by
  rw [List.any_eq_false]
  intro h member chunks
  have encoding : h.key = encodingKey := beq_iff_eq.1 (Bool.and_eq_true_iff.1 chunks).1
  obtain sent | added := List.mem_append.1 member
  · have stays := (List.mem_filter.1 sent).2
    have dropped : hopByHop.contains encodingKey = true := by decide
    rw [encoding, dropped] at stays
    cases stays
  · obtain rfl := List.mem_singleton.1 added
    revert encoding
    decide

/-- What is sent on announces what is left of the announcement when no encoding is named. -/
theorem announced_kept (headers : List Header) :
    announced (kept headers ++ [closing]) = announced (headers.filter (·.key != encodingKey)) := by
  refine announced_congr ?_ ?_
  · have other : (lengthKey != encodingKey) = true := by decide
    rw [kept_lengths]
    refine (lengths_of_filter (fun h length => ?_) headers).symm
    rw [length, other]
  · rw [kept_no_chunks, eq_comm, List.any_eq_false]
    intro h member chunks
    have encoding := (Bool.and_eq_true_iff.1 chunks).1
    have other := (List.mem_filter.1 member).2
    rw [bne, encoding] at other
    cases other

theorem announced_kept_iff (headers : List Header) :
    announced (kept headers ++ [closing]) = announced headers ↔ announced headers ≠ .chunked := by
  constructor
  · intro same chunks
    rw [← same, announced_eq_chunked, kept_no_chunks] at chunks
    cases chunks
  · intro no_chunks
    refine announced_congr (kept_lengths headers) ?_
    rw [Ne, announced_eq_chunked, Bool.not_eq_true] at no_chunks
    rw [no_chunks, kept_no_chunks]

theorem wellFormed_closing : closing.WellFormed := by decide

def forwarded (head : RequestHead) (target : String) : RequestHead :=
  ⟨head.method, target, kept head.headers ++ [closing]⟩

theorem forwardHead_eq (head : RequestHead) (target : String) :
    forwardHead head target = head.method ++ [Http.space] ++ Bytes.ofText target ++
      Bytes.ofText " HTTP/1.1" ++ Http.crlf ++ (kept head.headers).flatMap written ++
      Bytes.ofText "Connection: close" ++ Http.headMark := rfl

theorem headText_forwardHead {head : RequestHead} {target : String}
    (named : IsWord Http.isToken head.method)
    (aimed : IsWord Http.isTarget (Bytes.ofText target))
    (fine : ∀ h ∈ head.headers, h.WellFormed) :
    HeadText Strict (forwarded head target) (forwardHead head target) := by
  have headers_fine : ∀ h ∈ kept head.headers ++ [closing], h.WellFormed := by
    intro h member
    obtain sent | added := List.mem_append.1 member
    · exact fine h (List.mem_filter.1 sent).1
    · obtain rfl := List.mem_singleton.1 added
      exact wellFormed_closing
  have whole : HeadText Strict (forwarded head target) _ :=
    .text (.line named aimed (.inr rfl)) rfl (headerLines_written headers_fine)
  have version : Bytes.ofText " HTTP/1.1" = Http.space :: (Http.versionStart ++ [49]) := by
    decide
  have last : written closing ++ Http.crlf = Bytes.ofText "Connection: close" ++ Http.headMark := by
    decide
  have same : forwardHead head target = head.method ++ Http.space :: (Bytes.ofText target ++
      Http.space :: (Http.versionStart ++ [49])) ++ (Http.crlf ++
        ((kept head.headers ++ [closing]).flatMap written ++ Http.crlf)) := by
    rw [List.flatMap_append, List.flatMap_singleton, List.append_assoc _ (written closing), last]
    rw [forwardHead_eq, version]
    simp only [List.append_assoc, List.cons_append, List.nil_append]
  rw [same]
  exact whole

theorem absolute_eq_ok {head : RequestHead} {r : ProxyRequest} (granted : absolute head = .ok r) :
    ∃ u, Url.read head.target = .ok u ∧ u.scheme = "http" ∧
      r.forward = some (forwardHead head u.target) := by
  unfold absolute at granted
  cases whole : Url.read head.target with
  | error flaw =>
    rw [whole] at granted
    cases granted
  | ok u =>
    rw [whole] at granted
    change (if u.scheme ≠ "http" then _ else _) = _ at granted
    split at granted
    · cases granted
    · rename_i web
      refine ⟨u, rfl, not_not.1 web, ?_⟩
      split at granted
      · cases granted
        rfl
      · cases granted

/-- The head that is sent on is the client's without the headers of one connection, and announces
the same body except where the client announces chunks. -/
theorem forward_announces_iff {users : List Credentials} {bytes forward : Bytes}
    {r : ProxyRequest} (granted : ProxyRequest.ofHead users bytes = .ok r)
    (rewritten : r.forward = some forward) :
    ∃ head left sent, Http.takeRequest maxHeaders bytes = .ok (head, left) ∧
      (∀ body, Http.takeRequest (maxHeaders + 1) (forward ++ body) = .ok (sent, body)) ∧
      sent.method = head.method ∧
      announced sent.headers = announced (head.headers.filter (·.key != encodingKey)) ∧
      (announced sent.headers = announced head.headers ↔ announced head.headers ≠ .chunked) := by
  obtain ⟨head, left, read, _, asked⟩ := ofHead_eq_ok.1 granted
  split at asked
  · obtain ⟨place, _, same⟩ := bind_eq_ok.1 asked
    cases same
    cases rewritten
  · obtain ⟨u, link, web, forward_eq⟩ := absolute_eq_ok asked
    obtain rfl := Option.some.inj (forward_eq.symm.trans rewritten)
    obtain ⟨few, lines, text, _, whole, _⟩ := Http.takeRequest_eq_ok.1 read
    cases whole with
    | text first _ others =>
      cases first with
      | line named =>
        have fine := wellFormed_of_headerLines others
        have legal := Url.isWord_of_visiblePath (Url.visible_target link web)
        have strict := headText_forwardHead named legal fine
        have fits : (forwarded head u.target).headers.length ≤ maxHeaders + 1 := by
          have less := List.length_filter_le (fun h => !hopByHop.contains h.key) head.headers
          change (kept head.headers ++ [closing]).length ≤ maxHeaders + 1
          rw [List.length_append, kept, List.length_singleton]
          omega
        exact ⟨head, left, forwarded head u.target, read,
          fun body => Http.takeRequest_strict strict fits body, rfl,
          announced_kept head.headers, announced_kept_iff head.headers⟩

def sizedRequest : Bytes :=
  Bytes.ofText "POST http://[::1]/x HTTP/1.1\r\nContent-Length: 5\r\n\r\n"

def sizedForward : Bytes :=
  Bytes.ofText "POST /x HTTP/1.1\r\nContent-Length: 5\r\nConnection: close\r\n\r\n"

theorem sizedForward_is_sized :
    ProxyRequest.ofHead [] sizedRequest = .ok ⟨"::1", 80, some sizedForward⟩ ∧
      ∃ sent, (∀ body, Http.takeRequest (maxHeaders + 1) (sizedForward ++ body) = .ok (sent, body)) ∧
        announced sent.headers = .sized [Bytes.ofText "5"] := by
  have granted : ProxyRequest.ofHead [] sizedRequest = .ok ⟨"::1", 80, some sizedForward⟩ := by
    decide +kernel
  refine ⟨granted, ?_⟩
  obtain ⟨head, left, sent, read, whole, _, _, agrees⟩ := forward_announces_iff granted rfl
  have client : (Http.takeRequest maxHeaders sizedRequest).map (announced ·.1.headers) =
      .ok (.sized [Bytes.ofText "5"]) := by decide +kernel
  rw [read] at client
  have sized : announced head.headers = .sized [Bytes.ofText "5"] := Except.ok.inj client
  refine ⟨sent, whole, ?_⟩
  rw [agrees.2 (by rw [sized]; nofun), sized]

def chunkedRequest : Bytes :=
  Bytes.ofText "POST http://[::1]/x HTTP/1.1\r\nTransfer-Encoding: chunked\r\n\r\n"

def chunkedForward : Bytes := Bytes.ofText "POST /x HTTP/1.1\r\nConnection: close\r\n\r\n"

theorem chunkedForward_is_bodiless :
    ProxyRequest.ofHead [] chunkedRequest = .ok ⟨"::1", 80, some chunkedForward⟩ ∧
      (Http.takeRequest maxHeaders chunkedRequest).map (announced ·.1.headers) = .ok .chunked ∧
      (Http.takeRequest maxHeaders chunkedForward).map (announced ·.1.headers) = .ok .bodiless := by
  decide +kernel

end ProxyGateway.Inbound
