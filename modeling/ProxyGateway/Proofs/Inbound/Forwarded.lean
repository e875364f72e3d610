import ProxyGateway.Proofs.Http.Lines
import ProxyGateway.Proofs.Inbound.Framing

namespace ProxyGateway.Inbound

open Http (Header IsWord RequestHead closed crlf cutLines headEnd lineKey)

def requestLine (method : Bytes) (target : String) : Bytes :=
  method ++ Http.space :: (Bytes.ofText target ++ Bytes.ofText " HTTP/1.1")

def headerLine (h : Header) : Bytes := h.name ++ Bytes.ofText ": " ++ h.value

def closingLine : Bytes := Bytes.ofText "Connection: close"

def forwardLines (head : RequestHead) (target : String) : List Bytes :=
  requestLine head.method target :: (kept head.headers).map headerLine ++ [closingLine]

theorem forwardHead_eq_closed (head : RequestHead) (target : String) :
    forwardHead head target = closed (forwardLines head target) := by
  have written : Http.written = fun h => headerLine h ++ crlf := rfl
  have mark : Http.headMark = crlf ++ crlf := rfl
  rw [forwardHead_eq, written, mark]
  simp only [closed, forwardLines, requestLine, closingLine, List.flatMap_append, List.flatMap_cons,
    List.flatMap_map, List.flatMap_nil, List.append_assoc, List.cons_append, List.nil_append]

theorem not_colon_of_token {b : UInt8} (token : Http.isToken b) : (b != Http.colon) = true := by
  rw [bne_iff_ne]
  rintro rfl
  revert token
  decide

theorem lineKey_headerLine {h : Header} (fine : h.WellFormed) : lineKey (headerLine h) = h.key := by
  have no_colon : ∀ b ∈ h.name, (b != Http.colon) = true :=
    fun b member => not_colon_of_token (fine.name.2 b member)
  have front : (headerLine h).takeWhile (· != Http.colon) = h.name := by
    rw [headerLine, List.append_assoc]
    refine (Http.takeWhile_front no_colon ?_).1
    rintro b ⟨⟩
    rfl
  rw [lineKey, front]
  rfl

/-- The request line has a blank in front of any colon, and no name of a header has one. -/
theorem space_mem_lineKey_requestLine {method : Bytes} (named : IsWord Http.isToken method)
    (target : String) : Http.space ∈ lineKey (requestLine method target) := by
  rw [lineKey, requestLine, List.takeWhile_append_of_pos
    fun b member => not_colon_of_token (named.2 b member)]
  refine List.mem_map.2 ⟨Http.space, List.mem_append_right _ ?_, rfl⟩
  rw [List.takeWhile_cons_of_pos (by decide)]
  exact List.mem_cons_self

theorem cr_not_mem_headerLine {h : Header} (fine : h.WellFormed) : Http.cr ∉ headerLine h := by
  obtain ⟨words, e, split, no_cr, rfl⟩ := (Http.headerLine_written fine).parts
  have same : headerLine h = words := List.append_cancel_right split
  rw [same]
  exact no_cr

section lines

variable {head : RequestHead} {target : String} (named : IsWord Http.isToken head.method)
  (fine : ∀ h ∈ head.headers, h.WellFormed)
include named fine

theorem cr_not_mem_forwardLines (aimed : IsWord Http.isTarget (Bytes.ofText target)) :
    ∀ line ∈ forwardLines head target, Http.cr ∉ line := by
  intro line member
  obtain among | last := List.mem_append.1 member
  · obtain rfl | among := List.mem_cons.1 among
    · have version : Bytes.ofText " HTTP/1.1" = Http.space :: (Http.versionStart ++ [49]) := by
        decide
      rw [requestLine, version]
      exact Http.RequestLine.no_cr (.line named aimed (.inr rfl))
    · obtain ⟨h, sent, rfl⟩ := List.mem_map.1 among
      exact cr_not_mem_headerLine (fine h (List.mem_filter.1 sent).1)
  · obtain rfl := List.mem_singleton.1 last
    decide

/-- Of the lines only the last one has the name of a header that is not sent on. -/
theorem eq_closingLine_of_hop {line : Bytes} (member : line ∈ forwardLines head target)
    (hop : lineKey line ∈ hopByHop) : line = closingLine := by
  obtain among | last := List.mem_append.1 member
  · obtain rfl | among := List.mem_cons.1 among
    · have no_space : ∀ key ∈ hopByHop, Http.space ∉ key := by decide
      exact absurd (space_mem_lineKey_requestLine named target) (no_space _ hop)
    · obtain ⟨h, sent, rfl⟩ := List.mem_map.1 among
      obtain ⟨asked, stays⟩ := List.mem_filter.1 sent
      rw [lineKey_headerLine (fine h asked), ← List.contains_iff_mem] at hop
      rw [hop] at stays
      cases stays
  · exact List.mem_singleton.1 last

end lines

theorem forward_eq_of_granted {users : List Credentials} {bytes forward : Bytes}
    {r : ProxyRequest} (granted : ProxyRequest.ofHead users bytes = .ok r)
    (rewritten : r.forward = some forward) :
    ∃ head left u, Http.takeRequest maxHeaders bytes = .ok (head, left) ∧
      Url.read head.target = .ok u ∧ u.scheme = "http" ∧ forward = forwardHead head u.target := by
  obtain ⟨head, left, read, _, asked⟩ := ofHead_eq_ok.1 granted
  split at asked
  · obtain ⟨place, _, same⟩ := bind_eq_ok.1 asked
    cases same
    cases rewritten
  · obtain ⟨u, link, web, forward_eq⟩ := absolute_eq_ok asked
    exact ⟨head, left, u, read, link, web, Option.some.inj (rewritten.symm.trans forward_eq)⟩

/-- What is sent on has the lines it is to have and no others, it ends where its first mark does,
and it says nothing to the proxy, whatever the letters of the names in the client's head. -/
theorem forward_is_one_clean_head {users : List Credentials} {bytes forward : Bytes}
    {r : ProxyRequest} (granted : ProxyRequest.ofHead users bytes = .ok r)
    (rewritten : r.forward = some forward) :
    ∃ head left u, Http.takeRequest maxHeaders bytes = .ok (head, left) ∧
      Url.read head.target = .ok u ∧
      cutLines forward = (forwardLines head u.target ++ [[]], []) ∧
      headEnd forward = some forward.length ∧
      (∀ line ∈ forwardLines head u.target, lineKey line ∈ hopByHop → line = closingLine) ∧
      ∀ line ∈ forwardLines head u.target, ∀ name ∈ ["proxy-authorization", "proxy-connection"],
        lineKey line ≠ Bytes.ofText name := by
  obtain ⟨head, left, u, read, link, web, rfl⟩ := forward_eq_of_granted granted rewritten
  obtain ⟨_, _, _, _, whole, _⟩ := Http.takeRequest_eq_ok.1 read
  cases whole with
  | text first _ others =>
    cases first with
    | line named =>
      have fine := Http.wellFormed_of_headerLines others
      have aimed := Url.isWord_of_visiblePath (Url.visible_target link web)
      have no_cr := cr_not_mem_forwardLines named fine aimed
      have hops {line : Bytes} (member : line ∈ forwardLines head u.target) :=
        eq_closingLine_of_hop named fine member
      refine ⟨head, left, u, read, link, ?_, ?_, fun line => hops, ?_⟩
      · rw [forwardHead_eq_closed]
        exact Http.cutLines_closed fun line member => Http.no_crlf (no_cr line member)
      · have ends := Http.headEnd_strict (headText_forwardHead named aimed fine) []
        rwa [List.append_nil] at ends
      · intro line member name among same
        have hop : ∀ name ∈ ["proxy-authorization", "proxy-connection"],
            Bytes.ofText name ∈ hopByHop ∧ lineKey closingLine ≠ Bytes.ofText name := by decide
        obtain ⟨listed, other⟩ := hop name among
        rw [← same] at listed
        exact other (hops member listed ▸ same)

/-- A request by a user, with an empty value, a value outside ASCII and a name that comes twice. -/
def signedRequest : Bytes :=
  Bytes.ofText "GET http://[::1]/x?y HTTP/1.1\r\nX:\r\nPROXY-Authorization: Basic dTpw\r\n" ++
    Bytes.ofText "Y: é\r\nproxy-CONNECTION: close\r\nx: 1\r\n\r\n"

def signedForward : Bytes :=
  Bytes.ofText "GET /x?y HTTP/1.1\r\nX: \r\nY: é\r\nx: 1\r\nConnection: close\r\n\r\n"

theorem signedForward_is_clean :
    ProxyRequest.ofHead [⟨"u", "p"⟩] signedRequest = .ok ⟨"::1", 80, some signedForward⟩ ∧
      cutLines signedForward = (["GET /x?y HTTP/1.1", "X: ", "Y: é", "x: 1", "Connection: close",
        ""].map Bytes.ofText, []) ∧
      headEnd signedForward = some signedForward.length ∧
      ∀ line ∈ (cutLines signedForward).1, lineKey line ≠ Bytes.ofText "proxy-authorization" := by
  have granted : ProxyRequest.ofHead [⟨"u", "p"⟩] signedRequest =
      .ok ⟨"::1", 80, some signedForward⟩ := by decide +kernel
  obtain ⟨head, left, u, read, link, cut, ends, _, clean⟩ := forward_is_one_clean_head granted rfl
  refine ⟨granted, by decide +kernel, ends, ?_⟩
  intro line member
  rw [cut] at member
  obtain among | last := List.mem_append.1 member
  · exact clean line among _ List.mem_cons_self
  · obtain rfl := List.mem_singleton.1 last
    decide

end ProxyGateway.Inbound
