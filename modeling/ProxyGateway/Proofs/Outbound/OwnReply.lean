import ProxyGateway.Proofs.Http.Response
import ProxyGateway.Proofs.Outbound.HttpTalk
import ProxyGateway.Proofs.Outbound.SocksTalk

namespace ProxyGateway

namespace Outbound

open Net (Exchange)
open Net.Exchange (Ending Goes Stream goes_bind goes_block_ok goes_fail goes_pure goes_receive_ok
  goes_write_bind)

namespace HttpConnect

variable {i : Socks.Identity} {target : String} {data : Bytes} {n : Nat}

/-- Where no head ends in time, the room is used up or the stream is. -/
theorem goes_receiveHead_error {room : Nat} {got data : Bytes}
    (nowhere : ∀ n, Http.headEnd (got.reverse ++ data) = some n → got.length + room < n) :
    ∃ e, Goes (receiveHead room got) data ⟨.error e, [], data.drop room⟩ := by
  induction room generalizing got data with
  | zero => exact ⟨_, .finish⟩
  | succ room ih =>
    cases data with
    | nil => exact ⟨_, .cut Nat.one_pos⟩
    | cons b data =>
      have on : ¬ Http.headMark <:+ (b :: got).reverse := by
        intro ends
        rw [← take_front b got data] at ends
        have fits : got.length + 1 ≤ (got.reverse ++ b :: data).length := by
          rw [List.length_append, List.length_reverse, List.length_cons]
          omega
        obtain ⟨n, early, found⟩ := Http.exists_headEnd fits ends
        have late := nowhere n found
        omega
      have nowhere' : ∀ n, Http.headEnd ((b :: got).reverse ++ data) = some n →
          (b :: got).length + room < n := by
        intro n found
        rw [← front_eq] at found
        have late := nowhere n found
        rw [List.length_cons]
        omega
      obtain ⟨e, go⟩ := ih nowhere'
      exact ⟨e, goes_receiveHead_on on go⟩

theorem goes_connect_error (nowhere : ∀ n, Http.headEnd data = some n → maxHead < n) :
    ∃ e, Goes (connect i target) data
      ⟨.error e, Bytes.ofText (request i target), data.drop maxHead⟩ := by
  obtain ⟨e, head⟩ : ∃ e, Goes (receiveHead maxHead []) data ⟨.error e, [], data.drop maxHead⟩ := by
    apply goes_receiveHead_error
    intro n found
    rw [List.length_nil, Nat.zero_add]
    exact nowhere n found
  refine ⟨e, goes_write_bind.2 ⟨[], (List.append_nil _).symm, ?_⟩⟩
  exact goes_bind.2 (.inr ⟨e, rfl, head⟩)

theorem judge_eq_ok {head : Bytes} : judge head = .ok () ↔
    ∃ r rest, Http.takeResponse maxHeaders head = .ok (r, rest) ∧ r.code = 200 := by
  unfold judge
  constructor
  · intro judged
    split at judged
    · cases judged
    · cases judged
    · rename_i r rest read
      split at judged
      · rename_i fine
        exact ⟨r, rest, read, fine⟩
      · split at judged <;> cases judged
  · rintro ⟨r, rest, read, fine⟩
    rw [read]
    exact if_pos fine

variable {pieces : Stream}

theorem run_of_no_head (i : Socks.Identity) (target : String)
    (nowhere : ∀ n, Http.headEnd pieces.flatten = some n → maxHead < n) :
    (∃ e, ((connect i target).run pieces).result = .error e) ∧
      ((connect i target).run pieces).left.flatten = pieces.flatten.drop maxHead := by
  obtain ⟨e, go⟩ : ∃ e, Goes (connect i target) pieces.flatten _ := goes_connect_error nowhere
  have run := (blockwise_connect i target).run_goes pieces
  obtain ⟨result, _, left⟩ := Ending.mk.inj ((blockwise_connect i target).goes_unique run go)
  exact ⟨⟨e, result⟩, left⟩

theorem head_in_time_or_not (s : Bytes) :
    (∃ n ≤ maxHead, Http.headEnd s = some n) ∨ ∀ n, Http.headEnd s = some n → maxHead < n := by
  by_cases timely : ∃ n ≤ maxHead, Http.headEnd s = some n
  · exact .inl timely
  · refine .inr fun n found => Nat.lt_of_not_le fun fits => ?_
    exact timely ⟨n, fits, found⟩

theorem run_eq_ok_iff : ((connect i target).run pieces).result = .ok () ↔
    ∃ n ≤ maxHead, Http.headEnd pieces.flatten = some n ∧
      ∃ r rest, Http.takeResponse maxHeaders (pieces.flatten.take n) = .ok (r, rest) ∧
        r.code = 200 := by
  constructor
  · intro done
    obtain ⟨n, fits, found⟩ | nowhere := head_in_time_or_not pieces.flatten
    · rw [(run_of_headEnd i target found fits).1] at done
      exact ⟨n, fits, found, judge_eq_ok.1 done⟩
    · obtain ⟨⟨e, failed⟩, _⟩ := run_of_no_head i target nowhere
      rw [failed] at done
      cases done
  · rintro ⟨n, fits, found, answer⟩
    rw [(run_of_headEnd i target found fits).1]
    exact judge_eq_ok.2 answer

/-- However it ends, no more is taken than a head may be long. -/
theorem run_takes_little (i : Socks.Identity) (target : String) (pieces : Stream) :
    ∃ taken, pieces.flatten = taken ++ ((connect i target).run pieces).left.flatten ∧
      taken.length ≤ maxHead := by
  obtain ⟨n, fits, found⟩ | nowhere := head_in_time_or_not pieces.flatten
  · refine ⟨pieces.flatten.take n, ?_, Nat.le_trans (List.length_take_le _ _) fits⟩
    rw [(run_of_headEnd i target found fits).2.2, List.take_append_drop]
  · refine ⟨pieces.flatten.take maxHead, ?_, List.length_take_le _ _⟩
    rw [(run_of_no_head i target nowhere).2, List.take_append_drop]

end HttpConnect

namespace Socks

variable {i : Identity} {target : Net.Address} {port : UInt16} {data unread : Bytes}

inductive Welcome (i : Identity) : Bytes → Prop where
  | nameless : Welcome i [version, 0]
  | known {u p : String} (v : UInt8) (named : i = ⟨some u, some p⟩)
      (user_fits : (Bytes.ofText u).length ≤ 255) (password_fits : (Bytes.ofText p).length ≤ 255) :
      Welcome i [version, 2, v, 0]

/-- All that a server says that grants a connection, the bound address included. -/
inductive Granted (i : Identity) : Bytes → Prop where
  | said {welcome place : Bytes} {bound : Net.Address} {bound_port : UInt16} (reserved : UInt8)
      (welcomed : Welcome i welcome) (placed : bound.encode bound_port = .ok place) :
      Granted i (welcome ++ version :: 0 :: reserved :: place)

theorem goes_awaitVerdict_ok :
    (∃ sent, Goes awaitVerdict data ⟨.ok (), sent, unread⟩) ↔ ∃ v, data = v :: 0 :: unread := by
  unfold awaitVerdict
  constructor
  · rintro ⟨sent, go⟩
    obtain ⟨block, _, rest, _, first, second, _⟩ | ⟨_, failed, _⟩ := goes_bind.1 go
    · obtain ⟨two, _, rfl⟩ := goes_block_ok.1 first
      match block, two with
      | [v, status], _ =>
        dsimp only at second
        split at second
        · rename_i fine
          obtain ⟨_, _, rfl⟩ := goes_pure.1 second
          exact ⟨v, by rw [fine]; rfl⟩
        · obtain ⟨failed, _, _⟩ := goes_fail.1 second
          cases failed
    · cases failed
  · rintro ⟨v, rfl⟩
    have first : Goes (Exchange.block 2) (v :: 0 :: unread) ⟨.ok [v, 0], [], unread⟩ :=
      goes_block_ok.2 ⟨rfl, rfl, rfl⟩
    exact ⟨_, goes_bind.2 (.inl ⟨_, _, _, _, first, .finish, rfl⟩)⟩

theorem goes_authenticate_ok :
    (∃ sent, Goes (authenticate i) data ⟨.ok (), sent, unread⟩) ↔
      ∃ u p v, i = ⟨some u, some p⟩ ∧ (Bytes.ofText u).length ≤ 255 ∧
        (Bytes.ofText p).length ≤ 255 ∧ data = v :: 0 :: unread := by
  constructor
  · rintro ⟨sent, go⟩
    obtain ⟨_ | u, _ | p⟩ := i
    · cases go
    · cases go
    · cases go
    · by_cases fits : (Bytes.ofText u).length ≤ 255 ∧ (Bytes.ofText p).length ≤ 255
      · rw [authenticate_eq fits.1 fits.2] at go
        obtain ⟨late, _, verdict⟩ := goes_write_bind.1 go
        obtain ⟨v, rfl⟩ := goes_awaitVerdict_ok.1 ⟨late, verdict⟩
        exact ⟨u, p, v, rfl, fits.1, fits.2, rfl⟩
      · rw [authenticate_eq_fail fits] at go
        obtain ⟨failed, _, _⟩ := goes_fail.1 go
        cases failed
  · rintro ⟨u, p, v, rfl, user_fits, password_fits, come⟩
    obtain ⟨late, verdict⟩ := goes_awaitVerdict_ok.2 ⟨v, come⟩
    rw [authenticate_eq user_fits password_fits]
    exact ⟨_, goes_write_bind.2 ⟨late, rfl, verdict⟩⟩

theorem goes_negotiate_ok :
    (∃ sent, Goes (negotiate i) data ⟨.ok (), sent, unread⟩) ↔
      ∃ welcome, Welcome i welcome ∧ data = welcome ++ unread := by
  rw [negotiate_eq]
  constructor
  · rintro ⟨sent, go⟩
    obtain ⟨_, _, choice⟩ := goes_write_bind.1 go
    obtain ⟨block, rest, two, rfl, on⟩ := goes_receive_ok.1 choice
    match block, two with
    | [v, method], _ =>
      dsimp only at on
      split at on
      · obtain ⟨failed, _, _⟩ := goes_fail.1 on
        cases failed
      · rename_i spoken
        obtain rfl := not_not.1 spoken
        unfold follow at on
        split at on
        · rename_i free
          obtain ⟨_, _, rfl⟩ := goes_pure.1 on
          exact ⟨_, .nameless, by rw [free]⟩
        · split at on
          · rename_i byPassword
            obtain ⟨u, p, v, named, user_fits, password_fits, rfl⟩ :=
              goes_authenticate_ok.1 ⟨_, on⟩
            exact ⟨_, .known v named user_fits password_fits, by rw [byPassword]; rfl⟩
          · split at on
            · obtain ⟨failed, _, _⟩ := goes_fail.1 on
              cases failed
            · obtain ⟨failed, _, _⟩ := goes_fail.1 on
              cases failed
  · rintro ⟨welcome, welcomed, rfl⟩
    cases welcomed with
    | nameless =>
      have choice : Goes (awaitChoice i) ([version, 0] ++ unread) ⟨.ok (), [], unread⟩ :=
        .receive rfl .finish
      exact ⟨_, goes_write_bind.2 ⟨_, rfl, choice⟩⟩
    | known v named user_fits password_fits =>
      obtain ⟨late, verdict⟩ := goes_authenticate_ok.2
        ⟨_, _, v, named, user_fits, password_fits, (rfl : v :: 0 :: unread = _)⟩
      have choice : Goes (awaitChoice i) ([version, 2] ++ v :: 0 :: unread)
          ⟨.ok (), late, unread⟩ := .receive rfl verdict
      exact ⟨_, goes_write_bind.2 ⟨_, rfl, choice⟩⟩

theorem goes_awaitReply_ok :
    (∃ sent, Goes awaitReply data ⟨.ok (), sent, unread⟩) ↔
      ∃ (reserved : UInt8) (bound : Net.Address) (bound_port : UInt16) (place : Bytes),
        bound.encode bound_port = .ok place ∧
          data = version :: 0 :: reserved :: place ++ unread := by
  unfold awaitReply
  constructor
  · rintro ⟨sent, go⟩
    obtain ⟨block, rest, three, rfl, on⟩ := goes_receive_ok.1 go
    match block, three with
    | [v, code, reserved], _ =>
      dsimp only at on
      split at on
      · obtain ⟨failed, _, _⟩ := goes_fail.1 on
        cases failed
      · rename_i spoken
        obtain rfl := not_not.1 spoken
        split at on
        · obtain ⟨failed, _, _⟩ := goes_fail.1 on
          cases failed
        · rename_i success
          obtain rfl := not_not.1 success
          obtain ⟨⟨bound, bound_port⟩, _, _, _, first, second, _⟩ | ⟨_, failed, _⟩ := goes_bind.1 on
          · obtain ⟨_, _, rfl⟩ := goes_pure.1 second
            obtain ⟨_, place, placed, rfl⟩ := Net.Address.goes_receive_ok.1 first
            exact ⟨reserved, bound, bound_port, place, placed, rfl⟩
          · cases failed
  · rintro ⟨reserved, bound, bound_port, place, placed, rfl⟩
    have first : Goes Net.Address.receive (place ++ unread) ⟨.ok (bound, bound_port), [], unread⟩ :=
      Net.Address.goes_receive_ok.2 ⟨rfl, place, placed, rfl⟩
    have reply : Goes awaitReply ([version, 0, reserved] ++ (place ++ unread))
        ⟨.ok (), [], unread⟩ := .receive rfl (goes_bind.2 (.inl ⟨_, _, _, _, first, .finish, rfl⟩))
    exact ⟨_, reply⟩

theorem goes_request_ok :
    (∃ sent, Goes (request target port) data ⟨.ok (), sent, unread⟩) ↔
      target.Fits ∧ ∃ (reserved : UInt8) (bound : Net.Address) (bound_port : UInt16) (place : Bytes),
        bound.encode bound_port = .ok place ∧
          data = version :: 0 :: reserved :: place ++ unread := by
  rw [request_eq]
  constructor
  · rintro ⟨sent, go⟩
    obtain ⟨encoded, _, _, _, written, asked, _⟩ | ⟨_, failed, _⟩ := goes_bind.1 go
    · obtain ⟨placed, _, rfl⟩ := Net.Exchange.goes_finish.1 written
      obtain ⟨_, _, answer⟩ := goes_write_bind.1 asked
      exact ⟨(Net.Address.encode_eq_ok.1 placed.symm).1, goes_awaitReply_ok.1 ⟨_, answer⟩⟩
    · cases failed
  · rintro ⟨fits, answer⟩
    obtain ⟨late, answer⟩ := goes_awaitReply_ok.2 answer
    rw [Net.Address.encode_eq_ok.2 ⟨fits, rfl⟩]
    exact ⟨_, goes_write_bind.2 ⟨_, rfl, answer⟩⟩

theorem goes_connect_ok :
    (∃ sent, Goes (connect i target port) data ⟨.ok (), sent, unread⟩) ↔
      target.Fits ∧ ∃ granted, Granted i granted ∧ data = granted ++ unread := by
  unfold connect
  constructor
  · rintro ⟨sent, go⟩
    obtain ⟨_, _, rest, _, first, second, _⟩ | ⟨_, failed, _⟩ := goes_bind.1 go
    · obtain ⟨welcome, welcomed, rfl⟩ := goes_negotiate_ok.1 ⟨_, first⟩
      obtain ⟨fits, reserved, bound, bound_port, place, placed, rfl⟩ :=
        goes_request_ok.1 ⟨_, second⟩
      refine ⟨fits, _, .said reserved welcomed placed, ?_⟩
      rw [List.append_assoc]
    · cases failed
  · rintro ⟨fits, granted, grants, rfl⟩
    cases grants with
    | said reserved welcomed placed =>
      obtain ⟨late, second⟩ := goes_request_ok.2 ⟨fits, reserved, _, _, _, placed, rfl⟩
      obtain ⟨early, first⟩ := goes_negotiate_ok.2 ⟨_, welcomed, rfl⟩
      rw [List.append_assoc]
      exact ⟨_, goes_bind.2 (.inl ⟨_, _, _, _, first, second, rfl⟩)⟩

theorem blockwise_connect (i : Identity) (target : Net.Address) (port : UInt16) :
    Net.Exchange.Blockwise (connect i target port) :=
  .bind (blockwise_negotiate i) fun _ => blockwise_request target port

variable {pieces : Stream} {granted rest : Bytes}

theorem run_of_granted (port : UInt16) (fits : target.Fits) (grants : Granted i granted)
    (come : pieces.flatten = granted ++ rest) :
    ((connect i target port).run pieces).result = .ok () ∧
      ((connect i target port).run pieces).left.flatten = rest := by
  obtain ⟨sent, go⟩ : ∃ sent, Goes (connect i target port) pieces.flatten ⟨.ok (), sent, rest⟩ :=
    goes_connect_ok.2 ⟨fits, granted, grants, come⟩
  have run := (blockwise_connect i target port).run_goes pieces
  obtain ⟨result, _, left⟩ := Ending.mk.inj ((blockwise_connect i target port).goes_unique run go)
  exact ⟨result, left⟩

theorem granted_of_run (done : ((connect i target port).run pieces).result = .ok ()) :
    target.Fits ∧ ∃ granted, Granted i granted ∧
      pieces.flatten = granted ++ ((connect i target port).run pieces).left.flatten := by
  have run := (blockwise_connect i target port).run_goes pieces
  rw [done] at run
  exact goes_connect_ok.1 ⟨_, run⟩

/-- A server that grants says so behind its choice and its verdict. -/
theorem code_of_granted {w method v code : UInt8} {verdict : Bytes} (grants : Granted i granted)
    (sized : verdict.length = if method = 2 then 2 else 0)
    (start : granted ++ rest = w :: method :: (verdict ++ v :: code :: data)) : code = 0 := by
  obtain ⟨reserved, welcomed, placed⟩ := grants
  cases welcomed with
  | nameless =>
    simp only [List.cons_append, List.nil_append, List.cons.injEq] at start
    obtain ⟨_, rfl, start⟩ := start
    obtain rfl := List.length_eq_zero_iff.1 sized
    exact (List.cons.inj (List.cons.inj start).2).1.symm
  | known =>
    simp only [List.cons_append, List.nil_append, List.cons.injEq] at start
    obtain ⟨_, rfl, start⟩ := start
    match verdict, sized with
    | [x, y], _ =>
      simp only [List.cons_append, List.nil_append, List.cons.injEq] at start
      exact start.2.2.2.1.symm

end Socks

/-- What a tunnel begins with is what follows the answer of the proxy, however the stream is cut. A
head with its mark that is not read to its end has no status in it. -/
theorem handshake_takes_own_reply (i : Socks.Identity) (pieces : Stream) :
    (∀ target, let o := (HttpConnect.connect i target).run pieces
      (o.result = .ok () ↔ ∃ n ≤ HttpConnect.maxHead, Http.headEnd pieces.flatten = some n ∧
        ∃ r rest, Http.takeResponse HttpConnect.maxHeaders (pieces.flatten.take n) =
          .ok (r, rest) ∧ r.code = 200) ∧
      (∀ n ≤ HttpConnect.maxHead, Http.headEnd pieces.flatten = some n →
        o.left.flatten = pieces.flatten.drop n ∧
        (Http.takeResponse HttpConnect.maxHeaders (pieces.flatten.take n) = .error .unfinished →
          Http.EmptyLines Http.Lax (pieces.flatten.take n))) ∧
      ∃ taken, pieces.flatten = taken ++ o.left.flatten ∧
        taken.length ≤ HttpConnect.maxHead) ∧
    ∀ target port, let o := (Socks.connect i target port).run pieces
      (o.result = .ok () → ∃ granted, Socks.Granted i granted ∧
        pieces.flatten = granted ++ o.left.flatten) ∧
      (∀ granted rest, target.Fits → Socks.Granted i granted →
        pieces.flatten = granted ++ rest → o.result = .ok () ∧ o.left.flatten = rest) ∧
      ∀ w method verdict v code rest, verdict.length = (if method = 2 then 2 else 0) → code ≠ 0 →
        pieces.flatten = w :: method :: (verdict ++ v :: code :: rest) →
        ∃ e, o.result = .error e := by
  constructor
  · intro target
    refine ⟨HttpConnect.run_eq_ok_iff, ?_, HttpConnect.run_takes_little i target pieces⟩
    intro n fits found
    obtain ⟨_, mark, _⟩ := Http.headEnd_eq_some.1 found
    exact ⟨(HttpConnect.run_of_headEnd i target found fits).2.2, Http.emptyLines_of_unfinished mark⟩
  · intro target port
    refine ⟨fun done => (Socks.granted_of_run done).2, ?_, ?_⟩
    · intro granted rest fits grants come
      exact Socks.run_of_granted port fits grants come
    · intro w method verdict v code rest sized refused come
      cases ended : ((Socks.connect i target port).run pieces).result with
      | error e => exact ⟨e, rfl⟩
      | ok =>
        obtain ⟨_, granted, grants, split⟩ := Socks.granted_of_run ended
        exact absurd (Socks.code_of_granted grants sized (split.symm.trans come)) refused

def namedClient : Socks.Identity := ⟨some "u", some "p"⟩

/-- A head in two pieces with the first bytes of the tunnel behind it. -/
def headInPieces : Stream := [Bytes.ofText "HTTP/1.1 200 OK\r\n\r", Bytes.ofText "\nhi"]

/-- A choice of a password, its verdict, a reply with a domain in it and the first byte of the
tunnel. -/
def replyInPieces (code : UInt8) : Stream := [[5, 2, 1], [0, 5], [code, 0, 3, 1, 97, 0, 80, 9]]

theorem own_reply_in_pieces :
    ((HttpConnect.connect namedClient "a:1").run headInPieces).result = .ok () ∧
    ((HttpConnect.connect namedClient "a:1").run headInPieces).left.flatten = Bytes.ofText "hi" ∧
    ((Socks.connect namedClient (.domain "b") 1).run (replyInPieces 0)).left.flatten = [9] ∧
    ∃ e, ((Socks.connect namedClient (.domain "b") 1).run (replyInPieces 5)).result = .error e := by
  have ends : Http.headEnd headInPieces.flatten = some 19 := by decide +kernel
  have code : (Http.takeResponse HttpConnect.maxHeaders (headInPieces.flatten.take 19)).map
      (·.1.code) = .ok 200 := by decide +kernel
  have fits : 19 ≤ HttpConnect.maxHead := by decide
  have short : (Bytes.ofText "b").length < 256 := by decide
  have granted : Socks.Granted namedClient [5, 2, 1, 0, 5, 0, 0, 3, 1, 97, 0, 80] := by
    have place : Net.Address.encode (.domain "a") 80 = .ok [3, 1, 97, 0, 80] := by decide +kernel
    exact .said 0 (.known 1 rfl (by decide) (by decide)) place
  obtain ⟨web, _⟩ := handshake_takes_own_reply namedClient headInPieces
  obtain ⟨_, tunnel⟩ := handshake_takes_own_reply namedClient (replyInPieces 0)
  obtain ⟨_, refusal⟩ := handshake_takes_own_reply namedClient (replyInPieces 5)
  refine ⟨?_, ?_, ?_, ?_⟩
  · cases read : Http.takeResponse HttpConnect.maxHeaders (headInPieces.flatten.take 19) with
    | error stop =>
      rw [read] at code
      cases code
    | ok found =>
      rw [read] at code
      exact (web "a:1").1.2 ⟨19, fits, ends, found.1, found.2, read, Except.ok.inj code⟩
  · rw [((web "a:1").2.1 19 fits ends).1]
    decide +kernel
  · exact ((tunnel (.domain "b") 1).2.1 _ [9] short granted rfl).2
  · exact (refusal (.domain "b") 1).2.2 5 2 [1, 0] 5 5 _ rfl (by decide) rfl

end Outbound

end ProxyGateway
