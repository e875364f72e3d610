import ProxyGateway.Outbound.Socks
import ProxyGateway.Proofs.Inbound.Handshake
import ProxyGateway.Proofs.Net.Talk
/-!
The SOCKS client and the SOCKS server in one talk. Main statement: in every order of their steps
both succeed, with the destination of the client and nothing left over, exactly when the destination
has a wire form and the client need not name itself or can do so as one of the users; otherwise both
fail.
-/
namespace ProxyGateway.Outbound.Socks

open Net (Exchange Address Talk)
open Net.Exchange
open Net.Talk
open Inbound.Socks (wanted reply succeeded)

/-- A server that grants what it is asked for. -/
def grant (users : List Credentials) : Exchange (Address × UInt16) := do
  let place ← Inbound.Socks.handshake users
  Exchange.write (reply succeeded)
  pure place

def talk (users : List Credentials) (i : Identity) (target : Address) (port : UInt16) :
    Talk Unit (Address × UInt16) := ⟨connect i target port, grant users, [], []⟩

def Admitted (users : List Credentials) (i : Identity) : Prop :=
  users = [] ∨ ∃ u p, i = ⟨some u, some p⟩ ∧ (Bytes.ofText u).length ≤ 255 ∧
    (Bytes.ofText p).length ≤ 255 ∧ ⟨u, p⟩ ∈ users

def methods (i : Identity) : Bytes := if i.complete then [0, 2] else [0]

def follow (i : Identity) (method : UInt8) : Exchange Unit :=
  if method = 0 then pure ()
  else if method = 2 then authenticate i
  else if method = 0xFF then .fail (.auth "No acceptable authentication method")
  else .fail (.protocol ("Unsupported authentication method: " ++ Text.decimal method.toNat))

theorem blockwise_authenticate (i : Identity) : Blockwise (authenticate i) := by
  unfold authenticate
  split
  · split
    · dsimp only
      split
      · exact .finish
      · refine .bind (blockwise_write _) fun _ => .bind (blockwise_block 2) fun block => ?_
        split
        · split <;> exact .finish
        · exact .finish
    · exact .finish
  · exact .finish

theorem blockwise_negotiate (i : Identity) : Blockwise (negotiate i) := by
  refine .bind (blockwise_write _) fun _ => .receive fun block => ?_
  split
  · split
    · exact .finish
    · split
      · exact .finish
      · split
        · exact blockwise_authenticate i
        · split <;> exact .finish
  · exact .finish

theorem blockwise_request (target : Address) (port : UInt16) :
    Blockwise (request target port) := by
  refine .bind .finish fun encoded => .bind (blockwise_write _) fun _ => .receive fun block => ?_
  split
  · split
    · exact .finish
    · split
      · exact .finish
      · exact .bind Address.blockwise_receive fun _ => .finish
  · exact .finish

theorem orderly_talk (users : List Credentials) (i : Identity) (target : Address)
    (port : UInt16) : (talk users i target port).Orderly where
  client := .bind (blockwise_negotiate i) fun _ => blockwise_request target port
  server := .bind (Inbound.Socks.blockwise_handshake users) fun _ =>
    .bind (blockwise_write _) fun _ => .finish

section steps

variable {users : List Credentials} {i : Identity} {f : Unit → Exchange α} {g : Unit → Exchange β}
  {x : Exchange α} {y : Exchange β} {down up rest : Bytes}

theorem leads_client_write (bytes : Bytes) :
    Leads ⟨Exchange.write bytes >>= f, y, down, up⟩ ⟨f (), y, down, up ++ bytes⟩ :=
  leads_client (goes_write.2 ⟨rfl, rfl, rfl⟩)

theorem leads_server_write (bytes : Bytes) :
    Leads ⟨x, Exchange.write bytes >>= g, down, up⟩ ⟨x, g (), down ++ bytes, up⟩ :=
  leads_server (goes_write.2 ⟨rfl, rfl, rfl⟩)

def awaitChoice (i : Identity) : Exchange Unit :=
  .receive 2 (ended "response") fun
    | [v, method] =>
      if v ≠ version then .fail (.protocol "Invalid SOCKS5 version") else follow i method
    | _ => .fail (ended "response")

theorem negotiate_eq (i : Identity) : negotiate i = (do
    Exchange.write (version :: lengthed (methods i))
    awaitChoice i) := by
  have offer : greeting i = version :: lengthed (methods i) := by
    unfold greeting methods
    split <;> rfl
  rw [← offer]
  rfl

theorem leads_choice (method : UInt8) :
    Leads ⟨awaitChoice i >>= f, y, version :: method :: rest, up⟩
      ⟨follow i method >>= f, y, rest, up⟩ := by
  have step : Step ⟨awaitChoice i >>= f, y, [version, method] ++ rest, up⟩
      ⟨follow i method >>= f, y, rest, up ++ []⟩ := .client (.receive rfl)
  rw [List.append_nil] at step
  exact .step step (.refl _)

def answer (users : List Credentials) (methods : Bytes) : Exchange Unit :=
  if wanted users ∈ methods then do
    Exchange.write [version, wanted users]
    if users = [] then pure () else Inbound.Socks.authenticate users
  else do
    Exchange.write [version, Inbound.Socks.noMethod]
    .fail (.auth "No acceptable authentication method")

theorem answer_of_nobody {offer : Bytes} (offered : 0 ∈ offer) :
    answer [] offer = Exchange.write [version, 0] >>= fun _ => pure () := by
  have free : wanted [] ∈ offer := offered
  unfold answer
  rw [if_pos free, if_pos rfl]
  rfl

theorem answer_of_users {offer : Bytes} (some : users ≠ []) (offered : 2 ∈ offer) :
    answer users offer =
      Exchange.write [version, 2] >>= fun _ => Inbound.Socks.authenticate users := by
  have byPassword : wanted users = 2 := if_neg some
  unfold answer
  rw [byPassword, if_pos offered, if_neg some]

theorem answer_of_not_offered {offer : Bytes} (some : users ≠ []) (not_offered : 2 ∉ offer) :
    answer users offer = Exchange.write [version, 0xFF] >>= fun _ =>
      .fail (.auth "No acceptable authentication method") := by
  have byPassword : wanted users = 2 := if_neg some
  unfold answer
  rw [byPassword, if_neg not_offered]
  rfl

theorem leads_offer {offer : Bytes} (fits : offer.length < 256) :
    Leads ⟨x, Inbound.Socks.negotiate users >>= g, down, version :: lengthed offer⟩
      ⟨x, answer users offer >>= g, down, []⟩ := by
  have first : Goes Exchange.byte (version :: lengthed offer) ⟨.ok version, [], lengthed offer⟩ :=
    goes_byte_ok.2 ⟨rfl, rfl⟩
  have second : Goes Exchange.sized (lengthed offer) ⟨.ok offer, [], []⟩ :=
    goes_sized_ok.2 ⟨fits, rfl, (List.append_nil _).symm⟩
  rw [Inbound.Socks.negotiate_eq, bind_bind]
  refine .trans (leads_server first) ?_
  have spoken : version = Inbound.Socks.version := rfl
  rw [if_pos spoken, bind_bind, List.append_nil]
  refine .trans (leads_server second) ?_
  rw [List.append_nil]
  exact .refl _

/-- Up to the answer of the server the two are always in step. -/
theorem leads_answer : Leads ⟨negotiate i >>= f, Inbound.Socks.negotiate users >>= g, [], []⟩
    ⟨awaitChoice i >>= f, answer users (methods i) >>= g, [], []⟩ := by
  have fits : (methods i).length < 256 := by
    unfold methods
    split <;> decide
  rw [negotiate_eq, bind_bind]
  exact .trans (leads_client_write _) (leads_offer fits)

def login (u p : String) : Bytes :=
  1 :: (lengthed (Bytes.ofText u) ++ lengthed (Bytes.ofText p))

def awaitVerdict : Exchange Unit := do
  match ← Exchange.block 2 with
  | [_, status] => if status = 0 then pure () else .fail (.auth "Authentication failed")
  | _ => .fail .earlyEnd

theorem authenticate_eq {u p : String} (user_fits : (Bytes.ofText u).length ≤ 255)
    (password_fits : (Bytes.ofText p).length ≤ 255) :
    authenticate ⟨some u, some p⟩ = (do
      Exchange.write (login u p)
      awaitVerdict) := by
  have short : ¬ ((Bytes.ofText u).length > 255 ∨ (Bytes.ofText p).length > 255) := by omega
  unfold authenticate
  exact if_neg short

theorem authenticate_eq_fail {u p : String}
    (long : ¬ ((Bytes.ofText u).length ≤ 255 ∧ (Bytes.ofText p).length ≤ 255)) :
    authenticate ⟨some u, some p⟩ = .fail (.auth "Username or password too long") := by
  have too_long : (Bytes.ofText u).length > 255 ∨ (Bytes.ofText p).length > 255 := by omega
  unfold authenticate
  exact if_pos too_long

theorem leads_verdict (v status : UInt8) :
    Leads ⟨awaitVerdict >>= f, y, v :: status :: rest, up⟩
      ⟨(if status = 0 then pure () else .fail (.auth "Authentication failed")) >>= f,
        y, rest, up⟩ := by
  have step : Step ⟨awaitVerdict >>= f, y, [v, status] ++ rest, up⟩
      ⟨(if status = 0 then pure () else .fail (.auth "Authentication failed")) >>= f,
        y, rest, up ++ []⟩ := .client (.receive rfl)
  rw [List.append_nil] at step
  exact .step step (.refl _)

theorem leads_login {u p : String} (user_fits : (Bytes.ofText u).length ≤ 255)
    (password_fits : (Bytes.ofText p).length ≤ 255) :
    Leads ⟨x, Inbound.Socks.authenticate users >>= g, down, login u p⟩
      ⟨x, (if Credentials.admit users u p then Exchange.write [1, 0] else do
        Exchange.write [1, 1]
        .fail (.auth "Invalid credentials")) >>= g, down, []⟩ := by
  have first : Goes Exchange.byte (login u p)
      ⟨.ok 1, [], lengthed (Bytes.ofText u) ++ lengthed (Bytes.ofText p)⟩ :=
    goes_byte_ok.2 ⟨rfl, rfl⟩
  have second : Goes Inbound.Socks.field
      (lengthed (Bytes.ofText u) ++ lengthed (Bytes.ofText p))
      ⟨.ok u, [], lengthed (Bytes.ofText p)⟩ :=
    Inbound.Socks.goes_field_ok.2 ⟨Nat.lt_succ_of_le user_fits, rfl, rfl⟩
  have third : Goes Inbound.Socks.field (lengthed (Bytes.ofText p)) ⟨.ok p, [], []⟩ :=
    Inbound.Socks.goes_field_ok.2
      ⟨Nat.lt_succ_of_le password_fits, rfl, (List.append_nil _).symm⟩
  unfold Inbound.Socks.authenticate
  rw [bind_bind]
  refine .trans (leads_server first) ?_
  rw [bind_bind, List.append_nil]
  refine .trans (leads_server second) ?_
  rw [bind_bind, List.append_nil]
  refine .trans (leads_server third) ?_
  rw [List.append_nil]
  exact .refl _

theorem leads_negotiated (admitted : Admitted users i) :
    Leads ⟨negotiate i >>= f, Inbound.Socks.negotiate users >>= g, [], []⟩
      ⟨f (), g (), [], []⟩ := by
  refine .trans leads_answer ?_
  obtain rfl | ⟨u, p, rfl, user_fits, password_fits, known⟩ := admitted
  · have offered : 0 ∈ methods i := by
      unfold methods
      split <;> decide
    rw [answer_of_nobody offered, bind_bind]
    exact .trans (leads_server_write _) (leads_choice 0)
  · have offered : 2 ∈ methods ⟨.some u, .some p⟩ := List.mem_cons_of_mem _ List.mem_cons_self
    rw [answer_of_users (List.ne_nil_of_mem known) offered, bind_bind]
    refine .trans (leads_server_write _) (.trans (leads_choice 2) ?_)
    rw [follow, if_neg (by decide), if_pos rfl, authenticate_eq user_fits password_fits, bind_bind]
    refine .trans (leads_client_write _) (.trans (leads_login user_fits password_fits) ?_)
    rw [if_pos (Inbound.Socks.admit_iff.2 known)]
    refine .trans (leads_server_write _) (.trans (leads_verdict 1 0) ?_)
    rw [if_pos rfl]
    exact .refl _

/-- A side that waits for what will not come fails when the other is gone. -/
theorem leads_server_fails (away : x.Failed)
    (stuck : ∀ b sent unread, ¬ Goes y up ⟨.ok b, sent, unread⟩) :
    ∃ t : Talk α β, Leads ⟨x, y, down, up⟩ t ∧ t.client.Failed ∧ t.server.Failed := by
  obtain ⟨r, sent, unread, go⟩ : ∃ r sent unread, Goes y up ⟨r, sent, unread⟩ := by
    have go := Net.settle_goes y ⟨up, []⟩
    rw [Net.Buffered.unread, List.flatten_nil, List.append_nil] at go
    exact ⟨_, _, _, go⟩
  cases r with
  | ok b => exact absurd go (stuck b sent unread)
  | error e => exact ⟨_, leads_server_alone away go, away, e, rfl⟩

/-- A client that can name itself is asked to where there are users. -/
theorem leads_asked {u p : String} (some : users ≠ []) :
    Leads ⟨negotiate ⟨.some u, .some p⟩ >>= f, Inbound.Socks.negotiate users >>= g, [], []⟩
      ⟨authenticate ⟨.some u, .some p⟩ >>= f, Inbound.Socks.authenticate users >>= g, [], []⟩ := by
  have offered : 2 ∈ methods ⟨.some u, .some p⟩ := List.mem_cons_of_mem _ List.mem_cons_self
  refine .trans leads_answer ?_
  rw [answer_of_users some offered, bind_bind]
  refine .trans (leads_server_write _) (.trans (leads_choice 2) ?_)
  rw [follow, if_neg (by decide), if_pos rfl]
  exact .refl _

theorem leads_unknown {u p : String} (user_fits : (Bytes.ofText u).length ≤ 255)
    (password_fits : (Bytes.ofText p).length ≤ 255) (unknown : ⟨u, p⟩ ∉ users) :
    Leads ⟨authenticate ⟨some u, some p⟩ >>= f, Inbound.Socks.authenticate users >>= g, [], []⟩
      ⟨.fail (.auth "Authentication failed"), .fail (.auth "Invalid credentials"), [], []⟩ := by
  rw [← Inbound.Socks.admit_iff] at unknown
  rw [authenticate_eq user_fits password_fits, bind_bind]
  refine .trans (leads_client_write _) (.trans (leads_login user_fits password_fits) ?_)
  rw [if_neg unknown, bind_bind]
  exact .trans (leads_server_write _) (leads_verdict 1 1)

theorem leads_not_offered (some : users ≠ []) (not_offered : 2 ∉ methods i) :
    Leads ⟨negotiate i >>= f, Inbound.Socks.negotiate users >>= g, [], []⟩
      ⟨.fail (.auth "No acceptable authentication method"),
        .fail (.auth "No acceptable authentication method"), [], []⟩ := by
  refine leads_answer.trans ?_
  rw [answer_of_not_offered some not_offered, bind_bind]
  refine .trans (leads_server_write _) (.trans (leads_choice 0xFF) ?_)
  rw [follow, if_neg (by decide), if_neg (by decide), if_pos rfl]
  exact .refl _

theorem failed_fail (e : Error) : (Exchange.fail e : Exchange α).Failed := ⟨e, rfl⟩

theorem leads_refused (refused : ¬ Admitted users i) :
    ∃ t : Talk α β, Leads ⟨negotiate i >>= f, Inbound.Socks.negotiate users >>= g, [], []⟩ t ∧
      t.client.Failed ∧ t.server.Failed := by
  have some : users ≠ [] := fun nobody => refused (.inl nobody)
  by_cases complete : i.complete
  · obtain ⟨u, p, rfl⟩ : ∃ u p, i = ⟨.some u, .some p⟩ := by
      obtain ⟨_ | u, _ | p⟩ := i
      · cases complete
      · cases complete
      · cases complete
      · exact ⟨u, p, rfl⟩
    by_cases fits : (Bytes.ofText u).length ≤ 255 ∧ (Bytes.ofText p).length ≤ 255
    · have unknown : ⟨u, p⟩ ∉ users := fun known =>
        refused (.inr ⟨u, p, rfl, fits.1, fits.2, known⟩)
      exact ⟨_, (leads_asked some).trans (leads_unknown fits.1 fits.2 unknown), failed_fail _,
        failed_fail _⟩
    · have stuck : ∀ b sent unread,
          ¬ Goes (Inbound.Socks.authenticate users >>= g) [] ⟨.ok b, sent, unread⟩ := by
        intro b sent unread go
        obtain ⟨_, _, _, _, named, _⟩ | ⟨_, failed, _⟩ := goes_bind.1 go
        · obtain ⟨_, _, _, _, _, nothing⟩ := Inbound.Socks.goes_authenticate_ok.1 named
          cases nothing
        · cases failed
      obtain ⟨t, leads, failed⟩ :=
        leads_server_fails (failed_fail (.auth "Username or password too long")) stuck
      refine ⟨t, (leads_asked some).trans ?_, failed⟩
      rw [authenticate_eq_fail fits]
      exact leads
  · have not_offered : (2 : UInt8) ∉ methods i := by
      rw [methods, if_neg complete]
      decide
    exact ⟨_, leads_not_offered some not_offered, failed_fail _, failed_fail _⟩

def grantRequest : Exchange (Address × UInt16) := do
  let place ← Inbound.Socks.request
  Exchange.write (reply succeeded)
  pure place

theorem grant_eq (users : List Credentials) :
    grant users = Inbound.Socks.negotiate users >>= fun _ => grantRequest :=
  bind_bind _ _ _

def awaitReply : Exchange Unit :=
  .receive 3 (ended "reply") fun
    | [v, code, _] =>
      if v ≠ version then .fail (.protocol "Invalid SOCKS5 version in reply")
      else if code ≠ 0 then .fail (.connection (replyText code))
      else do
        let _ ← Address.receive
        pure ()
    | _ => .fail (ended "reply")

theorem request_eq (target : Address) (port : UInt16) : request target port = (do
    let encoded ← Exchange.ofExcept (target.encode port)
    Exchange.write ([version, 1, 0] ++ encoded)
    awaitReply) := rfl

theorem goes_awaitReply : Goes awaitReply (reply succeeded) ⟨.ok (), [], []⟩ := by
  have bound : Goes Address.receive [1, 0, 0, 0, 0, 0, 0]
      ⟨.ok (.literal (.v4 ⟨0, 0, 0, 0⟩), 0), [], []⟩ :=
    Address.goes_receive_ok.2 ⟨rfl, _, rfl, rfl⟩
  have code : Goes awaitReply ([version, 0, 0] ++ [1, 0, 0, 0, 0, 0, 0]) ⟨.ok (), [], []⟩ :=
    .receive rfl (goes_bind.2 (.inl ⟨_, _, _, _, bound, .finish, rfl⟩))
  exact code

theorem leads_requested {target : Address} {port : UInt16} {place : Bytes}
    (placed : target.encode port = .ok place) :
    Leads ⟨request target port, grantRequest, [], []⟩
      ⟨.finish (.ok ()), .finish (.ok (target, port)), [], []⟩ := by
  have asked : Goes Inbound.Socks.request ([version, 1, 0] ++ place)
      ⟨.ok (target, port), [], []⟩ :=
    Inbound.Socks.goes_request_ok.2 ⟨rfl, 0, place, placed, by rw [List.append_nil]; rfl⟩
  rw [request_eq, placed]
  refine .trans (leads_client_write _) (.trans (leads_server asked) ?_)
  exact .trans (leads_server_write _) (leads_client_done goes_awaitReply)

/-- A client whose target has no wire form gives up, and the server waits for the request. -/
theorem leads_unplaced {target : Address} {port : UInt16} (unplaced : ¬ target.Fits) :
    ∃ t : Talk Unit (Address × UInt16), Leads ⟨request target port, grantRequest, [], []⟩ t ∧
      t.client.Failed ∧ t.server.Failed := by
  have stuck : ∀ b sent unread, ¬ Goes grantRequest [] ⟨.ok b, sent, unread⟩ := by
    intro b sent unread go
    obtain ⟨_, _, _, _, asked, _⟩ | ⟨_, failed, _⟩ := goes_bind.1 go
    · obtain ⟨_, _, _, _, nothing⟩ := Inbound.Socks.goes_request_ok.1 asked
      cases nothing
    · cases failed
  cases encoded : target.encode port with
  | ok place => exact absurd (Address.encode_eq_ok.1 encoded).1 unplaced
  | error e =>
    obtain ⟨t, leads, failed⟩ := leads_server_fails (failed_fail e) stuck
    refine ⟨t, ?_, failed⟩
    rw [request_eq, encoded]
    exact leads

end steps

section end_of_talk

variable (users : List Credentials) (i : Identity) (target : Address) (port : UInt16)

def granted : Talk Unit (Address × UInt16) :=
  ⟨.finish (.ok ()), .finish (.ok (target, port)), [], []⟩

theorem leads_granted (admitted : Admitted users i) (fits : target.Fits) :
    Leads (talk users i target port) (granted target port) := by
  unfold talk
  rw [grant_eq]
  exact .trans (leads_negotiated admitted) (leads_requested (Address.encode_eq_ok.2 ⟨fits, rfl⟩))

theorem leads_failed (refused : ¬ (Admitted users i ∧ target.Fits)) :
    ∃ t, Leads (talk users i target port) t ∧ t.client.Failed ∧ t.server.Failed := by
  unfold talk
  rw [grant_eq]
  by_cases admitted : Admitted users i
  · have unplaced : ¬ target.Fits := fun fits => refused ⟨admitted, fits⟩
    obtain ⟨t, leads, failed⟩ : ∃ t, Leads ⟨request target port, grantRequest, [], []⟩ t ∧
        t.client.Failed ∧ t.server.Failed := leads_unplaced unplaced
    exact ⟨t, .trans (leads_negotiated admitted) leads, failed⟩
  · exact leads_refused admitted

theorem endsIn_of_leads {t : Talk Unit (Address × UInt16)}
    (leads : Leads (talk users i target port) t) (ended : t.Over) :
    (talk users i target port).EndsIn t :=
  let ⟨_, run⟩ := leads
  run.endsIn (orderly_talk users i target port) ended

/-- Whoever moves when, the talk ends: both sides have succeeded, with the target of the client and
no byte under way, exactly where the client is admitted and the target has a wire form, and both have
failed otherwise. -/
theorem client_and_server_agree : ∃ t, (talk users i target port).EndsIn t ∧
    (t = granted target port ∨ t.client.Failed ∧ t.server.Failed) ∧
    (t = granted target port ↔ Admitted users i ∧ target.Fits) := by
  by_cases agreed : Admitted users i ∧ target.Fits
  · have leads := leads_granted users i target port agreed.1 agreed.2
    exact ⟨_, endsIn_of_leads users i target port leads (over_finished _ _ _ _), .inl rfl,
      iff_of_true rfl agreed⟩
  · obtain ⟨⟨x, y, down, up⟩, leads, ⟨e, rfl⟩, ⟨e', rfl⟩⟩ := leads_failed users i target port agreed
    refine ⟨_, endsIn_of_leads users i target port leads (over_finished _ _ _ _),
      .inr ⟨⟨e, rfl⟩, ⟨e', rfl⟩⟩, iff_of_false nofun agreed⟩

end end_of_talk

end ProxyGateway.Outbound.Socks
