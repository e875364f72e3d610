import ProxyGateway.Inbound.Socks
import ProxyGateway.Proofs.Net.Wire

namespace ProxyGateway.Inbound.Socks

open Net (Exchange Address)
open Net.Exchange

/-- The method that a client has to offer. -/
def wanted (users : List Credentials) : UInt8 := if users = [] then noAuthentication else byPassword

/-- The client names itself with one pair of the list; an empty list asks for nothing. -/
inductive Login (users : List Credentials) : Bytes → Prop where
  | none (nobody : users = []) : Login users []
  | pair (v : UInt8) {u p : String} (some : users ≠ []) (known : ⟨u, p⟩ ∈ users)
      (user_fits : (Bytes.ofText u).length < 256) (password_fits : (Bytes.ofText p).length < 256) :
      Login users (v :: (lengthed (Bytes.ofText u) ++ lengthed (Bytes.ofText p)))

inductive Handshake (users : List Credentials) (a : Address) (port : UInt16) : Bytes → Prop where
  | said {methods login place : Bytes} (reserved : UInt8) (fits : methods.length < 256)
      (offered : wanted users ∈ methods) (named : Login users login)
      (placed : a.encode port = .ok place) :
      Handshake users a port
        (version :: (lengthed methods ++ (login ++ version :: 1 :: reserved :: place)))

/-- What a client that is let in is told before the last reply. -/
def welcome (users : List Credentials) : Bytes :=
  if users = [] then [version, noAuthentication] else [version, byPassword, 1, 0]

theorem admit_iff {users : List Credentials} {u p : String} :
    Credentials.admit users u p = true ↔ ⟨u, p⟩ ∈ users := by
  unfold Credentials.admit
  simp only [List.any_eq_true, Bool.and_eq_true, beq_iff_eq]
  constructor
  · rintro ⟨_, member, rfl, rfl⟩
    exact member
  · intro member
    exact ⟨_, member, rfl, rfl⟩

section parts

variable {users : List Credentials} {data sent unread : Bytes}

theorem goes_field_ok {s : String} :
    Goes field data ⟨.ok s, sent, unread⟩ ↔
      (Bytes.ofText s).length < 256 ∧ sent = [] ∧ data = lengthed (Bytes.ofText s) ++ unread := by
  unfold field
  rw [goes_silent_bind_ok silent_sized]
  constructor
  · rintro ⟨text, rest, first, second⟩
    obtain ⟨small, _, rfl⟩ := goes_sized_ok.1 first
    split at second
    · rename_i decoded
      obtain ⟨same, rfl, rfl⟩ := goes_pure.1 second
      cases same
      rw [Text.Utf8.decode_eq_some] at decoded
      subst decoded
      exact ⟨small, rfl, rfl⟩
    · obtain ⟨failed, _, _⟩ := goes_fail.1 second
      cases failed
  · rintro ⟨small, rfl, rfl⟩
    refine ⟨_, unread, goes_sized_ok.2 ⟨small, rfl, rfl⟩, ?_⟩
    rw [Text.Utf8.decode_ofText]
    exact .finish

theorem silent_field : Silent field := by
  refine silent_bind silent_sized fun text => ?_
  split <;> exact silent_finish _

theorem blockwise_field : Blockwise field := by
  refine .bind blockwise_sized fun text => ?_
  split <;> exact .finish

theorem goes_authenticate_ok {done : Unit} :
    Goes (authenticate users) data ⟨.ok done, sent, unread⟩ ↔
      ∃ v u p, (⟨u, p⟩ ∈ users ∧ (Bytes.ofText u).length < 256 ∧ (Bytes.ofText p).length < 256) ∧
        sent = [1, 0] ∧
        data = v :: (lengthed (Bytes.ofText u) ++ (lengthed (Bytes.ofText p) ++ unread)) := by
  unfold authenticate
  simp only [goes_silent_bind_ok silent_byte, goes_silent_bind_ok silent_field, goes_byte_ok,
    goes_field_ok]
  constructor
  · rintro ⟨v, _, ⟨_, rfl⟩, u, _, ⟨user_fits, _, rfl⟩, p, _, ⟨password_fits, _, rfl⟩, answer⟩
    split at answer
    · rename_i admitted
      obtain ⟨_, rfl, rfl⟩ := goes_write.1 answer
      exact ⟨v, u, p, ⟨admit_iff.1 admitted, user_fits, password_fits⟩, rfl, rfl⟩
    · obtain ⟨_, _, stop⟩ := goes_write_bind.1 answer
      obtain ⟨failed, _, _⟩ := goes_fail.1 stop
      cases failed
  · rintro ⟨v, u, p, ⟨known, user_fits, password_fits⟩, rfl, rfl⟩
    refine ⟨v, _, ⟨trivial, rfl⟩, u, _, ⟨user_fits, trivial, rfl⟩, p, unread,
      ⟨password_fits, trivial, rfl⟩, ?_⟩
    rw [if_pos (admit_iff.2 known)]
    exact goes_write.2 ⟨rfl, rfl, rfl⟩

theorem goes_authenticate_error {e : Error}
    (go : Goes (authenticate users) data ⟨.error e, sent, unread⟩) : sent = [] ∨ sent = [1, 1] := by
  obtain nothing | ⟨v, _, _, named⟩ := goes_silent_bind_error silent_byte go
  · exact .inl nothing
  obtain nothing | ⟨u, _, _, known⟩ := goes_silent_bind_error silent_field named
  · exact .inl nothing
  obtain nothing | ⟨p, _, _, answer⟩ := goes_silent_bind_error silent_field known
  · exact .inl nothing
  split at answer
  · obtain ⟨done, _, _⟩ := goes_write.1 answer
    cases done
  · obtain ⟨late, told, stop⟩ := goes_write_bind.1 answer
    obtain ⟨_, rfl, _⟩ := goes_fail.1 stop
    exact .inr told

theorem blockwise_authenticate (users : List Credentials) : Blockwise (authenticate users) := by
  refine .bind blockwise_byte fun v => .bind blockwise_field fun u =>
    .bind blockwise_field fun p => ?_
  split
  · exact blockwise_write _
  · exact .bind (blockwise_write _) fun _ => .finish

theorem negotiate_eq (users : List Credentials) : negotiate users = (do
    let v ← Exchange.byte
    if v = version then do
      let methods ← Exchange.sized
      if wanted users ∈ methods then do
        Exchange.write [version, wanted users]
        if users = [] then pure () else authenticate users
      else do
        Exchange.write [version, noMethod]
        .fail (.auth "No acceptable authentication method")
    else .fail (.protocol ("Invalid SOCKS version: " ++ Text.decimal v.toNat))) := by
  unfold negotiate wanted
  simp only [List.contains_iff_mem, ne_eq, ite_not]
  by_cases nobody : users = []
  · simp only [nobody, if_true]
    rfl
  · simp only [nobody, if_false, if_true]

theorem goes_negotiate_ok {done : Unit} :
    Goes (negotiate users) data ⟨.ok done, sent, unread⟩ ↔
      ∃ methods login, (methods.length < 256 ∧ wanted users ∈ methods ∧ Login users login) ∧
        sent = welcome users ∧ data = version :: (lengthed methods ++ (login ++ unread)) := by
  rw [negotiate_eq, goes_silent_bind_ok silent_byte]
  constructor
  · rintro ⟨v, _, first, offers⟩
    obtain ⟨_, rfl⟩ := goes_byte_ok.1 first
    split at offers
    · rename_i known
      obtain ⟨methods, _, second, answer⟩ := (goes_silent_bind_ok silent_sized).1 offers
      obtain ⟨fits, _, rfl⟩ := goes_sized_ok.1 second
      split at answer
      · rename_i offered
        obtain ⟨late, rfl, login⟩ := goes_write_bind.1 answer
        split at login
        · rename_i nobody
          obtain ⟨_, rfl, rfl⟩ := goes_pure.1 login
          refine ⟨methods, [], ⟨fits, offered, .none nobody⟩, ?_, by rw [known, List.nil_append]⟩
          rw [welcome, wanted, if_pos nobody, if_pos nobody, List.append_nil]
        · rename_i some
          obtain ⟨w, u, p, ⟨user, user_fits, password_fits⟩, rfl, rfl⟩ :=
            goes_authenticate_ok.1 login
          refine ⟨methods, _, ⟨fits, offered, .pair w some user user_fits password_fits⟩, ?_, ?_⟩
          · rw [welcome, wanted, if_neg some, if_neg some]
            rfl
          · rw [known]
            simp only [List.cons_append, List.append_assoc]
      · obtain ⟨_, _, stop⟩ := goes_write_bind.1 answer
        obtain ⟨failed, _, _⟩ := goes_fail.1 stop
        cases failed
    · obtain ⟨failed, _, _⟩ := goes_fail.1 offers
      cases failed
  · rintro ⟨methods, login, ⟨fits, offered, named⟩, rfl, rfl⟩
    refine ⟨version, _, goes_byte_ok.2 ⟨rfl, rfl⟩, ?_⟩
    rw [if_pos rfl, goes_silent_bind_ok silent_sized]
    refine ⟨methods, _, goes_sized_ok.2 ⟨fits, rfl, rfl⟩, ?_⟩
    rw [if_pos offered, goes_write_bind]
    cases named with
    | none nobody =>
      refine ⟨[], by rw [welcome, wanted, if_pos nobody, if_pos nobody, List.append_nil], ?_⟩
      rw [if_pos nobody]
      exact .finish
    | pair v some known user_fits password_fits =>
      refine ⟨[1, 0], by rw [welcome, wanted, if_neg some, if_neg some]; rfl, ?_⟩
      rw [if_neg some, goes_authenticate_ok]
      refine ⟨v, _, _, ⟨known, user_fits, password_fits⟩, rfl, ?_⟩
      simp only [List.cons_append, List.append_assoc]

/-- What a client may be told up to a failed login. -/
def rebuffs : List Bytes :=
  [[], [version, noMethod], [version, byPassword], [version, byPassword, 1, 1]]

theorem goes_negotiate_error {e : Error}
    (go : Goes (negotiate users) data ⟨.error e, sent, unread⟩) : sent ∈ rebuffs := by
  rw [negotiate_eq] at go
  obtain rfl | ⟨v, _, _, offers⟩ := goes_silent_bind_error silent_byte go
  · simp [rebuffs]
  split at offers
  · obtain rfl | ⟨methods, _, _, answer⟩ := goes_silent_bind_error silent_sized offers
    · simp [rebuffs]
    split at answer
    · obtain ⟨late, rfl, login⟩ := goes_write_bind.1 answer
      split at login
      · obtain ⟨failed, _, _⟩ := goes_pure.1 login
        cases failed
      · rename_i some
        rw [wanted, if_neg some]
        obtain rfl | rfl := goes_authenticate_error login
        · simp [rebuffs]
        · simp [rebuffs]
    · obtain ⟨late, rfl, stop⟩ := goes_write_bind.1 answer
      obtain ⟨_, rfl, _⟩ := goes_fail.1 stop
      simp [rebuffs]
  · obtain ⟨_, rfl, _⟩ := goes_fail.1 offers
    simp [rebuffs]

theorem blockwise_negotiate (users : List Credentials) : Blockwise (negotiate users) := by
  rw [negotiate_eq]
  refine .bind blockwise_byte fun v => ?_
  split
  · refine .bind blockwise_sized fun methods => ?_
    split
    · refine .bind (blockwise_write _) fun _ => ?_
      split
      · exact .finish
      · exact blockwise_authenticate users
    · exact .bind (blockwise_write _) fun _ => .finish
  · exact .finish

theorem goes_request_ok {a : Address} {port : UInt16} :
    Goes request data ⟨.ok (a, port), sent, unread⟩ ↔ sent = [] ∧
      ∃ reserved place, a.encode port = .ok place ∧
        data = version :: 1 :: reserved :: (place ++ unread) := by
  unfold request
  rw [goes_silent_bind_ok (silent_block 3)]
  constructor
  · rintro ⟨head, _, first, rest⟩
    obtain ⟨three, _, rfl⟩ := goes_block_ok.1 first
    match head, three with
    | [v, command, reserved], _ =>
      dsimp only at rest
      split at rest
      · obtain ⟨failed, _, _⟩ := goes_fail.1 rest
        cases failed
      · rename_i known
        obtain ⟨target, _, second, answer⟩ :=
          (goes_silent_bind_ok Address.silent_receive).1 rest
        split at answer
        · rename_i connect
          obtain ⟨same, rfl, rfl⟩ := goes_pure.1 answer
          cases same
          obtain ⟨_, place, placed, rfl⟩ := Address.goes_receive_ok.1 second
          refine ⟨rfl, reserved, place, placed, ?_⟩
          rw [Decidable.not_not.1 known, connect]
          rfl
        · obtain ⟨_, _, stop⟩ := goes_write_bind.1 answer
          obtain ⟨failed, _, _⟩ := goes_fail.1 stop
          cases failed
  · rintro ⟨rfl, reserved, place, placed, rfl⟩
    refine ⟨[version, 1, reserved], place ++ unread, goes_block_ok.2 ⟨rfl, rfl, rfl⟩, ?_⟩
    dsimp only
    rw [if_neg (Decidable.not_not.2 rfl), goes_silent_bind_ok Address.silent_receive]
    refine ⟨(a, port), unread, Address.goes_receive_ok.2 ⟨rfl, place, placed, rfl⟩, ?_⟩
    rw [if_pos rfl]
    exact .finish

theorem goes_request_error {e : Error} (go : Goes request data ⟨.error e, sent, unread⟩) :
    sent = [] ∨ sent = reply commandRefused := by
  obtain nothing | ⟨head, _, _, rest⟩ := goes_silent_bind_error (silent_block 3) go
  · exact .inl nothing
  split at rest
  · split at rest
    · exact .inl (goes_fail.1 rest).2.1
    · obtain nothing | ⟨target, _, _, answer⟩ :=
        goes_silent_bind_error Address.silent_receive rest
      · exact .inl nothing
      split at answer
      · obtain ⟨failed, _, _⟩ := goes_pure.1 answer
        cases failed
      · obtain ⟨late, rfl, stop⟩ := goes_write_bind.1 answer
        obtain ⟨_, rfl, _⟩ := goes_fail.1 stop
        exact .inr (List.append_nil _)
  · exact .inl (goes_fail.1 rest).2.1

theorem blockwise_request : Blockwise request := by
  refine .bind (blockwise_block 3) fun head => ?_
  split
  · split
    · exact .finish
    · refine .bind Address.blockwise_receive fun target => ?_
      split
      · exact .finish
      · exact .bind (blockwise_write _) fun _ => .finish
  · exact .finish

/-- The handshake succeeds exactly on the bytes that ask for a connection. -/
theorem goes_handshake_ok {a : Address} {port : UInt16} :
    Goes (handshake users) data ⟨.ok (a, port), sent, unread⟩ ↔
      sent = welcome users ∧ ∃ text, Handshake users a port text ∧ data = text ++ unread := by
  unfold handshake
  rw [goes_bind]
  constructor
  · rintro (⟨_, _, _, _, first, second, rfl⟩ | ⟨_, failed, _⟩)
    · obtain ⟨methods, login, ⟨fits, offered, named⟩, rfl, rfl⟩ := goes_negotiate_ok.1 first
      obtain ⟨rfl, reserved, place, placed, rfl⟩ := goes_request_ok.1 second
      refine ⟨List.append_nil _, _, .said reserved fits offered named placed, ?_⟩
      simp only [List.cons_append, List.append_assoc]
    · cases failed
  · rintro ⟨rfl, _, ⟨reserved, fits, offered, named, placed⟩, rfl⟩
    refine .inl ⟨(), welcome users, _, [], goes_negotiate_ok.2 ⟨_, _, ⟨fits, offered, named⟩, rfl, ?_⟩,
      goes_request_ok.2 ⟨rfl, reserved, _, placed, rfl⟩, (List.append_nil _).symm⟩
    simp only [List.cons_append, List.append_assoc]

/-- What a client may be told before its handshake fails. -/
def refusals (users : List Credentials) : List Bytes :=
  rebuffs ++ [welcome users, welcome users ++ reply commandRefused]

theorem goes_handshake_error {e : Error}
    (go : Goes (handshake users) data ⟨.error e, sent, unread⟩) : sent ∈ refusals users := by
  obtain ⟨_, _, _, _, first, second, rfl⟩ | ⟨_, _, stop⟩ := goes_bind.1 go
  · obtain ⟨_, _, _, rfl, _⟩ := goes_negotiate_ok.1 first
    obtain rfl | rfl := goes_request_error second
    · simp [refusals]
    · simp [refusals]
  · exact List.mem_append_left _ (goes_negotiate_error stop)

theorem blockwise_handshake (users : List Credentials) : Blockwise (handshake users) :=
  .bind (blockwise_negotiate users) fun _ => blockwise_request

end parts

end ProxyGateway.Inbound.Socks
