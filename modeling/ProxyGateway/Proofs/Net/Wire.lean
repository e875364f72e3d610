import ProxyGateway.Net.Address
import ProxyGateway.Proofs.Net.Exchange
import ProxyGateway.Proofs.Text.Utf8

namespace ProxyGateway.Net

open Exchange

theorem Ipv4.ofBytes?_eq_some {b : Bytes} {ip : Ipv4} : ofBytes? b = some ip ↔ b = ip.bytes := by
  constructor
  · fun_cases ofBytes? b with
    | case1 =>
      rintro ⟨⟩
      rfl
    | case2 => nofun
  · rintro rfl
    rfl

theorem Ipv6.ofBytes?_bytes (ip : Ipv6) : ofBytes? ip.bytes = some ip := by
  obtain ⟨⟨⟨groups⟩, eight⟩⟩ := ip
  match groups, eight with
  | [a, b, c, d, e, f, g, h], _ =>
    simp only [bytes, Vector.toList_mk, List.flatMap_cons, List.flatMap_nil, wordBytes,
      List.cons_append, List.nil_append, ofBytes?, wordOfBytes_wordBytes]

theorem Ipv6.length_bytes (ip : Ipv6) : ip.bytes.length = 16 := by
  obtain ⟨⟨⟨groups⟩, eight⟩⟩ := ip
  match groups, eight with
  | [a, b, c, d, e, f, g, h], _ => rfl

theorem Ipv6.ofBytes?_eq_some {b : Bytes} {ip : Ipv6} : ofBytes? b = some ip ↔ b = ip.bytes := by
  constructor
  · fun_cases ofBytes? b with
    | case1 =>
      rintro ⟨⟩
      simp only [bytes, Vector.toList_mk, List.flatMap_cons, List.flatMap_nil,
        wordBytes_wordOfBytes, List.cons_append, List.nil_append]
    | case2 => nofun
  · rintro rfl
    exact ofBytes?_bytes ip

namespace Address

def tag : Address → UInt8
  | literal (.v4 _) => 1
  | literal (.v6 _) => 4
  | domain _ => 3

def body : Address → Bytes
  | literal (.v4 ip) => ip.bytes
  | literal (.v6 ip) => ip.bytes
  | domain name => lengthed (Bytes.ofText name)

def Fits : Address → Prop
  | literal _ => True
  | domain name => (Bytes.ofText name).length < 256

theorem encode_eq_ok {a : Address} {port : UInt16} {place : Bytes} :
    a.encode port = .ok place ↔ a.Fits ∧ place = a.tag :: (a.body ++ wordBytes port) := by
  cases a with
  | literal ip =>
    cases ip with
    | v4 ip => simp [encode, Fits, tag, body, eq_comm]
    | v6 ip => simp [encode, Fits, tag, body, eq_comm]
  | domain name =>
    simp only [encode, Fits, tag, body, lengthed]
    split
    · rename_i long
      simp only [reduceCtorEq, false_iff, not_and]
      intro fits
      omega
    · rename_i short
      have fits : (Bytes.ofText name).length < 256 := by omega
      simp only [fits, true_and, Except.ok.injEq, List.cons_append]
      exact eq_comm

section parts

variable {data sent unread : Bytes}

theorem goes_receivePort_ok {port : UInt16} :
    Goes receivePort data ⟨.ok port, sent, unread⟩ ↔
      sent = [] ∧ data = wordBytes port ++ unread := by
  unfold receivePort
  rw [goes_receive_ok]
  constructor
  · rintro ⟨block, rest, two, rfl, on⟩
    match block, two with
    | [hi, lo], _ =>
      obtain ⟨same, rfl, rfl⟩ := goes_pure.1 on
      cases same
      exact ⟨rfl, by rw [wordBytes_wordOfBytes]⟩
  · rintro ⟨rfl, rfl⟩
    refine ⟨wordBytes port, unread, rfl, rfl, ?_⟩
    rw [wordBytes]
    dsimp only
    rw [wordOfBytes_wordBytes]
    exact .finish

theorem goes_receiveBody_ok {code : UInt8} {a : Address} :
    Goes (receiveBody code) data ⟨.ok a, sent, unread⟩ ↔
      a.Fits ∧ code = a.tag ∧ sent = [] ∧ data = a.body ++ unread := by
  unfold receiveBody
  constructor
  · intro go
    split at go
    · rename_i four
      obtain ⟨block, rest, _, rfl, on⟩ := goes_receive_ok.1 go
      split at on
      · rename_i ip read
        obtain ⟨same, rfl, rfl⟩ := goes_pure.1 on
        cases same
        exact ⟨trivial, four, rfl, by rw [Ipv4.ofBytes?_eq_some.1 read]; rfl⟩
      · obtain ⟨failed, _, _⟩ := goes_fail.1 on
        cases failed
    · split at go
      · rename_i named
        obtain ⟨text, early, rest, late, first, second, rfl⟩ | ⟨e, failed, _⟩ := goes_bind.1 go
        · obtain ⟨small, rfl, rfl⟩ := goes_sized_ok.1 first
          split at second
          · rename_i name decoded
            obtain ⟨same, rfl, rfl⟩ := goes_pure.1 second
            cases same
            rw [Text.Utf8.decode_eq_ok] at decoded
            subst decoded
            exact ⟨small, named, rfl, rfl⟩
          · obtain ⟨failed, _, _⟩ := goes_fail.1 second
            cases failed
        · cases failed
      · split at go
        · rename_i six
          obtain ⟨block, rest, _, rfl, on⟩ := goes_receive_ok.1 go
          split at on
          · rename_i ip read
            obtain ⟨same, rfl, rfl⟩ := goes_pure.1 on
            cases same
            exact ⟨trivial, six, rfl, by rw [Ipv6.ofBytes?_eq_some.1 read]; rfl⟩
          · obtain ⟨failed, _, _⟩ := goes_fail.1 on
            cases failed
        · obtain ⟨failed, _, _⟩ := goes_fail.1 go
          cases failed
  · rintro ⟨fits, rfl, rfl, rfl⟩
    cases a with
    | literal ip =>
      cases ip with
      | v4 ip =>
        refine goes_receive_ok.2 ⟨ip.bytes, unread, rfl, rfl, ?_⟩
        rw [Ipv4.ofBytes?_eq_some.2 rfl]
        exact .finish
      | v6 ip =>
        refine goes_receive_ok.2 ⟨ip.bytes, unread, ip.length_bytes, rfl, ?_⟩
        rw [Ipv6.ofBytes?_bytes]
        exact .finish
    | domain name =>
      have text := goes_sized_ok.2 ⟨fits, rfl, (rfl : body (.domain name) ++ unread = _)⟩
      refine goes_bind.2 (.inl ⟨_, _, _, [], text, ?_, rfl⟩)
      rw [Text.Utf8.decode_eq_ok.2 rfl]
      exact .finish

/-- An address is read exactly where its wire form stands. -/
theorem goes_receive_ok {a : Address} {port : UInt16} :
    Goes receive data ⟨.ok (a, port), sent, unread⟩ ↔
      sent = [] ∧ ∃ place, a.encode port = .ok place ∧ data = place ++ unread := by
  unfold receive
  simp only [goes_bind, goes_byte_ok, goes_receiveBody_ok, goes_receivePort_ok, goes_pure,
    encode_eq_ok, reduceCtorEq, false_and, exists_false, or_false]
  constructor
  · rintro ⟨_, _, _, _, ⟨rfl, rfl⟩, ⟨_, _, _, _, ⟨fits, rfl, rfl, rfl⟩,
      ⟨_, _, _, _, ⟨rfl, rfl⟩, ⟨same, rfl, rfl⟩, rfl⟩, rfl⟩, rfl⟩
    cases same
    refine ⟨rfl, _, ⟨fits, rfl⟩, ?_⟩
    simp only [List.cons_append, List.append_assoc]
  · rintro ⟨rfl, _, ⟨fits, rfl⟩, rfl⟩
    refine ⟨a.tag, [], a.body ++ (wordBytes port ++ unread), [], ⟨rfl, ?_⟩,
      ⟨a, [], wordBytes port ++ unread, [], ⟨fits, rfl, rfl, rfl⟩,
        ⟨port, [], unread, [], ⟨rfl, rfl⟩, ⟨rfl, rfl, rfl⟩, rfl⟩, rfl⟩, rfl⟩
    simp only [List.cons_append, List.append_assoc]

end parts

theorem blockwise_receive : Blockwise receive := by
  refine .bind blockwise_byte fun code => .bind ?_ fun a =>
    .bind ?_ fun port => .finish
  · unfold receiveBody
    split
    · refine .receive fun block => ?_
      split <;> exact .finish
    · split
      · refine .bind blockwise_sized fun text => ?_
        split <;> exact .finish
      · split
        · refine .receive fun block => ?_
          split <;> exact .finish
        · exact .finish
  · refine .receive fun block => ?_
    split <;> exact .finish

theorem silent_receive : Silent receive := by
  refine silent_bind silent_byte fun code => silent_bind ?_ fun a =>
    silent_bind ?_ fun port => silent_finish _
  · unfold receiveBody
    split
    · refine Exchange.silent_receive fun block => ?_
      split <;> exact silent_finish _
    · split
      · refine silent_bind silent_sized fun text => ?_
        split <;> exact silent_finish _
      · split
        · refine Exchange.silent_receive fun block => ?_
          split <;> exact silent_finish _
        · exact silent_finish _
  · refine Exchange.silent_receive fun block => ?_
    split <;> exact silent_finish _

end Address

end ProxyGateway.Net
