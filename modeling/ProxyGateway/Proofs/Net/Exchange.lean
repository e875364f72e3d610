import ProxyGateway.Net.Buffered
/-!
What an exchange makes of the bytes of its peer, whatever the pieces in which they come. Main
statements: a run against a buffered socket goes as the bytes of the socket allow, and an exchange
that waits for known numbers of bytes only can go one way only.
-/
namespace ProxyGateway.Net

namespace Exchange

structure Ending (α : Type) where
  result : Except Error α
  sent : Bytes
  unread : Bytes

/-- The ways in which an exchange can go against some bytes. Where it takes what is there, any part
of what is to come may be there. -/
inductive Goes : Exchange α → Bytes → Ending α → Prop where
  | finish {r : Except Error α} {data : Bytes} : Goes (.finish r) data ⟨r, [], data⟩
  | send {bytes data sent unread : Bytes} {next : Exchange α} {r : Except Error α}
      (on : Goes next data ⟨r, sent, unread⟩) :
      Goes (.send bytes next) data ⟨r, bytes ++ sent, unread⟩
  | receive {count : Nat} {e : Error} {next : Bytes → Exchange α} {block data : Bytes}
      {o : Ending α} (whole : block.length = count) (on : Goes (next block) data o) :
      Goes (.receive count e next) (block ++ data) o
  | cut {count : Nat} {e : Error} {next : Bytes → Exchange α} {data : Bytes}
      (short : data.length < count) : Goes (.receive count e next) data ⟨.error e, [], []⟩
  | receiveSome {room : Nat} {e : Error} {next : Bytes → Exchange α} {part data : Bytes}
      {o : Ending α} (some : part ≠ []) (fits : part.length ≤ room)
      (on : Goes (next part) data o) : Goes (.receiveSome room e next) (part ++ data) o
  | ended {room : Nat} {e : Error} {next : Bytes → Exchange α} {data : Bytes}
      (nothing : data = [] ∨ room = 0) :
      Goes (.receiveSome room e next) data ⟨.error e, [], []⟩
  | peek {e : Error} {next : UInt8 → Exchange α} {byte : UInt8} {data : Bytes} {o : Ending α}
      (on : Goes (next byte) (byte :: data) o) : Goes (.peek e next) (byte :: data) o
  | silent {e : Error} {next : UInt8 → Exchange α} : Goes (.peek e next) [] ⟨.error e, [], []⟩

section parts

variable {e : Error} {data sent unread : Bytes}

theorem goes_finish {x r : Except Error α} :
    Goes (.finish x) data ⟨r, sent, unread⟩ ↔ r = x ∧ sent = [] ∧ unread = data := by
  constructor
  · rintro ⟨⟩
    exact ⟨rfl, rfl, rfl⟩
  · rintro ⟨rfl, rfl, rfl⟩
    exact .finish

@[simp] theorem goes_pure {a : α} {r : Except Error α} :
    Goes (pure a) data ⟨r, sent, unread⟩ ↔ r = .ok a ∧ sent = [] ∧ unread = data :=
  goes_finish

@[simp] theorem goes_fail {r : Except Error α} :
    Goes (fail e) data ⟨r, sent, unread⟩ ↔ r = .error e ∧ sent = [] ∧ unread = data :=
  goes_finish

theorem goes_bind {x : Exchange α} {f : α → Exchange β} {r : Except Error β} :
    Goes (x >>= f) data ⟨r, sent, unread⟩ ↔
      (∃ a early rest late, Goes x data ⟨.ok a, early, rest⟩ ∧ Goes (f a) rest ⟨r, late, unread⟩ ∧
        sent = early ++ late) ∨
      ∃ e, r = .error e ∧ Goes x data ⟨.error e, sent, unread⟩ := by
  change Goes (x.bind f) _ _ ↔ _
  induction x generalizing data sent with
  | finish x =>
    cases x with
    | error e =>
      simp only [Exchange.bind, goes_finish, reduceCtorEq, false_and, exists_false, false_or,
        Except.error.injEq]
      constructor
      · rintro ⟨rfl, rfl, rfl⟩
        exact ⟨e, rfl, rfl, rfl, rfl⟩
      · rintro ⟨_, rfl, rfl, rfl, rfl⟩
        exact ⟨rfl, rfl, rfl⟩
    | ok a =>
      simp only [Exchange.bind, goes_finish, Except.ok.injEq, reduceCtorEq, false_and, and_false,
        exists_false, or_false]
      constructor
      · intro on
        exact ⟨a, [], data, sent, ⟨rfl, rfl, rfl⟩, on, rfl⟩
      · rintro ⟨_, _, _, _, ⟨rfl, rfl, rfl⟩, on, rfl⟩
        exact on
  | send bytes next ih =>
    constructor
    · rintro ⟨⟩
      rename_i on
      obtain ⟨a, early, rest, late, first, second, rfl⟩ | ⟨e, rfl, first⟩ := ih.1 on
      · exact .inl ⟨a, _, rest, late, .send first, second, (List.append_assoc ..).symm⟩
      · exact .inr ⟨e, rfl, .send first⟩
    · rintro (⟨a, early, rest, late, first, second, rfl⟩ | ⟨e, rfl, first⟩)
      · cases first with
        | send first =>
          rw [List.append_assoc]
          exact .send (ih.2 (.inl ⟨a, _, rest, late, first, second, rfl⟩))
      · cases first with
        | send first => exact .send (ih.2 (.inr ⟨e, rfl, first⟩))
  | receive count e next ih =>
    constructor
    · intro go
      cases go with
      | receive whole on =>
        obtain ⟨a, early, rest, late, first, second, rfl⟩ | ⟨e, rfl, first⟩ := (ih _).1 on
        · exact .inl ⟨a, early, rest, late, .receive whole first, second, rfl⟩
        · exact .inr ⟨e, rfl, .receive whole first⟩
      | cut short => exact .inr ⟨e, rfl, .cut short⟩
    · rintro (⟨a, early, rest, late, first, second, rfl⟩ | ⟨e, rfl, first⟩)
      · cases first with
        | receive whole first =>
          exact .receive whole ((ih _).2 (.inl ⟨a, early, rest, late, first, second, rfl⟩))
      · cases first with
        | receive whole first => exact .receive whole ((ih _).2 (.inr ⟨e, rfl, first⟩))
        | cut short => exact .cut short
  | receiveSome room e next ih =>
    constructor
    · intro go
      cases go with
      | receiveSome some fits on =>
        obtain ⟨a, early, rest, late, first, second, rfl⟩ | ⟨e, rfl, first⟩ := (ih _).1 on
        · exact .inl ⟨a, early, rest, late, .receiveSome some fits first, second, rfl⟩
        · exact .inr ⟨e, rfl, .receiveSome some fits first⟩
      | ended nothing => exact .inr ⟨e, rfl, .ended nothing⟩
    · rintro (⟨a, early, rest, late, first, second, rfl⟩ | ⟨e, rfl, first⟩)
      · cases first with
        | receiveSome some fits first =>
          exact .receiveSome some fits
            ((ih _).2 (.inl ⟨a, early, rest, late, first, second, rfl⟩))
      · cases first with
        | receiveSome some fits first =>
          exact .receiveSome some fits ((ih _).2 (.inr ⟨e, rfl, first⟩))
        | ended nothing => exact .ended nothing
  | peek e next ih =>
    constructor
    · intro go
      cases go with
      | peek on =>
        obtain ⟨a, early, rest, late, first, second, rfl⟩ | ⟨e, rfl, first⟩ := (ih _).1 on
        · exact .inl ⟨a, early, rest, late, .peek first, second, rfl⟩
        · exact .inr ⟨e, rfl, .peek first⟩
      | silent => exact .inr ⟨e, rfl, .silent⟩
    · rintro (⟨a, early, rest, late, first, second, rfl⟩ | ⟨e, rfl, first⟩)
      · cases first with
        | peek first => exact .peek ((ih _).2 (.inl ⟨a, early, rest, late, first, second, rfl⟩))
      · cases first with
        | peek first => exact .peek ((ih _).2 (.inr ⟨e, rfl, first⟩))
        | silent => exact .silent

theorem goes_receive_ok {count : Nat} {next : Bytes → Exchange α} {a : α} :
    Goes (.receive count e next) data ⟨.ok a, sent, unread⟩ ↔ ∃ block rest, block.length = count ∧
      data = block ++ rest ∧ Goes (next block) rest ⟨.ok a, sent, unread⟩ := by
  constructor
  · rintro ⟨⟩
    rename_i whole on
    exact ⟨_, _, whole, rfl, on⟩
  · rintro ⟨block, rest, whole, rfl, on⟩
    exact .receive whole on

theorem goes_byte_ok {byte : UInt8} :
    Goes Exchange.byte data ⟨.ok byte, sent, unread⟩ ↔ sent = [] ∧ data = byte :: unread := by
  unfold Exchange.byte
  rw [goes_receive_ok]
  constructor
  · rintro ⟨block, rest, whole, rfl, on⟩
    obtain ⟨b, rfl⟩ := List.length_eq_one_iff.1 whole
    obtain ⟨same, rfl, rfl⟩ := goes_pure.1 on
    cases same
    exact ⟨rfl, rfl⟩
  · rintro ⟨rfl, rfl⟩
    exact ⟨[byte], unread, rfl, rfl, .finish⟩

theorem goes_block_ok {count : Nat} {block : Bytes} :
    Goes (Exchange.block count) data ⟨.ok block, sent, unread⟩ ↔
      block.length = count ∧ sent = [] ∧ data = block ++ unread := by
  unfold Exchange.block
  rw [goes_receive_ok]
  constructor
  · rintro ⟨_, rest, whole, rfl, on⟩
    obtain ⟨same, rfl, rfl⟩ := goes_pure.1 on
    cases same
    exact ⟨whole, rfl, rfl⟩
  · rintro ⟨whole, rfl, rfl⟩
    exact ⟨block, unread, whole, rfl, .finish⟩

def lengthed (b : Bytes) : Bytes := UInt8.ofNat b.length :: b

theorem goes_sized_ok {block : Bytes} :
    Goes sized data ⟨.ok block, sent, unread⟩ ↔
      block.length < 256 ∧ sent = [] ∧ data = lengthed block ++ unread := by
  unfold sized
  simp only [goes_bind, goes_byte_ok, goes_block_ok, reduceCtorEq, false_and, exists_false,
    or_false]
  constructor
  · rintro ⟨n, _, rest, _, ⟨rfl, rfl⟩, ⟨whole, rfl, rfl⟩, rfl⟩
    have small := n.toNat_lt
    refine ⟨by omega, rfl, ?_⟩
    rw [lengthed, whole, UInt8.ofNat_toNat, List.cons_append]
  · rintro ⟨small, rfl, rfl⟩
    have size : block.length = (UInt8.ofNat block.length).toNat := by
      rw [UInt8.toNat_ofNat', Nat.mod_eq_of_lt small]
    exact ⟨_, [], _, [], ⟨rfl, rfl⟩, ⟨size, rfl, rfl⟩, rfl⟩

end parts

/-- The exchange takes no more than it waits for, so that it does not matter how much is there. -/
inductive Blockwise : Exchange α → Prop where
  | finish {r : Except Error α} : Blockwise (.finish r)
  | send {bytes : Bytes} {next : Exchange α} (on : Blockwise next) : Blockwise (.send bytes next)
  | receive {count : Nat} {e : Error} {next : Bytes → Exchange α}
      (on : ∀ block, Blockwise (next block)) : Blockwise (.receive count e next)

def Silent (x : Exchange α) : Prop := ∀ ⦃data : Bytes⦄ ⦃o : Ending α⦄, Goes x data o → o.sent = []

theorem Blockwise.bind {x : Exchange α} {f : α → Exchange β} (first : Blockwise x)
    (second : ∀ a, Blockwise (f a)) : Blockwise (x >>= f) := by
  change Blockwise (x.bind f)
  induction first with
  | finish =>
    rename_i r
    cases r with
    | error e => exact .finish
    | ok a => exact second a
  | send _ ih => exact .send ih
  | receive _ ih => exact .receive ih

theorem Blockwise.goes_unique {x : Exchange α} (blockwise : Blockwise x) {data : Bytes}
    {o o' : Ending α} (go : Goes x data o) (go' : Goes x data o') : o = o' := by
  induction blockwise generalizing data o o' with
  | finish =>
    cases go
    cases go'
    rfl
  | send _ ih =>
    cases go with
    | send first =>
      cases go' with
      | send second =>
        cases ih first second
        rfl
  | receive _ ih =>
    cases go with
    | receive whole first =>
      rename_i block data
      generalize split : block ++ data = whole_data at go'
      cases go' with
      | receive whole' second =>
        obtain ⟨rfl, rfl⟩ := List.append_inj split (whole.trans whole'.symm)
        exact ih _ first second
      | cut short =>
        rw [← split, List.length_append] at short
        omega
    | cut short =>
      cases go' with
      | receive whole =>
        rw [List.length_append] at short
        omega
      | cut => rfl

theorem silent_finish (r : Except Error α) : Silent (.finish r) := by
  rintro data o ⟨⟩
  rfl

theorem silent_receive {count : Nat} {e : Error} {next : Bytes → Exchange α}
    (on : ∀ block, Silent (next block)) : Silent (.receive count e next) := by
  intro data o go
  cases go with
  | receive whole go => exact on _ go
  | cut short => rfl

theorem silent_bind {x : Exchange α} {f : α → Exchange β} (first : Silent x)
    (second : ∀ a, Silent (f a)) : Silent (x >>= f) := by
  rintro data ⟨r, sent, unread⟩ go
  obtain ⟨a, early, rest, late, start, finish, rfl⟩ | ⟨e, rfl, stop⟩ := goes_bind.1 go
  · have nothing_early : early = [] := first start
    have nothing_late : late = [] := second a finish
    simp only [nothing_early, nothing_late, List.append_nil]
  · exact first stop

section silent_bind

variable {x : Exchange α} {f : α → Exchange β} {data sent unread : Bytes}

/-- What a silent exchange with a continuation sends is what the continuation sends. -/
theorem goes_silent_bind_ok (quiet : Silent x) {b : β} :
    Goes (x >>= f) data ⟨.ok b, sent, unread⟩ ↔
      ∃ a rest, Goes x data ⟨.ok a, [], rest⟩ ∧ Goes (f a) rest ⟨.ok b, sent, unread⟩ := by
  rw [goes_bind]
  constructor
  · rintro (⟨a, early, rest, late, first, second, rfl⟩ | ⟨e, failed, _⟩)
    · obtain rfl : early = [] := quiet first
      exact ⟨a, rest, first, second⟩
    · cases failed
  · rintro ⟨a, rest, first, second⟩
    exact .inl ⟨a, [], rest, sent, first, second, rfl⟩

theorem goes_silent_bind_error (quiet : Silent x) {e : Error}
    (go : Goes (x >>= f) data ⟨.error e, sent, unread⟩) :
    sent = [] ∨ ∃ a rest, Goes x data ⟨.ok a, [], rest⟩ ∧ Goes (f a) rest ⟨.error e, sent, unread⟩ := by
  obtain ⟨a, early, rest, late, first, second, rfl⟩ | ⟨_, _, stop⟩ := goes_bind.1 go
  · obtain rfl : early = [] := quiet first
    exact .inr ⟨a, rest, first, second⟩
  · exact .inl (quiet stop)

end silent_bind

theorem blockwise_byte : Blockwise byte := by
  refine .receive fun block => ?_
  split <;> exact .finish

theorem blockwise_block (count : Nat) : Blockwise (block count) :=
  .receive fun _ => .finish

theorem blockwise_sized : Blockwise sized :=
  .bind blockwise_byte fun _ => blockwise_block _

theorem silent_byte : Silent byte := by
  refine silent_receive fun block => ?_
  split <;> exact silent_finish _

theorem silent_block (count : Nat) : Silent (block count) :=
  silent_receive fun _ => silent_finish _

theorem silent_sized : Silent sized :=
  silent_bind silent_byte fun _ => silent_block _

theorem blockwise_write (bytes : Bytes) : Blockwise (write bytes) :=
  .send .finish

theorem goes_write {bytes data sent unread : Bytes} {r : Except Error Unit} :
    Goes (write bytes) data ⟨r, sent, unread⟩ ↔ r = .ok () ∧ sent = bytes ∧ unread = data := by
  constructor
  · intro go
    cases go with
    | send on =>
      obtain ⟨rfl, rfl, rfl⟩ := goes_pure.1 on
      exact ⟨rfl, List.append_nil _, rfl⟩
  · rintro ⟨rfl, rfl, rfl⟩
    have on : Goes (write sent) unread ⟨.ok (), sent ++ [], unread⟩ := .send .finish
    rwa [List.append_nil] at on

theorem goes_write_bind {bytes data sent unread : Bytes} {f : Unit → Exchange α}
    {r : Except Error α} :
    Goes (write bytes >>= f) data ⟨r, sent, unread⟩ ↔
      ∃ late, sent = bytes ++ late ∧ Goes (f ()) data ⟨r, late, unread⟩ := by
  constructor
  · rintro ⟨⟩
    rename_i on
    exact ⟨_, rfl, on⟩
  · rintro ⟨late, rfl, on⟩
    exact .send on

end Exchange

open Exchange

theorem takeSome_none {socket : Stream} {room : Nat} (nothing : takeSome socket room = none) :
    socket.flatten = [] := by
  induction socket with
  | nil => rfl
  | cons piece socket ih =>
    cases piece with
    | nil => exact ih nothing
    | cons byte piece =>
      unfold takeSome at nothing
      split at nothing <;> cases nothing

theorem takeSome_some {socket rest : Stream} {room : Nat} {part : Bytes}
    (taken : takeSome socket room = some (part, rest)) :
    socket.flatten = part ++ rest.flatten ∧ part.length ≤ room ∧ (part = [] → room = 0) := by
  induction socket with
  | nil => cases taken
  | cons piece socket ih =>
    cases piece with
    | nil => exact ih taken
    | cons byte piece =>
      unfold takeSome at taken
      split at taken
      · cases taken
        exact ⟨rfl, ‹_›, nofun⟩
      · cases taken
        refine ⟨?_, List.length_take_le _ _, ?_⟩
        · rw [List.flatten_cons, List.flatten_cons, ← List.append_assoc, List.take_append_drop]
        · simp

theorem readSocket_spec {socket rest : Stream} {room : Nat} {part : Bytes}
    (done : readSocket room socket = (part, rest)) :
    socket.flatten = part ++ rest.flatten ∧ part.length ≤ room ∧
      (part = [] → room = 0 ∨ socket.flatten = []) := by
  unfold readSocket at done
  cases taken : takeSome socket room with
  | none =>
    rw [taken] at done
    cases done
    have nothing := takeSome_none taken
    exact ⟨nothing, Nat.zero_le _, fun _ => .inr nothing⟩
  | some pair =>
    rw [taken] at done
    cases done
    obtain ⟨split, fits, some⟩ := takeSome_some taken
    exact ⟨split, fits, fun none => .inl (some none)⟩

namespace Exchange

theorem takeExactly_some {socket rest : Stream} {count : Nat} {block : Bytes}
    (taken : takeExactly socket count = some (block, rest)) :
    block.length = count ∧ socket.flatten = block ++ rest.flatten := by
  fun_induction takeExactly socket count generalizing block rest with
  | case1 socket =>
    cases taken
    exact ⟨rfl, rfl⟩
  | case2 => cases taken
  | case3 piece socket n fits ih =>
    obtain ⟨⟨more, last⟩, others, same⟩ := Option.map_eq_some_iff.1 taken
    cases same
    obtain ⟨size, split⟩ := ih others
    refine ⟨?_, by rw [List.flatten_cons, split, List.append_assoc]⟩
    rw [List.length_append, size]
    omega
  | case4 piece socket n long =>
    cases taken
    refine ⟨?_, ?_⟩
    · rw [List.length_take]
      omega
    · rw [List.flatten_cons, List.flatten_cons, ← List.append_assoc, List.take_append_drop]

theorem takeExactly_none {socket : Stream} {count : Nat} (short : takeExactly socket count = none) :
    socket.flatten.length < count := by
  fun_induction takeExactly socket count with
  | case1 => cases short
  | case2 n => exact Nat.succ_pos n
  | case3 piece socket n fits ih =>
    have fewer := ih (Option.map_eq_none_iff.1 short)
    rw [List.flatten_cons, List.length_append]
    omega
  | case4 => cases short

/-- A run of an exchange that waits for known numbers of bytes goes as its bytes allow, whatever the
pieces in which they come. -/
theorem Blockwise.run_goes {x : Exchange α} (blockwise : Blockwise x) (socket : Stream) :
    Goes x socket.flatten ⟨(x.run socket).result, (x.run socket).sent,
      (x.run socket).left.flatten⟩ := by
  induction blockwise generalizing socket with
  | finish => exact .finish
  | send _ ih => exact .send (ih socket)
  | @receive count e next _ ih =>
    unfold run
    cases taken : takeExactly socket count with
    | none => exact .cut (takeExactly_none taken)
    | some pair =>
      obtain ⟨whole, split⟩ := takeExactly_some taken
      rw [split]
      exact .receive whole (ih _ _)

end Exchange

namespace Buffered

def unread (b : Buffered) : Bytes := b.ahead ++ b.socket.flatten

theorem fill_unread (b : Buffered) : b.fill.unread = b.unread := by
  unfold fill
  split
  · rename_i empty
    have split := (readSocket_spec (rfl : readSocket capacity b.socket = _)).1
    rw [unread, unread, empty, List.nil_append]
    exact split.symm
  · rfl

theorem unread_of_fill_nil {b : Buffered} (empty : b.fill.ahead = []) : b.unread = [] := by
  unfold fill at empty
  split at empty
  · rename_i none_ahead
    obtain ⟨_, _, nothing⟩ := readSocket_spec (rfl : readSocket capacity b.socket = _)
    obtain zero | nothing := nothing empty
    · cases zero
    · rw [unread, none_ahead, nothing, List.nil_append]
  · rename_i some_ahead
    exact absurd empty some_ahead

theorem read_spec {b b' : Buffered} {room : Nat} {part : Bytes} (done : b.read room = (part, b')) :
    b.unread = part ++ b'.unread ∧ part.length ≤ room ∧ (part = [] → room = 0 ∨ b.unread = []) := by
  unfold read at done
  split at done
  · rename_i straight
    cases done
    have spec := readSocket_spec (rfl : readSocket room b.socket = _)
    rw [unread, straight.1, List.nil_append]
    exact spec
  · cases done
    refine ⟨?_, List.length_take_le _ _, ?_⟩
    · rw [← fill_unread, unread, unread, ← List.append_assoc, List.take_append_drop]
    · intro nothing
      rw [List.take_eq_nil_iff] at nothing
      exact nothing.imp_right unread_of_fill_nil

theorem readExactly_some {count : Nat} {b b' : Buffered} {block : Bytes}
    (done : b.readExactly count = some (block, b')) :
    block.length = count ∧ b.unread = block ++ b'.unread := by
  fun_induction readExactly count b generalizing block b' with
  | case1 b =>
    cases done
    exact ⟨rfl, rfl⟩
  | case2 => cases done
  | case3 count b byte part rest one ih =>
    obtain ⟨⟨more, last⟩, others, same⟩ := Option.map_eq_some_iff.1 done
    cases same
    obtain ⟨size, split⟩ := ih others
    obtain ⟨split', fits, _⟩ := read_spec one
    constructor
    · rw [List.length_append, List.length_cons, size]
      rw [List.length_cons] at fits
      omega
    · rw [split', split, List.append_assoc]

theorem readExactly_none {count : Nat} {b : Buffered} (short : b.readExactly count = none) :
    b.unread.length < count := by
  fun_induction readExactly count b with
  | case1 => cases short
  | case2 count b rest one =>
    obtain ⟨_, _, nothing⟩ := read_spec one
    obtain zero | nothing := nothing rfl
    · cases zero
    · rw [nothing]
      exact Nat.succ_pos count
  | case3 count b byte part rest one ih =>
    have fewer := ih (Option.map_eq_none_iff.1 short)
    obtain ⟨split, fits, _⟩ := read_spec one
    rw [split, List.length_append, List.length_cons]
    rw [List.length_cons] at fits
    omega

end Buffered

/-- How a run ended, with all bytes that nobody has taken. -/
def Exchange.Settled.ending (s : Settled α) : Ending α := ⟨s.result, s.sent, s.left.unread⟩

theorem settle_goes (x : Exchange α) (b : Buffered) : Goes x b.unread (x.settle b).ending := by
  induction x generalizing b with
  | finish r => exact .finish
  | send bytes next ih => exact .send (ih b)
  | receive count e next ih =>
    unfold settle
    cases done : b.readExactly count with
    | none => exact .cut (Buffered.readExactly_none done)
    | some pair =>
      obtain ⟨whole, split⟩ := Buffered.readExactly_some done
      rw [split]
      exact .receive whole (ih _ _)
  | receiveSome room e next ih =>
    unfold settle
    match done : b.read room with
    | ([], b') =>
      obtain ⟨_, _, nothing⟩ := Buffered.read_spec done
      exact .ended (nothing rfl).symm
    | (byte :: part, b') =>
      obtain ⟨split, fits, _⟩ := Buffered.read_spec done
      rw [split]
      exact .receiveSome nofun fits (ih _ _)
  | peek e next ih =>
    unfold settle
    rw [← Buffered.fill_unread]
    match some : b.fill.ahead with
    | [] =>
      rw [Buffered.fill_unread, Buffered.unread_of_fill_nil some]
      simp only [some]
      exact .silent
    | byte :: ahead =>
      have on := ih byte b.fill
      rw [Buffered.unread, some] at on ⊢
      simp only [some]
      exact .peek on

end ProxyGateway.Net
