import ProxyGateway.Inbound.Listener
import ProxyGateway.Proofs.Net.Exchange

namespace ProxyGateway.Inbound

open Net (Buffered)
open Net.Exchange (readSocket)

namespace Line

def unread (l : Line) : Bytes := l.replay.drop l.position ++ l.socket.flatten

theorem handOver_unread (b : Buffered) (replay : Bytes) :
    (handOver b replay).unread = replay ++ b.unread := by
  change (replay ++ b.ahead) ++ b.socket.flatten = replay ++ (b.ahead ++ b.socket.flatten)
  exact List.append_assoc ..

theorem read_spec {l l' : Line} {room : Nat} {part : Bytes} (done : l.read room = (part, l')) :
    l.unread = part ++ l'.unread ∧ part.length ≤ room ∧ (part = [] → room = 0 ∨ l.unread = []) := by
  unfold read at done
  split at done
  · rename_i inside
    cases done
    refine ⟨?_, List.length_take_le _ _, ?_⟩
    · have moved : l.replay.drop (l.position + ((l.replay.drop l.position).take room).length) =
          (l.replay.drop l.position).drop room := by
        rw [← List.drop_drop, List.length_take]
        by_cases whole : room ≤ (l.replay.drop l.position).length
        · rw [Nat.min_eq_left whole]
        · rw [Nat.min_eq_right (by omega), List.drop_length, List.drop_of_length_le (by omega)]
      simp only [unread]
      rw [moved, ← List.append_assoc, List.take_append_drop]
    · intro nothing
      obtain zero | finished := List.take_eq_nil_iff.1 nothing
      · exact .inl zero
      · rw [List.drop_eq_nil_iff] at finished
        omega
  · rename_i outside
    cases done
    have all_replayed : l.replay.drop l.position = [] := List.drop_eq_nil_iff.2 (by omega)
    obtain ⟨split, fits, some⟩ := Net.readSocket_spec (rfl : readSocket room l.socket = _)
    simp only [unread, all_replayed, List.nil_append]
    exact ⟨split, fits, some⟩

theorem reads_unread (rooms : List Nat) (l : Line) :
    l.unread = (l.reads rooms).1.flatten ++ (l.reads rooms).2.unread := by
  induction rooms generalizing l with
  | nil => rfl
  | cons room rooms ih =>
    have first := (read_spec (rfl : l.read room = _)).1
    have others := ih (l.read room).2
    simp only [reads, List.flatten_cons, List.append_assoc]
    rw [← others]
    exact first

/-- A line yields some bytes: they come in this order, each of them once, and as long as one is
missing a read brings more. -/
structure Yields (l : Line) (content : Bytes) : Prop where
  in_order : ∀ rooms, (l.reads rooms).1.flatten <+: content
  goes_on : ∀ rooms room, 0 < room → ((l.reads rooms).2.read room).1 = [] →
    (l.reads rooms).1.flatten = content

theorem yields_unread (l : Line) : l.Yields l.unread where
  in_order rooms := ⟨(l.reads rooms).2.unread, (l.reads_unread rooms).symm⟩
  goes_on := by
    intro rooms room some nothing
    have split := l.reads_unread rooms
    obtain ⟨_, _, finished⟩ := read_spec (rfl : (l.reads rooms).2.read room = _)
    obtain zero | finished := finished nothing
    · omega
    · rw [split, finished, List.append_nil]

/-- Enough reads bring everything. -/
theorem exists_reads (l : Line) : ∃ rooms, (l.reads rooms).1.flatten = l.unread := by
  generalize size : l.unread.length = n
  induction n using Nat.strongRecOn generalizing l with
  | _ n ih =>
    match done : l.read 1 with
    | ([], l') =>
      obtain ⟨split, _, finished⟩ := read_spec done
      refine ⟨[], ?_⟩
      obtain zero | finished := finished rfl
      · cases zero
      · rw [finished]
        rfl
    | (b :: part, l') =>
      have split := (read_spec done).1
      have fewer : l'.unread.length < n := by
        rw [← size, split, List.length_append, List.length_cons]
        omega
      obtain ⟨rooms, all⟩ := ih _ fewer l' rfl
      refine ⟨1 :: rooms, ?_⟩
      simp only [reads, done, List.flatten_cons, all]
      exact split.symm

/-- What a line yields is no more than one row of bytes. -/
theorem Yields.unique {l : Line} {a b : Bytes} (first : l.Yields a) (second : l.Yields b) :
    a = b := by
  obtain ⟨rooms, all⟩ := l.exists_reads
  have more (c : Bytes) (yields : l.Yields c) : l.unread = c := by
    have nothing : ((l.reads rooms).2.read 1).1 = [] := by
      have split := l.reads_unread rooms
      rw [all, List.self_eq_append_right] at split
      have rest := (read_spec (rfl : (l.reads rooms).2.read 1 = _)).1
      rw [split] at rest
      exact (List.append_eq_nil_iff.1 rest.symm).1
    rw [← all]
    exact yields.goes_on rooms 1 Nat.one_pos nothing
  exact (more a first).symm.trans (more b second)

end Line

end ProxyGateway.Inbound
