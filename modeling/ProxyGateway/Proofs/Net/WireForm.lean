import ProxyGateway.Proofs.Net.Wire

namespace ProxyGateway.Net.Address

open Exchange (Ending Goes Stream)

variable {a b : Address} {port other : UInt16} {place place' rest rest' : Bytes} {pieces : Stream}

theorem encode_eq_error {e : Error} :
    a.encode port = .error e ↔ e = .parse "Domain name too long" ∧
      ∃ name, a = .domain name ∧ 255 < (Bytes.ofText name).length := by
  cases a with
  | literal ip => cases ip <;> simp [encode]
  | domain name =>
    by_cases long : 255 < (Bytes.ofText name).length
    · simp [encode, long, eq_comm]
    · simp [encode, long]

theorem run_of_encode (written : a.encode port = .ok place) (come : pieces.flatten = place ++ rest) :
    (receive.run pieces).result = .ok (a, port) ∧ (receive.run pieces).left.flatten = rest := by
  have go : Goes receive pieces.flatten ⟨.ok (a, port), [], rest⟩ :=
    goes_receive_ok.2 ⟨rfl, place, written, come⟩
  have run := blockwise_receive.run_goes pieces
  obtain ⟨read, _, left⟩ := Ending.mk.inj (blockwise_receive.goes_unique run go)
  exact ⟨read, left⟩

theorem encode_of_run (read : (receive.run pieces).result = .ok (a, port)) :
    ∃ place, a.encode port = .ok place ∧
      pieces.flatten = place ++ (receive.run pieces).left.flatten := by
  have run := blockwise_receive.run_goes pieces
  rw [read] at run
  exact (goes_receive_ok.1 run).2

/-- Where a wire form ends can be told from itself. -/
theorem encode_append_inj (written : a.encode port = .ok place)
    (written' : b.encode other = .ok place') (same : place ++ rest = place' ++ rest') :
    (a, port) = (b, other) ∧ rest = rest' := by
  have come : ([place ++ rest] : Stream).flatten = place ++ rest := List.flatten_singleton
  obtain ⟨read, left⟩ := run_of_encode written come
  obtain ⟨read', left'⟩ := run_of_encode written' (come.trans same)
  exact ⟨Except.ok.inj (read.symm.trans read'), left.symm.trans left'⟩

theorem run_of_cut (written : a.encode port = .ok place) (start : pieces.flatten <+: place)
    (cut : pieces.flatten ≠ place) : ∃ e, (receive.run pieces).result = .error e := by
  cases read : (receive.run pieces).result with
  | error e => exact ⟨e, rfl⟩
  | ok found =>
    obtain ⟨place', written', split⟩ := encode_of_run read
    obtain ⟨more, whole⟩ := start
    have same : place' ++ ((receive.run pieces).left.flatten ++ more) = place ++ [] := by
      rw [List.append_nil, ← whole, ← List.append_assoc, ← split]
    obtain ⟨_, nothing⟩ := encode_append_inj written' written same
    obtain ⟨_, rfl⟩ := List.append_eq_nil_iff.1 nothing
    exact absurd ((List.append_nil _).symm.trans whole) cut

theorem run_eq_ok_iff :
    (∃ a port, (receive.run pieces).result = .ok (a, port)) ↔
      ∃ a port place, encode a port = .ok place ∧ place <+: pieces.flatten := by
  constructor
  · rintro ⟨a, port, read⟩
    obtain ⟨place, written, split⟩ := encode_of_run read
    exact ⟨a, port, place, written, _, split.symm⟩
  · rintro ⟨a, port, place, written, rest, come⟩
    exact ⟨a, port, (run_of_encode written come.symm).1⟩

/-- An address with its port is written unless it is a name of more than 255 bytes. What was written
is read again, however the stream is cut, and what follows is left; a part of it is not read. What is
read was written for the answer, so that the streams that are read are those that start with a wire
form. -/
theorem wire_form_is_exact :
    (∀ a port e, encode a port = .error e ↔ e = .parse "Domain name too long" ∧
      ∃ name, a = .domain name ∧ 255 < (Bytes.ofText name).length) ∧
    (∀ a port place, encode a port = .ok place →
      (∀ rest (pieces : Stream), pieces.flatten = place ++ rest →
        (receive.run pieces).result = .ok (a, port) ∧ (receive.run pieces).left.flatten = rest) ∧
      ∀ pieces : Stream, pieces.flatten <+: place → pieces.flatten ≠ place →
        ∃ e, (receive.run pieces).result = .error e) ∧
    (∀ (pieces : Stream) a port, (receive.run pieces).result = .ok (a, port) →
      ∃ place, encode a port = .ok place ∧
        pieces.flatten = place ++ (receive.run pieces).left.flatten) ∧
    ∀ pieces : Stream, (∃ a port, (receive.run pieces).result = .ok (a, port)) ↔
      ∃ a port place, encode a port = .ok place ∧ place <+: pieces.flatten := by
  refine ⟨?_, ?_, ?_, ?_⟩
  · intro a port e
    exact encode_eq_error
  · intro a port place written
    exact ⟨fun rest pieces come => run_of_encode written come,
      fun pieces start cut => run_of_cut written start cut⟩
  · intro pieces a port read
    exact encode_of_run read
  · intro pieces
    exact run_eq_ok_iff

/-- A name of two letters in three bytes with its port, cut within the second letter. -/
theorem wire_form_of_name :
    encode (.domain "aé") 443 = .ok [3, 3, 97, 195, 169, 1, 187] ∧
      (receive.run [[3, 3, 97, 195], [], [169, 1, 187, 5]]).result = .ok (.domain "aé", 443) ∧
      (receive.run [[3, 3, 97, 195], [], [169, 1, 187, 5]]).left.flatten = [5] ∧
      ∃ e, (receive.run [[3, 3, 97], [195, 169, 1]]).result = .error e := by
  have short : (Bytes.ofText "aé").length < 256 := by decide
  have written : encode (.domain "aé") 443 = .ok [3, 3, 97, 195, 169, 1, 187] :=
    encode_eq_ok.2 ⟨short, by decide⟩
  obtain ⟨_, read, _, _⟩ := wire_form_is_exact
  obtain ⟨whole, cut⟩ := read _ _ _ written
  obtain ⟨found, left⟩ := whole [5] [[3, 3, 97, 195], [], [169, 1, 187, 5]] rfl
  exact ⟨written, found, left, cut [[3, 3, 97], [195, 169, 1]] ⟨[187], rfl⟩ (by decide)⟩

end ProxyGateway.Net.Address
