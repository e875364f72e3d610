import ProxyGateway.Proofs.Http.Head

namespace ProxyGateway.Http

theorem wellFormed_of_headerLines {Ends : Bytes → Prop} {hs : List Header} {lines : Bytes}
    (texts : HeaderLines Ends hs lines) : ∀ h ∈ hs, h.WellFormed := by
  induction texts with
  | last => nofun
  | line first _ ih =>
    intro h member
    obtain rfl | among := List.mem_cons.1 member
    · cases first with
      | line fine => exact fine
    · exact ih h among

def written (h : Header) : Bytes := h.name ++ Bytes.ofText ": " ++ h.value ++ crlf

theorem headerLine_written {h : Header} (fine : h.WellFormed) : HeaderLine Strict h (written h) := by
  have gap : IsGap [space] := by
    intro b member
    obtain rfl := List.mem_singleton.1 member
    decide
  have line : HeaderLine Strict h _ := .line fine gap (nofun : IsGap []) rfl
  have mark : Bytes.ofText ": " = [colon, space] := by decide +kernel
  unfold written
  rw [mark]
  simpa only [List.append_assoc, List.cons_append, List.nil_append] using line

theorem headerLines_written {hs : List Header} (fine : ∀ h ∈ hs, h.WellFormed) :
    HeaderLines Strict hs (hs.flatMap written ++ crlf) := by
  induction hs with
  | nil => exact .last rfl
  | cons h hs ih =>
    rw [List.flatMap_cons, List.append_assoc]
    exact .line (headerLine_written (fine h List.mem_cons_self))
      (ih fun h member => fine h (List.mem_cons_of_mem _ member))

section ends

variable {Few Many : Bytes → Prop} (more : ∀ e, Few e → Many e)
include more

theorem HeaderLine.weaken {h : Header} {line : Bytes} (text : HeaderLine Few h line) :
    HeaderLine Many h line := by
  cases text with
  | line fine lead trail ends => exact .line fine lead trail (more _ ends)

theorem HeaderLines.weaken {hs : List Header} {lines : Bytes} (texts : HeaderLines Few hs lines) :
    HeaderLines Many hs lines := by
  induction texts with
  | last ends => exact .last (more _ ends)
  | line first _ ih => exact .line (first.weaken more) ih

theorem HeadText.weaken {head : RequestHead} {text : Bytes} (whole : HeadText Few head text) :
    HeadText Many head text := by
  cases whole with
  | text first ends others => exact .text first (more _ ends) (others.weaken more)

end ends

/-- A head that is written is read back, and nothing behind it. -/
theorem takeRequest_strict {room : Nat} {head : RequestHead} {text : Bytes}
    (whole : HeadText Strict head text) (fits : head.headers.length ≤ room) (rest : Bytes) :
    takeRequest room (text ++ rest) = .ok (head, rest) :=
  takeRequest_eq_ok.2 ⟨fits, [], text, .nil, whole.weaken fun _ => .inl, rfl⟩

end ProxyGateway.Http
