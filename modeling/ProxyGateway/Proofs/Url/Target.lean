import ProxyGateway.Error
import ProxyGateway.Proofs.Http.Head
import ProxyGateway.Proofs.Text.Utf8
import ProxyGateway.Url.Basic

namespace ProxyGateway.Url

/-- A character that can stand in a request line. -/
def Visible (c : Char) : Prop := 33 ≤ c.toNat ∧ c.toNat ≤ 126

instance (c : Char) : Decidable (Visible c) := inferInstanceAs (Decidable (_ ∧ _))

theorem visible_upperHexChar {n : Nat} (small : n < 16) : Visible (upperHexChar n) := by
  revert n
  decide

theorem visible_escapeByte {b : UInt8} {c : Char} (member : c ∈ escapeByte b) : Visible c := by
  have bound := b.toNat_lt
  simp only [escapeByte, List.mem_cons, List.not_mem_nil, or_false] at member
  obtain rfl | rfl | rfl := member
  · decide
  · exact visible_upperHexChar (by omega)
  · exact visible_upperHexChar (by omega)

theorem visible_escape {inSet : Char → Bool} (kept : ∀ c, inSet c = false → Visible c)
    {s : List Char} {c : Char} (member : c ∈ escape inSet s) : Visible c := by
  obtain ⟨d, _, inside⟩ := List.mem_flatMap.1 member
  split at inside
  · obtain ⟨b, _, inside⟩ := List.mem_flatMap.1 inside
    exact visible_escapeByte inside
  · rename_i free
    obtain rfl := List.mem_singleton.1 inside
    exact kept _ (Bool.not_eq_true _ ▸ free)

theorem visible_of_not_control {c : Char} (free : isControl c = false) (no_blank : c ≠ ' ') :
    Visible c := by
  have other : c.toNat ≠ 32 := by
    intro same
    exact no_blank (by rw [← Char.ofNat_toNat c, same])
  simp only [isControl, Bool.or_eq_false_iff, decide_eq_false_iff_not] at free
  unfold Visible
  omega

theorem visible_of_not_inPath {c : Char} (free : inPath c = false) : Visible c := by
  simp only [inPath, inFragment, Bool.or_eq_false_iff, beq_eq_false_iff_ne] at free
  obtain ⟨⟨⟨⟨⟨⟨⟨⟨⟨control, blank⟩, _⟩, _⟩, _⟩, _⟩, _⟩, _⟩, _⟩, _⟩ := free
  exact visible_of_not_control control blank

theorem visible_of_not_inSpecialQuery {c : Char} (free : inSpecialQuery c = false) :
    Visible c := by
  simp only [inSpecialQuery, inQuery, Bool.or_eq_false_iff, beq_eq_false_iff_ne] at free
  obtain ⟨⟨⟨⟨⟨⟨control, blank⟩, _⟩, _⟩, _⟩, _⟩, _⟩ := free
  exact visible_of_not_control control blank

def AllVisible (before : List (List Char)) : Prop := ∀ segment ∈ before, ∀ c ∈ segment, Visible c

theorem AllVisible.stepBack {before : List (List Char)} (seen : AllVisible before) :
    AllVisible (stepBack before) := by
  fun_cases Url.stepBack before with
  | case1 => exact seen
  | case2 => exact fun segment member => seen segment (List.mem_cons_of_mem _ member)
  | case3 => exact seen

theorem mem_intercalate {sep : List Char} {parts : List (List Char)} {c : Char}
    (member : c ∈ sep.intercalate parts) : c ∈ sep ∨ ∃ part ∈ parts, c ∈ part := by
  induction parts with
  | nil => cases member
  | cons first parts ih =>
    cases parts with
    | nil =>
      rw [List.intercalate_singleton] at member
      exact .inr ⟨first, List.mem_cons_self, member⟩
    | cons second parts =>
      rw [List.intercalate_cons_cons, List.mem_append, List.mem_append] at member
      obtain (inside | inside) | others := member
      · exact .inr ⟨first, List.mem_cons_self, inside⟩
      · exact .inl inside
      · obtain inside | ⟨part, among, inside⟩ := ih others
        · exact .inl inside
        · exact .inr ⟨part, List.mem_cons_of_mem _ among, inside⟩

def VisiblePath (path : List Char) : Prop := path ≠ [] ∧ ∀ c ∈ path, Visible c

theorem visible_joinSegments {before : List (List Char)} {last : List Char}
    (seen : AllVisible before) (last_seen : ∀ c ∈ last, Visible c) :
    VisiblePath (joinSegments before last) := by
  refine ⟨nofun, ?_⟩
  intro c member
  obtain rfl | inside := List.mem_cons.1 member
  · decide
  · obtain slash | ⟨part, among, part_of⟩ := mem_intercalate inside
    · obtain rfl := List.mem_singleton.1 slash
      decide
    · rw [List.mem_append, List.mem_reverse, List.mem_singleton] at among
      obtain among | rfl := among
      · exact seen part among c part_of
      · exact last_seen c part_of

theorem visible_close {before : List (List Char)} {segment : List Char}
    (seen : AllVisible before) (open_seen : ∀ c ∈ segment, Visible c) :
    VisiblePath (readSegments.close before segment) := by
  unfold readSegments.close
  split
  · exact visible_joinSegments seen.stepBack nofun
  · split
    · exact visible_joinSegments seen nofun
    · exact visible_joinSegments seen open_seen

theorem visible_readSegments {special : Bool} {before : List (List Char)}
    {current s : List Char} (seen : AllVisible before) (open_seen : ∀ c ∈ current, Visible c) :
    VisiblePath (readSegments special before current s).1 := by
  fun_induction readSegments special before current s with
  | case1 before current =>
    exact visible_close seen fun c member => open_seen c (List.mem_reverse.1 member)
  | case2 before current c rest slash segment before' ih =>
    refine ih ?_ nofun
    have segment_seen : ∀ c ∈ segment, Visible c := fun c member =>
      open_seen c (List.mem_reverse.1 member)
    unfold before'
    split
    · exact seen.stepBack
    · split
      · exact seen
      · intro part among
        obtain rfl | among := List.mem_cons.1 among
        · exact segment_seen
        · exact seen part among
  | case3 before current c rest =>
    exact visible_close seen fun c member => open_seen c (List.mem_reverse.1 member)
  | case4 before current c rest _ _ ih =>
    refine ih seen ?_
    intro d member
    rw [List.mem_append, List.mem_reverse] at member
    obtain written | before := member
    · exact visible_escape (fun _ => visible_of_not_inPath) written
    · exact open_seen d before

theorem visible_readPath (s : List Char) : VisiblePath (readPath true s).1 := by
  have fresh : AllVisible [] := nofun
  unfold readPath
  split
  · split
    · exact visible_readSegments fresh nofun
    · exact visible_readSegments fresh nofun
  · refine ⟨nofun, ?_⟩
    intro c member
    obtain rfl := List.mem_singleton.1 member
    decide

theorem visible_readWhom {s path rest : List Char} {authority : Option Authority}
    (done : readWhom "http" s = .ok (authority, path, rest)) : VisiblePath path := by
  unfold readWhom at done
  rw [if_neg (by decide), if_pos (by decide)] at done
  obtain ⟨⟨whom, behind⟩, _, same⟩ := bind_eq_ok.1 done
  obtain ⟨_, path_eq⟩ := Prod.mk.inj (Except.ok.inj same)
  have seen := visible_readPath behind
  rwa [path_eq] at seen

theorem visible_readTail {s : List Char} {q : String} (found : (readTail true s).1 = some q) :
    ∀ c ∈ q.toList, Visible c := by
  unfold readTail at found
  dsimp only at found
  split at found
  · obtain rfl := Option.some.inj found
    rw [String.toList_ofList]
    exact fun c member => visible_escape (fun _ => visible_of_not_inSpecialQuery) member
  · cases found

/-- What is asked of a web server is a row of visible characters. -/
theorem visible_target {text : String} {u : Url} (done : read text = .ok u)
    (web : u.scheme = "http") : VisiblePath u.target.toList := by
  unfold read at done
  split at done
  · cases done
  · rename_i scheme s _
    obtain ⟨⟨authority, path, rest⟩, whom, same⟩ := bind_eq_ok.1 done
    cases same
    change scheme = "http" at web
    subst web
    have path_seen := visible_readWhom whom
    have query_seen (q : String) := visible_readTail (s := rest) (q := q)
    unfold target
    dsimp only
    split
    · rename_i q found
      rw [String.toList_append, String.toList_append, String.toList_ofList]
      refine ⟨fun nothing => path_seen.1 ?_, ?_⟩
      · simp only [List.append_eq_nil_iff] at nothing
        exact nothing.1.1
      · intro c member
        simp only [List.mem_append] at member
        obtain (inside | mark) | inside := member
        · exact path_seen.2 c inside
        · obtain rfl := List.mem_singleton.1 mark
          decide
        · exact query_seen q found c inside
    · rw [String.toList_ofList]
      exact path_seen

/-- What is visible can stand in a request line byte by byte. -/
theorem isTarget_of_visible {s : String} (seen : ∀ c ∈ s.toList, Visible c) :
    ∀ b ∈ Bytes.ofText s, Http.isTarget b := by
  intro b member
  obtain ⟨c, among, inside⟩ := List.mem_flatMap.1 member
  obtain ⟨low, high⟩ := seen c among
  have value := Text.Utf8.toNat_byte (by omega : c.toNat < 256)
  rw [Text.Utf8.encode_ascii (by omega)] at inside
  obtain rfl := List.mem_singleton.1 inside
  simp only [Http.isTarget, Bool.and_eq_true, decide_eq_true_eq, bne_iff_ne, ne_eq,
    UInt8.le_iff_toNat_le, ← UInt8.toNat_inj, value]
  exact ⟨low, by rw [show UInt8.toNat 127 = 127 from rfl]; omega⟩

theorem isWord_of_visiblePath {s : String} (seen : VisiblePath s.toList) :
    Http.IsWord Http.isTarget (Bytes.ofText s) := by
  obtain ⟨some, all⟩ := seen
  refine ⟨fun nothing => some ?_, isTarget_of_visible all⟩
  have empty : Bytes.ofText s = Bytes.ofText "" := nothing
  rw [Text.Utf8.ofText_inj empty]
  rfl

end ProxyGateway.Url
