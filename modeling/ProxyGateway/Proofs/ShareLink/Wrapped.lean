import ProxyGateway.Proofs.ShareLink.Basic
import ProxyGateway.Proofs.Url.Form

namespace ProxyGateway.ShareLink

open Text (isBlank trimChars)
open Text.Base64 (Form)

def Linked (content : String) : Prop := "://".toList <:+: content.toList

/-- The lines of a text, which end in a line feed or in a carriage return with a line feed. -/
inductive LinesOf : List Char → List (List Char) → Prop where
  | last {line : List Char} : '\n' ∉ line → LinesOf line [line]
  | feed {line rest : List Char} {lines : List (List Char)} : '\n' ∉ line → LinesOf rest lines →
      LinesOf (line ++ '\n' :: rest) (line :: lines)
  | returned {line rest : List Char} {lines : List (List Char)} : '\n' ∉ line → LinesOf rest lines →
      LinesOf (line ++ '\r' :: '\n' :: rest) (line :: lines)

def results (lines : List (List Char)) : List (Except Error ProxyRecord) :=
  (lines.filter fun line => line.any (!isBlank ·)).map fun line => read (String.ofList line)

section lines

variable {s : List Char} {ls : List (List Char)}

theorem exists_linesOf (s : List Char) : ∃ ls, LinesOf s ls := by
  induction s with
  | nil => exact ⟨[[]], .last (by simp)⟩
  | cons c s ih =>
    obtain ⟨ls, cut⟩ := ih
    by_cases feed : c = '\n'
    · subst feed
      exact ⟨[] :: ls, @LinesOf.feed [] s ls (by simp) cut⟩
    · have longer {line : List Char} (free : '\n' ∉ line) : '\n' ∉ c :: line := by
        simp [free, Ne.symm feed]
      cases cut with
      | last free => exact ⟨_, .last (longer free)⟩
      | @feed line rest ls free cut =>
        exact ⟨_, @LinesOf.feed (c :: line) rest ls (longer free) cut⟩
      | @returned line rest ls free cut =>
        exact ⟨_, @LinesOf.returned (c :: line) rest ls (longer free) cut⟩

theorem trimChars_return (line : List Char) : trimChars (line ++ ['\r']) = trimChars line :=
  Text.trimChars_append_blank line (List.forall_mem_singleton.2 (by decide))

theorem trimChars_lines (s : List Char) :
    (lines s).map trimChars = (Text.splitAll '\n' s).map trimChars := by
  rw [lines, List.map_map]
  apply List.map_congr_left
  intro line _
  rw [Function.comp_apply]
  split
  · rename_i at_end
    obtain ⟨front, rfl⟩ := List.getLast?_eq_some_iff.1 at_end
    rw [List.dropLast_concat, trimChars_return]
  · rfl

theorem LinesOf.trimmed (cut : LinesOf s ls) : (lines s).map trimChars = ls.map trimChars := by
  rw [trimChars_lines]
  induction cut with
  | last free => rw [Text.splitAll_whole free]
  | feed free _ ih => rw [Text.splitAll_front free, List.map_cons, List.map_cons, ih]
  | @returned line rest ls free _ ih =>
    have free' : '\n' ∉ line ++ ['\r'] := by simp [free]
    have split := Text.splitAll_front free' rest
    rw [List.append_assoc, List.singleton_append] at split
    rw [split, List.map_cons, List.map_cons, ih, trimChars_return]

theorem trimChars_ne_nil (line : List Char) :
    decide (trimChars line ≠ []) = line.any (!isBlank ·) := by
  cases solid : line.any (!isBlank ·) with
  | true =>
    obtain ⟨c, member, seen⟩ := List.any_eq_true.1 solid
    rw [Bool.not_eq_true'] at seen
    have kept : c ∈ trimChars line := Text.mem_dropEnd (Text.mem_dropStart member seen) seen
    exact decide_eq_true (List.ne_nil_of_mem kept)
  | false =>
    have blank : ∀ c ∈ line, isBlank c := by simpa using solid
    have nothing := Text.trimChars_append_blank [] blank
    rw [List.nil_append] at nothing
    rw [nothing]
    rfl

theorem results_trimmed (ls : List (List Char)) :
    ((ls.map trimChars).filter (· ≠ [])).map (fun line => read (String.ofList line)) =
      results ls := by
  have same (line : List Char) :
      read (String.ofList (trimChars line)) = read (String.ofList line) := by
    rw [← read_trim (String.ofList line), Text.trim, String.toList_ofList]
  rw [List.filter_map, List.map_map, results]
  simp only [Function.comp_def, trimChars_ne_nil, same]

end lines

section content

variable {content : String}

theorem cutWord_isSome (linked : Linked content) :
    (Text.cutWord [':', '/', '/'] content.toList).isSome := by
  rw [Option.isSome_iff_ne_none]
  intro none
  exact Text.cutWord_eq_none.1 none linked

theorem readAll_lines (linked : Linked content) {ls : List (List Char)}
    (cut : LinesOf content.toList ls) : readAll content = results ls := by
  rw [readAll, if_pos (cutWord_isSome linked), cut.trimmed, results_trimmed]

theorem readAll_wrapped (linked : Linked content) {wrapped : String} {f : Form}
    (coded : solid wrapped = f.write (Bytes.ofText content)) :
    readAll wrapped = readAll content := by
  have filled : content ≠ "" := by
    rintro rfl
    exact absurd (List.eq_nil_of_infix_nil linked) (by decide)
  have no_mark : Text.cutWord [':', '/', '/'] wrapped.toList = none := by
    rw [Text.cutWord_eq_none]
    intro mark
    exact solid_no_colon coded (mark.subset List.mem_cons_self)
  have decoded : decodeBase64 wrapped = some content := decodeBase64_eq_some.2 ⟨filled, f, coded⟩
  simp only [readAll, no_mark, decoded, cutWord_isSome linked, Option.isSome_none,
    Option.getD_some, if_true, Bool.false_eq_true, if_false]

/-- Exactly the four forms of a text are taken for it, with white space anywhere in them, so that a
list of links may stand in any of these; and a list gives a result for each line that is not
blank. -/
theorem guessed_base64_is_exact :
    (∀ s t, decodeBase64 s = some t ↔
      t ≠ "" ∧ ∃ f : Form, solid s = f.write (Bytes.ofText t)) ∧
    (∀ content wrapped, ∀ f : Form, Linked content →
      solid wrapped = f.write (Bytes.ofText content) → readAll wrapped = readAll content) ∧
    ∀ content, Linked content → (∃ ls, LinesOf content.toList ls) ∧
      ∀ ls, LinesOf content.toList ls → readAll content = results ls := by
  refine ⟨fun s t => decodeBase64_eq_some, fun content wrapped f linked coded => ?_,
    fun content linked => ⟨exists_linesOf content.toList, fun ls cut => ?_⟩⟩
  · exact readAll_wrapped linked coded
  · exact readAll_lines linked cut

/-- A list with both kinds of line end and a blank line, in the other alphabet, without the filling,
and broken in the middle of a group. -/
theorem broken_list_is_read :
    let content := "ss://a:b@c:80#~~\r\n\r\nx\n"
    let wrapped := "c3M6Ly9h\r\nOmJAYzo4MCN- fg0KDQp4Cg"
    readAll wrapped = readAll content ∧
      readAll content = [read "ss://a:b@c:80#~~", read "x"] := by
  intro content wrapped
  have linked : Linked content := ⟨"ss".toList, "a:b@c:80#~~\r\n\r\nx\n".toList, by decide⟩
  have chars : content.toList = "ss://a:b@c:80#~~".toList ++ '\r' :: '\n' :: ([] ++ '\r' :: '\n' ::
      (['x'] ++ '\n' :: [])) := by decide
  have cut : LinesOf content.toList ["ss://a:b@c:80#~~".toList, [], ['x'], []] := by
    rw [chars]
    exact .returned (by decide) (.returned (by decide) (.feed (by decide) (.last (by decide))))
  obtain ⟨-, alike, lines⟩ := guessed_base64_is_exact
  refine ⟨alike content wrapped ⟨true, false⟩ linked (by decide +kernel), ?_⟩
  rw [(lines content linked).2 _ cut]
  rfl

end content

end ProxyGateway.ShareLink
