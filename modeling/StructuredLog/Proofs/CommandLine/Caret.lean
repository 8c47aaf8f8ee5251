import StructuredLog.CommandLine.Report
import StructuredLog.Proofs.Template.Faults
import StructuredLog.Proofs.Text.Lines

set_option autoImplicit false

namespace StructuredLog.CommandLine

open Text Template

def placeOf (template : String) (k : Nat) : Position := .endOf (template.toList.take k)

-- A line feed stands on no line, it ends one.
structure Spanned (template : String) (e : ParseError) (k : Nat) : Prop where
  shown : ∃ c, template.toList[k]? = some c ∧ c ≠ '\n'
  begun : e.location.start.offset ≤ (placeOf template k).offset
  ahead : (placeOf template k).offset < e.location.stop.offset
  line : (placeOf template k).line = e.location.start.line

-- The positions of the error lie on the line, so that nothing is cut to fit.
structure Underlined (template : String) (e : ParseError) (line marker : String) : Prop where
  numbered : ∃ n, e.location.start.line = n + 1 ∧
    (template.toList.splitOn '\n')[n]? = some line.toList
  drawn : ∃ carets, 1 ≤ carets ∧ marker.toList =
    List.replicate (e.location.start.column - 1) ' ' ++ List.replicate carets '^' ∧
    e.location.start.column - 1 + carets =
      if e.location.stop.line = e.location.start.line then e.location.stop.column - 1
      else line.length
  opening : line.toList[e.location.start.column - 1]? = some '{' ∧
    ∃ before rest text, template.toList = before ++ '{' :: rest ∧ Unquoted before ∧
      e.location.start = .endOf before ∧ Token.readArgument rest = .error ⟨e.fault, text⟩
  carets : ∀ j, marker.toList[j]? = some '^' ↔
    ∃ k, Spanned template e k ∧ (placeOf template k).column = j + 1
  within : marker.length ≤ line.length
  start : 1 ≤ e.location.start.column ∧ e.location.start.column ≤ line.length
  stop : e.location.stop.line = e.location.start.line →
    e.location.start.column < e.location.stop.column ∧ e.location.stop.column ≤ line.length + 1

theorem refused_span (rest : List Char) (broken : Broken) (refused : Refused rest broken) :
    ∃ seen left, broken.text = '{' :: seen ∧ rest = seen ++ left := by
  cases refused with
  | unclosed padding name after => exact ⟨padding ++ (name ++ after), [], rfl, by simp⟩
  | empty padding left => exact ⟨padding ++ ['}'], left, rfl, by simp⟩
  | malformed padding r name after left c _ _ strays _ =>
      exact ⟨padding ++ (name ++ after), c :: left, rfl, by rw [strays.whole]; simp⟩

section Place

variable (cs : List Char)

theorem end_column : (Position.endOf cs).column = 1 + (lastLine cs).length := by
  simp [Position.endOf, lastLine]

theorem end_offset_append (a b : List Char) :
    (Position.endOf (a ++ b)).offset = (Position.endOf a).offset + (Position.endOf b).offset := by
  simp only [Position.endOf, List.length_append, List.countP_append]
  omega

theorem take_offset_lt (j k : Nat) (less : j < k) (inside : k ≤ cs.length) :
    (Position.endOf (cs.take j)).offset < (Position.endOf (cs.take k)).offset := by
  have split : cs.take k = cs.take j ++ (cs.drop j).take (k - j) := by
    rw [← List.take_add]
    congr 1
    omega
  have more : 0 < (Position.endOf ((cs.drop j).take (k - j))).offset := by
    simp only [Position.endOf, List.length_take, List.length_drop]
    omega
  rw [split, end_offset_append]
  omega

theorem take_offset_lt_iff (j k : Nat) (first : j ≤ cs.length) (second : k ≤ cs.length) :
    (Position.endOf (cs.take j)).offset < (Position.endOf (cs.take k)).offset ↔ j < k := by
  constructor
  · intro less
    by_contra reached
    rcases Nat.eq_or_lt_of_le (Nat.le_of_not_lt reached) with rfl | beyond
    · omega
    · have := take_offset_lt cs k j beyond first
      omega
  · exact fun less => take_offset_lt cs j k less second

end Place

section Span

variable (before span left : List Char)

theorem span_stop_column (unfed : '\n' ∉ span) :
    (Position.endOf (before ++ span)).column = (Position.endOf before).column + span.length := by
  rw [end_column, end_column, last_line_append before span unfed, List.length_append]
  omega

theorem span_stop_line :
    (Position.endOf (before ++ span)).line = (Position.endOf before).line ↔ '\n' ∉ span := by
  simp only [Position.endOf, List.count_append, ← List.count_eq_zero]
  omega

theorem span_right :
    (if (Position.endOf (before ++ span)).line = (Position.endOf before).line then
      (Position.endOf (before ++ span)).column - 1
    else (lastLine before ++ firstLine (span ++ left)).length) =
      (lastLine before).length + (firstLine span).length := by
  by_cases unfed : '\n' ∈ span
  · rw [if_neg (mt (span_stop_line before span).mp (not_not_intro unfed)),
      first_line_fed span unfed, List.length_append]
  · have whole : firstLine span = span := by
      have read := first_line_unfed span unfed []
      simpa [firstLine] using read
    rw [if_pos ((span_stop_line before span).mpr unfed), span_stop_column before span unfed,
      end_column, whole]
    omega

theorem span_fits :
    (firstLine span).length ≤ (firstLine (span ++ left)).length := by
  by_cases unfed : '\n' ∈ span
  · rw [first_line_fed span unfed]
  · rw [first_line_unfed span unfed, List.length_append]
    have bound := (List.takeWhile_prefix (p := (· != '\n')) (l := span)).length_le
    unfold firstLine
    omega

theorem caret_at (blanks carets j : Nat) :
    (List.replicate blanks ' ' ++ List.replicate carets '^')[j]? = some '^' ↔
      blanks ≤ j ∧ j < blanks + carets := by
  by_cases blank : j < blanks
  · rw [List.getElem?_append_left (by rwa [List.length_replicate]), List.getElem?_replicate,
      if_pos blank]
    constructor
    · intro same
      cases same
    · omega
  · rw [List.getElem?_append_right (by rw [List.length_replicate]; omega), List.length_replicate,
      List.getElem?_replicate]
    by_cases caret : j - blanks < carets
    · rw [if_pos caret]
      exact ⟨fun _ => by omega, fun _ => rfl⟩
    · rw [if_neg caret]
      constructor
      · intro same
        cases same
      · omega

section Error

variable {before span left} {template : String} {e : ParseError}
  (whole : template.toList = before ++ (span ++ left))
  (located : e.location = ⟨.endOf before, .endOf (before ++ span)⟩)

include whole

theorem place_within (i : Nat) (within : i ≤ span.length) :
    placeOf template (before.length + i) = .endOf (before ++ span.take i) := by
  unfold placeOf
  rw [whole, List.take_length_add_append, List.take_append_of_le_length within]

theorem char_within (i : Nat) (within : i < span.length) :
    template.toList[before.length + i]? = span[i]? := by
  rw [whole, List.getElem?_append_right (Nat.le_add_right _ _), Nat.add_sub_cancel_left,
    List.getElem?_append_left within]

theorem spanned_column (i : Nat) (onLine : i < (firstLine span).length) :
    (placeOf template (before.length + i)).column = (lastLine before).length + i + 1 := by
  obtain ⟨unfed, c, there, -⟩ := (first_line_reaches span i).mp onLine
  obtain ⟨within, -⟩ := List.getElem?_eq_some_iff.mp there
  rw [place_within whole i (Nat.le_of_lt within), span_stop_column before _ unfed, end_column,
    List.length_take]
  omega

include located

-- Offsets tell the span from what is before and behind it, line feeds what of it is on its line.
theorem spanned_iff (k : Nat) :
    Spanned template e k ↔ ∃ i, i < (firstLine span).length ∧ k = before.length + i := by
  have opened : placeOf template before.length = .endOf before := by
    simpa using place_within whole 0 (Nat.zero_le _)
  have ended : placeOf template (before.length + span.length) = .endOf (before ++ span) := by
    simpa using place_within whole span.length (Nat.le_refl _)
  have size : template.toList.length = before.length + (span.length + left.length) := by
    rw [whole, List.length_append, List.length_append]
  constructor
  · rintro ⟨⟨c, shown, other⟩, begun, ahead, line⟩
    rw [located] at begun ahead line
    dsimp only at begun ahead line
    have inside : k < template.toList.length := (List.getElem?_eq_some_iff.mp shown).1
    have behind : before.length ≤ k := by
      rw [← opened] at begun
      by_contra short
      have earlier := take_offset_lt template.toList k before.length (by omega) (by omega)
      exact absurd begun (Nat.not_le_of_lt earlier)
    have reached : k < before.length + span.length := by
      rw [← ended] at ahead
      exact (take_offset_lt_iff template.toList _ _ (by omega) (by omega)).mp ahead
    obtain ⟨i, rfl⟩ := Nat.exists_eq_add_of_le behind
    have within : i < span.length := by omega
    rw [place_within whole i (Nat.le_of_lt within)] at line
    have unfed : '\n' ∉ span.take i := (span_stop_line before (span.take i)).mp line
    rw [char_within whole i within] at shown
    exact ⟨i, (first_line_reaches span i).mpr ⟨unfed, c, shown, other⟩, rfl⟩
  · rintro ⟨i, onLine, rfl⟩
    obtain ⟨unfed, c, there, other⟩ := (first_line_reaches span i).mp onLine
    obtain ⟨within, -⟩ := List.getElem?_eq_some_iff.mp there
    have place := place_within whole i (Nat.le_of_lt within)
    refine ⟨⟨c, (char_within whole i within).trans there, other⟩, ?_, ?_, ?_⟩
    · rw [located, place, end_offset_append]
      exact Nat.le_add_right _ _
    · rw [located, ← ended]
      exact take_offset_lt template.toList _ _ (by omega) (by omega)
    · rw [located, place]
      exact (span_stop_line before (span.take i)).mpr unfed

theorem caret_spanned_iff (j : Nat) :
    ((lastLine before).length ≤ j ∧ j < (lastLine before).length + (firstLine span).length) ↔
      ∃ k, Spanned template e k ∧ (placeOf template k).column = j + 1 := by
  constructor
  · rintro ⟨behind, within⟩
    obtain ⟨i, rfl⟩ := Nat.exists_eq_add_of_le behind
    have onLine : i < (firstLine span).length := by omega
    exact ⟨before.length + i,
      (spanned_iff whole located _).mpr ⟨i, onLine, rfl⟩,
      spanned_column whole i onLine⟩
  · rintro ⟨k, spanned, column⟩
    obtain ⟨i, onLine, rfl⟩ := (spanned_iff whole located k).mp spanned
    rw [spanned_column whole i onLine] at column
    omega

variable (present : 1 ≤ (firstLine span).length)

include present

theorem caret_line_at :
    caretLine template e = some (String.ofList (lastLine before ++ firstLine (span ++ left)),
      String.ofList (List.replicate (lastLine before).length ' '
        ++ List.replicate (firstLine span).length '^')) := by
  have found : (pieces '\n' template)[before.count '\n']? =
      some (String.ofList (lastLine before ++ firstLine (span ++ left))) := by
    rw [pieces, List.getElem?_map, split_on_cut, whole, split_line]
    rfl
  have numbered : (Position.endOf before).line ≠ 0 := by
    simp [Position.endOf]
  have index : (Position.endOf before).line - 1 = before.count '\n' := by
    simp [Position.endOf]
  have right := span_right before span left
  have fits := span_fits span left
  have column := end_column before
  unfold caretLine
  rw [located]
  dsimp only
  rw [if_neg numbered, index, found, Option.map_some, String.length_ofList]
  rw [List.length_append] at right ⊢
  have begun : min ((Position.endOf before).column - 1)
      ((lastLine before).length + (firstLine (span ++ left)).length) =
        (lastLine before).length := by
    omega
  have ended : (if (Position.endOf (before ++ span)).line = (Position.endOf before).line then
      min ((Position.endOf (before ++ span)).column - 1)
        ((lastLine before).length + (firstLine (span ++ left)).length)
      else (lastLine before).length + (firstLine (span ++ left)).length) =
        (lastLine before).length + (firstLine span).length := by
    by_cases same : (Position.endOf (before ++ span)).line = (Position.endOf before).line
    · rw [if_pos same] at right ⊢
      omega
    · rw [if_neg same] at right ⊢
      exact right
  have drawn : max 1 ((lastLine before).length + (firstLine span).length
      - (lastLine before).length) = (firstLine span).length := by
    omega
  rw [begun, ended, drawn]

end Error

end Span

-- The brace of an argument is on the line where its span begins, so there is a caret.
theorem brace_shown (seen : List Char) : 1 ≤ (firstLine ('{' :: seen)).length :=
  Nat.le_add_left 1 (firstLine seen).length

theorem underlined_at (template : String) (e : ParseError) (before seen left text : List Char)
    (whole : template.toList = before ++ '{' :: (seen ++ left)) (unquoted : Unquoted before)
    (located : e.location = ⟨.endOf before, .endOf (before ++ '{' :: seen)⟩)
    (refusal : Token.readArgument (seen ++ left) = .error ⟨e.fault, text⟩) :
    Underlined template e (String.ofList (lastLine before ++ firstLine ('{' :: seen ++ left)))
      (String.ofList (List.replicate (lastLine before).length ' '
        ++ List.replicate (firstLine ('{' :: seen)).length '^')) := by
  have begun : e.location.start = .endOf before := by rw [located]
  have column : e.location.start.column - 1 = (lastLine before).length := by
    rw [begun, end_column]
    exact Nat.add_sub_cancel_left _ _
  have present := brace_shown seen
  have fits := span_fits ('{' :: seen) left
  have right := span_right before ('{' :: seen) left
  exact {
    numbered := by
      refine ⟨before.count '\n', ?_, ?_⟩
      · rw [begun]
        exact Nat.add_comm _ _
      · rw [whole, String.toList_ofList]
        exact split_line before _
    drawn := by
      refine ⟨(firstLine ('{' :: seen)).length, present, ?_, ?_⟩
      · rw [column, String.toList_ofList]
      · rw [column, located, String.length_ofList]
        exact right.symm
    opening := by
      refine ⟨?_, before, seen ++ left, text, whole, unquoted, begun, refusal⟩
      rw [column, String.toList_ofList, List.getElem?_append_right (Nat.le_refl _), Nat.sub_self]
      rfl
    carets := by
      intro j
      rw [String.toList_ofList, caret_at]
      exact caret_spanned_iff whole located j
    within := by
      rw [String.length_ofList, String.length_ofList, List.length_append, List.length_append,
        List.length_replicate, List.length_replicate]
      exact Nat.add_le_add_left fits _
    start := by
      rw [begun, end_column, String.length_ofList, List.length_append]
      omega
    stop := by
      rw [located, String.length_ofList]
      dsimp only
      intro alone
      rw [if_pos alone] at right
      rw [List.length_append, end_column before]
      omega }

-- The carets are under the part of the span that lies on the line of the brace.
theorem caret_marks_span (template : String) (properties : Properties) (e : ParseError)
    (failed : parse template properties = .error e) :
    ∃ line marker, caretLine template e = some (line, marker) ∧
      Underlined template e line marker := by
  obtain ⟨tokens, rest, broken, whole, standing, refused, same⟩ :=
    (parse_error_iff template properties e).mp failed
  obtain ⟨seen, left, text, rfl⟩ := refused_span rest broken refused
  have refusal := (read_argument_error_iff (seen ++ left) broken).mpr refused
  have unquoted := standing_unquoted tokens (seen ++ left) standing
  have located : e.location = ⟨.endOf (textOf tokens), .endOf (textOf tokens ++ '{' :: seen)⟩ := by
    rw [same, text]
  have fault : e.fault = broken.fault := by rw [same]
  refine ⟨_, _, caret_line_at whole located (brace_shown seen), ?_⟩
  apply underlined_at template e (textOf tokens) seen left broken.text whole unquoted located
  rw [fault]
  exact refusal

-- A brace behind a character of two code units, and a span that ends on the line behind it.
def brokenTemplate : String := "a\n😀\x7bx\ny\x7d"

def brokenError : ParseError := ⟨.malformed, brokenTemplate, ⟨⟨4, 2, 2⟩, ⟨7, 3, 1⟩⟩⟩

theorem caret_marks_span_over_lines :
    parse brokenTemplate [] = .error brokenError ∧
      caretLine brokenTemplate brokenError = some ("😀\x7bx", " ^^") ∧
      Underlined brokenTemplate brokenError "😀\x7bx" " ^^" := by
  have lexed : lex brokenTemplate.toList =
      ([.plain 'a', .plain '\n', .plain '😀'], some ⟨.malformed, ['{', 'x', '\n']⟩) := by
    change lex ['a', '\n', '😀', '{', 'x', '\n', 'y', '}'] = _
    rw [lex_read _ _ (.plain 'a') _ rfl, lex_read _ _ (.plain '\n') _ rfl,
      lex_read _ _ (.plain '😀') _ rfl, lex_broken _ _ ⟨.malformed, ['{', 'x', '\n']⟩ rfl]
  have failed : parse brokenTemplate [] = .error brokenError := by
    unfold parse parseFrom
    rw [lexed]
    rfl
  obtain ⟨line, marker, found, underlined⟩ := caret_marks_span brokenTemplate [] brokenError failed
  have shown : caretLine brokenTemplate brokenError = some ("😀\x7bx", " ^^") := rfl
  rw [shown] at found
  cases found
  exact ⟨failed, shown, underlined⟩

end StructuredLog.CommandLine
