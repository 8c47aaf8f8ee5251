import StructuredLog.Proofs.Template.Spans

set_option autoImplicit false

namespace StructuredLog.Template

def Position.Counted (p : Position) : Prop := 1 ≤ p.line ∧ 1 ≤ p.column

def Element.shift (base : Position) (e : Element) : Element :=
  { e with location := e.location.shift base }

-- There is no run of other tokens at the end that what follows could go on with.
def Closed (tokens : List Token) : Prop := ∀ t ∈ tokens.getLast?, t.isArgument = true

theorem start_counted : Position.start.Counted := ⟨Nat.le_refl 1, Nat.le_refl 1⟩

theorem advance_counted (p : Position) (c : Char) (counted : p.Counted) : (p.advance c).Counted := by
  unfold Position.advance
  by_cases feed : c = '\n'
  · rw [if_pos feed]
    exact ⟨Nat.le_add_left 1 p.line, Nat.le_refl 1⟩
  · rw [if_neg feed]
    exact ⟨counted.1, Nat.le_add_left 1 p.column⟩

theorem after_counted (p : Position) (cs : List Char) (counted : p.Counted) : (p.after cs).Counted := by
  induction cs generalizing p with
  | nil => exact counted
  | cons c cs ih => exact ih (p.advance c) (advance_counted p c counted)

theorem shift_start (base : Position) : base.shift .start = base := by
  simp [Position.shift, Position.start]

theorem advance_shift (base p : Position) (c : Char) (counted : p.Counted) :
    (base.shift p).advance c = base.shift (p.advance c) := by
  obtain ⟨line, column⟩ := counted
  unfold Position.advance Position.shift
  by_cases feed : c = '\n'
  · have later : ¬ p.line = 0 := by omega
    have lines : base.line + p.line - 1 + 1 = base.line + (p.line + 1) - 1 := by omega
    simp [feed, later, lines, Nat.add_assoc]
  · by_cases firstLine : p.line = 1
    · have columns : base.column + p.column - 1 + 1 = base.column + (p.column + 1) - 1 := by omega
      simp [feed, firstLine, columns, Nat.add_assoc]
    · simp [feed, firstLine, Nat.add_assoc]

theorem after_shift (base p : Position) (cs : List Char) (counted : p.Counted) :
    (base.shift p).after cs = base.shift (p.after cs) := by
  induction cs generalizing p with
  | nil => rfl
  | cons c cs ih =>
      rw [Position.after_cons, Position.after_cons, advance_shift base p c counted]
      exact ih (p.advance c) (advance_counted p c counted)

theorem locate_all_shift (properties : Properties) (base p : Position) (parts : List Segment)
    (counted : p.Counted) :
    locateAll properties (base.shift p) parts =
      (locateAll properties p parts).map (Element.shift base) := by
  induction parts generalizing p with
  | nil => rfl
  | cons s parts ih =>
      have here : s.locate properties (base.shift p) = (s.locate properties p).shift base := by
        rw [Segment.locate, after_shift base p s.text counted]
        rfl
      rw [locateAll, locateAll, List.map_cons, here, after_shift base p s.text counted,
        ih (p.after s.text) (after_counted p s.text counted)]

theorem locate_all_append (properties : Properties) (p : Position) (before after : List Segment) :
    locateAll properties p (before ++ after) =
      locateAll properties p before ++
        locateAll properties (p.after (before.flatMap Segment.text)) after := by
  induction before generalizing p with
  | nil => rfl
  | cons s before ih =>
      rw [List.cons_append, locateAll, locateAll, ih, List.flatMap_cons, Position.after_append]
      rfl

-- Only the last token asks anything of what follows the text.
theorem fits_append (t : Token) (rest more : List Char) (fits : t.Fits rest)
    (inside : rest ≠ [] ∨ t.isArgument = true) : t.Fits (rest ++ more) := by
  cases t with
  | argument before name after => exact fits
  | pair => trivial
  | span quoted closed =>
      have nonempty : rest ≠ [] := inside.resolve_right (by simp [Token.isArgument])
      obtain ⟨c, tail, rfl⟩ := List.exists_cons_of_ne_nil nonempty
      cases closed with
      | true => exact fits
      | false => exact absurd fits.2 nonempty
  | plain c =>
      have nonempty : rest ≠ [] := inside.resolve_right (by simp [Token.isArgument])
      obtain ⟨b, tail, rfl⟩ := List.exists_cons_of_ne_nil nonempty
      exact fits

theorem closed_tail (t : Token) (tokens : List Token) (closed : Closed (t :: tokens)) :
    Closed tokens := by
  intro u last
  apply closed u
  cases tokens with
  | nil => cases last
  | cons v tokens => rwa [List.getLast?_cons_cons]

theorem closed_inside (t : Token) (rest : List Char) (tokens : List Token)
    (closed : Closed (t :: tokens)) (cut : Cut rest tokens) :
    rest ≠ [] ∨ t.isArgument = true := by
  cases cut with
  | nil => exact .inr (closed t rfl)
  | cons u rest tokens _ _ => exact .inl (by simp [Token.text_ne_nil u])

theorem lex_append (first second : List Char) (tokens : List Token) (cut : Cut first tokens)
    (closed : Closed tokens) :
    lex (first ++ second) = (tokens ++ (lex second).1, (lex second).2) := by
  induction cut with
  | nil => rfl
  | cons t rest tokens fits cut ih =>
      have further := fits_append t rest second fits (closed_inside t rest tokens closed cut)
      obtain ⟨c, cs, whole⟩ : ∃ c cs, t.text ++ (rest ++ second) = c :: cs :=
        List.exists_cons_of_ne_nil (by simp [Token.text_ne_nil t])
      have read := (Token.read_ok_iff c cs t (rest ++ second)).mpr ⟨whole.symm, further⟩
      rw [List.append_assoc, whole, lex_read c cs t (rest ++ second) read,
        ih (closed_tail t tokens closed)]
      rfl

theorem segments_ne_nil (t : Token) (tokens : List Token) : segments (t :: tokens) ≠ [] := by
  rw [segments_cons]
  rcases argument_or_plain t with ⟨before, name, after, rfl⟩ | plain
  · exact List.cons_ne_nil _ _
  · rw [push_plain t _ plain]
    split <;> exact List.cons_ne_nil _ _

theorem push_append (t : Token) (s : Segment) (before after : List Segment) :
    Segment.push t (s :: before ++ after) = Segment.push t (s :: before) ++ after := by
  rcases argument_or_plain t with ⟨front, name, back, rfl⟩ | plain
  · rfl
  · rw [push_plain t _ plain, push_plain t _ plain]
    cases s <;> rfl

theorem push_last_kind (t : Token) (s : Segment) (parts : List Segment) :
    (Segment.push t (s :: parts)).getLast?.map Segment.kind =
      (s :: parts).getLast?.map Segment.kind := by
  rcases argument_or_plain t with ⟨before, name, after, rfl⟩ | plain
  · exact congrArg (Option.map Segment.kind) List.getLast?_cons_cons
  · rw [push_plain t _ plain]
    cases s with
    | argument token name => exact congrArg (Option.map Segment.kind) List.getLast?_cons_cons
    | literal run =>
        cases parts with
        | nil => rfl
        | cons u parts => rw [List.getLast?_cons_cons, List.getLast?_cons_cons]

theorem segments_append (before after : List Token) (closed : Closed before) :
    segments (before ++ after) = segments before ++ segments after := by
  induction before with
  | nil => rfl
  | cons t before ih =>
      rw [List.cons_append, segments_cons, segments_cons, ih (closed_tail t before closed)]
      cases before with
      | nil =>
          have argument : t.isArgument = true := closed t rfl
          cases t with
          | argument front name back => rfl
          | pair | span | plain => cases argument
      | cons u before =>
          obtain ⟨s, parts, pushed⟩ := List.exists_cons_of_ne_nil (segments_ne_nil u before)
          rw [pushed, push_append]

theorem segments_last_kind (t : Token) (tokens : List Token) (last : Token)
    (found : (t :: tokens).getLast? = some last) :
    (segments (t :: tokens)).getLast?.map Segment.kind =
      some (if last.isArgument then .argument else .literal) := by
  induction tokens generalizing t with
  | nil =>
      have same : t = last := Option.some.inj found
      subst same
      cases t <;> rfl
  | cons u tokens ih =>
      obtain ⟨s, parts, pushed⟩ := List.exists_cons_of_ne_nil (segments_ne_nil u tokens)
      rw [segments_cons, pushed, push_last_kind, ← pushed]
      exact ih u (by rwa [List.getLast?_cons_cons] at found)

theorem locate_all_last_kind (properties : Properties) (p : Position) (parts : List Segment) :
    (locateAll properties p parts).getLast?.map Element.kind =
      parts.getLast?.map Segment.kind := by
  have kinds := congrArg (List.map Prod.fst) (locate_all_contents properties p parts)
  rw [List.map_map, List.map_map] at kinds
  rw [← List.getLast?_map, ← List.getLast?_map]
  exact congrArg List.getLast? kinds

theorem closed_of_ended (tokens : List Token) (properties : Properties) (p : Position)
    (ended : ∀ e ∈ (locateAll properties p (segments tokens)).getLast?, e.kind = .argument) :
    Closed tokens := by
  intro last found
  obtain ⟨t, rest, rfl⟩ : ∃ t rest, tokens = t :: rest := by
    cases tokens with
    | nil => cases found
    | cons t rest => exact ⟨t, rest, rfl⟩
  have kind := (locate_all_last_kind properties p (segments (t :: rest))).trans
    (segments_last_kind t rest last found)
  obtain ⟨e, known, same⟩ := Option.map_eq_some_iff.mp kind
  rw [ended e known] at same
  cases argument : last.isArgument with
  | true => rfl
  | false => simp [argument] at same

-- Behind an argument a template goes on as if it began there.
theorem parse_after_argument (first second : String) (properties : Properties)
    (elements : List Element) (ok : parse first properties = .ok elements)
    (ended : ∀ e ∈ elements.getLast?, e.kind = .argument) :
    parse (first ++ second) properties =
      match parse second properties with
      | .ok more => .ok (elements ++ more.map (Element.shift (.endOf first.toList)))
      | .error e => .error ⟨e.fault, first ++ second, e.location.shift (.endOf first.toList)⟩ := by
  obtain ⟨tokens, cut, rfl⟩ := (parse_ok_iff first properties elements).mp ok
  have closed := closed_of_ended tokens properties .start ended
  have whole := cut_text first.toList tokens cut
  have place : Position.start.after (textOf tokens) = .endOf first.toList := by
    rw [whole, after_start]
  unfold parse parseFrom
  rw [String.toList_append, lex_append first.toList second.toList tokens cut closed]
  cases lex second.toList with
  | mk tokens' broken =>
      cases broken with
      | none =>
          dsimp only
          rw [segments_append tokens tokens' closed, locate_all_append, segments_text, place,
            ← locate_all_shift properties _ .start _ start_counted, shift_start]
      | some broken =>
          have texts : textOf (tokens ++ tokens') = textOf tokens ++ textOf tokens' :=
            List.flatMap_append
          have counted := after_counted .start (textOf tokens') start_counted
          dsimp only [Location.shift]
          rw [texts, Position.after_append, place, ← after_shift _ _ _ counted,
            ← after_shift _ _ _ start_counted, shift_start]

def greetingPart : String := "a\n\x7bx\x7d"
def brokenPart : String := "b\x7b\n"

theorem parse_after_argument_second_unclosed :
    parse greetingPart [] = .ok
        [⟨.literal, "a\n", ⟨⟨0, 1, 1⟩, ⟨2, 2, 1⟩⟩⟩, ⟨.argument, "x", ⟨⟨2, 2, 1⟩, ⟨5, 2, 4⟩⟩⟩] ∧
      parse brokenPart [] = .error ⟨.unclosed, brokenPart, ⟨⟨1, 1, 2⟩, ⟨3, 2, 1⟩⟩⟩ ∧
      parse (greetingPart ++ brokenPart) [] =
        .error ⟨.unclosed, greetingPart ++ brokenPart, ⟨⟨6, 2, 5⟩, ⟨8, 3, 1⟩⟩⟩ := by
  have lexed : lex greetingPart.toList =
      ([.plain 'a', .plain '\n', .argument [] ['x'] []], none) := by
    change lex ['a', '\n', '{', 'x', '}'] = _
    rw [lex_read _ _ (.plain 'a') _ rfl, lex_read _ _ (.plain '\n') _ rfl,
      lex_read _ _ (.argument [] ['x'] []) _ rfl, lex]
  have broken : lex brokenPart.toList = ([.plain 'b'], some ⟨.unclosed, ['{', '\n']⟩) := by
    change lex ['b', '{', '\n'] = _
    rw [lex_read _ _ (.plain 'b') _ rfl, lex_broken _ _ ⟨.unclosed, ['{', '\n']⟩ rfl]
  have ok : parse greetingPart [] = .ok
      [⟨.literal, "a\n", ⟨⟨0, 1, 1⟩, ⟨2, 2, 1⟩⟩⟩, ⟨.argument, "x", ⟨⟨2, 2, 1⟩, ⟨5, 2, 4⟩⟩⟩] :=
    (parse_ok_iff greetingPart [] _).mpr ⟨_, lex_cut _ _ lexed, rfl⟩
  have failed : parse brokenPart [] = .error ⟨.unclosed, brokenPart, ⟨⟨1, 1, 2⟩, ⟨3, 2, 1⟩⟩⟩ := by
    unfold parse parseFrom
    rw [broken]
    rfl
  refine ⟨ok, failed, ?_⟩
  have together := parse_after_argument greetingPart brokenPart [] _ ok (by simp)
  rw [failed] at together
  exact together

end StructuredLog.Template
