import Mathlib.Data.List.TakeWhile
import StructuredLog.Template.Parser

set_option autoImplicit false

namespace StructuredLog.Template

namespace Token

-- What is asked of the first character of a stretch makes every stretch as long as it can be.
def Fits : Token → List Char → Prop
  | .argument before name after, _ =>
      (∀ c ∈ before, isSpace c = true) ∧ name ≠ [] ∧ (∀ c ∈ name, isNameChar c = true) ∧
        (∀ c ∈ name.head?, isSpace c = false) ∧ (∀ c ∈ after, isSpace c = true) ∧
        ∀ c ∈ after.head?, isNameChar c = false
  | .pair, _ => True
  | .span quoted closed, rest =>
      (∃ b ∈ quoted.head?, isBrace b = true) ∧
        if closed = true then rest.head? ≠ some '\'' else rest = []
  | .plain c, rest =>
      c ≠ '{' ∧ (c = '\'' → ∀ b ∈ rest.head?, b ≠ '\'' ∧ isBrace b = false)

end Token

inductive Cut : List Char → List Token → Prop
  | nil : Cut [] []
  | cons (t : Token) (rest : List Char) (tokens : List Token) :
      t.Fits rest → Cut rest tokens → Cut (t.text ++ rest) (t :: tokens)

def Substituted (properties : Properties) (name value : String) : Prop :=
  (∃ found, properties.find? name = some found ∧ found ≠ .null ∧ value = coerce found) ∨
    ((properties.find? name = none ∨ properties.find? name = some .null) ∧ value = name)

-- Each argument on its own, every maximal run of other tokens as one literal.
inductive Decoded (properties : Properties) : List Token → List (Kind × String) → Prop
  | nil : Decoded properties [] []
  | argument (before name after : List Char) (value : String) (tokens : List Token)
      (contents : List (Kind × String)) :
      Substituted properties (String.ofList name) value → Decoded properties tokens contents →
      Decoded properties (.argument before name after :: tokens) ((.argument, value) :: contents)
  | literal (run tokens : List Token) (contents : List (Kind × String)) :
      run ≠ [] → (∀ t ∈ run, t.isArgument = false) → (∀ t ∈ tokens.head?, t.isArgument = true) →
      Decoded properties tokens contents →
      Decoded properties (run ++ tokens)
        ((.literal, String.ofList (run.flatMap Token.literal)) :: contents)

def Element.content (e : Element) : Kind × String := (e.kind, e.value)

section Stretches

variable {α : Type} {p : α → Bool}

theorem takeWhile_stretch (run rest : List α) (inside : ∀ a ∈ run, p a = true)
    (stop : ∀ a ∈ rest.head?, p a = false) : (run ++ rest).takeWhile p = run := by
  rw [List.takeWhile_append_of_pos inside]
  cases rest with
  | nil => simp
  | cons a tail => simp [stop a rfl]

theorem dropWhile_stretch (run rest : List α) (inside : ∀ a ∈ run, p a = true)
    (stop : ∀ a ∈ rest.head?, p a = false) : (run ++ rest).dropWhile p = rest := by
  rw [List.dropWhile_append_of_pos inside]
  cases rest with
  | nil => simp
  | cons a tail => simp [stop a rfl]

theorem dropWhile_stops (l : List α) : ∀ a ∈ (l.dropWhile p).head?, p a = false := by
  intro a first
  have stopped := List.head?_dropWhile_not p l
  rw [Option.mem_def.mp first] at stopped
  exact stopped

end Stretches

namespace Token

theorem quoted_span_stops (cs : List Char) :
    if (quotedSpan cs).2.1 = true then (quotedSpan cs).2.2.head? ≠ some '\''
    else (quotedSpan cs).2.2 = [] := by
  fun_induction quotedSpan cs with
  | case1 => simp
  | case2 rest quoted closed after result ih => simpa only [result] using ih
  | case3 rest single =>
      cases rest with
      | nil => simp
      | cons c tail =>
          have other : c ≠ '\'' := fun same => single tail (by rw [same])
          simpa using other
  | case4 c rest _ _ quoted closed after result ih => simpa only [result] using ih

theorem quoted_span_head (b : Char) (cs : List Char) (brace : isBrace b = true) :
    (quotedSpan (b :: cs)).1.head? = some b := by
  have other : b ≠ '\'' := by
    intro same
    subst same
    exact absurd brace (by decide)
  rw [quotedSpan.eq_4 b cs (fun tail same _ => other same) other]
  rfl

theorem quoted_span_closed (quoted rest : List Char) (single : rest.head? ≠ some '\'') :
    quotedSpan (double quoted ++ '\'' :: rest) = (quoted, true, rest) := by
  induction quoted with
  | nil =>
      cases rest with
      | nil => rfl
      | cons c tail =>
          have other : c ≠ '\'' := by simpa using single
          simp [double_nil, quotedSpan, other]
  | cons c tail ih =>
      by_cases apostrophe : c = '\''
      · subst c
        simp [double_cons, quotedSpan, ih]
      · simp [double_cons, apostrophe, quotedSpan, ih]

theorem quoted_span_open (quoted : List Char) :
    quotedSpan (double quoted) = (quoted, false, []) := by
  induction quoted with
  | nil => rfl
  | cons c tail ih =>
      by_cases apostrophe : c = '\''
      · subst c
        simp [double_cons, quotedSpan, ih]
      · simp [double_cons, apostrophe, quotedSpan, ih]

theorem takeWhile_head {α : Type} {p : α → Bool} (l : List α) :
    ∀ a ∈ (l.takeWhile p).head?, a ∈ l.head? := by
  intro a first
  rw [List.head?_takeWhile, Option.mem_def, Option.filter_eq_some_iff] at first
  exact first.1

theorem read_argument_fits (cs : List Char) (t : Token) (rest : List Char)
    (read : readArgument cs = .ok (t, rest)) : t.Fits rest := by
  unfold readArgument at read
  dsimp only at read
  have stopped := dropWhile_stops (p := isSpace) cs
  generalize cs.dropWhile isSpace = named at read stopped
  split at read
  · cases read
  · cases read
  · split at read
    · cases read
    · rename_i nonempty
      split at read
      · cases read
      · cases read
        exact ⟨fun c member => List.mem_takeWhile_imp member, by simpa using nonempty,
          fun c member => List.mem_takeWhile_imp member,
          fun c first => stopped c (takeWhile_head named c first),
          fun c member => List.mem_takeWhile_imp member,
          fun c first => dropWhile_stops named c (takeWhile_head _ c first)⟩
      · cases read

theorem read_fits (c : Char) (cs : List Char) (t : Token) (rest : List Char)
    (ok : read c cs = .ok (t, rest)) : t.Fits rest := by
  unfold read at ok
  by_cases opening : c = '{'
  · rw [if_pos opening] at ok
    exact read_argument_fits cs t rest ok
  rw [if_neg opening] at ok
  by_cases apostrophe : c = '\''
  · rw [if_pos apostrophe] at ok
    split at ok
    · cases ok
      trivial
    · rename_i b tail single
      by_cases brace : isBrace b = true
      · rw [if_pos brace] at ok
        cases ok
        exact ⟨⟨b, quoted_span_head b tail brace, brace⟩, quoted_span_stops (b :: tail)⟩
      · rw [if_neg brace] at ok
        cases ok
        refine ⟨opening, fun _ a first => ?_⟩
        cases Option.some.inj first
        exact ⟨single, by simpa using brace⟩
    · cases ok
      exact ⟨opening, fun _ a first => nomatch first⟩
  · rw [if_neg apostrophe] at ok
    cases ok
    exact ⟨opening, fun same => absurd same apostrophe⟩

theorem read_argument_text_fits (before name after rest : List Char)
    (fits : (Token.argument before name after).Fits rest) :
    readArgument (before ++ name ++ after ++ '}' :: rest) = .ok (.argument before name after, rest) := by
  obtain ⟨spaces, nonempty, named, unspaced, padding, maximal⟩ := fits
  obtain ⟨c, tail, rfl⟩ := List.exists_cons_of_ne_nil nonempty
  have namedFirst : isNameChar c = true := named c (by simp)
  have notClosing : c ≠ '}' := by
    intro same
    subst same
    exact absurd namedFirst (by decide)
  have afterStop : ∀ a ∈ (after ++ '}' :: rest).head?, isNameChar a = false := by
    cases after with
    | nil =>
        intro a first
        cases Option.some.inj first
        exact isNameChar_close
    | cons d more => exact maximal
  have beforeStop : ∀ a ∈ ((c :: tail) ++ (after ++ '}' :: rest)).head?, isSpace a = false := by
    intro a first
    exact unspaced a first
  have closing : ∀ a ∈ ('}' :: rest).head?, isSpace a = false := by
    intro a first
    cases Option.some.inj first
    exact isSpace_close
  unfold readArgument
  dsimp only
  rw [List.append_assoc, List.append_assoc, takeWhile_stretch _ _ spaces beforeStop,
    dropWhile_stretch _ _ spaces beforeStop]
  split
  · rename_i empty
    cases empty
  · rename_i closed
    cases closed
    exact absurd rfl notClosing
  · rw [takeWhile_stretch _ _ named afterStop, dropWhile_stretch _ _ named afterStop,
      takeWhile_stretch _ _ padding closing, dropWhile_stretch _ _ padding closing]
    rfl

theorem read_text_fits (t : Token) (rest : List Char) (c : Char) (cs : List Char)
    (fits : t.Fits rest) (whole : t.text ++ rest = c :: cs) : read c cs = .ok (t, rest) := by
  cases t with
  | argument before name after =>
      obtain ⟨rfl, rfl⟩ : '{' = c ∧ before ++ name ++ after ++ '}' :: rest = cs := by
        simpa [text] using whole
      exact read_argument_text_fits before name after rest fits
  | pair =>
      cases whole
      rfl
  | plain d =>
      obtain ⟨rfl, rfl⟩ : d = c ∧ rest = cs := by simpa [text] using whole
      obtain ⟨notOpening, lone⟩ := fits
      unfold read
      rw [if_neg notOpening]
      by_cases apostrophe : d = '\''
      · rw [if_pos apostrophe]
        cases rest with
        | nil => rfl
        | cons b tail =>
            obtain ⟨single, unquoted⟩ := lone apostrophe b rfl
            split
            · rename_i doubled
              cases doubled
              exact absurd rfl single
            · rename_i same
              cases same
              rw [unquoted]
              rfl
            · rfl
      · rw [if_neg apostrophe]
  | span quoted closed =>
      obtain ⟨⟨b, first, brace⟩, stop⟩ := fits
      obtain ⟨tail, rfl⟩ : ∃ tail, quoted = b :: tail := by
        cases quoted with
        | nil => cases first
        | cons d tail => exact ⟨tail, by rw [Option.some.inj first]⟩
      have other : b ≠ '\'' := by
        intro same
        subst same
        exact absurd brace (by decide)
      have spanned : quotedSpan cs = (b :: tail, closed, rest) := by
        cases closed with
        | true =>
            have whole' : cs = double (b :: tail) ++ '\'' :: rest := by
              simpa [text] using (List.cons.inj whole).2.symm
            rw [whole', quoted_span_closed _ _ stop]
        | false =>
            have ended : rest = [] := by simpa using stop
            have whole' : cs = double (b :: tail) := by
              simpa [text, ended] using (List.cons.inj whole).2.symm
            rw [whole', quoted_span_open, ended]
      obtain ⟨more, rfl⟩ : ∃ more, cs = b :: more := by
        have inside := (List.cons.inj whole).2
        simp only [double_cons, if_neg other, List.append_assoc] at inside
        exact ⟨_, inside.symm⟩
      cases (List.cons.inj whole).1
      unfold read
      rw [if_neg (by decide), if_pos rfl]
      split
      · rename_i doubled
        cases doubled
        exact absurd rfl other
      · rename_i d more' _ same
        cases same
        rw [if_pos brace, spanned]
      · rename_i empty
        cases empty

theorem read_ok_iff (c : Char) (cs : List Char) (t : Token) (rest : List Char) :
    read c cs = .ok (t, rest) ↔ c :: cs = t.text ++ rest ∧ t.Fits rest := by
  constructor
  · intro ok
    exact ⟨read_text c cs t rest ok, read_fits c cs t rest ok⟩
  · intro found
    obtain ⟨whole, fits⟩ := found
    exact read_text_fits t rest c cs fits whole.symm

end Token

theorem lex_read (c : Char) (cs : List Char) (t : Token) (rest : List Char)
    (ok : Token.read c cs = .ok (t, rest)) :
    lex (c :: cs) = (t :: (lex rest).1, (lex rest).2) := by
  rw [lex]
  split
  · rename_i failed
    rw [ok] at failed
    cases failed
  · rename_i t' rest' read
    rw [ok] at read
    cases read
    rfl

theorem lex_broken (c : Char) (cs : List Char) (broken : Broken)
    (failed : Token.read c cs = .error broken) : lex (c :: cs) = ([], some broken) := by
  rw [lex]
  split
  · rename_i broken' read
    rw [failed] at read
    cases read
    rfl
  · rename_i read
    rw [failed] at read
    cases read

theorem lex_cut (cs : List Char) (tokens : List Token) (ok : lex cs = (tokens, none)) :
    Cut cs tokens := by
  cases cs with
  | nil =>
      rw [lex] at ok
      cases ok
      exact .nil
  | cons c cs =>
      cases read : Token.read c cs with
      | error broken =>
          rw [lex_broken c cs broken read] at ok
          cases ok
      | ok result =>
          obtain ⟨t, rest⟩ := result
          have shorter := Token.read_shorter c cs t rest read
          obtain ⟨whole, fits⟩ := (Token.read_ok_iff c cs t rest).mp read
          rw [lex_read c cs t rest read] at ok
          obtain ⟨rfl, ended⟩ := Prod.mk.inj ok
          rw [whole]
          exact .cons t rest _ fits (lex_cut rest _ (Prod.ext rfl ended))
termination_by cs.length

theorem cut_lex (cs : List Char) (tokens : List Token) (cut : Cut cs tokens) :
    lex cs = (tokens, none) := by
  induction cut with
  | nil => rw [lex]
  | cons t rest tokens fits _ ih =>
      obtain ⟨c, cs, whole⟩ : ∃ c cs, t.text ++ rest = c :: cs :=
        List.exists_cons_of_ne_nil (by simp [Token.text_ne_nil t])
      have read := (Token.read_ok_iff c cs t rest).mpr ⟨whole.symm, fits⟩
      rw [whole, lex_read c cs t rest read, ih]

theorem lex_cut_iff (cs : List Char) (tokens : List Token) :
    lex cs = (tokens, none) ↔ Cut cs tokens :=
  ⟨lex_cut cs tokens, cut_lex cs tokens⟩

theorem cut_unique (cs : List Char) (a b : List Token) (first : Cut cs a) (second : Cut cs b) :
    a = b := by
  have same := (cut_lex cs a first).symm.trans (cut_lex cs b second)
  exact congrArg Prod.fst same

theorem parse_ok_iff (template : String) (properties : Properties) (elements : List Element) :
    parse template properties = .ok elements ↔
      ∃ tokens, Cut template.toList tokens ∧
        elements = locateAll properties .start (segments tokens) := by
  unfold parse parseFrom
  cases lexed : lex template.toList with
  | mk tokens broken =>
      cases broken with
      | none =>
          have cut := (lex_cut_iff template.toList tokens).mp lexed
          constructor
          · intro ok
            cases ok
            exact ⟨tokens, cut, rfl⟩
          · intro found
            obtain ⟨others, cut', rfl⟩ := found
            rw [cut_unique _ _ _ cut cut']
      | some broken =>
          constructor
          · intro ok
            cases ok
          · intro found
            obtain ⟨others, cut', _⟩ := found
            rw [(lex_cut_iff _ _).mpr cut'] at lexed
            cases lexed

theorem substituted_iff (properties : Properties) (name value : String) :
    Substituted properties name value ↔ value = resolve properties name := by
  unfold Substituted resolve
  cases properties.find? name with
  | none => simp
  | some found => cases found <;> simp

def Segment.content (properties : Properties) (s : Segment) : Kind × String :=
  (s.kind, s.value properties)

theorem locate_all_contents (properties : Properties) (p : Position) (parts : List Segment) :
    (locateAll properties p parts).map Element.content =
      parts.map (Segment.content properties) := by
  induction parts generalizing p with
  | nil => rfl
  | cons s rest ih =>
      rw [locateAll, List.map_cons, List.map_cons, ih]
      rfl

theorem argument_or_plain (t : Token) :
    (∃ before name after, t = .argument before name after) ∨ t.isArgument = false := by
  cases t with
  | argument before name after => exact .inl ⟨before, name, after, rfl⟩
  | pair => exact .inr rfl
  | span quoted closed => exact .inr rfl
  | plain c => exact .inr rfl

theorem push_plain (t : Token) (parts : List Segment) (plain : t.isArgument = false) :
    Segment.push t parts =
      match parts with
      | .literal run :: rest => .literal (t :: run) :: rest
      | _ => .literal [t] :: parts := by
  cases t with
  | argument before name after => cases plain
  | pair => rfl
  | span quoted closed => rfl
  | plain c => rfl

theorem segments_cons (t : Token) (tokens : List Token) :
    segments (t :: tokens) = Segment.push t (segments tokens) := rfl

theorem segments_run (run tokens : List Token) (nonempty : run ≠ [])
    (plain : ∀ t ∈ run, t.isArgument = false) (stop : ∀ t ∈ tokens.head?, t.isArgument = true) :
    segments (run ++ tokens) = .literal run :: segments tokens := by
  induction run with
  | nil => exact absurd rfl nonempty
  | cons t run ih =>
      have first := plain t (by simp)
      rw [List.cons_append, segments_cons, push_plain t _ first]
      cases run with
      | nil =>
          cases tokens with
          | nil => rfl
          | cons u tokens =>
              have argument := stop u rfl
              cases u with
              | argument before name after => rfl
              | pair => cases argument
              | span quoted closed => cases argument
              | plain c => cases argument
      | cons u run =>
          rw [ih (by simp) (fun v member => plain v (by simp [member]))]

theorem decoded_content (properties : Properties) (tokens : List Token)
    (contents : List (Kind × String)) (decoded : Decoded properties tokens contents) :
    contents = (segments tokens).map (Segment.content properties) := by
  induction decoded with
  | nil => rfl
  | argument before name after value tokens contents substituted _ ih =>
      rw [(substituted_iff _ _ _).mp substituted, ih]
      rfl
  | literal run tokens contents nonempty plain stop _ ih =>
      rw [segments_run run tokens nonempty plain stop, ih]
      rfl

theorem decoded_exists (properties : Properties) (tokens : List Token) :
    ∃ contents, Decoded properties tokens contents := by
  cases tokens with
  | nil => exact ⟨[], .nil⟩
  | cons t tokens =>
      by_cases argument : t.isArgument = true
      · cases t with
        | argument before name after =>
            obtain ⟨contents, decoded⟩ := decoded_exists properties tokens
            exact ⟨_, .argument before name after _ tokens contents
              ((substituted_iff _ _ _).mpr rfl) decoded⟩
        | pair => cases argument
        | span quoted closed => cases argument
        | plain c => cases argument
      · -- The run goes on as far as tokens are no arguments; what follows it is shorter.
        have shorter := List.length_dropWhile_le (fun t : Token => !t.isArgument) tokens
        obtain ⟨contents, decoded⟩ :=
          decoded_exists properties (tokens.dropWhile fun t => !t.isArgument)
        have whole : t :: tokens = (t :: tokens.takeWhile fun t => !t.isArgument) ++
            tokens.dropWhile fun t => !t.isArgument := by
          rw [List.cons_append, List.takeWhile_append_dropWhile]
        rw [whole]
        refine ⟨_, .literal _ _ contents (by simp) ?_ ?_ decoded⟩
        · intro u member
          rcases List.mem_cons.mp member with rfl | later
          · simpa using argument
          · simpa using List.mem_takeWhile_imp later
        · intro u first
          simpa using dropWhile_stops tokens u first
termination_by tokens.length
decreasing_by
  · rw [List.length_cons]
    omega
  · rw [List.length_cons]
    omega

theorem decoded_iff (properties : Properties) (tokens : List Token)
    (contents : List (Kind × String)) :
    Decoded properties tokens contents ↔
      contents = (segments tokens).map (Segment.content properties) := by
  constructor
  · exact decoded_content properties tokens contents
  · intro same
    subst same
    obtain ⟨contents, decoded⟩ := decoded_exists properties tokens
    rw [← decoded_content properties tokens contents decoded]
    exact decoded

theorem parse_reads_exactly_the_grammar (template : String) (properties : Properties) :
    ((∃ elements, parse template properties = .ok elements) ↔
      ∃ tokens, Cut template.toList tokens) ∧
    ∀ elements tokens contents, parse template properties = .ok elements →
      Cut template.toList tokens →
      (Decoded properties tokens contents ↔ contents = elements.map Element.content) := by
  constructor
  · constructor
    · intro parsed
      obtain ⟨elements, ok⟩ := parsed
      obtain ⟨tokens, cut, _⟩ := (parse_ok_iff template properties elements).mp ok
      exact ⟨tokens, cut⟩
    · intro whole
      obtain ⟨tokens, cut⟩ := whole
      exact ⟨_, (parse_ok_iff template properties _).mpr ⟨tokens, cut, rfl⟩⟩
  · intro elements tokens contents ok cut
    obtain ⟨others, cut', rfl⟩ := (parse_ok_iff template properties elements).mp ok
    rw [cut_unique _ _ _ cut cut', locate_all_contents]
    exact decoded_iff properties others contents

end StructuredLog.Template
