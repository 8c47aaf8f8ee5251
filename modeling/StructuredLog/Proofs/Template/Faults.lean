import StructuredLog.Proofs.Template.Composition
import StructuredLog.Proofs.Template.Reader

set_option autoImplicit false

namespace StructuredLog.Template

-- Where a text has come to among its quotes: outside of them, behind an apostrophe that opens a span
-- if a brace follows, inside a span, or behind an apostrophe that ends it unless another follows.
inductive Quoting where
  | outside
  | opening
  | inside
  | closing
deriving DecidableEq, Repr

namespace Quoting

def next : Quoting → Char → Quoting
  | .outside, c => if c = '\'' then .opening else .outside
  | .opening, c => if isBrace c then .inside else .outside
  | .inside, c => if c = '\'' then .closing else .inside
  | .closing, c => if c = '\'' then .inside else .outside

def after (q : Quoting) (cs : List Char) : Quoting := cs.foldl next q

end Quoting

-- A brace behind this text is in no quoted span and opens none.
def Unquoted (before : List Char) : Prop :=
  Quoting.outside.after before = .outside ∨ Quoting.outside.after before = .closing

def Named (r : List Char) : Prop :=
  ∃ name after, r = name ++ after ∧ name ≠ [] ∧ (∀ c ∈ name, isNameChar c = true) ∧
    ∀ c ∈ after, isSpace c = true

-- `name` and `after` are longest runs, and `c` is the first character that belongs to neither.
structure Strays (r name after : List Char) (c : Char) (left : List Char) : Prop where
  whole : r = name ++ (after ++ c :: left)
  named : ∀ d ∈ name, isNameChar d = true
  longest : ∀ d ∈ (after ++ [c]).head?, isNameChar d = false
  padding : ∀ d ∈ after, isSpace d = true
  stray : isSpace c = false
  unnamed : name = [] → after = []

structure Diagnosis (r : List Char) (fault : Fault) (seen : List Char) : Prop where
  unclosed : r = [] ∨ Named r → fault = .unclosed ∧ seen = r
  empty : r.head? = some '}' → fault = .empty ∧ seen = ['}']
  malformed : r ≠ [] → ¬ Named r → r.head? ≠ some '}' → fault = .malformed ∧
    ∃ name after c left, Strays r name after c left ∧ seen = name ++ after

structure ParseError.Located (e : ParseError) (template : String)
    (before padding r seen : List Char) : Prop where
  whole : template.toList = before ++ '{' :: (padding ++ r)
  unquoted : Unquoted before
  parses : ∀ properties, ∃ elements, parse (String.ofList before) properties = .ok elements
  padded : ∀ c ∈ padding, isSpace c = true
  stripped : ∀ c ∈ r.head?, isSpace c = false
  location : e.location = ⟨.endOf before, .endOf (before ++ '{' :: (padding ++ seen))⟩
  diagnosis : Diagnosis r e.fault seen

inductive Refused : List Char → Broken → Prop
  | unclosed (padding name after : List Char) :
      (∀ c ∈ padding, isSpace c = true) → (∀ c ∈ name, isNameChar c = true) →
      (∀ c ∈ name.head?, isSpace c = false) → (∀ c ∈ after, isSpace c = true) →
      (∀ c ∈ after.head?, isNameChar c = false) → (name = [] → after = []) →
      Refused (padding ++ (name ++ after)) ⟨.unclosed, '{' :: (padding ++ (name ++ after))⟩
  | empty (padding left : List Char) : (∀ c ∈ padding, isSpace c = true) →
      Refused (padding ++ '}' :: left) ⟨.empty, '{' :: (padding ++ ['}'])⟩
  | malformed (padding r name after left : List Char) (c : Char) :
      (∀ c ∈ padding, isSpace c = true) → (∀ c ∈ r.head?, isSpace c = false) →
      Strays r name after c left → c ≠ '}' →
      Refused (padding ++ r) ⟨.malformed, '{' :: (padding ++ (name ++ after))⟩

theorem named_not_closing (c : Char) (named : isNameChar c = true) : c ≠ '}' := by
  intro same
  rw [same, isNameChar_close] at named
  cases named

theorem strays_name (r name after left : List Char) (c : Char) (strays : Strays r name after c left) :
    r.takeWhile isNameChar = name ∧ r.dropWhile isNameChar = after ++ c :: left := by
  have stop : ∀ d ∈ (after ++ c :: left).head?, isNameChar d = false := by
    intro d first
    refine strays.longest d ?_
    cases after <;> exact first
  rw [strays.whole]
  exact ⟨takeWhile_stretch _ _ strays.named stop, dropWhile_stretch _ _ strays.named stop⟩

theorem strays_padding (r name after left : List Char) (c : Char)
    (strays : Strays r name after c left) :
    (after ++ c :: left).takeWhile isSpace = after ∧
      (after ++ c :: left).dropWhile isSpace = c :: left := by
  have stop : ∀ d ∈ (c :: left).head?, isSpace d = false := by
    intro d first
    cases Option.some.inj first
    exact strays.stray
  exact ⟨takeWhile_stretch _ _ strays.padding stop, dropWhile_stretch _ _ strays.padding stop⟩

theorem strays_not_named (r name after left : List Char) (c : Char)
    (strays : Strays r name after c left) : ¬ Named r := by
  rintro ⟨name', after', whole, nonempty, named, padding⟩
  have dropped := (strays_name r name after left c strays).2
  rw [whole, List.dropWhile_append_of_pos named] at dropped
  have member : c ∈ after' := by
    refine (List.dropWhile_suffix isNameChar).subset ?_
    rw [dropped]
    simp
  have space := padding c member
  rw [strays.stray] at space
  cases space

theorem strays_head (r name after left : List Char) (c : Char) (strays : Strays r name after c left)
    (other : c ≠ '}') : r.head? ≠ some '}' := by
  intro closing
  cases name with
  | nil =>
      have bare : after = [] := strays.unnamed rfl
      rw [strays.whole, bare] at closing
      exact other (Option.some.inj closing)
  | cons d name =>
      rw [strays.whole] at closing
      exact named_not_closing d (strays.named d (by simp)) (Option.some.inj closing)

theorem strays_append (r name after left more : List Char) (c : Char)
    (strays : Strays r name after c left) : Strays (r ++ more) name after c (left ++ more) :=
  { strays with whole := by rw [strays.whole]; simp }

theorem refused_append (cs more : List Char) (broken : Broken) (refused : Refused cs broken)
    (stays : broken.fault ≠ .unclosed) : Refused (cs ++ more) broken := by
  cases refused with
  | unclosed => exact absurd rfl stays
  | empty padding left spaces =>
      rw [List.append_assoc]
      exact .empty padding (left ++ more) spaces
  | malformed padding r name after left c spaces stripped strays other =>
      rw [List.append_assoc]
      refine .malformed padding (r ++ more) name after (left ++ more) c spaces ?_
        (strays_append r name after left more c strays) other
      intro d first
      apply stripped d
      obtain ⟨a, tail, same⟩ : ∃ a tail, r = a :: tail :=
        List.exists_cons_of_ne_nil (by rw [strays.whole]; simp)
      rw [same] at first ⊢
      exact first

theorem longest_run (p : Char → Bool) (cs : List Char) :
    ∃ run rest, cs = run ++ rest ∧ cs.takeWhile p = run ∧ cs.dropWhile p = rest ∧
      (∀ c ∈ run, p c = true) ∧ ∀ c ∈ rest.head?, p c = false :=
  ⟨cs.takeWhile p, cs.dropWhile p, List.takeWhile_append_dropWhile.symm, rfl, rfl,
    fun _ member => List.mem_takeWhile_imp member, dropWhile_stops cs⟩

theorem named_token_refused (before r : List Char) (broken : Broken)
    (spaces : ∀ c ∈ before, isSpace c = true) (present : r ≠ [])
    (stripped : ∀ c ∈ r.head?, isSpace c = false) (other : r.head? ≠ some '}')
    (failed : Reader.namedToken before r = .error broken) : Refused (before ++ r) broken := by
  obtain ⟨name, later, whole, taken, dropped, named, longest⟩ := longest_run isNameChar r
  obtain ⟨after, rest, rfl, padding, left, padded, stray⟩ := longest_run isSpace later
  unfold Reader.namedToken at failed
  rw [taken, dropped, padding, left] at failed
  cases name with
  | nil =>
      cases failed
      obtain ⟨c, tail, rfl⟩ := List.exists_cons_of_ne_nil present
      rw [List.nil_append] at whole
      have unnamed : isNameChar c = false := longest c (by rw [← whole]; rfl)
      have strays : Strays (c :: tail) [] [] c tail :=
        ⟨rfl, by simp, by simp [unnamed], by simp, stripped c rfl, fun _ => rfl⟩
      simpa using Refused.malformed before (c :: tail) [] [] tail c spaces stripped strays
        (fun same => other (by rw [same]; rfl))
  | cons d name =>
      have first : ∀ c ∈ (d :: name).head?, isSpace c = false := by
        rw [whole] at stripped
        exact stripped
      rw [whole]
      cases rest with
      | nil =>
          cases failed
          rw [List.append_nil] at longest whole ⊢
          rw [List.append_assoc]
          exact .unclosed before (d :: name) after spaces named first padded longest nofun
      | cons c behind =>
          dsimp only at failed
          by_cases closing : c = '}'
          · simp [closing] at failed
          · simp only [List.isEmpty_cons, Bool.false_eq_true, if_false, closing] at failed
            cases failed
            have strays : Strays (d :: name ++ (after ++ c :: behind)) (d :: name) after c behind := by
              refine ⟨rfl, named, ?_, padded, stray c rfl, nofun⟩
              intro b atFront
              apply longest b
              cases after <;> exact atFront
            rw [List.append_assoc]
            exact .malformed before _ (d :: name) after behind c spaces first strays closing

theorem refused_of_error (cs : List Char) (broken : Broken)
    (failed : Token.readArgument cs = .error broken) : Refused cs broken := by
  obtain ⟨padding, r, rfl, taken, dropped, spaces, stripped⟩ := longest_run isSpace cs
  rw [Reader.read_argument_eq, taken, dropped] at failed
  cases r with
  | nil =>
      cases failed
      simpa using Refused.unclosed padding [] [] spaces (by simp) (by simp) (by simp) (by simp)
        (fun _ => rfl)
  | cons c named =>
      by_cases closing : c = '}'
      · simp only [closing, if_true] at failed
        cases failed
        rw [closing]
        exact .empty padding named spaces
      · simp only [closing, if_false] at failed
        exact named_token_refused padding (c :: named) broken spaces (by simp) stripped
          (by simpa using closing) failed

theorem error_of_unclosed (before name after : List Char) (nonempty : name ≠ [])
    (named : ∀ c ∈ name, isNameChar c = true) (padded : ∀ c ∈ after, isSpace c = true)
    (longest : ∀ c ∈ after.head?, isNameChar c = false) :
    Reader.namedToken before (name ++ after) =
      .error ⟨.unclosed, '{' :: (before ++ (name ++ after))⟩ := by
  have ended : ∀ c ∈ ([] : List Char).head?, isSpace c = false := by simp
  have taken := takeWhile_stretch after [] padded ended
  have left := dropWhile_stretch after [] padded ended
  rw [List.append_nil] at taken left
  unfold Reader.namedToken
  rw [takeWhile_stretch _ _ named longest, dropWhile_stretch _ _ named longest, taken, left]
  simp [nonempty]

theorem error_of_strays (before r name after left : List Char) (c : Char)
    (strays : Strays r name after c left) (other : c ≠ '}') :
    Reader.namedToken before r = .error ⟨.malformed, '{' :: (before ++ (name ++ after))⟩ := by
  obtain ⟨named, later⟩ := strays_name r name after left c strays
  obtain ⟨padded, rest⟩ := strays_padding r name after left c strays
  unfold Reader.namedToken
  rw [named, later, padded, rest]
  dsimp only
  rw [if_neg other, List.append_assoc]
  by_cases nameless : name.isEmpty = true
  · have bare : name = [] := List.isEmpty_iff.mp nameless
    simp [bare, strays.unnamed bare]
  · rw [if_neg nameless]

theorem error_of_refused (cs : List Char) (broken : Broken) (refused : Refused cs broken) :
    Token.readArgument cs = .error broken := by
  rw [Reader.read_argument_eq]
  cases refused with
  | unclosed padding name after spaces named first padded longest bare =>
      cases name with
      | nil =>
          have ended : ∀ c ∈ ([] : List Char).head?, isSpace c = false := by simp
          rw [bare rfl, List.append_nil, takeWhile_stretch _ _ spaces ended,
            dropWhile_stretch _ _ spaces ended, List.append_nil]
      | cons c name =>
          rw [takeWhile_stretch padding (c :: name ++ after) spaces first,
            dropWhile_stretch padding (c :: name ++ after) spaces first]
          dsimp only [List.cons_append]
          rw [if_neg (named_not_closing c (named c (by simp)))]
          exact error_of_unclosed padding (c :: name) after (by simp) named padded longest
  | empty padding left spaces =>
      have stop : ∀ c ∈ ('}' :: left).head?, isSpace c = false := by
        intro c first
        cases Option.some.inj first
        exact isSpace_close
      rw [takeWhile_stretch _ _ spaces stop, dropWhile_stretch _ _ spaces stop]
      rfl
  | malformed padding r name after left c spaces stripped strays other =>
      rw [takeWhile_stretch _ _ spaces stripped, dropWhile_stretch _ _ spaces stripped]
      have notClosing := strays_head r name after left c strays other
      cases r with
      | nil => simpa using strays.whole
      | cons d r =>
          dsimp only
          rw [if_neg (by simpa using notClosing)]
          exact error_of_strays padding (d :: r) name after left c strays other

theorem read_argument_error_iff (cs : List Char) (broken : Broken) :
    Token.readArgument cs = .error broken ↔ Refused cs broken :=
  ⟨refused_of_error cs broken, error_of_refused cs broken⟩

theorem refused_diagnosis (cs : List Char) (broken : Broken) (refused : Refused cs broken) :
    ∃ padding r seen, cs = padding ++ r ∧ broken.text = '{' :: (padding ++ seen) ∧
      (∀ c ∈ padding, isSpace c = true) ∧ (∀ c ∈ r.head?, isSpace c = false) ∧
      Diagnosis r broken.fault seen := by
  cases refused with
  | unclosed padding name after spaces named first padded longest bare =>
      have short : name ++ after = [] ∨ Named (name ++ after) := by
        by_cases unnamed : name = []
        · exact .inl (by rw [unnamed, bare unnamed]; rfl)
        · exact .inr ⟨name, after, rfl, unnamed, named, padded⟩
      refine ⟨padding, name ++ after, name ++ after, rfl, rfl, spaces, ?_, ?_⟩
      · cases name with
        | nil =>
            rw [bare rfl]
            simp
        | cons c name => exact first
      · refine ⟨fun _ => ⟨rfl, rfl⟩, ?_, ?_⟩
        · intro closing
          cases name with
          | nil =>
              rw [bare rfl] at closing
              cases closing
          | cons c name =>
              exact absurd (Option.some.inj closing) (named_not_closing c (named c (by simp)))
        · intro present unnamed
          exact absurd short (not_or.mpr ⟨present, unnamed⟩)
  | empty padding left spaces =>
      refine ⟨padding, '}' :: left, ['}'], rfl, rfl, spaces, ?_, ?_, fun _ => ⟨rfl, rfl⟩, ?_⟩
      · intro c first
        cases Option.some.inj first
        exact isSpace_close
      · rintro (absent | ⟨name, after, whole, nonempty, named, _⟩)
        · cases absent
        · obtain ⟨c, tail, rfl⟩ := List.exists_cons_of_ne_nil nonempty
          cases whole
          exact absurd rfl (named_not_closing '}' (named '}' (by simp)))
      · intro _ _ other
        exact absurd rfl other
  | malformed padding r name after left c spaces stripped strays other =>
      refine ⟨padding, r, name ++ after, rfl, rfl, spaces, stripped, ?_, ?_, ?_⟩
      · rintro (absent | named)
        · rw [absent] at strays
          simpa using strays.whole
        · exact absurd named (strays_not_named r name after left c strays)
      · intro closing
        exact absurd closing (strays_head r name after left c strays other)
      · intro _ _ _
        exact ⟨rfl, name, after, c, left, strays, rfl⟩

-- Tokens where they stand in a text: each of them fits what comes behind it, `rest` included.
def Standing : List Token → List Char → Prop
  | [], _ => True
  | t :: tokens, rest => t.Fits (textOf tokens ++ rest) ∧ Standing tokens rest

theorem text_of_cons (t : Token) (tokens : List Token) :
    textOf (t :: tokens) = t.text ++ textOf tokens := List.flatMap_cons

theorem fits_without (t : Token) (more rest : List Char) (fits : t.Fits (more ++ '{' :: rest)) :
    t.Fits more := by
  cases t with
  | argument before name after => exact fits
  | pair => trivial
  | span quoted closed =>
      refine ⟨fits.1, ?_⟩
      cases closed with
      | true =>
          cases more with
          | nil => simp
          | cons b more => exact fits.2
      | false => simpa using fits.2
  | plain c =>
      refine ⟨fits.1, fun apostrophe => ?_⟩
      cases more with
      | nil => simp
      | cons b more => exact fits.2 apostrophe

theorem standing_cut (tokens : List Token) (rest : List Char)
    (standing : Standing tokens ('{' :: rest)) : Cut (textOf tokens) tokens := by
  induction tokens with
  | nil => exact .nil
  | cons t tokens ih =>
      obtain ⟨fits, later⟩ := standing
      rw [text_of_cons]
      exact .cons t (textOf tokens) tokens (fits_without t _ rest fits) (ih later)

theorem standing_append (tokens : List Token) (rest more : List Char)
    (standing : Standing tokens ('{' :: rest)) : Standing tokens ('{' :: (rest ++ more)) := by
  induction tokens with
  | nil => trivial
  | cons t tokens ih =>
      obtain ⟨fits, later⟩ := standing
      have further := fits_append t _ more fits (.inl (by simp))
      rw [List.append_assoc] at further
      exact ⟨further, ih later⟩

theorem read_error (c : Char) (cs : List Char) (broken : Broken)
    (failed : Token.read c cs = .error broken) :
    c = '{' ∧ Token.readArgument cs = .error broken := by
  unfold Token.read at failed
  by_cases opening : c = '{'
  · rw [if_pos opening] at failed
    exact ⟨opening, failed⟩
  · rw [if_neg opening] at failed
    split at failed
    · split at failed
      · cases failed
      · split at failed <;> cases failed
      · cases failed
    · cases failed

theorem standing_of_lex (cs : List Char) (tokens : List Token) (broken : Broken)
    (lexed : lex cs = (tokens, some broken)) :
    ∃ rest, cs = textOf tokens ++ '{' :: rest ∧ Standing tokens ('{' :: rest) ∧
      Refused rest broken := by
  cases cs with
  | nil =>
      rw [lex] at lexed
      cases lexed
  | cons c cs =>
      cases read : Token.read c cs with
      | error other =>
          rw [lex_broken c cs other read] at lexed
          obtain ⟨rfl, same⟩ := Prod.mk.inj lexed
          cases Option.some.inj same
          obtain ⟨rfl, failed⟩ := read_error c cs broken read
          exact ⟨cs, rfl, trivial, (read_argument_error_iff cs broken).mp failed⟩
      | ok result =>
          obtain ⟨t, behind⟩ := result
          have shorter := Token.read_shorter c cs t behind read
          obtain ⟨whole, fits⟩ := (Token.read_ok_iff c cs t behind).mp read
          rw [lex_read c cs t behind read] at lexed
          obtain ⟨rfl, stopped⟩ := Prod.mk.inj lexed
          obtain ⟨rest, later, standing, refused⟩ :=
            standing_of_lex behind _ broken (Prod.ext rfl stopped)
          refine ⟨rest, ?_, ⟨later ▸ fits, standing⟩, refused⟩
          rw [whole, text_of_cons, List.append_assoc, ← later]
termination_by cs.length

theorem lex_of_standing (tokens : List Token) (rest : List Char) (broken : Broken)
    (standing : Standing tokens ('{' :: rest)) (refused : Refused rest broken) :
    lex (textOf tokens ++ '{' :: rest) = (tokens, some broken) := by
  induction tokens with
  | nil => exact lex_broken '{' rest broken ((read_argument_error_iff rest broken).mpr refused)
  | cons t tokens ih =>
      obtain ⟨fits, later⟩ := standing
      rw [text_of_cons, List.append_assoc]
      obtain ⟨c, cs, whole⟩ : ∃ c cs, t.text ++ (textOf tokens ++ '{' :: rest) = c :: cs :=
        List.exists_cons_of_ne_nil (by simp [Token.text_ne_nil t])
      have read := (Token.read_ok_iff c cs t _).mpr ⟨whole.symm, fits⟩
      rw [whole, lex_read c cs t _ read, ih later]

theorem lex_broken_iff (cs : List Char) (tokens : List Token) (broken : Broken) :
    lex cs = (tokens, some broken) ↔ ∃ rest, cs = textOf tokens ++ '{' :: rest ∧
      Standing tokens ('{' :: rest) ∧ Refused rest broken := by
  constructor
  · exact standing_of_lex cs tokens broken
  · rintro ⟨rest, rfl, standing, refused⟩
    exact lex_of_standing tokens rest broken standing refused

namespace Quoting

-- What must not come next for the reader to be between two tokens here.
def Between : Quoting → List Char → Prop
  | .outside, _ => True
  | .opening, rest => ∀ b ∈ rest.head?, b ≠ '\'' ∧ isBrace b = false
  | .inside, rest => rest = []
  | .closing, rest => rest.head? ≠ some '\''

theorem after_append (q : Quoting) (a b : List Char) : q.after (a ++ b) = (q.after a).after b :=
  List.foldl_append

theorem after_clear (cs : List Char) (clear : '\'' ∉ cs) : outside.after cs = .outside := by
  induction cs with
  | nil => rfl
  | cons c cs ih =>
      have other : c ≠ '\'' := fun same => clear (by simp [same])
      have step : outside.next c = .outside := if_neg other
      change (outside.next c).after cs = .outside
      rw [step]
      exact ih fun member => clear (by simp [member])

theorem after_doubled (cs : List Char) : inside.after (Token.double cs) = .inside := by
  induction cs with
  | nil => rfl
  | cons c cs ih =>
      rw [Token.double_cons, after_append]
      by_cases apostrophe : c = '\''
      · rw [if_pos apostrophe]
        exact ih
      · have step : inside.after [c] = .inside := if_neg apostrophe
        rw [if_neg apostrophe, step]
        exact ih

theorem next_outside (q : Quoting) (c : Char) (rest : List Char) (between : q.Between (c :: rest))
    (other : c ≠ '\'') : q.next c = .outside := by
  cases q with
  | outside => exact if_neg other
  | opening => exact if_neg (ne_true_of_eq_false (between c rfl).2)
  | inside => cases between
  | closing => exact if_neg other

theorem outside_of_apostrophe (q : Quoting) (rest : List Char)
    (between : q.Between ('\'' :: rest)) : q = .outside := by
  cases q with
  | outside => rfl
  | opening => exact absurd rfl (between '\'' rfl).1
  | inside => cases between
  | closing => exact absurd rfl between

theorem argument_clear (before name after : List Char) (rest : List Char)
    (fits : (Token.argument before name after).Fits rest) :
    '\'' ∉ before ++ name ++ after ++ ['}'] := by
  obtain ⟨spaces, -, named, -, padding, -⟩ := fits
  have space : isSpace '\'' = false := by decide
  intro member
  simp only [List.mem_append, List.mem_singleton] at member
  rcases member with ((early | inName) | late) | closing
  · simpa [space] using spaces _ early
  · simpa [isNameChar_apostrophe] using named _ inName
  · simpa [space] using padding _ late
  · cases closing

theorem span_after (quoted : List Char) (closed : Bool)
    (braced : ∃ b ∈ quoted.head?, isBrace b = true) :
    outside.after (Token.span quoted closed).text = if closed then .closing else .inside := by
  obtain ⟨b, first, brace⟩ := braced
  obtain ⟨tail, rfl⟩ := List.head?_eq_some_iff.mp first
  have other : b ≠ '\'' := by
    rintro rfl
    exact absurd brace (by decide)
  have step : opening.after [b] = .inside := if_pos brace
  have inner : opening.after (Token.double (b :: tail)) = .inside := by
    rw [Token.double_cons, if_neg other, after_append, step]
    exact after_doubled tail
  change opening.after (Token.double (b :: tail) ++ if closed then ['\''] else []) = _
  rw [after_append, inner]
  cases closed <;> rfl

theorem between_after (q : Quoting) (t : Token) (rest : List Char) (fits : t.Fits rest)
    (between : q.Between (t.text ++ rest)) : (q.after t.text).Between rest := by
  cases t with
  | argument before name after =>
      have opened : q.next '{' = .outside := next_outside q '{' _ between (by decide)
      have reached : q.after (Token.argument before name after).text = .outside := by
        change (q.next '{').after _ = _
        rw [opened]
        exact after_clear _ (argument_clear before name after rest fits)
      rw [reached]
      trivial
  | pair =>
      rw [outside_of_apostrophe q _ between]
      trivial
  | plain c =>
      by_cases apostrophe : c = '\''
      · subst c
        rw [outside_of_apostrophe q _ between]
        exact fits.2 rfl
      · have reached : q.after (Token.plain c).text = .outside :=
          next_outside q c rest between apostrophe
        rw [reached]
        trivial
  | span quoted closed =>
      obtain ⟨braced, ended⟩ := fits
      rw [outside_of_apostrophe q _ between, span_after quoted closed braced]
      cases closed with
      | true => exact ended
      | false => exact ended

theorem between_standing (q : Quoting) (tokens : List Token) (rest : List Char)
    (standing : Standing tokens rest) (between : q.Between (textOf tokens ++ rest)) :
    (q.after (textOf tokens)).Between rest := by
  induction tokens generalizing q with
  | nil => exact between
  | cons t tokens ih =>
      obtain ⟨fits, later⟩ := standing
      rw [text_of_cons, List.append_assoc] at between
      rw [text_of_cons, after_append]
      exact ih (q.after t.text) later (between_after q t _ fits between)

end Quoting

theorem standing_unquoted (tokens : List Token) (rest : List Char)
    (standing : Standing tokens ('{' :: rest)) : Unquoted (textOf tokens) := by
  have between := Quoting.between_standing .outside tokens _ standing trivial
  unfold Unquoted
  cases reached : Quoting.outside.after (textOf tokens) with
  | outside => exact .inl rfl
  | closing => exact .inr rfl
  | opening =>
      rw [reached] at between
      exact absurd (between '{' rfl).2 (by decide)
  | inside =>
      rw [reached] at between
      cases between

theorem parse_error_iff (template : String) (properties : Properties) (e : ParseError) :
    parse template properties = .error e ↔ ∃ tokens rest broken,
      template.toList = textOf tokens ++ '{' :: rest ∧ Standing tokens ('{' :: rest) ∧
        Refused rest broken ∧ e = ⟨broken.fault, template,
          ⟨.endOf (textOf tokens), .endOf (textOf tokens ++ broken.text)⟩⟩ := by
  have places (tokens : List Token) (broken : Broken) :
      (Position.start.after (textOf tokens)).after broken.text =
        .endOf (textOf tokens ++ broken.text) := by
    rw [← Position.after_append, after_start]
  constructor
  · intro failed
    unfold parse parseFrom at failed
    cases lexed : lex template.toList with
    | mk tokens stopped =>
        rw [lexed] at failed
        cases stopped with
        | none => cases failed
        | some broken =>
            obtain ⟨rest, whole, standing, refused⟩ :=
              (lex_broken_iff template.toList tokens broken).mp lexed
            refine ⟨tokens, rest, broken, whole, standing, refused, ?_⟩
            rw [← places, ← after_start]
            exact (Except.error.inj failed).symm
  · rintro ⟨tokens, rest, broken, whole, standing, refused, rfl⟩
    have lexed := (lex_broken_iff template.toList tokens broken).mpr
      ⟨rest, whole, standing, refused⟩
    unfold parse parseFrom
    rw [lexed]
    dsimp only
    rw [places, after_start]

theorem standing_parses (tokens : List Token) (rest : List Char)
    (standing : Standing tokens ('{' :: rest)) (properties : Properties) :
    ∃ elements, parse (String.ofList (textOf tokens)) properties = .ok elements := by
  have cut := standing_cut tokens rest standing
  rw [← String.toList_ofList (l := textOf tokens)] at cut
  exact ⟨_, (parse_ok_iff _ properties _).mpr ⟨tokens, cut, rfl⟩⟩

-- Unless the argument only lacks its end, no text behind it changes that it is refused.
theorem parse_error_located (template : String) (properties : Properties) (e : ParseError)
    (failed : parse template properties = .error e) :
    e.template = template ∧
      (∃ before padding r seen, e.Located template before padding r seen) ∧
      (e.fault = .empty ∨ e.fault = .malformed → ∀ (suffix : String) (others : Properties),
        parse (template ++ suffix) others = .error { e with template := template ++ suffix }) := by
  obtain ⟨tokens, rest, broken, whole, standing, refused, rfl⟩ :=
    (parse_error_iff template properties e).mp failed
  refine ⟨rfl, ?_, ?_⟩
  · obtain ⟨padding, r, seen, rfl, text, spaces, stripped, diagnosis⟩ :=
      refused_diagnosis rest broken refused
    exact ⟨textOf tokens, padding, r, seen, {
      whole := whole
      unquoted := standing_unquoted tokens _ standing
      parses := standing_parses tokens _ standing
      padded := spaces
      stripped := stripped
      location := by rw [text]
      diagnosis := diagnosis }⟩
  · intro decided suffix others
    have stays : broken.fault ≠ .unclosed := by
      intro unclosed
      dsimp only at decided
      rw [unclosed] at decided
      rcases decided with decided | decided <;> cases decided
    refine (parse_error_iff _ others _).mpr ⟨tokens, rest ++ suffix.toList, broken, ?_,
      standing_append tokens rest suffix.toList standing,
      refused_append rest suffix.toList broken refused stays, rfl⟩
    rw [String.toList_append, whole, List.append_assoc]
    rfl

def strayTemplate : String := "'\x7b'\x7ba b"

def strayError : ParseError := ⟨.malformed, strayTemplate, ⟨⟨3, 1, 4⟩, ⟨6, 1, 7⟩⟩⟩

theorem parse_error_located_behind_quotes :
    parse strayTemplate [] = .error strayError ∧
      (∃ before padding r seen, strayError.Located strayTemplate before padding r seen) ∧
      parse (strayTemplate ++ "\x7d") [("a", .null)] =
        .error { strayError with template := strayTemplate ++ "\x7d" } := by
  have lexed : lex strayTemplate.toList = ([.span ['{'] true], some ⟨.malformed, ['{', 'a', ' ']⟩) := by
    change lex ['\'', '{', '\'', '{', 'a', ' ', 'b'] = _
    rw [lex_read _ _ (.span ['{'] true) _ rfl, lex_broken _ _ ⟨.malformed, ['{', 'a', ' ']⟩ rfl]
  have failed : parse strayTemplate [] = .error strayError := by
    unfold parse parseFrom
    rw [lexed]
    rfl
  obtain ⟨-, located, stable⟩ := parse_error_located strayTemplate [] strayError failed
  exact ⟨failed, located, stable (.inr rfl) "\x7d" [("a", .null)]⟩

end StructuredLog.Template
