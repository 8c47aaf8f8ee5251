import Mathlib.Data.List.Chain
import StructuredLog.Proofs.Template.Literal
import StructuredLog.Template.Printer

set_option autoImplicit false

namespace StructuredLog.Template

def Single (cs : List Char) : Prop := List.IsChain (fun a b => a = '\'' → b ≠ '\'') cs

def Unopened (cs : List Char) : Prop := List.IsChain (fun a b => a = '\'' → isBrace b = false) cs

structure Stretch (text before inner after : List Char) : Prop where
  whole : text = before ++ inner ++ after
  beforeClear : ∀ c ∈ before, isBrace c = false
  afterClear : ∀ c ∈ after, isBrace c = false
  first : ∃ b ∈ inner.head?, isBrace b = true
  last : ∃ b ∈ inner.getLast?, isBrace b = true

-- What the printed stretch asks of the apostrophes: either the quotes around it are read as quotes,
-- or each of them pairs up with an apostrophe next to it and nothing in between needs quoting.
def Survives (before inner after : List Char) : Prop :=
  (before.getLast? ≠ some '\'' ∧ '\'' ∉ inner ∧ (after.head? = some '\'' → '\'' ∉ after.tail)) ∨
    (before.getLast? = some '\'' ∧ '{' ∉ inner ∧ Unopened inner ∧ after.head? = some '\'')

theorem brace_not_apostrophe (b : Char) (brace : isBrace b = true) : b ≠ '\'' := by
  intro same
  subst same
  exact absurd brace (by decide)

theorem not_brace_not_open (c : Char) (clear : isBrace c = false) : c ≠ '{' := by
  intro same
  subst same
  exact absurd clear (by decide)

theorem quote_stretch (text before inner after : List Char)
    (stretch : Stretch text before inner after) :
    quoteBraces text = before ++ '\'' :: inner ++ '\'' :: after := by
  obtain ⟨rfl, beforeClear, afterClear, ⟨b, first, opens⟩, ⟨d, last, closes⟩⟩ := stretch
  have clear : ∀ cs : List Char, (∀ c ∈ cs, isBrace c = false) → ∀ c ∈ cs, notBrace c = true := by
    intro cs none c member
    simp [notBrace, none c member]
  have beforeStop : ∀ a ∈ (inner ++ after).head?, notBrace a = false := by
    intro a atFront
    rw [List.head?_append, Option.mem_def.mp first] at atFront
    cases Option.some.inj atFront
    simp [notBrace, opens]
  have afterStop : ∀ a ∈ inner.reverse.head?, notBrace a = false := by
    intro a atEnd
    rw [List.head?_reverse, Option.mem_def.mp last] at atEnd
    cases Option.some.inj atEnd
    simp [notBrace, closes]
  have backward : ∀ c ∈ after.reverse, notBrace c = true := by
    intro c member
    exact clear after afterClear c (List.mem_reverse.mp member)
  unfold quoteBraces
  rw [List.append_assoc, dropWhile_stretch _ _ (clear before beforeClear) beforeStop,
    takeWhile_stretch _ _ (clear before beforeClear) beforeStop]
  split
  · rename_i empty
    rw [(List.append_eq_nil_iff.mp empty).1] at first
    cases first
  · dsimp only
    rw [List.reverse_append, dropWhile_stretch _ _ backward afterStop,
      takeWhile_stretch _ _ backward afterStop]
    simp

theorem quote_clear (text : List Char) (clear : ∀ c ∈ text, isBrace c = false) :
    quoteBraces text = text := by
  have dropped : text.dropWhile notBrace = [] := by
    rw [List.dropWhile_eq_nil_iff]
    intro c member
    simp [notBrace, clear c member]
  unfold quoteBraces
  rw [dropped]

theorem quiet_text (cs : List Char) (next : Option Char) (closed : '{' ∉ cs) (single : Single cs)
    (unopened : Unopened cs)
    (border : cs.getLast? = some '\'' → ∀ b ∈ next, b ≠ '\'' ∧ isBrace b = false) :
    Quiet cs next := by
  induction cs with
  | nil => trivial
  | cons c cs ih =>
      have plain : c ≠ '{' := fun same => closed (by simp [same])
      have others : '{' ∉ cs := fun member => closed (by simp [member])
      cases cs with
      | nil =>
          refine ⟨⟨plain, ?_⟩, trivial⟩
          intro same
          subst same
          exact border rfl
      | cons d cs =>
          obtain ⟨apart, single⟩ := List.isChain_cons_cons.mp single
          obtain ⟨unbraced, unopened⟩ := List.isChain_cons_cons.mp unopened
          refine ⟨⟨plain, ?_⟩, ih others single unopened (by simpa using border)⟩
          intro same b first
          subst same
          cases Option.some.inj first
          exact ⟨apart rfl, unbraced rfl⟩

theorem clear_unopened (cs : List Char) (clear : ∀ c ∈ cs, isBrace c = false) : Unopened cs := by
  induction cs with
  | nil => exact .nil
  | cons c cs ih =>
      refine List.isChain_cons.mpr ⟨?_, ih (fun d member => clear d (by simp [member]))⟩
      intro d first _
      exact clear d (by simp [List.mem_of_mem_head? first])

theorem clear_quiet (cs : List Char) (next : Option Char) (clear : ∀ c ∈ cs, isBrace c = false)
    (single : Single cs)
    (border : cs.getLast? = some '\'' → ∀ b ∈ next, b ≠ '\'' ∧ isBrace b = false) :
    Quiet cs next :=
  quiet_text cs next (fun member => not_brace_not_open '{' (clear '{' member) rfl) single
    (clear_unopened cs clear) border

theorem clear_reads_itself (cs : List Char) (clear : ∀ c ∈ cs, isBrace c = false)
    (single : Single cs) : ReadsAs cs cs :=
  reads_itself cs (clear_quiet cs none clear single (fun _ _ absent => nomatch absent))

theorem double_unquoted (cs : List Char) (none : '\'' ∉ cs) : Token.double cs = cs := by
  induction cs with
  | nil => rfl
  | cons c cs ih =>
      have other : c ≠ '\'' := fun same => none (by simp [same])
      rw [Token.double_cons, if_neg other, ih (fun member => none (by simp [member]))]
      rfl

theorem double_append (a b : List Char) :
    Token.double (a ++ b) = Token.double a ++ Token.double b := by
  simp [Token.double]

theorem reads_head (c d : Char) (cs value : List Char) (other : c ≠ '\'')
    (reads : ReadsAs (c :: cs) (d :: value)) : d = c := by
  by_cases opening : c = '{'
  · subst c
    exact absurd reads (not_reads_open cs _)
  · obtain ⟨w, same, _⟩ :=
      (reads_lone_iff c cs _ ⟨opening, fun same => absurd same other⟩).mp reads
    exact (List.cons.inj same).1

theorem double_single_quote (a b : List Char) (none : '\'' ∉ a) (after : '\'' ∉ b) :
    Token.double (a ++ '\'' :: b) = a ++ '\'' :: '\'' :: b := by
  rw [double_append, Token.double_cons, double_unquoted a none, double_unquoted b after]
  simp

theorem head_append_of_head {a : List Char} (b : List Char) (c : Char) (first : c ∈ a.head?) :
    (a ++ b).head? = some c := by
  rw [List.head?_append, Option.mem_def.mp first]
  rfl

-- A span opened before the first brace: an apostrophe inside the stretch closes it too early.
theorem span_reads_inner (inner after : List Char) (first : ∃ b ∈ inner.head?, isBrace b = true)
    (last : ∃ b ∈ inner.getLast?, isBrace b = true) (single : Single (inner ++ after))
    (present : '\'' ∈ inner) : ¬ ReadsAs ('\'' :: inner ++ '\'' :: after) (inner ++ after) := by
  obtain ⟨quoted, more, rfl, none⟩ := List.eq_append_cons_of_mem present
  obtain ⟨b, atFront, opens⟩ := first
  obtain ⟨d, atEnd, closes⟩ := last
  have front : b ∈ quoted.head? := by
    cases quoted with
    | nil =>
        cases Option.some.inj atFront
        exact absurd rfl (brace_not_apostrophe _ opens)
    | cons c quoted => exact atFront
  cases more with
  | nil =>
      rw [List.getLast?_append, Option.mem_def] at atEnd
      cases Option.some.inj atEnd
      exact absurd rfl (brace_not_apostrophe _ closes)
  | cons c more =>
      have apart : c ≠ '\'' := by
        have chain : Single (quoted ++ ('\'' :: c :: (more ++ after))) := by simpa using single
        exact (List.isChain_cons_cons.mp (List.isChain_append.mp chain).2.1).1 rfl
      have fits : (Token.span quoted true).Fits (c :: more ++ '\'' :: after) := by
        refine ⟨⟨b, front, opens⟩, ?_⟩
        simpa using apart
      have text : '\'' :: (quoted ++ '\'' :: c :: more) ++ '\'' :: after =
          (Token.span quoted true).text ++ (c :: more ++ '\'' :: after) := by
        simp [Token.text, double_unquoted quoted none]
      rw [text, reads_span_iff quoted _ _ true fits]
      intro found
      obtain ⟨w, same, reads⟩ := found
      obtain rfl : '\'' :: c :: more ++ after = w := by simpa using same
      exact apart (reads_head c '\'' _ _ apart reads).symm

theorem span_reads_after (inner after : List Char) (first : ∃ b ∈ inner.head?, isBrace b = true)
    (clear : ∀ c ∈ after, isBrace c = false) (single : Single (inner ++ after))
    (absent : '\'' ∉ inner) :
    ReadsAs ('\'' :: inner ++ '\'' :: after) (inner ++ after) ↔
      (after.head? = some '\'' → '\'' ∉ after.tail) := by
  obtain ⟨b, atFront, opens⟩ := first
  have singleAfter : Single after := (List.isChain_append.mp single).2.1
  by_cases apart : after.head? = some '\''
  · obtain ⟨tail, rfl⟩ := List.head?_eq_some_iff.mp apart
    by_cases closing : '\'' ∈ tail
    · -- The span runs on to the second apostrophe, and the message loses that one.
      obtain ⟨quoted, rest, rfl, none⟩ := List.eq_append_cons_of_mem closing
      have alone : rest.head? ≠ some '\'' := by
        intro doubled
        have chain : Single (('\'' :: quoted) ++ ('\'' :: rest)) := by simpa using singleAfter
        exact (List.isChain_cons.mp (List.isChain_append.mp chain).2.1).1 '\'' doubled rfl rfl
      have fits : (Token.span (inner ++ '\'' :: quoted) true).Fits rest := by
        refine ⟨⟨b, head_append_of_head _ b atFront, opens⟩, ?_⟩
        simpa using alone
      have text : '\'' :: inner ++ '\'' :: '\'' :: (quoted ++ '\'' :: rest) =
          (Token.span (inner ++ '\'' :: quoted) true).text ++ rest := by
        simp [Token.text, double_single_quote inner quoted absent none]
      rw [text, reads_span_iff _ _ _ true fits]
      constructor
      · intro found
        obtain ⟨w, same, reads⟩ := found
        obtain rfl : '\'' :: rest = w := by simpa using same
        have bound := reads_length _ _ reads
        simp only [List.length_cons] at bound
        omega
      · intro noMore
        exact absurd closing (noMore apart)
    · have fits : (Token.span (inner ++ '\'' :: tail) false).Fits [] :=
        ⟨⟨b, head_append_of_head _ b atFront, opens⟩, rfl⟩
      have text : '\'' :: inner ++ '\'' :: '\'' :: tail =
          (Token.span (inner ++ '\'' :: tail) false).text ++ [] := by
        simp [Token.text, double_single_quote inner tail absent closing]
      rw [text, reads_span_iff _ _ _ false fits]
      constructor
      · intro _ _
        exact closing
      · intro _
        exact ⟨[], by simp, (reads_nil_iff []).mpr rfl⟩
  · have fits : (Token.span inner true).Fits after := ⟨⟨b, atFront, opens⟩, apart⟩
    have text : '\'' :: inner ++ '\'' :: after = (Token.span inner true).text ++ after := by
      simp [Token.text, double_unquoted inner absent]
    rw [text, reads_span_iff _ _ _ true fits]
    constructor
    · intro _ same
      exact absurd same apart
    · intro _
      exact ⟨after, rfl, clear_reads_itself after clear singleAfter⟩

theorem pair_reads_after (after : List Char) (clear : ∀ c ∈ after, isBrace c = false)
    (single : Single after) : ReadsAs ('\'' :: after) after ↔ after.head? = some '\'' := by
  cases after with
  | nil =>
      rw [reads_lone_iff '\'' [] [] ⟨by decide, fun _ _ absent => nomatch absent⟩]
      simp
  | cons c tail =>
      by_cases doubled : c = '\''
      · subst c
        rw [reads_pair_iff]
        constructor
        · intro _
          rfl
        · intro _
          exact ⟨tail, rfl, clear_reads_itself tail (fun d member => clear d (by simp [member]))
            single.tail⟩
      · have lone : Lone '\'' (c :: tail).head? := by
          refine ⟨by decide, ?_⟩
          intro _ b first
          cases Option.some.inj first
          exact ⟨doubled, clear c (by simp)⟩
        rw [reads_lone_iff _ _ _ lone]
        constructor
        · intro found
          obtain ⟨w, same, _⟩ := found
          exact congrArg some (List.cons.inj same).1
        · intro first
          exact absurd (Option.some.inj first) doubled

theorem not_reads_opening_apostrophe (b : Char) (cs value : List Char) (brace : isBrace b = true) :
    ¬ ReadsAs ('\'' :: b :: cs) ('\'' :: value) := by
  rw [reads_cons_iff]
  intro found
  obtain ⟨t, rest, w, read, plain, same, _⟩ := found
  obtain ⟨whole, fits⟩ := (Token.read_ok_iff _ _ t rest).mp read
  cases t with
  | argument before name after => cases plain
  | pair =>
      cases whole
      exact brace_not_apostrophe _ brace rfl
  | plain c =>
      obtain ⟨rfl, rfl⟩ : '\'' = c ∧ b :: cs = rest := by simpa [Token.text] using whole
      have unbraced := (fits.2 rfl b rfl).2
      rw [brace] at unbraced
      cases unbraced
  | span quoted closed =>
      obtain ⟨d, first, opens⟩ := fits.1
      have atFront := head_append_of_head w d first
      have fromValue : ('\'' :: value).head? = some d := by rw [same]; exact atFront
      exact brace_not_apostrophe d opens (Option.some.inj fromValue).symm

theorem bare_reads_inner (inner rest value : List Char)
    (last : ∀ b ∈ inner.getLast?, isBrace b = true) (single : Single inner)
    (reads : ReadsAs (inner ++ rest) (inner ++ value)) :
    '{' ∉ inner ∧ Unopened inner ∧ ReadsAs rest value := by
  induction inner with
  | nil => exact ⟨by simp, .nil, reads⟩
  | cons c inner ih =>
      have notOpening : c ≠ '{' := by
        intro same
        subst same
        exact not_reads_open _ _ reads
      have unbraced : c = '\'' → ∀ b ∈ inner.head?, isBrace b = false := by
        intro same b first
        subst same
        obtain ⟨tail, rfl⟩ := List.head?_eq_some_iff.mp first
        by_contra opens
        exact not_reads_opening_apostrophe b _ _ (by simpa using opens) reads
      have more : c = '\'' → inner ≠ [] := by
        rintro rfl rfl
        exact brace_not_apostrophe _ (last _ rfl) rfl
      have lone : Lone c (inner ++ rest).head? := by
        refine ⟨notOpening, ?_⟩
        intro apostrophe b first
        obtain ⟨d, tail, rfl⟩ := List.exists_cons_of_ne_nil (more apostrophe)
        cases Option.some.inj first
        exact ⟨(List.isChain_cons_cons.mp single).1 apostrophe, unbraced apostrophe b rfl⟩
      obtain ⟨w, same, reads⟩ := (reads_lone_iff c _ _ lone).mp reads
      obtain rfl : inner ++ value = w := (List.cons.inj same).2
      have lastTail : ∀ b ∈ inner.getLast?, isBrace b = true := by
        intro b atEnd
        apply last b
        rw [List.getLast?_cons, Option.mem_def.mp atEnd]
        rfl
      obtain ⟨closed, unopened, left⟩ := ih lastTail single.tail reads
      exact ⟨by simp [closed, Ne.symm notOpening],
        List.isChain_cons.mpr ⟨fun b first apostrophe => unbraced apostrophe b first, unopened⟩, left⟩

theorem bare_reads_iff (inner after : List Char) (last : ∃ b ∈ inner.getLast?, isBrace b = true)
    (clear : ∀ c ∈ after, isBrace c = false) (single : Single (inner ++ after)) :
    ReadsAs (inner ++ '\'' :: after) (inner ++ after) ↔
      '{' ∉ inner ∧ Unopened inner ∧ after.head? = some '\'' := by
  obtain ⟨d, atEnd, closes⟩ := last
  obtain ⟨singleInner, singleAfter, _⟩ := List.isChain_append.mp single
  constructor
  · intro reads
    have ending : ∀ b ∈ inner.getLast?, isBrace b = true := by
      intro b found
      rw [Option.mem_def.mp atEnd] at found
      cases Option.some.inj found
      exact closes
    obtain ⟨closed, unopened, left⟩ := bare_reads_inner inner _ after ending singleInner reads
    exact ⟨closed, unopened, (pair_reads_after after clear singleAfter).mp left⟩
  · intro given
    obtain ⟨closed, unopened, doubled⟩ := given
    have border : inner.getLast? = some '\'' → ∀ b ∈ ('\'' :: after).head?,
        b ≠ '\'' ∧ isBrace b = false := by
      intro apostrophe
      rw [Option.mem_def.mp atEnd] at apostrophe
      exact absurd (Option.some.inj apostrophe) (brace_not_apostrophe d closes)
    rw [reads_quiet_iff _ _ _ (quiet_text inner _ closed singleInner unopened border)]
    exact ⟨after, rfl, (pair_reads_after after clear singleAfter).mpr doubled⟩

-- The opening quote is read as one where no apostrophe stands before it.
theorem quoted_stretch_reads_iff (before inner after : List Char)
    (beforeClear : ∀ c ∈ before, isBrace c = false) (afterClear : ∀ c ∈ after, isBrace c = false)
    (first : ∃ b ∈ inner.head?, isBrace b = true) (last : ∃ b ∈ inner.getLast?, isBrace b = true)
    (single : Single (before ++ (inner ++ after))) (apart : before.getLast? ≠ some '\'') :
    ReadsAs (before ++ ('\'' :: inner ++ '\'' :: after)) (before ++ (inner ++ after)) ↔
      '\'' ∉ inner ∧ (after.head? = some '\'' → '\'' ∉ after.tail) := by
  obtain ⟨singleBefore, singleRest, _⟩ := List.isChain_append.mp single
  have quiet : Quiet before ('\'' :: inner ++ '\'' :: after).head? :=
    clear_quiet before _ beforeClear singleBefore fun paired => absurd paired apart
  rw [reads_quiet_append_iff _ _ _ quiet]
  by_cases inside : '\'' ∈ inner
  · have lost := span_reads_inner inner after first last singleRest inside
    exact ⟨fun reads => absurd reads lost, fun fits => absurd inside fits.1⟩
  · rw [span_reads_after inner after first afterClear singleRest inside]
    simp [inside]

-- Otherwise it pairs up with that apostrophe.
theorem paired_stretch_reads_iff (before inner after : List Char)
    (beforeClear : ∀ c ∈ before, isBrace c = false) (afterClear : ∀ c ∈ after, isBrace c = false)
    (last : ∃ b ∈ inner.getLast?, isBrace b = true)
    (single : Single (before ++ (inner ++ after))) (paired : before.getLast? = some '\'') :
    ReadsAs (before ++ ('\'' :: inner ++ '\'' :: after)) (before ++ (inner ++ after)) ↔
      '{' ∉ inner ∧ Unopened inner ∧ after.head? = some '\'' := by
  obtain ⟨head, rfl⟩ := List.getLast?_eq_some_iff.mp paired
  obtain ⟨singleBefore, singleRest, _⟩ := List.isChain_append.mp single
  obtain ⟨singleHead, _, border⟩ := List.isChain_append.mp singleBefore
  have quiet : Quiet head ('\'' :: '\'' :: inner ++ '\'' :: after).head? :=
    clear_quiet head _ (fun c member => beforeClear c (by simp [member])) singleHead
      fun doubled => absurd rfl (border '\'' doubled '\'' rfl rfl)
  have text : head ++ ['\''] ++ ('\'' :: inner ++ '\'' :: after) =
      head ++ ('\'' :: '\'' :: inner ++ '\'' :: after) := by simp
  have value : head ++ ['\''] ++ (inner ++ after) = head ++ '\'' :: (inner ++ after) := by simp
  rw [text, value, reads_quiet_append_iff _ _ _ quiet, List.cons_append, List.cons_append,
    reads_pair_iff, ← bare_reads_iff inner after last afterClear singleRest]
  simp

theorem stretch_reads_back_iff (text before inner after : List Char) (single : Single text)
    (stretch : Stretch text before inner after) :
    ReadsAs (quoteBraces text) text ↔ Survives before inner after := by
  rw [quote_stretch text before inner after stretch]
  obtain ⟨rfl, beforeClear, afterClear, first, last⟩ := stretch
  rw [List.append_assoc, List.append_assoc]
  rw [List.append_assoc] at single
  unfold Survives
  by_cases paired : before.getLast? = some '\''
  · rw [paired_stretch_reads_iff before inner after beforeClear afterClear last single paired]
    simp [paired]
  · rw [quoted_stretch_reads_iff before inner after beforeClear afterClear first last single paired]
    simp [paired]

theorem stretch_exists (text : List Char) (braces : ∃ b ∈ text, isBrace b = true) :
    ∃ before inner after, Stretch text before inner after := by
  obtain ⟨b, member, brace⟩ := braces
  let rest := text.dropWhile notBrace
  let inner := (rest.reverse.dropWhile notBrace).reverse
  let after := (rest.reverse.takeWhile notBrace).reverse
  have restWhole : inner ++ after = rest := by
    rw [← List.reverse_append, List.takeWhile_append_dropWhile, List.reverse_reverse]
  have clearAfter : ∀ c ∈ after, isBrace c = false := by
    intro c found
    simpa [notBrace] using List.mem_takeWhile_imp (List.mem_reverse.mp found)
  have clearBefore : ∀ c ∈ text.takeWhile notBrace, isBrace c = false := by
    intro c found
    simpa [notBrace] using List.mem_takeWhile_imp found
  have restFirst : ∀ c ∈ rest.head?, isBrace c = true := by
    intro c first
    simpa [notBrace] using dropWhile_stops text c first
  have innerLast : ∀ c ∈ inner.getLast?, isBrace c = true := by
    intro c last
    rw [List.getLast?_reverse] at last
    simpa [notBrace] using dropWhile_stops rest.reverse c last
  have inside : b ∈ inner := by
    have whole : b ∈ text.takeWhile notBrace ++ (inner ++ after) := by
      rw [restWhole, List.takeWhile_append_dropWhile]
      exact member
    rcases List.mem_append.mp whole with early | later
    · rw [clearBefore b early] at brace
      cases brace
    · rcases List.mem_append.mp later with found | late
      · exact found
      · rw [clearAfter b late] at brace
        cases brace
  have nonempty := List.ne_nil_of_mem inside
  have lastSome := List.getLast?_eq_some_getLast nonempty
  obtain ⟨d, more, innerEq⟩ := List.exists_cons_of_ne_nil nonempty
  refine ⟨text.takeWhile notBrace, inner, after, ?_, clearBefore, clearAfter, ⟨d, by simp [innerEq], ?_⟩,
    ⟨_, lastSome, innerLast _ lastSome⟩⟩
  · rw [List.append_assoc, restWhole, List.takeWhile_append_dropWhile]
  · apply restFirst d
    rw [← restWhole, innerEq]
    rfl

theorem quote_braces_ne_nil (text : List Char) (nonempty : text ≠ []) : quoteBraces text ≠ [] := by
  unfold quoteBraces
  split
  · exact nonempty
  · simp

theorem print_one_literal (value : String) (location : Location) :
    printText [⟨.literal, value, location⟩] = String.ofList (quoteBraces value.toList) := by
  simp [printText, print, printAll, printElement, joined, printLiteral, guardEnds]

theorem printed_literal_reads_back_iff (value : String) (properties : Properties)
    (location : Location) (nonempty : value ≠ "") (single : Single value.toList) :
    (∃ read, parse (printText [⟨.literal, value, location⟩]) properties =
        .ok [⟨.literal, value, read⟩]) ↔
      ∀ before inner after, Stretch value.toList before inner after →
        Survives before inner after := by
  have printed : printText [⟨.literal, value, location⟩] ≠ "" := by
    rw [print_one_literal]
    have some := quote_braces_ne_nil value.toList (by simpa using nonempty)
    simpa using some
  rw [parse_literal_iff, print_one_literal, String.toList_ofList]
  constructor
  · intro read before inner after stretch
    obtain ⟨_, reads⟩ := read
    exact (stretch_reads_back_iff _ before inner after single stretch).mp reads
  · intro survives
    refine ⟨by rwa [print_one_literal] at printed, ?_⟩
    by_cases braces : ∃ b ∈ value.toList, isBrace b = true
    · obtain ⟨before, inner, after, stretch⟩ := stretch_exists value.toList braces
      exact (stretch_reads_back_iff _ before inner after single stretch).mpr
        (survives before inner after stretch)
    · have clear : ∀ c ∈ value.toList, isBrace c = false := by
        intro c member
        by_contra brace
        exact braces ⟨c, member, by simpa using brace⟩
      rw [quote_clear value.toList clear]
      exact clear_reads_itself value.toList clear single

theorem printed_literal_reads_back_iff_between_braces :
    "\x7b'\x7d" ≠ "" ∧ Single "\x7b'\x7d".toList ∧
      ((∃ read, parse (printText [⟨.literal, "\x7b'\x7d", .origin⟩]) [] =
          .ok [⟨.literal, "\x7b'\x7d", read⟩]) ↔
        ∀ before inner after, Stretch "\x7b'\x7d".toList before inner after →
          Survives before inner after) := by
  have single : Single "\x7b'\x7d".toList := by simp [Single]
  exact ⟨by decide, single,
    printed_literal_reads_back_iff "\x7b'\x7d" [] .origin (by decide) single⟩

theorem printed_apostrophe_between_braces_lost :
    ¬ ∃ read, parse (printText [⟨.literal, "\x7b'\x7d", .origin⟩]) [] =
      .ok [⟨.literal, "\x7b'\x7d", read⟩] := by
  have stretch : Stretch "\x7b'\x7d".toList [] "\x7b'\x7d".toList [] :=
    ⟨rfl, by simp, by simp, ⟨'\x7b', rfl, by decide⟩, ⟨'\x7d', rfl, by decide⟩⟩
  rw [parse_literal_iff, print_one_literal]
  intro read
  obtain ⟨_, reads⟩ := read
  rw [String.toList_ofList] at reads
  rcases (stretch_reads_back_iff _ _ _ _ (by simp [Single]) stretch).mp reads with
    ⟨_, quoted, _⟩ | ⟨paired, _⟩
  · exact quoted (by decide)
  · cases paired

end StructuredLog.Template
