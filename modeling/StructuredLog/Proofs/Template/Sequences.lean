import StructuredLog.Proofs.Template.RoundTrip

set_option autoImplicit false

namespace StructuredLog.Template

def Bare (cs : List Char) : Prop := ∀ c ∈ cs, c ≠ '\'' ∧ isBrace c = false

-- A literal whose apostrophes keep away from each other and from its braces.
structure Tame (cs : List Char) : Prop where
  single : Single cs
  apart : (∃ b ∈ cs, isBrace b = true) → ∃ before inner after, Stretch cs before inner after ∧
    before.getLast? ≠ some '\'' ∧ '\'' ∉ inner ∧ after.head? ≠ some '\''

-- Literals are set apart by arguments whose values stand for themselves.
structure Printable (elements : List Element) : Prop where
  separate : elements.IsChain fun a b => a.kind = .literal → b.kind = .argument
  arguments : ∀ e ∈ elements, e.kind = .argument → e.value ≠ "" ∧ Bare e.value.toList
  literals : ∀ e ∈ elements, e.kind = .literal → Tame e.value.toList

-- No literal between two others is an apostrophe alone.
def AtEnds (elements : List Element) : Prop :=
  ∀ before e after, elements = before ++ e :: after → e.kind = .literal → e.value = "'" →
    before = [] ∨ after = []

theorem clear_tame (cs : List Char) (single : Single cs) (clear : ∀ c ∈ cs, isBrace c = false) :
    Tame cs := by
  refine ⟨single, ?_⟩
  rintro ⟨b, member, brace⟩
  rw [clear b member] at brace
  cases brace

-- What follows a piece: it does not begin with anything that a piece could pair up with.
def Bordered (rest : List Char) : Prop := ∀ b ∈ rest.head?, b ≠ '\'' ∧ isBrace b = false

def guardFront (isFirst : Bool) (cs : List Char) : List Char :=
  if !isFirst && cs.head? == some '\'' then '\'' :: cs else cs

def guardBack (isLast : Bool) (cs : List Char) : List Char :=
  if !isLast && cs.getLast? == some '\'' then cs ++ ['\''] else cs

theorem guard_ends_eq (isFirst isLast : Bool) (cs : List Char) :
    guardEnds isFirst isLast cs = guardBack isLast (guardFront isFirst cs) := rfl

theorem guard_front_append (isFirst : Bool) (cs rest : List Char)
    (border : cs = [] → rest.head? ≠ some '\'') :
    guardFront isFirst (cs ++ rest) = guardFront isFirst cs ++ rest := by
  unfold guardFront
  cases cs with
  | nil => simp [border rfl]
  | cons c cs =>
      rw [List.cons_append, List.head?_cons, List.head?_cons]
      split <;> rfl

theorem guard_back_append (isLast : Bool) (before cs : List Char)
    (border : cs = [] → before.getLast? ≠ some '\'') :
    guardBack isLast (before ++ cs) = before ++ guardBack isLast cs := by
  unfold guardBack
  cases cs with
  | nil => simp [border rfl]
  | cons c cs =>
      rw [List.getLast?_append_cons]
      split
      · rw [List.append_assoc]
      · rfl

theorem guard_front_clear (isFirst : Bool) (cs : List Char) (clear : ∀ c ∈ cs, isBrace c = false) :
    ∀ c ∈ guardFront isFirst cs, isBrace c = false := by
  unfold guardFront
  split
  · intro c member
    rcases List.mem_cons.mp member with rfl | inside
    · decide
    · exact clear c inside
  · exact clear

theorem guard_back_clear (isLast : Bool) (cs : List Char) (clear : ∀ c ∈ cs, isBrace c = false) :
    ∀ c ∈ guardBack isLast cs, isBrace c = false := by
  unfold guardBack
  split
  · intro c member
    rcases List.mem_append.mp member with inside | last
    · exact clear c inside
    · rw [List.mem_singleton.mp last]
      decide
  · exact clear

theorem guard_back_head (isLast : Bool) (c : Char) (cs : List Char) :
    (guardBack isLast (c :: cs)).head? = some c := by
  unfold guardBack
  split <;> rfl

theorem guard_front_reads (isFirst : Bool) (cs rest w : List Char)
    (clear : ∀ c ∈ cs, isBrace c = false) (single : Single cs) (apart : cs.getLast? ≠ some '\'')
    (reads : ReadsAs rest w) : ReadsAs (guardFront isFirst cs ++ rest) (cs ++ w) := by
  unfold guardFront
  split
  case isFalse =>
    exact (reads_quiet_append_iff cs rest w
      (clear_quiet cs _ clear single fun ends => absurd ends apart)).mpr reads
  case isTrue guarded =>
    obtain ⟨tail, rfl⟩ : ∃ tail, cs = '\'' :: tail :=
      List.head?_eq_some_iff.mp (by simpa using (Bool.and_eq_true_iff.mp guarded).2)
    refine (reads_pair_iff (tail ++ rest) _).mpr ⟨tail ++ w, rfl, ?_⟩
    refine (reads_quiet_append_iff tail rest w (clear_quiet tail _
      (fun c member => clear c (by simp [member])) single.tail ?_)).mpr reads
    intro ends
    exact absurd (by rw [List.getLast?_cons, ends]; rfl) apart

theorem guard_back_reads (isLast : Bool) (cs rest w : List Char)
    (clear : ∀ c ∈ cs, isBrace c = false) (single : Single cs) (bordered : Bordered rest)
    (reads : ReadsAs rest w) : ReadsAs (guardBack isLast cs ++ rest) (cs ++ w) := by
  unfold guardBack
  split
  case isFalse =>
    exact (reads_quiet_append_iff cs rest w
      (clear_quiet cs _ clear single fun _ => bordered)).mpr reads
  case isTrue guarded =>
    obtain ⟨init, rfl⟩ : ∃ init, cs = init ++ ['\''] :=
      List.getLast?_eq_some_iff.mp (by simpa using (Bool.and_eq_true_iff.mp guarded).2)
    obtain ⟨singleInit, -, border⟩ := List.isChain_append.mp single
    have quiet : Quiet init ('\'' :: '\'' :: rest).head? :=
      clear_quiet init _ (fun c member => clear c (by simp [member])) singleInit
        fun ends => absurd rfl (border '\'' ends '\'' rfl rfl)
    have text : init ++ ['\''] ++ ['\''] ++ rest = init ++ '\'' :: '\'' :: rest := by simp
    have value : init ++ ['\''] ++ w = init ++ '\'' :: w := by simp
    rw [text, value, reads_quiet_append_iff init _ _ quiet, reads_pair_iff]
    exact ⟨w, rfl, reads⟩

-- The two guards of an apostrophe alone between two others are read as one more apostrophe.
def echoed (isFirst isLast : Bool) (cs : List Char) : List Char :=
  if cs = ['\''] ∧ isFirst = false ∧ isLast = false then ['\'', '\''] else cs

theorem echoed_other (isFirst isLast : Bool) (cs : List Char) (other : cs ≠ ['\'']) :
    echoed isFirst isLast cs = cs :=
  if_neg fun lone => other lone.1

theorem clear_literal_reads (isFirst isLast : Bool) (cs rest w : List Char)
    (clear : ∀ c ∈ cs, isBrace c = false) (single : Single cs) (bordered : Bordered rest)
    (reads : ReadsAs rest w) :
    ReadsAs (guardEnds isFirst isLast cs ++ rest) (echoed isFirst isLast cs ++ w) := by
  rw [guard_ends_eq]
  by_cases leading : isFirst = false ∧ cs.head? = some '\''
  · obtain ⟨rfl, first⟩ := leading
    obtain ⟨tail, rfl⟩ := List.head?_eq_some_iff.mp first
    have front : guardFront false ('\'' :: tail) = ['\'', '\''] ++ tail := rfl
    by_cases more : tail = []
    · subst tail
      cases isLast with
      | true => exact (reads_pair_iff rest _).mpr ⟨w, rfl, reads⟩
      | false =>
          -- The guard of its back is doubled as well: the pair of the front leaves it alone.
          refine (reads_pair_iff ('\'' :: rest) _).mpr ⟨'\'' :: w, rfl, ?_⟩
          have lone : Lone '\'' rest.head? := ⟨by decide, fun _ => bordered⟩
          exact (reads_lone_iff '\'' rest _ lone).mpr ⟨w, rfl, reads⟩
    · rw [front, guard_back_append isLast _ tail fun none => absurd none more,
        echoed_other _ _ _ (by simpa using more)]
      exact (reads_pair_iff _ _).mpr ⟨tail ++ w, rfl, guard_back_reads isLast tail rest w
        (fun c member => clear c (by simp [member])) single.tail bordered reads⟩
  · have front : guardFront isFirst cs = cs := by
      refine if_neg fun guarded => leading ?_
      simpa using guarded
    have echo : echoed isFirst isLast cs = cs := by
      refine if_neg fun lone => leading ⟨lone.2.1, ?_⟩
      rw [lone.1]
      rfl
    rw [front, echo]
    exact guard_back_reads isLast cs rest w clear single bordered reads

theorem guarded_stretch (isFirst isLast : Bool) (cs before inner after : List Char)
    (stretch : Stretch cs before inner after) :
    Stretch (guardEnds isFirst isLast cs) (guardFront isFirst before) inner
      (guardBack isLast after) := by
  obtain ⟨rfl, beforeClear, afterClear, ⟨b, first, opens⟩, ⟨d, last, closes⟩⟩ := stretch
  have fronted : (inner ++ after).head? ≠ some '\'' := by
    rw [head_append_of_head after b first]
    exact fun same => brace_not_apostrophe b opens (Option.some.inj same)
  have backed : (guardFront isFirst before ++ inner).getLast? ≠ some '\'' := by
    rw [List.getLast?_append, Option.mem_def.mp last]
    exact fun same => brace_not_apostrophe d closes (Option.some.inj same)
  constructor
  case whole =>
    rw [guard_ends_eq, List.append_assoc, guard_front_append isFirst _ _ fun _ => fronted,
      ← List.append_assoc, guard_back_append isLast _ _ fun _ => backed]
  case beforeClear => exact guard_front_clear isFirst before beforeClear
  case afterClear => exact guard_back_clear isLast after afterClear
  case first => exact ⟨b, first, opens⟩
  case last => exact ⟨d, last, closes⟩

theorem stretch_literal_reads (isFirst isLast : Bool) (cs before inner after rest w : List Char)
    (single : Single cs) (stretch : Stretch cs before inner after)
    (beforeApart : before.getLast? ≠ some '\'') (absent : '\'' ∉ inner)
    (afterApart : after.head? ≠ some '\'') (bordered : Bordered rest) (reads : ReadsAs rest w) :
    ReadsAs (quoteBraces (guardEnds isFirst isLast cs) ++ rest) (cs ++ w) := by
  rw [quote_stretch _ _ _ _ (guarded_stretch isFirst isLast cs before inner after stretch)]
  obtain ⟨rfl, beforeClear, afterClear, first, last⟩ := stretch
  obtain ⟨singleFront, singleAfter, -⟩ := List.isChain_append.mp single
  have singleBefore := (List.isChain_append.mp singleFront).1
  have text : guardFront isFirst before ++ '\'' :: inner ++ '\'' :: guardBack isLast after ++ rest =
      guardFront isFirst before ++
        ((Token.span inner true).text ++ (guardBack isLast after ++ rest)) := by
    simp [Token.text, double_unquoted inner absent]
  rw [text, List.append_assoc, List.append_assoc]
  refine guard_front_reads isFirst before _ _ beforeClear singleBefore beforeApart ?_
  have fits : (Token.span inner true).Fits (guardBack isLast after ++ rest) := by
    refine ⟨first, ?_⟩
    cases after with
    | nil => cases isLast <;> exact fun paired => (bordered '\'' paired).1 rfl
    | cons c after =>
        rw [List.head?_append, guard_back_head]
        exact afterApart
  refine (reads_span_iff inner _ _ true fits).mpr ⟨after ++ w, rfl, ?_⟩
  exact guard_back_reads isLast after rest w afterClear singleAfter bordered reads

theorem literal_reads (isFirst isLast : Bool) (cs rest w : List Char) (tame : Tame cs)
    (bordered : Bordered rest) (reads : ReadsAs rest w) :
    ReadsAs (quoteBraces (guardEnds isFirst isLast cs) ++ rest) (echoed isFirst isLast cs ++ w) := by
  by_cases braces : ∃ b ∈ cs, isBrace b = true
  · obtain ⟨before, inner, after, stretch, beforeApart, absent, afterApart⟩ := tame.apart braces
    have other : cs ≠ ['\''] := by
      rintro rfl
      simp [show isBrace '\'' = false from by decide] at braces
    rw [echoed_other isFirst isLast cs other]
    exact stretch_literal_reads isFirst isLast cs before inner after rest w tame.single stretch
      beforeApart absent afterApart bordered reads
  · have clear : ∀ c ∈ cs, isBrace c = false := by
      intro c member
      by_contra brace
      exact braces ⟨c, member, by simpa using brace⟩
    have guarded : ∀ c ∈ guardEnds isFirst isLast cs, isBrace c = false :=
      guard_back_clear isLast _ (guard_front_clear isFirst cs clear)
    rw [quote_clear _ guarded]
    exact clear_literal_reads isFirst isLast cs rest w clear tame.single bordered reads

theorem bare_reads (cs rest w : List Char) (bare : Bare cs) (reads : ReadsAs rest w) :
    ReadsAs (cs ++ rest) (cs ++ w) := by
  induction cs with
  | nil => exact reads
  | cons c cs ih =>
      obtain ⟨other, unbraced⟩ := bare c (by simp)
      have lone : Lone c (cs ++ rest).head? :=
        ⟨not_brace_not_open c unbraced, fun same => absurd same other⟩
      exact (reads_lone_iff c (cs ++ rest) _ lone).mpr
        ⟨cs ++ w, rfl, ih fun d member => bare d (by simp [member])⟩

def Element.echo (isFirst isLast : Bool) (e : Element) : List Char :=
  match e.kind with
  | .literal => echoed isFirst isLast e.value.toList
  | .argument => e.value.toList

def echoes (isFirst : Bool) : List Element → List Char
  | [] => []
  | e :: rest => e.echo isFirst rest.isEmpty ++ echoes false rest

def values (elements : List Element) : List Char := elements.flatMap fun e => e.value.toList

theorem printed_cons (isFirst : Bool) (e : Element) (rest : List Element) :
    (joined (printAll isFirst (e :: rest))).toList =
      (printElement isFirst rest.isEmpty e).text.toList ++ (joined (printAll false rest)).toList := by
  rw [joined, printAll, List.map_cons, String.join_cons, String.toList_append]
  rfl

theorem printable_tail (e : Element) (rest : List Element) (printable : Printable (e :: rest)) :
    Printable rest where
  separate := printable.separate.tail
  arguments := fun a member => printable.arguments a (by simp [member])
  literals := fun a member => printable.literals a (by simp [member])

theorem literal_bordered (e : Element) (rest : List Element) (printable : Printable (e :: rest))
    (literal : e.kind = .literal) : Bordered (joined (printAll false rest)).toList := by
  cases rest with
  | nil =>
      intro b first
      cases first
  | cons a rest =>
      have argument := (List.isChain_cons_cons.mp printable.separate).1 literal
      obtain ⟨nonempty, bare⟩ := printable.arguments a (by simp) argument
      obtain ⟨c, cs, value⟩ : ∃ c cs, a.value.toList = c :: cs :=
        List.exists_cons_of_ne_nil (by simpa using nonempty)
      intro b first
      rw [printed_cons, printElement, argument] at first
      dsimp only at first
      rw [value] at first
      cases Option.some.inj first
      exact bare c (by simp [value])

theorem printed_reads (isFirst : Bool) (elements : List Element) (printable : Printable elements) :
    ReadsAs (joined (printAll isFirst elements)).toList (echoes isFirst elements) := by
  induction elements generalizing isFirst with
  | nil => exact (reads_nil_iff []).mpr rfl
  | cons e rest ih =>
      have reads := ih false (printable_tail e rest printable)
      rw [printed_cons, echoes, printElement, Element.echo]
      cases kind : e.kind with
      | literal =>
          dsimp only
          rw [printLiteral, String.toList_ofList]
          exact literal_reads isFirst rest.isEmpty _ _ _ (printable.literals e (by simp) kind)
            (literal_bordered e rest printable kind) reads
      | argument =>
          exact bare_reads _ _ _ (printable.arguments e (by simp) kind).2 reads

theorem print_element_empty_iff (isFirst isLast : Bool) (e : Element) :
    (printElement isFirst isLast e).text.toList = [] ↔ e.value = "" := by
  unfold printElement
  cases e.kind with
  | argument => exact String.toList_eq_nil_iff
  | literal =>
      rw [printLiteral, String.toList_ofList]
      constructor
      · intro none
        by_contra some
        have front : guardFront isFirst e.value.toList ≠ [] := by
          unfold guardFront
          split <;> simp [some]
        have guarded : guardEnds isFirst isLast e.value.toList ≠ [] := by
          rw [guard_ends_eq, guardBack]
          split <;> simp [front]
        exact quote_braces_ne_nil _ guarded none
      · intro none
        rw [none]
        cases isFirst <;> cases isLast <;> rfl

theorem printed_empty_iff (isFirst : Bool) (elements : List Element) :
    (joined (printAll isFirst elements)).toList = [] ↔ ∀ e ∈ elements, e.value = "" := by
  induction elements generalizing isFirst with
  | nil => simp [joined, printAll]
  | cons e rest ih =>
      rw [printed_cons, List.append_eq_nil_iff, print_element_empty_iff, ih false,
        List.forall_mem_cons]

theorem parse_printed (elements : List Element) (properties : Properties)
    (printable : Printable elements) :
    ((∀ e ∈ elements, e.value = "") → parse (printText elements) properties = .ok []) ∧
      ((∃ e ∈ elements, e.value ≠ "") → ∃ location, parse (printText elements) properties =
        .ok [⟨.literal, String.ofList (echoes true elements), location⟩]) := by
  have empty := printed_empty_iff true elements
  constructor
  · intro none
    refine (parse_ok_iff _ properties []).mpr ⟨[], ?_, rfl⟩
    exact (cut_nil_iff _).mpr (empty.mpr none)
  · rintro ⟨e, member, some⟩
    refine (parse_literal_iff _ _ properties).mpr ⟨?_, ?_⟩
    · intro none
      exact some (empty.mp (String.toList_eq_nil_iff.mpr none) e member)
    · rw [String.toList_ofList]
      exact printed_reads true elements printable

def Ends (isFirst : Bool) (elements : List Element) : Prop :=
  ∀ before e after, elements = before ++ e :: after → e.kind = .literal → e.value = "'" →
    (before = [] ∧ isFirst = true) ∨ after = []

theorem ends_cons_iff (isFirst : Bool) (e : Element) (rest : List Element) :
    Ends isFirst (e :: rest) ↔
      (e.kind = .literal → e.value = "'" → isFirst = true ∨ rest = []) ∧ Ends false rest := by
  constructor
  · intro ends
    refine ⟨fun literal lone => ?_, ?_⟩
    · exact (ends [] e rest rfl literal lone).imp And.right id
    · intro before a after whole literal lone
      rcases ends (e :: before) a after (by rw [whole]; rfl) literal lone with ⟨none, _⟩ | last
      · cases none
      · exact .inr last
  · rintro ⟨first, others⟩ before a after whole literal lone
    cases before with
    | nil =>
        cases whole
        exact (first literal lone).imp (fun isFirst => ⟨rfl, isFirst⟩) id
    | cons b before =>
        cases whole
        rcases others before a after rfl literal lone with ⟨_, absent⟩ | last
        · cases absent
        · exact .inr last

theorem echo_value_iff (isFirst isLast : Bool) (e : Element) :
    e.echo isFirst isLast = e.value.toList ↔
      (e.kind = .literal → e.value = "'" → isFirst = true ∨ isLast = true) := by
  unfold Element.echo
  cases e.kind with
  | argument => simp
  | literal =>
      have lone : e.value.toList = ['\''] ↔ e.value = "'" := by
        rw [← String.toList_inj]
        rfl
      unfold echoed
      dsimp only
      split
      case isTrue between =>
        obtain ⟨value, notFirst, notLast⟩ := between
        rw [value]
        simp [lone.mp value, notFirst, notLast]
      case isFalse ends =>
        simp only [true_iff]
        intro _ value
        rw [lone] at ends
        cases isFirst <;> cases isLast <;> simp_all

theorem echo_longer (isFirst isLast : Bool) (e : Element) :
    e.value.toList.length ≤ (e.echo isFirst isLast).length := by
  unfold Element.echo
  cases e.kind with
  | argument => exact Nat.le_refl _
  | literal =>
      unfold echoed
      dsimp only
      split
      case isTrue between =>
        rw [between.1]
        decide
      case isFalse => exact Nat.le_refl _

theorem echoes_longer (isFirst : Bool) (elements : List Element) :
    (values elements).length ≤ (echoes isFirst elements).length := by
  induction elements generalizing isFirst with
  | nil => exact Nat.le_refl 0
  | cons e rest ih =>
      rw [values, List.flatMap_cons, echoes, List.length_append, List.length_append]
      exact Nat.add_le_add (echo_longer isFirst rest.isEmpty e) (ih false)

theorem echoes_values_iff (isFirst : Bool) (elements : List Element) :
    echoes isFirst elements = values elements ↔ Ends isFirst elements := by
  induction elements generalizing isFirst with
  | nil => simp [echoes, values, Ends]
  | cons e rest ih =>
      have parts : echoes isFirst (e :: rest) = values (e :: rest) ↔
          e.echo isFirst rest.isEmpty = e.value.toList ∧ echoes false rest = values rest := by
        rw [echoes, values, List.flatMap_cons]
        constructor
        · intro same
          -- Neither part is longer than what it stands for, so the two end at the same place.
          have lengths := congrArg List.length same
          have first := echo_longer isFirst rest.isEmpty e
          have others := echoes_longer false rest
          rw [List.length_append, List.length_append] at lengths
          unfold values at others
          exact List.append_inj same (by omega)
        · rintro ⟨first, others⟩
          rw [first, others]
          rfl
      rw [parts, ends_cons_iff, echo_value_iff, ih false]
      simp

theorem at_ends_iff (elements : List Element) : AtEnds elements ↔ Ends true elements := by
  simp [AtEnds, Ends]

theorem values_joined (elements : List Element) :
    String.ofList (values elements) = String.join (elements.map Element.value) := by
  rw [← String.toList_inj, String.toList_ofList, String.toList_join, List.flatMap_map]
  rfl

-- Printed elements read as one literal, unless a lone apostrophe stands between two others.
theorem printed_sequence_reads_back (elements : List Element) (properties : Properties)
    (printable : Printable elements) (ends : AtEnds elements) :
    ((∀ e ∈ elements, e.value = "") → parse (printText elements) properties = .ok []) ∧
      ((∃ e ∈ elements, e.value ≠ "") → ∃ location, parse (printText elements) properties =
        .ok [⟨.literal, String.join (elements.map Element.value), location⟩]) := by
  have parsed := parse_printed elements properties printable
  rwa [(echoes_values_iff true elements).mpr ((at_ends_iff elements).mp ends),
    values_joined] at parsed

def borderElements : List Element :=
  [⟨.literal, "l'", .origin⟩, ⟨.argument, "x", .origin⟩, ⟨.literal, "'s \x7ba\x7db'", .origin⟩,
    ⟨.argument, "y", .origin⟩, ⟨.literal, "'", .origin⟩]

theorem border_elements_printable : Printable borderElements where
  separate := by simp [borderElements]
  arguments := by
    intro e member argument
    simp only [borderElements, List.mem_cons, List.not_mem_nil, or_false] at member
    rcases member with rfl | rfl | rfl | rfl | rfl
    case inr.inl => exact ⟨by decide, by simp [Bare, isBrace]⟩
    case inr.inr.inr.inl => exact ⟨by decide, by simp [Bare, isBrace]⟩
    all_goals cases argument
  literals := by
    intro e member literal
    simp only [borderElements, List.mem_cons, List.not_mem_nil, or_false] at member
    rcases member with rfl | rfl | rfl | rfl | rfl
    case inl => exact clear_tame _ (by simp [Single]) (by simp [isBrace])
    case inr.inr.inl =>
      refine ⟨by simp [Single], fun _ => ⟨"'s ".toList, "\x7ba\x7d".toList, "b'".toList, ?_⟩⟩
      exact ⟨⟨rfl, by simp [isBrace], by simp [isBrace], ⟨'{', rfl, rfl⟩, ⟨'}', rfl, rfl⟩⟩,
        by decide, by decide, by decide⟩
    case inr.inr.inr.inr => exact clear_tame _ (by simp [Single]) (by simp [isBrace])
    all_goals cases literal

theorem printed_sequence_reads_back_at_borders :
    Printable borderElements ∧ AtEnds borderElements ∧
      ∃ location, parse (printText borderElements) [("a", .null)] =
        .ok [⟨.literal, "l'x's \x7ba\x7db'y'", location⟩] := by
  have ends : AtEnds borderElements := by
    simp only [at_ends_iff, borderElements, ends_cons_iff]
    simp [Ends]
  have parsed := printed_sequence_reads_back borderElements [("a", .null)]
    border_elements_printable ends
  exact ⟨border_elements_printable, ends, parsed.2 ⟨_, List.mem_cons_self, by decide⟩⟩

-- Without braces the apostrophes at the borders are all that can go wrong.
theorem boundary_apostrophes_survive_iff (elements : List Element) (properties : Properties)
    (separate : elements.IsChain fun a b => a.kind = .literal → b.kind = .argument)
    (arguments : ∀ e ∈ elements, e.kind = .argument → e.value ≠ "" ∧ Bare e.value.toList)
    (literals : ∀ e ∈ elements, e.kind = .literal →
      Single e.value.toList ∧ ∀ c ∈ e.value.toList, isBrace c = false) :
    ∃ read, parse (printText elements) properties = .ok read ∧
      String.join (read.map Element.value) = String.ofList (echoes true elements) ∧
      (String.join (read.map Element.value) = String.join (elements.map Element.value) ↔
        AtEnds elements) := by
  have printable : Printable elements := ⟨separate, arguments, fun e member literal =>
    clear_tame _ (literals e member literal).1 (literals e member literal).2⟩
  have survives : String.ofList (echoes true elements) = String.join (elements.map Element.value) ↔
      AtEnds elements := by
    rw [← values_joined, String.ofList_inj, echoes_values_iff, at_ends_iff]
  obtain ⟨empty, one⟩ := parse_printed elements properties printable
  by_cases none : ∀ e ∈ elements, e.value = ""
  · have reads := printed_reads true elements printable
    rw [(printed_empty_iff true elements).mpr none, reads_nil_iff] at reads
    rw [reads] at survives ⊢
    exact ⟨[], empty none, rfl, survives⟩
  · obtain ⟨location, parsed⟩ := one (by simpa using none)
    refine ⟨_, parsed, ?_⟩
    have text : String.join (List.map Element.value
        [⟨.literal, String.ofList (echoes true elements), location⟩]) =
          String.ofList (echoes true elements) := by
      simp
    rw [text]
    exact ⟨rfl, survives⟩

def loneElements : List Element :=
  [⟨.argument, "x", .origin⟩, ⟨.literal, "'", .origin⟩, ⟨.argument, "y", .origin⟩]

theorem lone_elements_printable : Printable loneElements where
  separate := by simp [loneElements]
  arguments := by
    intro e member argument
    simp only [loneElements, List.mem_cons, List.not_mem_nil, or_false] at member
    rcases member with rfl | rfl | rfl
    case inr.inl => cases argument
    all_goals exact ⟨by decide, by simp [Bare, isBrace]⟩
  literals := by
    intro e member literal
    simp only [loneElements, List.mem_cons, List.not_mem_nil, or_false] at member
    rcases member with rfl | rfl | rfl
    case inr.inl => exact clear_tame _ (by simp [Single]) (by simp [isBrace])
    all_goals cases literal

theorem boundary_apostrophes_survive_iff_lone_apostrophe :
    loneElements.IsChain (fun a b => a.kind = .literal → b.kind = .argument) ∧
      ∃ read, parse (printText loneElements) [] = .ok read ∧
        String.join (read.map Element.value) = "x''y" ∧
        (String.join (read.map Element.value) = "x'y" ↔ AtEnds loneElements) := by
  have printable := lone_elements_printable
  refine ⟨printable.separate, boundary_apostrophes_survive_iff loneElements [] printable.separate
    printable.arguments ?_⟩
  intro e member literal
  refine ⟨(printable.literals e member literal).single, ?_⟩
  simp only [loneElements, List.mem_cons, List.not_mem_nil, or_false] at member
  rcases member with rfl | rfl | rfl <;> simp [isBrace]

theorem lone_apostrophe_between_arguments_doubled :
    ¬ ∃ read, parse (printText loneElements) [] = .ok read ∧
      String.join (read.map Element.value) = String.join (loneElements.map Element.value) := by
  rintro ⟨read, ok, same⟩
  obtain ⟨location, parsed⟩ := (parse_printed loneElements [] lone_elements_printable).2
    ⟨_, List.mem_cons_self, by decide⟩
  rw [parsed] at ok
  cases ok
  have doubled : "x''y" = "x'y" := same
  exact absurd doubled (by decide)

end StructuredLog.Template
