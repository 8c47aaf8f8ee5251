import Mathlib.Data.List.Induction
import StructuredLog.Proofs.Template.Grammar

set_option autoImplicit false

namespace StructuredLog.Template

-- Where a text ends: UTF-16 has one unit for a character, two beyond the basic plane.
def Position.endOf (cs : List Char) : Position :=
  ⟨cs.length + cs.countP fun c => 0x10000 ≤ c.toNat, 1 + cs.count '\n',
    1 + (cs.reverse.takeWhile (· != '\n')).length⟩

-- A text cut into slices, one for each element, every element at the place of its slice.
structure Tiles (text : List Char) (slices : List (List Char)) (elements : List Element) : Prop where
  whole : slices.flatten = text
  matched : slices.length = elements.length
  nonempty : ∀ slice ∈ slices, slice ≠ []
  located : ∀ (i : Nat) (e : Element), elements[i]? = some e →
    e.location = ⟨.endOf (slices.take i).flatten, .endOf (slices.take (i + 1)).flatten⟩
  braced : ∀ (i : Nat) (slice : List Char) (e : Element), slices[i]? = some slice →
    elements[i]? = some e → e.kind = .argument →
    ∃ inner, slice = '{' :: (inner ++ ['}']) ∧ ∀ c ∈ inner, isBrace c = false

theorem end_of_concat (cs : List Char) (c : Char) :
    Position.endOf (cs ++ [c]) = (Position.endOf cs).advance c := by
  unfold Position.endOf Position.advance Position.units
  by_cases feed : c = '\n'
  · subst c
    simp
    omega
  · by_cases basic : c.toNat < 0x10000
    · have astral : ¬ 0x10000 ≤ c.toNat := by omega
      simp [feed, basic, astral]
      omega
    · have astral : 0x10000 ≤ c.toNat := by omega
      simp [feed, basic, astral]
      omega

theorem after_start (cs : List Char) : Position.start.after cs = .endOf cs := by
  induction cs using List.reverseRecOn with
  | nil => rfl
  | append_singleton cs c ih => rw [Position.after_append, ih, end_of_concat]; rfl

theorem push_text (t : Token) (parts : List Segment) :
    (Segment.push t parts).flatMap Segment.text = t.text ++ parts.flatMap Segment.text := by
  rcases argument_or_plain t with ⟨before, name, after, rfl⟩ | plain
  · rfl
  · rw [push_plain t parts plain]
    cases parts with
    | nil => simp [Segment.text, textOf]
    | cons s rest => cases s <;> simp [Segment.text, textOf]

theorem segments_text (tokens : List Token) :
    (segments tokens).flatMap Segment.text = textOf tokens := by
  induction tokens with
  | nil => rfl
  | cons t tokens ih =>
      rw [segments_cons, push_text, ih]
      rfl

theorem cut_text (cs : List Char) (tokens : List Token) (cut : Cut cs tokens) :
    textOf tokens = cs := by
  induction cut with
  | nil => rfl
  | cons t rest tokens _ _ ih => rw [← ih]; rfl

theorem cut_fits (cs : List Char) (tokens : List Token) (cut : Cut cs tokens) :
    ∀ t ∈ tokens, ∃ rest, t.Fits rest := by
  induction cut with
  | nil => simp
  | cons t rest tokens fits _ ih =>
      intro u member
      rcases List.mem_cons.mp member with rfl | later
      · exact ⟨rest, fits⟩
      · exact ih u later

def Segment.From (tokens : List Token) : Segment → Prop
  | .literal run => run ≠ []
  | .argument token name => token ∈ tokens ∧ ∃ before after, token = .argument before name after

theorem from_cons (t : Token) (tokens : List Token) (s : Segment) (made : s.From tokens) :
    s.From (t :: tokens) := by
  cases s with
  | literal run => exact made
  | argument token name => exact ⟨List.mem_cons_of_mem t made.1, made.2⟩

theorem push_from (t : Token) (tokens : List Token) (parts : List Segment)
    (made : ∀ s ∈ parts, s.From tokens) : ∀ s ∈ Segment.push t parts, s.From (t :: tokens) := by
  have kept : ∀ s ∈ parts, s.From (t :: tokens) := fun s member => from_cons t tokens s (made s member)
  intro s member
  rcases argument_or_plain t with ⟨before, name, after, rfl⟩ | plain
  · rcases List.mem_cons.mp member with rfl | later
    · exact ⟨by simp, before, after, rfl⟩
    · exact kept s later
  · rw [push_plain t parts plain] at member
    split at member
    · rename_i run rest
      rcases List.mem_cons.mp member with rfl | later
      · exact List.cons_ne_nil t run
      · exact kept s (List.mem_cons_of_mem _ later)
    · rcases List.mem_cons.mp member with rfl | later
      · exact List.cons_ne_nil t []
      · exact kept s later

theorem segments_from (tokens : List Token) : ∀ s ∈ segments tokens, s.From tokens := by
  induction tokens with
  | nil => simp [segments]
  | cons t tokens ih => exact push_from t tokens _ ih

theorem from_text_ne_nil (tokens : List Token) (s : Segment) (made : s.From tokens) :
    s.text ≠ [] := by
  cases s with
  | literal run =>
      obtain ⟨t, rest, rfl⟩ := List.exists_cons_of_ne_nil made
      simp [Segment.text, textOf, Token.text_ne_nil t]
  | argument token name => exact Token.text_ne_nil token

theorem neither_brace (p : Char → Bool) (opening : p '{' = false) (closing : p '}' = false)
    (c : Char) (holds : p c = true) : isBrace c = false := by
  have notOpening : c ≠ '{' := by
    intro same
    rw [same, opening] at holds
    cases holds
  have notClosing : c ≠ '}' := by
    intro same
    rw [same, closing] at holds
    cases holds
  simp [isBrace, notOpening, notClosing]

theorem argument_braced (before name after rest : List Char)
    (fits : (Token.argument before name after).Fits rest) :
    ∃ inner, (Token.argument before name after).text = '{' :: (inner ++ ['}']) ∧
      ∀ c ∈ inner, isBrace c = false := by
  obtain ⟨spaces, -, named, -, padding, -⟩ := fits
  refine ⟨before ++ name ++ after, rfl, ?_⟩
  intro c member
  rcases List.mem_append.mp member with early | late
  · rcases List.mem_append.mp early with first | second
    · exact neither_brace isSpace isSpace_open isSpace_close c (spaces c first)
    · exact neither_brace isNameChar isNameChar_open isNameChar_close c (named c second)
  · exact neither_brace isSpace isSpace_open isSpace_close c (padding c late)

-- The place of an element depends on the text before it alone.
theorem locate_all_get (properties : Properties) (p : Position) (parts : List Segment) (i : Nat) :
    (locateAll properties p parts)[i]? =
      parts[i]?.map fun s => s.locate properties (p.after ((parts.take i).flatMap Segment.text)) := by
  induction parts generalizing p i with
  | nil => rfl
  | cons s parts ih =>
      cases i with
      | zero => rfl
      | succ i =>
          rw [locateAll, List.getElem?_cons_succ, List.getElem?_cons_succ, ih, List.take_succ_cons,
            List.flatMap_cons, Position.after_append]

theorem locate_all_length (properties : Properties) (p : Position) (parts : List Segment) :
    (locateAll properties p parts).length = parts.length := by
  induction parts generalizing p with
  | nil => rfl
  | cons s parts ih => rw [locateAll, List.length_cons, List.length_cons, ih]

theorem segments_tile (cs : List Char) (tokens : List Token) (properties : Properties)
    (cut : Cut cs tokens) :
    Tiles cs ((segments tokens).map Segment.text)
      (locateAll properties .start (segments tokens)) := by
  have made := segments_from tokens
  constructor
  case whole => rw [← List.flatMap_def, segments_text, cut_text cs tokens cut]
  case matched => rw [List.length_map, locate_all_length]
  case nonempty =>
    intro slice member
    obtain ⟨s, found, rfl⟩ := List.mem_map.mp member
    exact from_text_ne_nil tokens s (made s found)
  case located =>
    intro i e known
    rw [locate_all_get] at known
    obtain ⟨s, found, rfl⟩ := Option.map_eq_some_iff.mp known
    have next : (segments tokens).take (i + 1) = (segments tokens).take i ++ [s] := by
      rw [List.take_add_one, found]
      rfl
    rw [← List.map_take, ← List.map_take, ← List.flatMap_def, ← List.flatMap_def, next,
      ← after_start, ← after_start, List.flatMap_append, Position.after_append]
    simp [Segment.locate]
  case braced =>
    intro i slice e sliced known kind
    rw [locate_all_get] at known
    rw [List.getElem?_map] at sliced
    obtain ⟨s, found, rfl⟩ := Option.map_eq_some_iff.mp known
    rw [found] at sliced
    cases Option.some.inj sliced
    cases s with
    | literal run => cases kind
    | argument token name =>
        obtain ⟨member, before, after, rfl⟩ := made _ (List.mem_of_getElem? found)
        obtain ⟨rest, fits⟩ := cut_fits cs tokens cut _ member
        exact argument_braced before name after rest fits

theorem tiles_last (text : List Char) (slices : List (List Char)) (elements : List Element)
    (tiles : Tiles text slices elements) :
    ∀ e ∈ elements.getLast?, e.location.stop = .endOf text := by
  intro e last
  have known : elements[elements.length - 1]? = some e := by rwa [← List.getLast?_eq_getElem?]
  have some : 0 < elements.length := by
    cases elements with
    | nil => cases last
    | cons d rest => simp
  have all : slices.take (elements.length - 1 + 1) = slices := by
    apply List.take_of_length_le
    rw [tiles.matched]
    omega
  rw [tiles.located _ e known, all, tiles.whole]

theorem tiles_empty (text : List Char) (slices : List (List Char)) (tiles : Tiles text slices []) :
    text = [] := by
  have none : slices = [] := List.eq_nil_of_length_eq_zero tiles.matched
  rw [← tiles.whole, none]
  rfl

theorem spans_tile_the_template (template : String) (properties : Properties)
    (elements : List Element) (ok : parse template properties = .ok elements) :
    (∃ slices, Tiles template.toList slices elements) ∧
      (∀ e ∈ elements.getLast?, e.location.stop = .endOf template.toList) ∧
      (elements = [] → template = "") := by
  obtain ⟨tokens, cut, rfl⟩ := (parse_ok_iff template properties elements).mp ok
  have tiles := segments_tile template.toList tokens properties cut
  refine ⟨⟨_, tiles⟩, tiles_last _ _ _ tiles, ?_⟩
  intro empty
  rw [empty] at tiles
  exact String.toList_eq_nil_iff.mp (tiles_empty _ _ tiles)

def acrossLines : String := "😀'\x7b'\x7b\n𝒳 \x7d"

def acrossLinesElements : List Element :=
  [⟨.literal, "😀\x7b", ⟨⟨0, 1, 1⟩, ⟨5, 1, 5⟩⟩⟩, ⟨.argument, "𝒳", ⟨⟨5, 1, 5⟩, ⟨11, 2, 4⟩⟩⟩]

theorem spans_tile_the_template_across_lines :
    parse acrossLines [] = .ok acrossLinesElements ∧
      (∃ slices, Tiles acrossLines.toList slices acrossLinesElements) ∧
      (∀ e ∈ acrossLinesElements.getLast?, e.location.stop = .endOf acrossLines.toList) ∧
      (acrossLinesElements = [] → acrossLines = "") := by
  have text : acrossLines.toList = ['😀', '\'', '{', '\'', '{', '\n', '𝒳', ' ', '}'] := rfl
  have lexed : lex acrossLines.toList =
      ([.plain '😀', .span ['{'] true, .argument ['\n'] ['𝒳'] [' ']], none) := by
    rw [text, lex_read _ _ (.plain '😀') _ rfl, lex_read _ _ (.span ['{'] true) _ rfl,
      lex_read _ _ (.argument ['\n'] ['𝒳'] [' ']) _ rfl, lex]
  have ok : parse acrossLines [] = .ok acrossLinesElements :=
    (parse_ok_iff acrossLines [] acrossLinesElements).mpr ⟨_, lex_cut _ _ lexed, rfl⟩
  exact ⟨ok, spans_tile_the_template acrossLines [] acrossLinesElements ok⟩

end StructuredLog.Template
