import StructuredLog.Proofs.Template.Composition

set_option autoImplicit false

namespace StructuredLog.Template

def bracketed (before name after : List Char) : String :=
  String.ofList ('{' :: (before ++ name ++ after ++ ['}']))

-- The padding that names may hold as well: a name takes it up where it comes directly behind.
def isMark (c : Char) : Bool := c == '\u200e' || c == '\u200f'

def Adds (first second : String) (properties : Properties) (value : String) : Prop :=
  ∃ elements, parse first properties = .ok elements ∧
    parse (first ++ second) properties = .ok (elements ++
      [⟨.argument, value, ⟨.endOf first.toList, .endOf (first ++ second).toList⟩⟩])

theorem space_in_names (c : Char) (space : isSpace c = true) : isNameChar c = isMark c := by
  have listed : c.toNat = 0x09 ∨ c.toNat = 0x0A ∨ c.toNat = 0x0B ∨ c.toNat = 0x0C ∨ c.toNat = 0x0D ∨
      c.toNat = 0x20 ∨ c.toNat = 0x85 ∨ c.toNat = 0x200E ∨ c.toNat = 0x200F ∨ c.toNat = 0x2028 ∨
      c.toNat = 0x2029 := by
    simp [isSpace, spaceRanges, Text.Ranges.has_cons, Text.Ranges.has_nil] at space
    omega
  rw [← Char.ofNat_toNat c]
  rcases listed with h | h | h | h | h | h | h | h | h | h | h <;> rw [h] <;> decide

theorem adds_unique (first second : String) (properties : Properties) (a b : String)
    (one : Adds first second properties a) (other : Adds first second properties b) : a = b := by
  obtain ⟨elements, _, parsed⟩ := one
  obtain ⟨elements', _, parsed'⟩ := other
  have same := Except.ok.inj (parsed.symm.trans parsed')
  have last := List.append_inj_right' same rfl
  exact congrArg Element.value (List.cons.inj last).1

theorem parse_append_cut (first second : String) (properties : Properties) (elements : List Element)
    (tokens : List Token) (ok : parse first properties = .ok elements)
    (ended : ∀ e ∈ elements.getLast?, e.kind = .argument) (cut : Cut second.toList tokens) :
    parse (first ++ second) properties = .ok (elements ++
      locateAll properties (.endOf first.toList) (segments tokens)) := by
  obtain ⟨earlier, cutFirst, rfl⟩ := (parse_ok_iff first properties elements).mp ok
  have closed := closed_of_ended earlier properties .start ended
  have lexed := lex_append first.toList second.toList earlier cutFirst closed
  rw [cut_lex _ _ cut] at lexed
  refine (parse_ok_iff _ properties _).mpr ⟨earlier ++ tokens, ?_, ?_⟩
  · rw [String.toList_append]
    exact lex_cut _ _ lexed
  · rw [segments_append earlier tokens closed, locate_all_append, segments_text,
      cut_text _ _ cutFirst, after_start]

theorem bracketed_cut (before name after : List Char) (nonempty : name ≠ [])
    (named : ∀ c ∈ name, isNameChar c = true ∧ isSpace c = false)
    (front : ∀ c ∈ before, isSpace c = true) (back : ∀ c ∈ after, isSpace c = true) :
    Cut (bracketed before name after).toList
      [.argument before (name ++ after.takeWhile isMark) (after.dropWhile isMark)] := by
  have fits : (Token.argument before (name ++ after.takeWhile isMark)
      (after.dropWhile isMark)).Fits [] := by
    refine ⟨front, by simp [nonempty], ?_, ?_, ?_, ?_⟩
    · intro c member
      rcases List.mem_append.mp member with inName | inMarks
      · exact (named c inName).1
      · have space := back c ((List.takeWhile_sublist isMark).mem inMarks)
        rw [space_in_names c space]
        exact List.mem_takeWhile_imp inMarks
    · intro c first
      obtain ⟨d, more, rfl⟩ := List.exists_cons_of_ne_nil nonempty
      exact Option.some.inj first ▸ (named d (by simp)).2
    · exact fun c member => back c ((List.dropWhile_sublist isMark).mem member)
    · intro c first
      have space := back c ((List.dropWhile_sublist isMark).mem (List.mem_of_mem_head? first))
      rw [space_in_names c space]
      exact dropWhile_stops after c first
  have whole := Cut.cons _ [] [] fits .nil
  have text : (Token.argument before (name ++ after.takeWhile isMark)
      (after.dropWhile isMark)).text = (bracketed before name after).toList := by
    simp [Token.text, bracketed]
  rwa [List.append_nil, text] at whole

theorem bracketed_adds (first : String) (properties : Properties) (elements : List Element)
    (before name after : List Char) (ok : parse first properties = .ok elements)
    (ended : ∀ e ∈ elements.getLast?, e.kind = .argument) (nonempty : name ≠ [])
    (named : ∀ c ∈ name, isNameChar c = true ∧ isSpace c = false)
    (front : ∀ c ∈ before, isSpace c = true) (back : ∀ c ∈ after, isSpace c = true) :
    Adds first (bracketed before name after) properties
      (resolve properties (String.ofList (name ++ after.takeWhile isMark))) := by
  have cut := bracketed_cut before name after nonempty named front back
  refine ⟨elements, ok, ?_⟩
  rw [parse_append_cut first _ properties elements _ ok ended cut, String.toList_append,
    ← after_start (first.toList ++ _), Position.after_append, after_start, ← cut_text _ _ cut]
  simp [segments, Segment.push, locateAll, Segment.locate, Segment.kind, Segment.value, Segment.text,
    textOf]

theorem marks_none_iff (after : List Char) :
    after.takeWhile isMark = [] ↔ ∀ c ∈ after.head?, isMark c = false := by
  cases after with
  | nil => simp
  | cons c rest => cases mark : isMark c <;> simp [mark]

theorem ended_alike (first : String) (p q : Properties) (elements : List Element)
    (ok : parse first p = .ok elements) (ended : ∀ e ∈ elements.getLast?, e.kind = .argument) :
    ∃ others, parse first q = .ok others ∧ ∀ e ∈ others.getLast?, e.kind = .argument := by
  obtain ⟨tokens, cut, rfl⟩ := (parse_ok_iff first p elements).mp ok
  refine ⟨_, (parse_ok_iff first q _).mpr ⟨tokens, cut, rfl⟩, ?_⟩
  intro e last
  have kinds := (locate_all_last_kind q .start (segments tokens)).trans
    (locate_all_last_kind p .start (segments tokens)).symm
  rw [Option.mem_def.mp last] at kinds
  obtain ⟨d, found, same⟩ := Option.map_eq_some_iff.mp kinds.symm
  rw [← same]
  exact ended d found

-- Padding makes no difference exactly where no mark follows the name directly.
theorem padding_ignored_iff (first : String) (p : Properties) (elements : List Element)
    (before name after : List Char) (ok : parse first p = .ok elements)
    (ended : ∀ e ∈ elements.getLast?, e.kind = .argument) (nonempty : name ≠ [])
    (named : ∀ c ∈ name, isNameChar c = true ∧ isSpace c = false)
    (front : ∀ c ∈ before, isSpace c = true) (back : ∀ c ∈ after, isSpace c = true) :
    (∀ q, Adds first (bracketed [] name []) q (resolve q (String.ofList name)) ∧
      Adds first (bracketed before name after) q
        (resolve q (String.ofList (name ++ after.takeWhile isMark)))) ∧
    ((∀ q value, Adds first (bracketed before name after) q value ↔
        Adds first (bracketed [] name []) q value) ↔
      ∀ c ∈ after.head?, isMark c = false) := by
  have reads (q : Properties) : Adds first (bracketed [] name []) q (resolve q (String.ofList name)) ∧
      Adds first (bracketed before name after) q
        (resolve q (String.ofList (name ++ after.takeWhile isMark))) := by
    obtain ⟨others, ok', ended'⟩ := ended_alike first p q elements ok ended
    have bare := bracketed_adds first q others [] name [] ok' ended' nonempty named (by simp) (by simp)
    rw [List.takeWhile_nil, List.append_nil] at bare
    exact ⟨bare, bracketed_adds first q others before name after ok' ended' nonempty named front back⟩
  refine ⟨reads, ?_⟩
  constructor
  · intro alike
    obtain ⟨bare, padded⟩ := reads []
    have same := adds_unique _ _ _ _ _ ((alike [] _).mp padded) bare
    have texts : name ++ after.takeWhile isMark = name := String.ofList_injective same
    exact (marks_none_iff after).mp (by simpa using texts)
  · intro unmarked q value
    obtain ⟨bare, padded⟩ := reads q
    rw [(marks_none_iff after).mpr unmarked, List.append_nil] at padded
    constructor
    · intro adds
      rwa [adds_unique _ _ _ _ _ adds padded]
    · intro adds
      rwa [adds_unique _ _ _ _ _ adds bare]

theorem padding_ignored_iff_mark_kept_apart :
    let properties : Properties := [("x", .string "v")]
    (isSpace '\t' = true ∧ isSpace ' ' = true ∧ isSpace '\u200e' = true) ∧
      (isNameChar 'x' = true ∧ isSpace 'x' = false) ∧
      Adds "" (bracketed ['\t'] ['x'] [' ', '\u200e']) properties "v" ∧
      Adds "" (bracketed [] ['x'] []) properties "v" ∧
      Adds "" (bracketed [] ['x'] ['\u200e', ' ']) properties "x\u200e" := by
  intro properties
  have ok : parse "" properties = .ok [] := by
    rw [parse, parseFrom, String.toList_empty, lex]
    rfl
  have named : ∀ c ∈ ['x'], isNameChar c = true ∧ isSpace c = false :=
    List.forall_mem_singleton.mpr (by decide)
  have apart := padding_ignored_iff "" properties [] ['\t'] ['x'] [' ', '\u200e'] ok (by simp) (by simp)
    named (List.forall_mem_singleton.mpr (by decide))
    (List.forall_mem_cons.mpr ⟨by decide, List.forall_mem_singleton.mpr (by decide)⟩)
  have touching := padding_ignored_iff "" properties [] [] ['x'] ['\u200e', ' '] ok (by simp) (by simp)
    named (by simp) (List.forall_mem_cons.mpr ⟨by decide, List.forall_mem_singleton.mpr (by decide)⟩)
  have bare : Adds "" (bracketed [] ['x'] []) properties "v" := (apart.1 properties).1
  have unmarked : ∀ c ∈ [' ', '\u200e'].head?, isMark c = false := by
    rintro c ⟨⟩
    decide
  exact ⟨by decide, by decide, (apart.2.mpr unmarked properties "v").mpr bare, bare,
    (touching.1 properties).2⟩

-- A mark that is padding before a name is read as part of it behind, and no property has that name.
theorem mark_behind_name_not_skipped :
    (isSpace '\u200e' = true ∧ isNameChar 'x' = true ∧ isSpace 'x' = false) ∧
      parse (bracketed [] ['x'] []) [("x", .string "v")] =
        .ok [⟨.argument, "v", ⟨⟨0, 1, 1⟩, ⟨3, 1, 4⟩⟩⟩] ∧
      parse (bracketed ['\u200e'] ['x'] []) [("x", .string "v")] =
        .ok [⟨.argument, "v", ⟨⟨0, 1, 1⟩, ⟨4, 1, 5⟩⟩⟩] ∧
      parse (bracketed [] ['x'] ['\u200e']) [("x", .string "v")] =
        .ok [⟨.argument, "x\u200e", ⟨⟨0, 1, 1⟩, ⟨4, 1, 5⟩⟩⟩] := by
  have named : ∀ c ∈ ['x'], isNameChar c = true ∧ isSpace c = false :=
    List.forall_mem_singleton.mpr (by decide)
  have skipped : ∀ c ∈ ['\u200e'], isSpace c = true := List.forall_mem_singleton.mpr (by decide)
  refine ⟨by decide, ?_, ?_, ?_⟩
  · exact (parse_ok_iff _ _ _).mpr ⟨_, bracketed_cut [] ['x'] [] (by simp) named (by simp) (by simp), rfl⟩
  · exact (parse_ok_iff _ _ _).mpr ⟨_, bracketed_cut ['\u200e'] ['x'] [] (by simp) named skipped
      (by simp), rfl⟩
  · exact (parse_ok_iff _ _ _).mpr ⟨_, bracketed_cut [] ['x'] ['\u200e'] (by simp) named (by simp)
      skipped, rfl⟩

end StructuredLog.Template
