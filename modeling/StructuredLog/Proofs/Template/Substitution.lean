import StructuredLog.Proofs.Template.Expressible

set_option autoImplicit false

namespace StructuredLog.Template

structure Untouched (cs : List Char) : Prop where
  clear : ∀ c ∈ cs, isBrace c = false
  front : cs.head? ≠ some '\''
  back : cs.getLast? ≠ some '\''

namespace Part

def typed : Part → String
  | .text s => s
  | .argument name => "\x7b" ++ name ++ "\x7d"

def Plain : Part → Prop
  | .text s => Untouched s.toList ∧ Single s.toList
  | .argument name =>
      name ≠ "" ∧ ∀ c ∈ name.toList, isNameChar c = true ∧ isSpace c = false

def shown (properties : Properties) : Part → String
  | .text s => s
  | .argument name =>
      match properties.find? name with
      | none => name
      | some .null => name
      | some (.string s) => s
      | some value => value.compact

def typedTokens : Part → List Token
  | .text s => s.toList.map Token.plain
  | .argument name => [.argument [] name.toList []]

end Part

theorem resolve_shown (properties : Properties) (name : String) :
    resolve properties name = (Part.argument name).shown properties := by
  rw [resolve, Part.shown]
  cases properties.find? name with
  | none => rfl
  | some value => cases value <;> rfl

theorem untouched_append (a b : List Char) (first : Untouched a) (second : Untouched b) :
    Untouched (a ++ b) where
  clear := by
    intro c member
    exact (List.mem_append.mp member).elim (first.clear c) (second.clear c)
  front := by
    rw [List.head?_append]
    cases a with
    | nil => exact second.front
    | cons c a => exact first.front
  back := by
    rw [List.getLast?_append]
    cases last : b.getLast? with
    | none => exact first.back
    | some c => simpa [last] using second.back

theorem guard_ends_untouched (isFirst isLast : Bool) (cs : List Char) (untouched : Untouched cs) :
    guardEnds isFirst isLast cs = cs := by
  simp [guardEnds, untouched.front, untouched.back]

theorem print_element_untouched (isFirst isLast : Bool) (e : Element)
    (untouched : e.kind = .literal → Untouched e.value.toList) :
    (printElement isFirst isLast e).text = e.value := by
  unfold printElement
  cases kind : e.kind with
  | argument => rfl
  | literal =>
      have left := untouched kind
      dsimp only
      rw [printLiteral, guard_ends_untouched _ _ _ left, quote_clear _ left.clear,
        String.ofList_toList]

-- The printed pieces are the values of the elements, arguments never being escaped.
theorem print_all_untouched (isFirst : Bool) (elements : List Element)
    (untouched : ∀ e ∈ elements, e.kind = .literal → Untouched e.value.toList) :
    (printAll isFirst elements).map Piece.text = elements.map Element.value := by
  induction elements generalizing isFirst with
  | nil => rfl
  | cons e rest ih =>
      have later := ih false fun a member => untouched a (by simp [member])
      rw [printAll, List.map_cons, List.map_cons, later,
        print_element_untouched isFirst rest.isEmpty e (untouched e (by simp))]

theorem cut_quiet (cs rest : List Char) (tokens : List Token) (quiet : Quiet cs rest.head?)
    (cut : Cut rest tokens) : Cut (cs ++ rest) (cs.map Token.plain ++ tokens) := by
  induction cs with
  | nil => exact cut
  | cons c cs ih =>
      obtain ⟨lone, quiet⟩ := quiet
      have fits : (Token.plain c).Fits (cs ++ rest) := by
        rw [← List.head?_append] at lone
        exact lone
      exact .cons (.plain c) _ _ fits (ih quiet)

theorem cut_typed (parts : List Part) (plain : ∀ p ∈ parts, p.Plain) :
    Cut (String.join (parts.map Part.typed)).toList (parts.flatMap Part.typedTokens) := by
  induction parts with
  | nil => exact .nil
  | cons p parts ih =>
      have later := ih fun q member => plain q (by simp [member])
      have first := plain p (by simp)
      rw [List.map_cons, String.join_cons, String.toList_append, List.flatMap_cons]
      cases p with
      | text s =>
          obtain ⟨untouched, single⟩ := first
          exact cut_quiet s.toList _ _ (clear_quiet s.toList _ untouched.clear single
            fun ends => absurd ends untouched.back) later
      | argument name =>
          obtain ⟨nonempty, named⟩ := first
          have fits := argument_fits name.toList (String.join (parts.map Part.typed)).toList
            (by simpa using nonempty) (fun c member => (named c member).1)
            (fun c front => (named c (List.mem_of_mem_head? front)).2)
          have one := Cut.cons _ _ _ fits later
          simpa [Part.typed, Part.typedTokens, Token.text] using one

theorem segments_run_append (run tokens : List Token) (nonempty : run ≠ [])
    (plain : ∀ t ∈ run, t.isArgument = false) :
    segments (run ++ tokens) = match segments tokens with
      | .literal more :: rest => .literal (run ++ more) :: rest
      | parts => .literal run :: parts := by
  induction run with
  | nil => exact absurd rfl nonempty
  | cons t run ih =>
      have first := plain t (by simp)
      rw [List.cons_append, segments_cons, push_plain t _ first]
      by_cases last : run = []
      · subst last
        rw [List.nil_append]
        cases segments tokens with
        | nil => rfl
        | cons s rest => cases s <;> rfl
      · rw [ih last fun u member => plain u (by simp [member])]
        cases segments tokens with
        | nil => rfl
        | cons s rest => cases s <;> rfl

structure Shows (properties : Properties) (parts : List Part) (made : List Segment) : Prop where
  untouched : ∀ s ∈ made, s.kind = .literal → Untouched (s.value properties).toList
  values : made.flatMap (fun s => (s.value properties).toList) =
    parts.flatMap fun p => (p.shown properties).toList

theorem shows_argument (properties : Properties) (name : String) (parts : List Part)
    (tokens : List Token) (shows : Shows properties parts (segments tokens)) :
    Shows properties (.argument name :: parts)
      (segments ((Part.argument name).typedTokens ++ tokens)) := by
  have made : segments ((Part.argument name).typedTokens ++ tokens) =
      .argument (.argument [] name.toList []) name.toList :: segments tokens := rfl
  rw [made]
  constructor
  case untouched =>
    intro s member literal
    rcases List.mem_cons.mp member with rfl | later
    · cases literal
    · exact shows.untouched s later literal
  case values =>
    rw [List.flatMap_cons, List.flatMap_cons, shows.values, ← resolve_shown, Segment.value,
      String.ofList_toList]

theorem shows_run (properties : Properties) (s : String) (run : List Token) (parts : List Part)
    (made : List Segment) (literal : run.flatMap Token.literal = s.toList)
    (untouched : Untouched s.toList) (shows : Shows properties parts made) :
    Shows properties (.text s :: parts) (.literal run :: made) := by
  have value : ((Segment.literal run).value properties).toList = s.toList := by
    rw [Segment.value, literal, String.toList_ofList]
  constructor
  case untouched =>
    intro u member kind
    rcases List.mem_cons.mp member with rfl | later
    · rwa [value]
    · exact shows.untouched u later kind
  case values =>
    rw [List.flatMap_cons, List.flatMap_cons, value, shows.values]
    rfl

theorem shows_longer_run (properties : Properties) (s : String) (run more : List Token)
    (parts : List Part) (made : List Segment) (literal : run.flatMap Token.literal = s.toList)
    (untouched : Untouched s.toList) (shows : Shows properties parts (.literal more :: made)) :
    Shows properties (.text s :: parts) (.literal (run ++ more) :: made) := by
  have value : ((Segment.literal (run ++ more)).value properties).toList =
      s.toList ++ ((Segment.literal more).value properties).toList := by
    rw [Segment.value, Segment.value, List.flatMap_append, literal, String.toList_ofList,
      String.toList_ofList]
  constructor
  case untouched =>
    intro u member kind
    rcases List.mem_cons.mp member with rfl | later
    · rw [value]
      exact untouched_append _ _ untouched (shows.untouched _ List.mem_cons_self rfl)
    · exact shows.untouched u (List.mem_cons_of_mem _ later) kind
  case values =>
    rw [List.flatMap_cons, List.flatMap_cons, value, ← shows.values, List.flatMap_cons,
      List.append_assoc]
    rfl

theorem shows_text (properties : Properties) (s : String) (parts : List Part)
    (tokens : List Token) (untouched : Untouched s.toList)
    (shows : Shows properties parts (segments tokens)) :
    Shows properties (.text s :: parts) (segments ((Part.text s).typedTokens ++ tokens)) := by
  rw [Part.typedTokens]
  have literal : (s.toList.map Token.plain).flatMap Token.literal = s.toList := by
    simp [List.flatMap_map, Token.literal]
  by_cases empty : s.toList = []
  · rw [empty, List.map_nil, List.nil_append]
    refine ⟨shows.untouched, ?_⟩
    rw [List.flatMap_cons, Part.shown, empty, List.nil_append, shows.values]
  · have plain : ∀ t ∈ s.toList.map Token.plain, t.isArgument = false := by
      intro t member
      obtain ⟨c, -, rfl⟩ := List.mem_map.mp member
      rfl
    rw [segments_run_append _ tokens (by simpa using empty) plain]
    generalize segments tokens = made at shows
    cases made with
    | nil => exact shows_run properties s _ parts _ literal untouched shows
    | cons u rest =>
        cases u with
        | argument token name => exact shows_run properties s _ parts _ literal untouched shows
        | literal more =>
            exact shows_longer_run properties s _ more parts rest literal untouched shows

theorem shows_parts (properties : Properties) (parts : List Part) (plain : ∀ p ∈ parts, p.Plain) :
    Shows properties parts (segments (parts.flatMap Part.typedTokens)) := by
  induction parts with
  | nil => exact ⟨fun _ absent => absurd absent List.not_mem_nil, rfl⟩
  | cons p parts ih =>
      have later := ih fun q member => plain q (by simp [member])
      have first := plain p (by simp)
      rw [List.flatMap_cons]
      cases p with
      | text s => exact shows_text properties s parts _ first.1 later
      | argument name => exact shows_argument properties name parts _ later

theorem printed_values (properties : Properties) (p : Position) (made : List Segment)
    (untouched : ∀ s ∈ made, s.kind = .literal → Untouched (s.value properties).toList) :
    (printText (locateAll properties p made)).toList =
      made.flatMap fun s => (s.value properties).toList := by
  have contents := locate_all_contents properties p made
  generalize locateAll properties p made = elements at contents
  have left : ∀ e ∈ elements, e.kind = .literal → Untouched e.value.toList := by
    intro e member kind
    have found : e.content ∈ made.map (Segment.content properties) :=
      contents ▸ List.mem_map_of_mem member
    obtain ⟨s, listed, same⟩ := List.mem_map.mp found
    obtain ⟨sameKind, sameValue⟩ := Prod.mk.inj same
    rw [← sameValue]
    exact untouched s listed (sameKind.trans kind)
  have values := congrArg (List.map Prod.snd) contents
  rw [List.map_map, List.map_map] at values
  calc (printText elements).toList
      = (String.join (elements.map Element.value)).toList := by
        rw [printText, joined, print, print_all_untouched true elements left]
    _ = (String.join (made.map fun s => s.value properties)).toList :=
        congrArg (fun texts => (String.join texts).toList) values
    _ = made.flatMap fun s => (s.value properties).toList := by
        rw [String.toList_join, List.flatMap_map]

-- Values go into the message as they are: they are neither read as template text nor escaped.
theorem format_substitutes (parts : List Part) (properties : Properties)
    (plain : ∀ p ∈ parts, p.Plain) :
    format (String.join (parts.map Part.typed)) properties =
      .ok (String.join (parts.map (Part.shown properties))) := by
  have cut := cut_typed parts plain
  obtain ⟨untouched, values⟩ := shows_parts properties parts plain
  have parsed := (parse_ok_iff _ properties _).mpr ⟨_, cut, rfl⟩
  have printed := printed_values properties .start _ untouched
  rw [format, parsed]
  refine congrArg Except.ok (String.toList_inj.mp ?_)
  rw [printed, values, String.toList_join, List.flatMap_map]

def lookalikes : List Part :=
  [.text "it's ", .argument "who", .text "", .text ", ", .argument "gone", .argument "n"]

theorem format_substitutes_lookalikes :
    (∀ p ∈ lookalikes, p.Plain) ∧
      format (String.join (lookalikes.map Part.typed))
          [("gone", .null), ("n", .array [.nat 1]), ("who", .string "{gone}'")] =
        .ok "it's {gone}', gone[1]" := by
  have named (name : String) (some : name ≠ "")
      (all : name.toList.all (fun c => isNameChar c && !isSpace c) = true) :
      (Part.argument name).Plain := ⟨some, by simpa using all⟩
  have plain : ∀ p ∈ lookalikes, p.Plain := by
    simp only [lookalikes, List.forall_mem_cons, List.not_mem_nil, false_imp_iff, implies_true,
      and_true]
    refine ⟨⟨⟨by simp [isBrace], by decide, by decide⟩, by simp [Single]⟩,
      named "who" (by decide) (by decide),
      ⟨⟨by simp, by decide, by decide⟩, by simp [Single]⟩,
      ⟨⟨by simp [isBrace], by decide, by decide⟩, by simp [Single]⟩,
      named "gone" (by decide) (by decide), named "n" (by decide) (by decide)⟩
  exact ⟨plain, (format_substitutes lookalikes _ plain).trans rfl⟩

end StructuredLog.Template
