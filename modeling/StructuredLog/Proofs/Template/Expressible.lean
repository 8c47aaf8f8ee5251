import StructuredLog.Proofs.Template.RoundTrip

set_option autoImplicit false

namespace StructuredLog.Template

-- All apostrophes doubled, and everything from the first brace on quoted.
def escape (cs : List Char) : List Char :=
  if cs.any isBrace then
    Token.double (cs.takeWhile notBrace) ++ '\'' :: Token.double (cs.dropWhile notBrace) ++ ['\'']
  else Token.double cs

inductive Part where
  | text (s : String)
  | argument (name : String)
deriving DecidableEq, Repr

namespace Part

def written : Part → List Char
  | .text s => escape s.toList
  | .argument name => '{' :: (name.toList ++ ['}'])

def isText : Part → Bool
  | .text _ => true
  | .argument _ => false

def Sound : Part → Prop
  | .text s => s ≠ ""
  | .argument name =>
      name ≠ "" ∧ (∀ c ∈ name.toList, isNameChar c = true) ∧
        ∀ c ∈ name.toList.head?, isSpace c = false

inductive ReadAs (properties : Properties) : Part → Kind × String → Prop
  | text (s : String) : ReadAs properties (.text s) (.literal, s)
  | argument (name value : String) :
      Substituted properties name value → ReadAs properties (.argument name) (.argument, value)

end Part

def Apart (parts : List Part) : Prop :=
  parts.IsChain fun a b => a.isText = true → b.isText = false

def clearToken (c : Char) : Token := if c = '\'' then .pair else .plain c

def textTokens (cs : List Char) : List Token :=
  (cs.takeWhile notBrace).map clearToken ++
    if cs.any isBrace then [.span (cs.dropWhile notBrace) true] else []

def Part.tokens : Part → List Token
  | .text s => textTokens s.toList
  | .argument name => [.argument [] name.toList []]

theorem clear_token_literal (c : Char) : (clearToken c).literal = [c] := by
  unfold clearToken
  by_cases apostrophe : c = '\''
  · rw [if_pos apostrophe, apostrophe]
    rfl
  · rw [if_neg apostrophe]
    rfl

theorem clear_token_plain (c : Char) : (clearToken c).isArgument = false := by
  unfold clearToken
  by_cases apostrophe : c = '\''
  · rw [if_pos apostrophe]
    rfl
  · rw [if_neg apostrophe]
    rfl

theorem take_while_clear (cs : List Char) : ∀ c ∈ cs.takeWhile notBrace, isBrace c = false := by
  intro c member
  simpa [notBrace] using List.mem_takeWhile_imp member

theorem drop_while_brace (cs : List Char) (braces : cs.any isBrace = true) :
    ∃ b ∈ (cs.dropWhile notBrace).head?, isBrace b = true := by
  obtain ⟨b, member, brace⟩ := List.any_eq_true.mp braces
  cases dropped : cs.dropWhile notBrace with
  | nil =>
      have clear := List.dropWhile_eq_nil_iff.mp dropped b member
      simp [notBrace, brace] at clear
  | cons c tail =>
      have stopped := dropWhile_stops (p := notBrace) cs c (by rw [dropped]; rfl)
      exact ⟨c, rfl, by simpa [notBrace] using stopped⟩

theorem take_while_unbraced (cs : List Char) (unbraced : cs.any isBrace = false) :
    cs.takeWhile notBrace = cs := by
  rw [List.takeWhile_eq_self_iff]
  intro c member
  have clear := List.any_eq_false.mp unbraced c member
  simpa [notBrace] using clear

theorem cut_clear (cs rest : List Char) (tokens : List Token)
    (clear : ∀ c ∈ cs, isBrace c = false) (cut : Cut rest tokens) :
    Cut (Token.double cs ++ rest) (cs.map clearToken ++ tokens) := by
  induction cs with
  | nil => exact cut
  | cons c cs ih =>
      have later := ih fun d member => clear d (by simp [member])
      rw [Token.double_cons, List.map_cons, List.cons_append, List.append_assoc]
      unfold clearToken
      by_cases apostrophe : c = '\''
      · rw [if_pos apostrophe, if_pos apostrophe]
        exact .cons .pair _ _ trivial later
      · rw [if_neg apostrophe, if_neg apostrophe]
        refine .cons (.plain c) _ _ ⟨?_, fun same => absurd same apostrophe⟩ later
        exact not_brace_not_open c (clear c (by simp))

theorem cut_escape (cs rest : List Char) (tokens : List Token) (apart : rest.head? ≠ some '\'')
    (cut : Cut rest tokens) : Cut (escape cs ++ rest) (textTokens cs ++ tokens) := by
  unfold escape textTokens
  by_cases braces : cs.any isBrace = true
  · rw [if_pos braces, if_pos braces]
    have fits : (Token.span (cs.dropWhile notBrace) true).Fits rest :=
      ⟨drop_while_brace cs braces, by simpa using apart⟩
    have span := Cut.cons _ rest tokens fits cut
    have whole := cut_clear (cs.takeWhile notBrace) _ _ (take_while_clear cs) span
    simpa [Token.text] using whole
  · rw [if_neg braces, if_neg braces]
    have unbraced : cs.any isBrace = false := by simpa using braces
    have clear := take_while_clear cs
    rw [take_while_unbraced cs unbraced] at clear ⊢
    rw [List.append_nil]
    exact cut_clear cs rest tokens clear cut

theorem text_tokens_literal (cs : List Char) : (textTokens cs).flatMap Token.literal = cs := by
  have before : ((cs.takeWhile notBrace).map clearToken).flatMap Token.literal =
      cs.takeWhile notBrace := by
    simp [List.flatMap_map, clear_token_literal]
  unfold textTokens
  rw [List.flatMap_append, before]
  by_cases braces : cs.any isBrace = true
  · rw [if_pos braces]
    simp [Token.literal]
  · rw [if_neg braces]
    simpa using take_while_unbraced cs (by simpa using braces)

theorem text_tokens_plain (cs : List Char) : ∀ t ∈ textTokens cs, t.isArgument = false := by
  intro t member
  unfold textTokens at member
  rcases List.mem_append.mp member with early | late
  · obtain ⟨c, _, rfl⟩ := List.mem_map.mp early
    exact clear_token_plain c
  · split at late
    · rw [List.mem_singleton.mp late]
      rfl
    · cases late

theorem text_tokens_ne_nil (cs : List Char) (nonempty : cs ≠ []) : textTokens cs ≠ [] := by
  intro empty
  have literal := text_tokens_literal cs
  rw [empty] at literal
  exact nonempty literal.symm

theorem argument_fits (name rest : List Char) (nonempty : name ≠ [])
    (named : ∀ c ∈ name, isNameChar c = true) (unspaced : ∀ c ∈ name.head?, isSpace c = false) :
    (Token.argument [] name []).Fits rest :=
  ⟨by simp, nonempty, named, unspaced, by simp, by simp⟩

theorem written_after_text (s : String) (parts : List Part) (apart : Apart (.text s :: parts)) :
    (parts.flatMap Part.written).head? ≠ some '\'' := by
  cases parts with
  | nil => simp
  | cons p parts =>
      have follows := (List.isChain_cons_cons.mp apart).1 rfl
      cases p with
      | text s => cases follows
      | argument name => simp [Part.written]

theorem tokens_after_text (s : String) (parts : List Part) (apart : Apart (.text s :: parts)) :
    ∀ t ∈ (parts.flatMap Part.tokens).head?, t.isArgument = true := by
  cases parts with
  | nil => simp
  | cons p parts =>
      have follows := (List.isChain_cons_cons.mp apart).1 rfl
      cases p with
      | text s => cases follows
      | argument name => simp [Part.tokens, Token.isArgument]

theorem cut_parts (parts : List Part) (sound : ∀ p ∈ parts, p.Sound) (apart : Apart parts) :
    Cut (parts.flatMap Part.written) (parts.flatMap Part.tokens) := by
  induction parts with
  | nil => exact .nil
  | cons p parts ih =>
      have later := ih (fun q member => sound q (by simp [member])) apart.tail
      have first := sound p (by simp)
      rw [List.flatMap_cons, List.flatMap_cons]
      cases p with
      | text s => exact cut_escape s.toList _ _ (written_after_text s parts apart) later
      | argument name =>
          obtain ⟨nonempty, named, unspaced⟩ := first
          have fits := argument_fits name.toList (parts.flatMap Part.written)
            (by simpa using nonempty) named unspaced
          have one := Cut.cons _ _ _ fits later
          simpa [Part.written, Part.tokens, Token.text] using one

theorem parts_decoded (parts : List Part) (properties : Properties)
    (sound : ∀ p ∈ parts, p.Sound) (apart : Apart parts) :
    ∃ contents, Decoded properties (parts.flatMap Part.tokens) contents ∧
      List.Forall₂ (Part.ReadAs properties) parts contents := by
  induction parts with
  | nil => exact ⟨[], .nil, .nil⟩
  | cons p parts ih =>
      obtain ⟨contents, decoded, read⟩ := ih (fun q member => sound q (by simp [member])) apart.tail
      have first := sound p (by simp)
      cases p with
      | text s =>
          have nonempty : s.toList ≠ [] := fun empty => first (String.toList_eq_nil_iff.mp empty)
          have run := Decoded.literal _ _ contents
            (text_tokens_ne_nil s.toList nonempty) (text_tokens_plain s.toList)
            (tokens_after_text s parts apart) decoded
          rw [text_tokens_literal, String.ofList_toList] at run
          exact ⟨_, run, .cons (.text s) read⟩
      | argument name =>
          have substituted := (substituted_iff properties name _).mpr rfl
          have one := Decoded.argument [] name.toList [] (resolve properties name) _ contents
            (by rwa [String.ofList_toList]) decoded
          exact ⟨_, one, .cons (.argument name _ substituted) read⟩

-- Every sequence of arguments and texts can be written, so long as no two texts meet.
theorem parts_read_back_exactly (parts : List Part) (properties : Properties)
    (sound : ∀ p ∈ parts, p.Sound) (apart : Apart parts) :
    ∃ elements,
      parse (String.ofList (parts.flatMap Part.written)) properties = .ok elements ∧
        List.Forall₂ (fun p e => p.ReadAs properties e.content) parts elements := by
  have cut := cut_parts parts sound apart
  obtain ⟨contents, decoded, read⟩ := parts_decoded parts properties sound apart
  refine ⟨_, (parse_ok_iff _ _ _).mpr ⟨_, by rwa [String.toList_ofList], rfl⟩, ?_⟩
  rw [← List.forall₂_map_right_iff, locate_all_contents, ← (decoded_iff _ _ _).mp decoded]
  exact read

def quotedQuotes : List Part := [.text "'\x7b'\x7d'", .argument "n", .text "'"]

theorem parts_read_back_exactly_quoted_quotes :
    (∀ p ∈ quotedQuotes, p.Sound) ∧ Apart quotedQuotes ∧
      ∃ elements,
        parse (String.ofList (quotedQuotes.flatMap Part.written)) [("n", .string "'\x7b")] =
            .ok elements ∧
          List.Forall₂ (fun (p : Part) e => p.ReadAs [("n", .string "'\x7b")] e.content)
            quotedQuotes elements := by
  have sound : ∀ p ∈ quotedQuotes, p.Sound := by
    intro p member
    simp only [quotedQuotes, List.mem_cons, List.not_mem_nil, or_false] at member
    rcases member with rfl | rfl | rfl
    · exact (by decide : "'\x7b'\x7d'" ≠ "")
    · refine ⟨by decide, ?_, ?_⟩
      · exact List.forall_mem_singleton.mpr (by decide : isNameChar 'n' = true)
      · rintro c ⟨⟩
        decide
    · exact (by decide : "'" ≠ "")
  have apart : Apart quotedQuotes := by simp [Apart, quotedQuotes, Part.isText]
  exact ⟨sound, apart, parts_read_back_exactly quotedQuotes _ sound apart⟩

end StructuredLog.Template
