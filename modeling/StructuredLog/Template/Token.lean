import StructuredLog.Template.Basic
import StructuredLog.Template.Chars

set_option autoImplicit false

namespace StructuredLog.Template

inductive Token where
  | argument (before name after : List Char)
  | pair
  | span (quoted : List Char) (closed : Bool)
  | plain (c : Char)
deriving DecidableEq, Repr

structure Broken where
  fault : Fault
  text : List Char
deriving DecidableEq, Repr

namespace Token

def double (cs : List Char) : List Char :=
  cs.flatMap fun c => if c = '\'' then ['\'', '\''] else [c]

def text : Token → List Char
  | .argument before name after => '{' :: (before ++ name ++ after ++ ['}'])
  | .pair => ['\'', '\'']
  | .span quoted closed => '\'' :: (double quoted ++ if closed then ['\''] else [])
  | .plain c => [c]

def literal : Token → List Char
  | .argument .. => []
  | .pair => ['\'']
  | .span quoted _ => quoted
  | .plain c => [c]

def isArgument : Token → Bool
  | .argument .. => true
  | _ => false

def quotedSpan : List Char → List Char × Bool × List Char
  | [] => ([], false, [])
  | '\'' :: '\'' :: rest =>
      let (quoted, closed, rest) := quotedSpan rest
      ('\'' :: quoted, closed, rest)
  | '\'' :: rest => ([], true, rest)
  | c :: rest =>
      let (quoted, closed, rest) := quotedSpan rest
      (c :: quoted, closed, rest)

def readArgument (cs : List Char) : Except Broken (Token × List Char) :=
  let before := cs.takeWhile isSpace
  match cs.dropWhile isSpace with
  | [] => .error ⟨.unclosed, '{' :: before⟩
  | '}' :: _ => .error ⟨.empty, '{' :: (before ++ ['}'])⟩
  | rest =>
      let name := rest.takeWhile isNameChar
      let rest := rest.dropWhile isNameChar
      let after := rest.takeWhile isSpace
      if name.isEmpty then .error ⟨.malformed, '{' :: before⟩
      else
        match rest.dropWhile isSpace with
        | [] => .error ⟨.unclosed, '{' :: (before ++ name ++ after)⟩
        | '}' :: rest => .ok (.argument before name after, rest)
        | _ => .error ⟨.malformed, '{' :: (before ++ name ++ after)⟩

-- An apostrophe opens a span only directly before a brace.
def read (c : Char) (cs : List Char) : Except Broken (Token × List Char) :=
  if c = '{' then readArgument cs
  else if c = '\'' then
    match cs with
    | '\'' :: rest => .ok (.pair, rest)
    | b :: _ =>
        if isBrace b then
          let (quoted, closed, rest) := quotedSpan cs
          .ok (.span quoted closed, rest)
        else .ok (.plain c, cs)
    | [] => .ok (.plain c, cs)
  else .ok (.plain c, cs)

theorem double_nil : double [] = [] := rfl

theorem double_cons (c : Char) (cs : List Char) :
    double (c :: cs) = (if c = '\'' then ['\'', '\''] else [c]) ++ double cs := rfl

theorem quotedSpan_text (cs : List Char) :
    double (quotedSpan cs).1 ++ (if (quotedSpan cs).2.1 then ['\''] else []) ++ (quotedSpan cs).2.2
      = cs := by
  fun_induction quotedSpan cs with
  | case1 => rfl
  | case2 rest quoted closed after h ih =>
      simp only [h] at ih
      simp [double_cons, List.append_assoc] at ih ⊢
      exact ih
  | case3 rest h => simp [double_nil]
  | case4 c rest h₁ h₂ quoted closed after h ih =>
      have hc : c ≠ '\'' := fun hc => h₂ hc
      simp only [h] at ih
      simp [double_cons, hc, List.append_assoc] at ih ⊢
      exact ih

theorem readArgument_text (cs : List Char) (t : Token) (rest : List Char)
    (h : readArgument cs = .ok (t, rest)) : '{' :: cs = t.text ++ rest := by
  unfold readArgument at h
  dsimp only at h
  split at h
  · exact nomatch h
  · exact nomatch h
  · split at h
    · exact nomatch h
    · split at h
      · exact nomatch h
      · rename_i after₁ after₂ hrest
        simp only [Except.ok.injEq, Prod.mk.injEq] at h
        obtain ⟨rfl, rfl⟩ := h
        have h₁ := List.takeWhile_append_dropWhile (p := isSpace) (l := cs)
        have h₂ := List.takeWhile_append_dropWhile (p := isNameChar) (l := cs.dropWhile isSpace)
        have h₃ := List.takeWhile_append_dropWhile (p := isSpace)
          (l := (cs.dropWhile isSpace).dropWhile isNameChar)
        rw [hrest] at h₃
        simp only [text, List.cons_append, List.append_assoc, List.nil_append]
        rw [h₃, h₂, h₁]
      · exact nomatch h

theorem read_text (c : Char) (cs : List Char) (t : Token) (rest : List Char)
    (h : read c cs = .ok (t, rest)) : c :: cs = t.text ++ rest := by
  unfold read at h
  split at h
  · rename_i hc
    exact hc ▸ readArgument_text cs t rest h
  · split at h
    · rename_i hc
      subst hc
      split at h
      · cases h; rfl
      · split at h
        · cases h
          have hq := quotedSpan_text (‹Char› :: ‹List Char›)
          simp only [text, List.cons_append, List.append_assoc] at hq ⊢
          rw [hq]
        · cases h; rfl
      · cases h; rfl
    · cases h; rfl

theorem text_ne_nil (t : Token) : t.text ≠ [] := by cases t <;> simp [text]

theorem read_shorter (c : Char) (cs : List Char) (t : Token) (rest : List Char)
    (h : read c cs = .ok (t, rest)) : rest.length < (c :: cs).length := by
  rw [read_text c cs t rest h, List.length_append]
  exact Nat.lt_add_of_pos_left (List.length_pos_iff.2 (text_ne_nil t))

end Token

def lex : List Char → List Token × Option Broken
  | [] => ([], none)
  | c :: cs =>
      match h : Token.read c cs with
      | .error broken => ([], some broken)
      | .ok (token, rest) =>
          have : rest.length < (c :: cs).length := Token.read_shorter c cs token rest h
          let (tokens, broken) := lex rest
          (token :: tokens, broken)
termination_by cs => cs.length
decreasing_by exact this

def textOf (tokens : List Token) : List Char := tokens.flatMap Token.text

end StructuredLog.Template
