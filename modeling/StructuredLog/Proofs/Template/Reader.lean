import StructuredLog.Proofs.Template.Grammar
import StructuredLog.Template.Session

set_option autoImplicit false

namespace StructuredLog.Template

-- Looking at a character where there is none, and a loop that is not done in time, are outcomes.
structure Reader where
  template : String
  chars : List Char
  index : Nat
  position : Position

inductive Crash where
  | outOfBound (index size : Nat)
  | endless
deriving DecidableEq, Repr

namespace Reader

def fresh : Reader := ⟨"", [], 0, .start⟩

abbrev Step (α : Type) : Type := Except (Crash × Reader) α

def atEnd (r : Reader) : Bool := decide (r.chars.length ≤ r.index)

def turns (r : Reader) : Nat := r.chars.length - r.index + 1

def current (r : Reader) : Step Char :=
  match r.chars[r.index]? with
  | some c => .ok c
  | none => .error (.outOfBound r.index r.chars.length, r)

def peek (r : Reader) : Option Char := r.chars[r.index + 1]?

def bump (r : Reader) : Step Reader :=
  if r.atEnd then .ok r
  else do
    let c ← r.current
    return { r with index := r.index + 1, position := r.position.advance c }

def stretch (p : Char → Bool) : Nat → Reader → Step (List Char × Reader)
  | 0, r => .error (.endless, r)
  | n + 1, r =>
      if r.atEnd then .ok ([], r)
      else do
        let c ← r.current
        if p c then
          let (cs, r) ← stretch p n (← r.bump)
          return (c :: cs, r)
        else return ([], r)

def quoted : Nat → Reader → Step (List Char × Reader)
  | 0, r => .error (.endless, r)
  | n + 1, r =>
      if r.atEnd then .ok ([], r)
      else do
        let c ← r.current
        if c = '\'' then
          if r.peek = some '\'' then
            let (cs, r) ← quoted n (← (← r.bump).bump)
            return ('\'' :: cs, r)
          else return ([], ← r.bump)
        else
          let (cs, r) ← quoted n (← r.bump)
          return (c :: cs, r)

def quote (r : Reader) : Step (Option (List Char) × Reader) :=
  if r.atEnd then .ok (none, r)
  else do
    if (← r.current) ≠ '\'' then return (none, r)
    else
      match r.peek with
      | none => return (none, r)
      | some b =>
          if b = '\'' then return (some ['\''], ← (← r.bump).bump)
          else if isBrace b then
            let r ← r.bump
            let first ← r.current
            let r ← r.bump
            let (cs, r) ← quoted r.turns r
            return (some (first :: cs), r)
          else return (none, r)

def unquoted (r : Reader) : Step (Option Char × Reader) :=
  if r.atEnd then .ok (none, r)
  else do
    let c ← r.current
    if c = '{' then return (none, r) else return (some c, ← r.bump)

def literal : Nat → Reader → Step (List Char × Reader)
  | 0, r => .error (.endless, r)
  | n + 1, r => do
      match ← r.quote with
      | (some cs, r) =>
          let (more, r) ← literal n r
          return (cs ++ more, r)
      | (none, r) =>
          match ← r.unquoted with
          | (some c, r) =>
              let (more, r) ← literal n r
              return (c :: more, r)
          | (none, r) => return ([], r)

def fault (r : Reader) (fault : Fault) (opening : Position) : ParseError :=
  ⟨fault, r.template, ⟨opening, r.position⟩⟩

def name (properties : Properties) (opening : Position) (r : Reader) :
    Step (Except ParseError Element × Reader) := do
  let (name, r) ← stretch isNameChar r.turns r
  if name.isEmpty then return (.error (r.fault .malformed opening), r)
  else
    let (_, r) ← stretch isSpace r.turns r
    if r.atEnd then return (.error (r.fault .unclosed opening), r)
    else if (← r.current) ≠ '}' then return (.error (r.fault .malformed opening), r)
    else
      let r ← r.bump
      return (.ok ⟨.argument, resolve properties (String.ofList name), ⟨opening, r.position⟩⟩, r)

def argument (properties : Properties) (r : Reader) :
    Step (Except ParseError Element × Reader) := do
  let opening := r.position
  let r ← r.bump
  let (_, r) ← stretch isSpace r.turns r
  if r.atEnd then return (.error (r.fault .unclosed opening), r)
  else if (← r.current) = '}' then
    let r ← r.bump
    return (.error (r.fault .empty opening), r)
  else r.name properties opening

def message (properties : Properties) :
    Nat → Reader → Step (Except ParseError (List Element) × Reader)
  | 0, r => .error (.endless, r)
  | n + 1, r =>
      if r.atEnd then .ok (.ok [], r)
      else do
        if (← r.current) = '{' then
          match ← r.argument properties with
          | (.error e, r) => return (.error e, r)
          | (.ok e, r) =>
              let (rest, r) ← message properties n r
              return (rest.map (e :: ·), r)
        else
          let opening := r.position
          let (cs, r) ← literal r.turns r
          let e : Element := ⟨.literal, String.ofList cs, ⟨opening, r.position⟩⟩
          let (rest, r) ← message properties n r
          return (rest.map (e :: ·), r)

-- A reader behind `done`, with `rest` still to be read, that began its template at `base`.
def placed (template : String) (base : Position) (done rest : List Char) : Reader :=
  ⟨template, done ++ rest, done.length, base.after done⟩

section Placed

variable (template : String) (base : Position) (done rest : List Char) (c : Char)

@[simp] theorem step_bind {α β : Type} (a : α) (f : α → Step β) : (Except.ok a >>= f) = f a := rfl

@[simp] theorem step_pure {α : Type} (a : α) : (pure a : Step α) = .ok a := rfl

@[simp] theorem placed_turns : (placed template base done rest).turns = rest.length + 1 := by
  simp [turns, placed]

@[simp] theorem placed_end : (placed template base done []).atEnd = true := by
  simp [atEnd, placed]

@[simp] theorem placed_not_end : (placed template base done (c :: rest)).atEnd = false := by
  simp [atEnd, placed]

@[simp] theorem placed_current : (placed template base done (c :: rest)).current = .ok c := by
  simp [current, placed]

@[simp] theorem placed_peek : (placed template base done (c :: rest)).peek = rest.head? := by
  simp [peek, placed, List.getElem?_append_right, List.head?_eq_getElem?]

@[simp] theorem placed_bump :
    (placed template base done (c :: rest)).bump = .ok (placed template base (done ++ [c]) rest) := by
  rw [bump, placed_not_end, placed_current]
  simp [placed, Position.after_append, Position.after_cons, Position.after_nil]

theorem placed_stretch (p : Char → Bool) (n : Nat) (bound : rest.length < n) :
    stretch p n (placed template base done rest) =
      .ok (rest.takeWhile p, placed template base (done ++ rest.takeWhile p) (rest.dropWhile p)) := by
  induction n generalizing done rest with
  | zero => omega
  | succ n ih =>
      cases rest with
      | nil => simp [stretch]
      | cons c rest =>
          have shorter : rest.length < n := by simpa using bound
          cases holds : p c with
          | true =>
              simp [stretch, holds, ih (done ++ [c]) rest shorter]
          | false =>
              simp [stretch, holds]

def spanned (cs : List Char) : List Char :=
  Token.double (Token.quotedSpan cs).1 ++ if (Token.quotedSpan cs).2.1 then ['\''] else []

theorem placed_quoted (n : Nat) (bound : rest.length < n) :
    quoted n (placed template base done rest) =
      .ok ((Token.quotedSpan rest).1,
        placed template base (done ++ spanned rest) (Token.quotedSpan rest).2.2) := by
  induction n generalizing done rest with
  | zero => omega
  | succ n ih =>
      cases rest with
      | nil => simp [quoted, spanned, Token.quotedSpan, Token.double_nil]
      | cons c rest =>
          have shorter : rest.length < n := by simpa using bound
          by_cases apostrophe : c = '\''
          · subst c
            cases rest with
            | nil =>
                simp [quoted, spanned, Token.quotedSpan, Token.double_nil]
            | cons d rest =>
                by_cases pair : d = '\''
                · subst d
                  have later : rest.length < n := Nat.lt_of_succ_lt shorter
                  simp [quoted, spanned, Token.quotedSpan, Token.double_cons, ih _ rest later]
                · simp [quoted, spanned, Token.quotedSpan, Token.double_nil, pair]
          · simp [quoted, spanned, Token.quotedSpan, Token.double_cons, apostrophe, ih _ rest shorter]

theorem placed_quote_pair :
    (placed template base done ('\'' :: '\'' :: rest)).quote =
      .ok (some Token.pair.literal, placed template base (done ++ Token.pair.text) rest) := by
  simp [quote, Token.text, Token.literal]

theorem placed_quote_span (brace : isBrace c = true) :
    (placed template base done ('\'' :: c :: rest)).quote =
      .ok (some (Token.quotedSpan (c :: rest)).1,
        placed template base
          (done ++
            (Token.span (Token.quotedSpan (c :: rest)).1 (Token.quotedSpan (c :: rest)).2.1).text)
          (Token.quotedSpan (c :: rest)).2.2) := by
  have other : c ≠ '\'' := by
    intro same
    rw [same] at brace
    exact absurd brace (by decide)
  have inside := placed_quoted template base (done ++ ['\'', c]) rest (rest.length + 1) (by omega)
  simp [quote, other, brace, inside, spanned, Token.quotedSpan, Token.text, Token.double_cons]

theorem placed_quote_none
    (alone : c = '\'' → ∀ b ∈ rest.head?, b ≠ '\'' ∧ isBrace b = false) :
    (placed template base done (c :: rest)).quote =
      .ok (none, placed template base done (c :: rest)) := by
  by_cases apostrophe : c = '\''
  · cases rest with
    | nil =>
        simp [quote, apostrophe]
    | cons b rest =>
        obtain ⟨single, unbraced⟩ := alone apostrophe b rfl
        simp [quote, apostrophe, single, unbraced]
  · simp [quote, apostrophe]

theorem placed_unquoted (other : c ≠ '{') :
    (placed template base done (c :: rest)).unquoted =
      .ok (some c, placed template base (done ++ [c]) rest) := by
  simp [unquoted, other]

theorem literal_quote (n : Nat) (cs : List Char) (r r' : Reader)
    (read : r.quote = .ok (some cs, r')) :
    literal (n + 1) r = (do let (more, r) ← literal n r'; return (cs ++ more, r)) := by
  rw [literal, read]
  rfl

theorem literal_turn (n : Nat) (other : c ≠ '{') :
    ∃ t rest', Token.read c rest = .ok (t, rest') ∧ t.isArgument = false ∧
      literal (n + 1) (placed template base done (c :: rest)) = (do
        let (more, r) ← literal n (placed template base (done ++ t.text) rest')
        return (t.literal ++ more, r)) := by
  have plain (alone : c = '\'' → ∀ b ∈ rest.head?, b ≠ '\'' ∧ isBrace b = false) :
      Token.read c rest = .ok (.plain c, rest) ∧
        literal (n + 1) (placed template base done (c :: rest)) = (do
          let (more, r) ← literal n (placed template base (done ++ [c]) rest)
          return ([c] ++ more, r)) := by
    refine ⟨Token.read_text_fits (.plain c) rest c rest ⟨other, alone⟩ rfl, ?_⟩
    rw [literal, placed_quote_none template base done rest c alone, step_bind]
    dsimp only
    rw [placed_unquoted template base done rest c other]
    rfl
  by_cases apostrophe : c = '\''
  · subst c
    cases rest with
    | nil =>
        obtain ⟨read, turn⟩ := plain (fun _ b first => nomatch first)
        exact ⟨_, _, read, rfl, turn⟩
    | cons b rest =>
        by_cases pair : b = '\''
        · subst b
          exact ⟨.pair, rest, rfl, rfl,
            literal_quote n _ _ _ (placed_quote_pair template base done rest)⟩
        · by_cases brace : isBrace b = true
          · refine ⟨.span _ _, _, ?_, rfl,
              literal_quote n _ _ _ (placed_quote_span template base done rest b brace)⟩
            simp [Token.read, brace]
          · obtain ⟨read, turn⟩ := plain fun _ d first => by
              cases Option.some.inj first
              exact ⟨pair, by simpa using brace⟩
            exact ⟨_, _, read, rfl, turn⟩
  · obtain ⟨read, turn⟩ := plain fun same => absurd same apostrophe
    exact ⟨_, _, read, rfl, turn⟩

def Stops (cs : List Char) : Prop := ∀ c ∈ cs.head?, c = '{'

theorem placed_literal (n : Nat) (bound : rest.length < n) :
    ∃ run rest', literal n (placed template base done rest) =
        .ok (run.flatMap Token.literal, placed template base (done ++ textOf run) rest') ∧
      rest = textOf run ++ rest' ∧ (∀ t ∈ run, t.isArgument = false) ∧ Stops rest' ∧
      lex rest = (run ++ (lex rest').1, (lex rest').2) := by
  induction n generalizing done rest with
  | zero => omega
  | succ n ih =>
      cases rest with
      | nil =>
          refine ⟨[], [], ?_, rfl, by simp, by simp [Stops], by simp⟩
          simp [literal, quote, unquoted, textOf]
      | cons c rest =>
          by_cases opening : c = '{'
          · subst c
            refine ⟨[], '{' :: rest, ?_, rfl, by simp, by simp [Stops], by simp⟩
            simp [literal, quote, unquoted, textOf]
          · obtain ⟨t, behind, read, plain, turn⟩ := literal_turn template base done rest c n opening
            have shorter := Token.read_shorter c rest t behind read
            have text := Token.read_text c rest t behind read
            obtain ⟨run, rest', looped, whole, plains, stops, lexed⟩ :=
              ih (done ++ t.text) behind (by omega)
            refine ⟨t :: run, rest', ?_, ?_, ?_, stops, ?_⟩
            · rw [turn, looped]
              simp [textOf]
            · rw [text, whole]
              simp [textOf]
            · intro u member
              rcases List.mem_cons.mp member with rfl | later
              · exact plain
              · exact plains u later
            · rw [lex_read c rest t behind read, lexed]
              rfl

def namedToken (before named : List Char) : Except Broken (Token × List Char) :=
  let name := named.takeWhile isNameChar
  let padding := (named.dropWhile isNameChar).takeWhile isSpace
  if name.isEmpty then .error ⟨.malformed, '{' :: before⟩
  else
    match (named.dropWhile isNameChar).dropWhile isSpace with
    | [] => .error ⟨.unclosed, '{' :: (before ++ name ++ padding)⟩
    | c :: behind =>
        if c = '}' then .ok (.argument before name padding, behind)
        else .error ⟨.malformed, '{' :: (before ++ name ++ padding)⟩

theorem read_argument_eq (cs : List Char) :
    Token.readArgument cs =
      match cs.dropWhile isSpace with
      | [] => .error ⟨.unclosed, '{' :: cs.takeWhile isSpace⟩
      | c :: named =>
          if c = '}' then .error ⟨.empty, '{' :: (cs.takeWhile isSpace ++ ['}'])⟩
          else namedToken (cs.takeWhile isSpace) (c :: named) := by
  unfold Token.readArgument namedToken
  dsimp only
  cases cs.dropWhile isSpace with
  | nil => rfl
  | cons c named =>
      by_cases closing : c = '}'
      · subst c
        rfl
      · simp only [closing, if_false]
        split
        · rename_i same
          cases same
        · rename_i same
          cases same
          exact absurd rfl closing
        · cases ((c :: named).dropWhile isNameChar).dropWhile isSpace with
          | nil => rfl
          | cons d behind =>
              by_cases closed : d = '}'
              · subst d
                rfl
              · simp [closed]

def Comes (properties : Properties) (ran : Step (Except ParseError Element × Reader)) :
    Except Broken (Token × List Char) → Prop
  | .ok (t, behind) => ∃ before name after, t = .argument before name after ∧
      ran = .ok (.ok ((Segment.argument t name).locate properties (base.after done)),
        placed template base (done ++ t.text) behind)
  | .error broken => ∃ r, r.position = base.after (done ++ broken.text) ∧
      ran = .ok (.error ⟨broken.fault, template, ⟨base.after done, r.position⟩⟩, r)

theorem placed_name (properties : Properties) (before named : List Char) :
    Comes template base done properties
      ((placed template base (done ++ '{' :: before) named).name properties (base.after done))
      (namedToken before named) := by
  unfold name namedToken
  dsimp only
  rw [placed_turns, placed_stretch _ _ _ _ _ _ (Nat.lt_succ_self _), step_bind]
  generalize named.takeWhile isNameChar = name
  generalize named.dropWhile isNameChar = rest
  dsimp only
  by_cases empty : name.isEmpty = true
  · rw [if_pos empty, if_pos empty]
    have nil : name = [] := List.isEmpty_iff.mp empty
    exact ⟨_, by simp [placed, nil], rfl⟩
  · rw [if_neg empty, if_neg empty, placed_turns, placed_stretch _ _ _ _ _ _ (Nat.lt_succ_self _),
      step_bind]
    generalize rest.takeWhile isSpace = padding
    generalize rest.dropWhile isSpace = behind
    dsimp only
    cases behind with
    | nil =>
        rw [placed_end]
        exact ⟨_, by simp [placed], rfl⟩
    | cons c behind =>
        rw [placed_not_end, placed_current, step_bind]
        by_cases closing : c = '}'
        · subst c
          rw [placed_bump]
          refine ⟨before, name, padding, rfl, ?_⟩
          simp [placed, Segment.locate, Segment.kind, Segment.value, Segment.text, Token.text,
            Position.after_append]
        · dsimp only
          rw [if_neg Bool.false_ne_true, if_pos closing, if_neg closing]
          exact ⟨_, by simp [placed], rfl⟩

theorem placed_argument (properties : Properties) (cs : List Char) :
    Comes template base done properties (argument properties (placed template base done ('{' :: cs)))
      (Token.readArgument cs) := by
  rw [argument, placed_bump, step_bind, placed_turns,
    placed_stretch _ _ _ _ _ _ (Nat.lt_succ_self _), step_bind, read_argument_eq]
  generalize cs.takeWhile isSpace = before
  generalize cs.dropWhile isSpace = named
  dsimp only
  cases named with
  | nil =>
      rw [placed_end]
      exact ⟨_, by simp [placed], rfl⟩
  | cons c named =>
      rw [placed_not_end, placed_current, step_bind]
      by_cases closing : c = '}'
      · subst c
        rw [placed_bump]
        exact ⟨_, by simp [placed], rfl⟩
      · dsimp only
        rw [if_neg Bool.false_ne_true, if_neg closing, if_neg closing, List.append_assoc]
        exact placed_name template base done properties before (c :: named)

end Placed

def outcome (template : String) (properties : Properties) (p : Position) (cs : List Char) :
    Except ParseError (List Element) :=
  match lex cs with
  | (tokens, none) => .ok (locateAll properties p (segments tokens))
  | (tokens, some broken) =>
      let start := p.after (textOf tokens)
      .error ⟨broken.fault, template, ⟨start, start.after broken.text⟩⟩

def stop (p : Position) (cs : List Char) : Position :=
  match lex cs with
  | (tokens, broken) =>
      (p.after (textOf tokens)).after (match broken with | none => [] | some b => b.text)

theorem lex_stops (cs : List Char) (stops : Stops cs) :
    ∀ t ∈ (lex cs).1.head?, t.isArgument = true := by
  intro t first
  cases cs with
  | nil => simp [lex] at first
  | cons c cs =>
      have opening : c = '{' := stops c rfl
      subst c
      cases read : Token.read '{' cs with
      | error broken => simp [lex_broken _ _ _ read] at first
      | ok result =>
          obtain ⟨u, behind⟩ := result
          rw [lex_read _ _ _ _ read] at first
          cases Option.some.inj first
          have argument := placed_argument "" .start [] [] cs
          change Token.readArgument cs = _ at read
          rw [read] at argument
          obtain ⟨before, name, after, rfl, -⟩ := argument
          rfl

section Message

variable (template : String) (base : Position) (properties : Properties) (n : Nat)
  (done cs : List Char)

def Breaks : Prop :=
  ∃ broken r, lex cs = ([], some broken) ∧ r.position = base.after (done ++ broken.text) ∧
    message properties (n + 1) (placed template base done cs) =
      .ok (.error ⟨broken.fault, template, ⟨base.after done, r.position⟩⟩, r)

def Advances : Prop :=
  ∃ front s behind, s.text = textOf front ∧ front ≠ [] ∧ cs = textOf front ++ behind ∧
    lex cs = (front ++ (lex behind).1, (lex behind).2) ∧
    segments (front ++ (lex behind).1) = s :: segments (lex behind).1 ∧
    message properties (n + 1) (placed template base done cs) = (do
      let (rest, r) ← message properties n (placed template base (done ++ s.text) behind)
      return (rest.map (s.locate properties (base.after done) :: ·), r))

theorem message_argument :
    Breaks template base properties n done ('{' :: cs) ∨
      Advances template base properties n done ('{' :: cs) := by
  have reads := placed_argument template base done properties cs
  unfold Breaks Advances
  rw [message, placed_not_end, placed_current, step_bind, if_neg Bool.false_ne_true, if_pos rfl]
  cases read : Token.readArgument cs with
  | error broken =>
      rw [read] at reads
      obtain ⟨r, place, ran⟩ := reads
      rw [ran]
      exact .inl ⟨broken, r, lex_broken '{' cs broken read, place, rfl⟩
  | ok result =>
      obtain ⟨t, behind⟩ := result
      rw [read] at reads
      obtain ⟨before, name, after, rfl, ran⟩ := reads
      have text : textOf [.argument before name after] = Token.text (.argument before name after) :=
        List.append_nil _
      rw [ran]
      refine .inr ⟨[.argument before name after], .argument (.argument before name after) name, behind,
        text.symm, by simp, ?_, lex_read '{' cs _ behind read, rfl, rfl⟩
      rw [text]
      exact Token.read_text '{' cs _ behind read

theorem message_literal (c : Char) (other : c ≠ '{') :
    Advances template base properties n done (c :: cs) := by
  obtain ⟨run, behind, looped, whole, plain, stops, lexed⟩ :=
    placed_literal template base done (c :: cs) _ (Nat.lt_succ_self _)
  have nonempty : run ≠ [] := by
    intro empty
    have same : c :: cs = behind := by rwa [empty] at whole
    exact other (stops c (by rw [← same]; rfl))
  refine ⟨run, .literal run, behind, rfl, nonempty, whole, lexed,
    segments_run run _ nonempty plain (lex_stops behind stops), ?_⟩
  rw [message, placed_not_end, placed_current, step_bind, if_neg Bool.false_ne_true, if_neg other,
    placed_turns, looped, step_bind]
  simp [placed, Segment.locate, Segment.kind, Segment.value, Segment.text, Position.after_append]

end Message

theorem outcome_segment (template : String) (properties : Properties) (p : Position)
    (cs rest : List Char) (front : List Token) (s : Segment) (text : s.text = textOf front)
    (lexed : lex cs = (front ++ (lex rest).1, (lex rest).2))
    (parts : segments (front ++ (lex rest).1) = s :: segments (lex rest).1) :
    outcome template properties p cs =
        (outcome template properties (p.after s.text) rest).map (s.locate properties p :: ·) ∧
      stop p cs = stop (p.after s.text) rest := by
  have texts : p.after (textOf (front ++ (lex rest).1)) =
      (p.after s.text).after (textOf (lex rest).1) := by
    rw [text, ← Position.after_append]
    exact congrArg p.after List.flatMap_append
  unfold outcome stop
  rw [lexed]
  generalize lex rest = behind at parts texts ⊢
  obtain ⟨tokens, broken⟩ := behind
  cases broken with
  | none =>
      dsimp only at parts texts ⊢
      rw [parts, texts]
      exact ⟨rfl, rfl⟩
  | some broken =>
      dsimp only at texts ⊢
      rw [texts]
      exact ⟨rfl, rfl⟩

-- The loop over a template never crashes; it comes to what parsing comes to.
theorem placed_message (template : String) (base : Position) (properties : Properties) (n : Nat)
    (done rest : List Char) (bound : rest.length < n) :
    ∃ r, message properties n (placed template base done rest) =
        .ok (outcome template properties (base.after done) rest, r) ∧
      r.position = stop (base.after done) rest := by
  induction n generalizing done rest with
  | zero => omega
  | succ n ih =>
      cases rest with
      | nil =>
          refine ⟨placed template base done [], ?_, ?_⟩
          · rw [message, placed_end, outcome, lex]
            rfl
          · rw [stop, lex]
            rfl
      | cons c rest =>
          have turn : Breaks template base properties n done (c :: rest) ∨
              Advances template base properties n done (c :: rest) := by
            by_cases opening : c = '{'
            · subst c
              exact message_argument template base properties n done rest
            · exact .inr (message_literal template base properties n done rest c opening)
          rcases turn with ⟨broken, r, lexed, place, ran⟩ |
            ⟨front, s, behind, text, nonempty, whole, lexed, parts, ran⟩
          · rw [Position.after_append] at place
            refine ⟨r, ?_, ?_⟩
            · rw [ran, outcome, lexed, place]
              rfl
            · rw [place, stop, lexed]
              rfl
          · have some : 0 < (textOf front).length := by
              obtain ⟨t, tail, rfl⟩ := List.exists_cons_of_ne_nil nonempty
              exact List.length_pos_iff.mpr (by simp [textOf, Token.text_ne_nil t])
            have lengths := congrArg List.length whole
            rw [List.length_append] at lengths
            obtain ⟨r, more, place⟩ := ih (done ++ s.text) behind (by omega)
            obtain ⟨same, stopped⟩ := outcome_segment template properties (base.after done)
              (c :: rest) behind front s text lexed parts
            rw [Position.after_append] at more place
            refine ⟨r, ?_, ?_⟩
            · rw [ran, more, same]
              rfl
            · rw [place, stopped]

end Reader

end StructuredLog.Template
