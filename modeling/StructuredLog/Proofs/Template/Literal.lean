import StructuredLog.Proofs.Template.Grammar

set_option autoImplicit false

namespace StructuredLog.Template

def ReadsAs (cs value : List Char) : Prop :=
  ∃ tokens, Cut cs tokens ∧ (∀ t ∈ tokens, t.isArgument = false) ∧
    tokens.flatMap Token.literal = value

theorem reads_nil_iff (value : List Char) : ReadsAs [] value ↔ value = [] := by
  constructor
  · intro reads
    obtain ⟨tokens, cut, _, rfl⟩ := reads
    rw [cut_unique [] tokens [] cut .nil]
    rfl
  · intro same
    subst same
    exact ⟨[], .nil, by simp, rfl⟩

theorem reads_cons_iff (c : Char) (cs value : List Char) :
    ReadsAs (c :: cs) value ↔
      ∃ t rest w, Token.read c cs = .ok (t, rest) ∧ t.isArgument = false ∧
        value = t.literal ++ w ∧ ReadsAs rest w := by
  constructor
  · intro reads
    obtain ⟨tokens, cut, plain, rfl⟩ := reads
    generalize whole : c :: cs = text at cut
    cases cut with
    | nil => cases whole
    | cons t rest tokens fits cut =>
        exact ⟨t, rest, tokens.flatMap Token.literal,
          (Token.read_ok_iff c cs t rest).mpr ⟨whole, fits⟩, plain t (by simp), by simp,
          tokens, cut, fun u member => plain u (by simp [member]), rfl⟩
  · intro found
    obtain ⟨t, rest, w, read, first, rfl, tokens, cut, plain, rfl⟩ := found
    obtain ⟨whole, fits⟩ := (Token.read_ok_iff c cs t rest).mp read
    refine ⟨t :: tokens, whole ▸ .cons t rest tokens fits cut, ?_, by simp⟩
    intro u member
    rcases List.mem_cons.mp member with rfl | later
    · exact first
    · exact plain u later

theorem reads_token_iff (c : Char) (cs value : List Char) (t : Token) (rest : List Char)
    (read : Token.read c cs = .ok (t, rest)) (plain : t.isArgument = false) :
    ReadsAs (c :: cs) value ↔ ∃ w, value = t.literal ++ w ∧ ReadsAs rest w := by
  rw [reads_cons_iff]
  constructor
  · intro found
    obtain ⟨t', rest', w, read', _, same, reads⟩ := found
    rw [read] at read'
    cases read'
    exact ⟨w, same, reads⟩
  · intro found
    obtain ⟨w, same, reads⟩ := found
    exact ⟨t, rest, w, read, plain, same, reads⟩

theorem not_reads_open (cs value : List Char) : ¬ ReadsAs ('{' :: cs) value := by
  rw [reads_cons_iff]
  intro found
  obtain ⟨t, rest, w, read, plain, _, _⟩ := found
  obtain ⟨whole, fits⟩ := (Token.read_ok_iff _ _ t rest).mp read
  cases t with
  | argument before name after => cases plain
  | pair => cases whole
  | span quoted closed => cases whole
  | plain c =>
      cases whole
      exact fits.1 rfl

-- A character that starts neither an argument nor anything quoted, standing before `next`.
def Lone (c : Char) (next : Option Char) : Prop :=
  c ≠ '{' ∧ (c = '\'' → ∀ b ∈ next, b ≠ '\'' ∧ isBrace b = false)

theorem reads_lone_iff (c : Char) (cs value : List Char) (lone : Lone c cs.head?) :
    ReadsAs (c :: cs) value ↔ ∃ w, value = c :: w ∧ ReadsAs cs w :=
  reads_token_iff c cs value (.plain c) cs
    ((Token.read_ok_iff _ _ _ _).mpr ⟨rfl, lone⟩) rfl

theorem reads_pair_iff (cs value : List Char) :
    ReadsAs ('\'' :: '\'' :: cs) value ↔ ∃ w, value = '\'' :: w ∧ ReadsAs cs w :=
  reads_token_iff '\'' ('\'' :: cs) value .pair cs
    ((Token.read_ok_iff _ _ _ _).mpr ⟨rfl, trivial⟩) rfl

theorem reads_span_iff (quoted rest value : List Char) (closed : Bool)
    (fits : (Token.span quoted closed).Fits rest) :
    ReadsAs ((Token.span quoted closed).text ++ rest) value ↔
      ∃ w, value = quoted ++ w ∧ ReadsAs rest w :=
  reads_token_iff '\'' _ value (.span quoted closed) rest
    ((Token.read_ok_iff _ _ _ _).mpr ⟨rfl, fits⟩) rfl

theorem literal_length_le_text (t : Token) : t.literal.length ≤ t.text.length := by
  cases t with
  | argument before name after => simp [Token.literal]
  | pair => simp [Token.literal, Token.text]
  | plain c => simp [Token.literal, Token.text]
  | span quoted closed =>
      have doubled : quoted.length ≤ (Token.double quoted).length := by
        induction quoted with
        | nil => simp
        | cons c quoted ih =>
            rw [Token.double_cons, List.length_append, List.length_cons]
            split <;> simp <;> omega
      simp only [Token.literal, Token.text, List.length_cons, List.length_append]
      omega

theorem reads_length (cs value : List Char) (reads : ReadsAs cs value) :
    value.length ≤ cs.length := by
  obtain ⟨tokens, cut, -, rfl⟩ := reads
  induction cut with
  | nil => simp
  | cons t rest tokens _ _ ih =>
      have first := literal_length_le_text t
      simp only [List.flatMap_cons, List.length_append]
      omega

def Quiet : List Char → Option Char → Prop
  | [], _ => True
  | c :: cs, next => Lone c (cs.head?.or next) ∧ Quiet cs next

theorem reads_quiet_iff (cs rest value : List Char) (quiet : Quiet cs rest.head?) :
    ReadsAs (cs ++ rest) value ↔ ∃ w, value = cs ++ w ∧ ReadsAs rest w := by
  induction cs generalizing value with
  | nil => simp
  | cons c cs ih =>
      obtain ⟨lone, quiet⟩ := quiet
      rw [List.cons_append, reads_lone_iff c _ value (by rwa [List.head?_append])]
      constructor
      · intro found
        obtain ⟨w, rfl, reads⟩ := found
        obtain ⟨more, rfl, left⟩ := (ih w quiet).mp reads
        exact ⟨more, rfl, left⟩
      · intro found
        obtain ⟨w, rfl, reads⟩ := found
        exact ⟨cs ++ w, rfl, (ih _ quiet).mpr ⟨w, rfl, reads⟩⟩

theorem reads_quiet_append_iff (cs rest value : List Char) (quiet : Quiet cs rest.head?) :
    ReadsAs (cs ++ rest) (cs ++ value) ↔ ReadsAs rest value := by
  rw [reads_quiet_iff cs rest _ quiet]
  simp

theorem reads_itself (cs : List Char) (quiet : Quiet cs none) : ReadsAs cs cs := by
  have reads := (reads_quiet_iff cs [] cs quiet).mpr ⟨[], by simp, (reads_nil_iff []).mpr rfl⟩
  simpa using reads

theorem decoded_literal_iff (properties : Properties) (tokens : List Token) (value : String) :
    Decoded properties tokens [(.literal, value)] ↔
      tokens ≠ [] ∧ (∀ t ∈ tokens, t.isArgument = false) ∧
        value = String.ofList (tokens.flatMap Token.literal) := by
  constructor
  · intro decoded
    generalize one : [(Kind.literal, value)] = contents at decoded
    cases decoded with
    | nil => cases one
    | argument => cases one
    | literal run tokens contents nonempty plain _ rest =>
        cases one
        cases rest
        simpa using ⟨nonempty, plain⟩
  · intro given
    obtain ⟨nonempty, plain, rfl⟩ := given
    have decoded : Decoded properties (tokens ++ []) _ :=
      .literal tokens [] [] nonempty plain (by simp) .nil
    simpa using decoded

theorem cut_nil_iff (cs : List Char) : Cut cs [] ↔ cs = [] := by
  constructor
  · intro cut
    cases cut
    rfl
  · intro same
    subst same
    exact .nil

theorem parse_literal_iff (template value : String) (properties : Properties) :
    (∃ location, parse template properties = .ok [⟨.literal, value, location⟩]) ↔
      template ≠ "" ∧ ReadsAs template.toList value.toList := by
  constructor
  · intro parsed
    obtain ⟨location, ok⟩ := parsed
    obtain ⟨tokens, cut, elements⟩ := (parse_ok_iff _ _ _).mp ok
    have decoded : Decoded properties tokens [(.literal, value)] := by
      rw [decoded_iff, ← locate_all_contents properties .start, ← elements]
      rfl
    obtain ⟨nonempty, plain, rfl⟩ := (decoded_literal_iff properties tokens value).mp decoded
    refine ⟨?_, tokens, cut, plain, by simp⟩
    intro same
    subst same
    exact nonempty (cut_unique [] tokens [] cut .nil)
  · intro given
    obtain ⟨nonempty, tokens, cut, plain, same⟩ := given
    have some : tokens ≠ [] := by
      intro empty
      subst empty
      exact nonempty (String.toList_eq_nil_iff.mp ((cut_nil_iff _).mp cut))
    have parts : segments tokens = [.literal tokens] := by
      simpa [segments] using segments_run tokens [] some plain (by simp)
    refine ⟨⟨.start, Position.start.after (textOf tokens)⟩,
      (parse_ok_iff _ _ _).mpr ⟨tokens, cut, ?_⟩⟩
    rw [parts]
    have text : value = String.ofList (tokens.flatMap Token.literal) := by rw [same, String.ofList_toList]
    rw [text]
    rfl

end StructuredLog.Template
