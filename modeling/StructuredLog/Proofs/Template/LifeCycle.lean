import Mathlib.Data.List.Induction
import StructuredLog.Proofs.Template.Reader

set_option autoImplicit false

namespace StructuredLog.Template

inductive Call where
  | parse (template : String) (properties : Properties)
  | parseParts (parts : List String) (values : List Json)
  | release

def Call.request? : Call → Option (String × Properties)
  | .parse template properties => some (template, properties)
  | .parseParts parts values => some (splice parts values, [])
  | .release => none

namespace Reader

inductive Reply where
  | panicked (message : String)
  | endless
  | parsed (result : Except ParseError (List Element))

def crashed : Crash → Reply
  | .outOfBound index size =>
      .panicked ("parser position " ++ toString index ++ " is out of bound for input of "
        ++ toString size ++ " code points")
  | .endless => .endless

def parse (r : Reader) (template : String) (properties : Properties) : Reply × Reader :=
  if r.position.offset ≠ 0 then (.panicked Session.refusal, r)
  else
    let r : Reader := ⟨template, template.toList, 0, r.position⟩
    match message properties r.turns r with
    | .ok (result, r) => (.parsed result, r)
    | .error (crash, r) => (crashed crash, r)

def perform (r : Reader) : Call → Option Reply × Reader
  | .parse template properties => (r.parse template properties).map some id
  | .parseParts parts values => (r.parse (splice parts values) []).map some id
  | .release => (none, fresh)

def after (r : Reader) (calls : List Call) : Reader := calls.foldl (fun r c => (r.perform c).2) r

end Reader

namespace Session

def perform (s : Session) : Call → Option Reply × Session
  | .parse template properties => (s.parse template properties).map some id
  | .parseParts parts values => (s.parseParts parts values).map some id
  | .release => (none, s.release)

def after (s : Session) (calls : List Call) : Session := calls.foldl (fun s c => (s.perform c).2) s

def Reply.seen : Reply → Reader.Reply
  | .refused => .panicked refusal
  | .parsed result => .parsed result

end Session

open Reader

-- Since the last release a text that is not empty was given to a call that did not panic.
def Used (before : List Call) (c : Call) : Prop :=
  (∃ template properties, c.request? = some (template, properties) ∧ template ≠ "") ∧
    ∀ message, ((fresh.after before).perform c).1 ≠ some (.panicked message)

def Spent (calls : List Call) : Prop :=
  ∃ before c later, calls = before ++ c :: later ∧ (∀ d ∈ later, d ≠ .release) ∧ Used before c

theorem perform_request (r : Reader) (c : Call) (template : String) (properties : Properties)
    (asked : c.request? = some (template, properties)) :
    r.perform c = (some (r.parse template properties).1, (r.parse template properties).2) := by
  cases c with
  | parse t p =>
      cases asked
      rfl
  | parseParts parts values =>
      cases asked
      rfl
  | release => cases asked

theorem session_request (s : Session) (c : Call) (template : String) (properties : Properties)
    (asked : c.request? = some (template, properties)) :
    s.perform c = (some (s.parse template properties).1, (s.parse template properties).2) := by
  cases c with
  | parse t p =>
      cases asked
      rfl
  | parseParts parts values =>
      cases asked
      rfl
  | release => cases asked

-- The reader that walks answers as the session does, and stands where the session stands.
theorem parse_agrees (r : Reader) (template : String) (properties : Properties) :
    (r.parse template properties).1 = (Session.parse ⟨r.position⟩ template properties).1.seen ∧
      (r.parse template properties).2.position =
        (Session.parse ⟨r.position⟩ template properties).2.position := by
  by_cases used : r.position.offset ≠ 0
  · rw [Reader.parse, Session.parse, if_pos used, if_pos used]
    exact ⟨rfl, rfl⟩
  · obtain ⟨r', ran, place⟩ := placed_message template r.position properties
      (template.toList.length + 1) [] template.toList (Nat.lt_succ_self _)
    rw [Reader.parse, Session.parse, if_neg used, if_neg used]
    have placed : (⟨template, template.toList, 0, r.position⟩ : Reader) =
        Reader.placed template r.position [] template.toList := rfl
    dsimp only
    rw [placed, placed_turns, ran]
    exact ⟨rfl, place⟩

theorem perform_agrees (r : Reader) (c : Call) :
    (r.perform c).1 = (Session.perform ⟨r.position⟩ c).1.map Session.Reply.seen ∧
      (r.perform c).2.position = (Session.perform ⟨r.position⟩ c).2.position := by
  cases asked : c.request? with
  | some request =>
      obtain ⟨template, properties⟩ := request
      rw [perform_request r c template properties asked,
        session_request _ c template properties asked]
      obtain ⟨reply, place⟩ := parse_agrees r template properties
      exact ⟨congrArg some reply, place⟩
  | none =>
      cases c with
      | parse | parseParts => cases asked
      | release => exact ⟨rfl, rfl⟩

theorem after_agrees (r : Reader) (calls : List Call) :
    (r.after calls).position = (Session.after ⟨r.position⟩ calls).position := by
  induction calls generalizing r with
  | nil => rfl
  | cons c calls ih =>
      have next := ih (r.perform c).2
      rw [(perform_agrees r c).2] at next
      exact next

theorem after_concat (r : Reader) (calls : List Call) (c : Call) :
    r.after (calls ++ [c]) = ((r.after calls).perform c).2 := by
  rw [Reader.after, List.foldl_append]
  rfl

theorem offset_le_after (p : Position) (cs : List Char) : p.offset ≤ (p.after cs).offset := by
  induction cs generalizing p with
  | nil => exact Nat.le_refl _
  | cons c cs ih => exact Nat.le_trans (Nat.le_of_lt (p.offset_lt_advance c)) (ih (p.advance c))

theorem offset_after_start_iff (cs : List Char) : (Position.start.after cs).offset = 0 ↔ cs = [] := by
  cases cs with
  | nil => exact ⟨fun _ => rfl, fun _ => rfl⟩
  | cons c cs =>
      have moved := Nat.lt_of_lt_of_le (Position.start.offset_lt_advance c)
        (offset_le_after (Position.start.advance c) cs)
      rw [Position.after_cons]
      simp only [reduceCtorEq, iff_false]
      omega

theorem named_token_broken (before named : List Char) (broken : Broken)
    (failed : namedToken before named = .error broken) : broken.text ≠ [] := by
  unfold namedToken at failed
  dsimp only at failed
  split at failed
  · cases failed
    exact List.cons_ne_nil _ _
  · split at failed
    · cases failed
      exact List.cons_ne_nil _ _
    · split at failed
      · cases failed
      · cases failed
        exact List.cons_ne_nil _ _

theorem read_broken (c : Char) (cs : List Char) (broken : Broken)
    (failed : Token.read c cs = .error broken) : broken.text ≠ [] := by
  by_cases opening : c = '{'
  · subst c
    change Token.readArgument cs = _ at failed
    rw [read_argument_eq] at failed
    split at failed
    · cases failed
      exact List.cons_ne_nil _ _
    · split at failed
      · cases failed
        exact List.cons_ne_nil _ _
      · exact named_token_broken _ _ broken failed
  · obtain ⟨t, rest, read, -⟩ := literal_turn "" .start [] cs c 0 opening
    rw [read] at failed
    cases failed

def consumed (cs : List Char) : List Char :=
  match lex cs with
  | (tokens, broken) => textOf tokens ++ match broken with | none => [] | some b => b.text

theorem stop_consumed (p : Position) (template : String) :
    stopFrom p template = p.after (consumed template.toList) := by
  unfold stopFrom consumed
  exact (Position.after_append p _ _).symm

theorem consumed_nil_iff (cs : List Char) : consumed cs = [] ↔ cs = [] := by
  cases cs with
  | nil => simp [consumed, lex, textOf]
  | cons c cs =>
      cases read : Token.read c cs with
      | error broken => simp [consumed, lex_broken c cs broken read, read_broken c cs broken read]
      | ok result =>
          obtain ⟨t, rest⟩ := result
          simp [consumed, lex_read c cs t rest read, textOf, Token.text_ne_nil t]

theorem parse_position (s : Session) (template : String) (properties : Properties) :
    (s.parse template properties).2.position =
      if s.position.offset ≠ 0 then s.position else s.position.after (consumed template.toList) := by
  by_cases used : s.position.offset ≠ 0
  · rw [Session.parse, if_pos used, if_pos used]
  · rw [Session.parse, if_neg used, if_neg used, ← stop_consumed]

theorem after_reachable (calls : List Call) :
    ∃ cs, (fresh.after calls).position = Position.start.after cs := by
  induction calls using List.reverseRecOn with
  | nil => exact ⟨[], rfl⟩
  | append_singleton calls c ih =>
      obtain ⟨cs, place⟩ := ih
      rw [after_concat, (perform_agrees _ c).2]
      cases asked : c.request? with
      | none =>
          cases c with
          | parse | parseParts => cases asked
          | release => exact ⟨[], rfl⟩
      | some request =>
          obtain ⟨template, properties⟩ := request
          rw [session_request _ c template properties asked, parse_position]
          split
          · exact ⟨cs, place⟩
          · exact ⟨cs ++ consumed template.toList, by rw [place, Position.after_append]⟩

theorem unused_start (calls : List Call) (unused : (fresh.after calls).position.offset = 0) :
    (fresh.after calls).position = .start := by
  obtain ⟨cs, place⟩ := after_reachable calls
  rw [place, offset_after_start_iff] at unused
  rw [place, unused]
  rfl

theorem panics_iff (calls : List Call) (c : Call) (template : String) (properties : Properties)
    (asked : c.request? = some (template, properties)) :
    (∃ message, ((fresh.after calls).perform c).1 = some (.panicked message)) ↔
      (fresh.after calls).position.offset ≠ 0 := by
  rw [(perform_agrees _ c).1, session_request _ c template properties asked, Session.parse]
  by_cases used : (fresh.after calls).position.offset ≠ 0
  · rw [if_pos used]
    exact ⟨fun _ => used, fun _ => ⟨_, rfl⟩⟩
  · rw [if_neg used]
    exact ⟨fun ⟨_, panics⟩ => (nomatch panics), fun moved => absurd moved used⟩

theorem spent_concat (calls : List Call) (c : Call) :
    Spent (calls ++ [c]) ↔ Used calls c ∨ c ≠ .release ∧ Spent calls := by
  constructor
  · intro spent
    obtain ⟨before, d, later, whole, kept, used⟩ := spent
    cases later using List.reverseRecOn with
    | nil =>
        obtain ⟨rfl, same⟩ := List.append_inj' whole rfl
        cases same
        exact .inl used
    | append_singleton later e =>
        have whole' : calls ++ [c] = (before ++ d :: later) ++ [e] := by simpa using whole
        obtain ⟨rfl, same⟩ := List.append_inj' whole' rfl
        cases same
        refine .inr ⟨kept c (by simp), before, d, later, rfl, ?_, used⟩
        exact fun f member => kept f (by simp [member])
  · rintro (used | ⟨kept, before, d, later, rfl, others, used⟩)
    · exact ⟨calls, c, [], rfl, by simp, used⟩
    · refine ⟨before, d, later ++ [c], by simp, ?_, used⟩
      intro f member
      rcases List.mem_append.mp member with early | last
      · exact others f early
      · rw [List.mem_singleton.mp last]
        exact kept

theorem spent_iff (calls : List Call) : Spent calls ↔ (fresh.after calls).position.offset ≠ 0 := by
  induction calls using List.reverseRecOn with
  | nil =>
      constructor
      · rintro ⟨before, c, later, whole, -⟩
        simp at whole
      · exact fun moved => absurd rfl moved
  | append_singleton calls c ih =>
      rw [spent_concat, ih, after_concat, (perform_agrees _ c).2]
      cases asked : c.request? with
      | none =>
          cases c with
          | parse | parseParts => cases asked
          | release =>
              simp [Used, asked, Session.perform, Session.release, Session.fresh, Position.start]
      | some request =>
          obtain ⟨template, properties⟩ := request
          have kept : c ≠ .release := by
            rintro rfl
            cases asked
          have panics := panics_iff calls c template properties asked
          rw [session_request _ c template properties asked, parse_position]
          by_cases used : (fresh.after calls).position.offset ≠ 0
          · rw [if_pos used]
            exact ⟨fun _ => used, fun _ => .inr ⟨kept, used⟩⟩
          · have quiet : ∀ message, ((fresh.after calls).perform c).1 ≠ some (.panicked message) :=
              not_exists.mp (panics.not.mpr used)
            have fresh := unused_start calls (not_not.mp used)
            have moves :
                (Position.start.after (consumed template.toList)).offset ≠ 0 ↔ template ≠ "" := by
              rw [not_iff_not, offset_after_start_iff, consumed_nil_iff, String.toList_eq_nil_iff]
            rw [if_neg used, fresh, moves]
            simp [Used, asked, quiet, Position.start]

theorem refusal_no_crash (crash : Crash) : crashed crash ≠ .panicked Session.refusal := by
  cases crash with
  | endless => exact fun same => nomatch same
  | outOfBound index size =>
      intro same
      have letters := congrArg (fun s : String => s.toList[7]?) (Reply.panicked.inj same)
      simp [Session.refusal] at letters

theorem spent_refuses (calls : List Call) (c : Call) (template : String) (properties : Properties)
    (asked : c.request? = some (template, properties)) (spent : Spent calls) :
    (fresh.after calls).perform c = (some (.panicked Session.refusal), fresh.after calls) ∧
      (Session.fresh.after calls).perform c =
        (some .refused, ⟨(fresh.after calls).position⟩) := by
  have used := (spent_iff calls).mp spent
  have place : (fresh.after calls).position = (Session.fresh.after calls).position :=
    after_agrees fresh calls
  constructor
  · rw [perform_request _ c template properties asked, Reader.parse, if_pos used]
  · rw [place] at used ⊢
    rw [session_request _ c template properties asked, Session.parse, if_pos used]

theorem unspent_parses (calls : List Call) (c : Call) (template : String) (properties : Properties)
    (asked : c.request? = some (template, properties)) (unspent : ¬ Spent calls) :
    ∃ r, (fresh.after calls).perform c = (some (.parsed (Template.parse template properties)), r) ∧
      (Session.fresh.after calls).perform c =
        (some (.parsed (Template.parse template properties)), ⟨r.position⟩) := by
  have start := unused_start calls (not_not.mp ((spent_iff calls).not.mp unspent))
  have place : Session.fresh.after calls = ⟨.start⟩ := by
    rw [← start]
    exact congrArg Session.mk (after_agrees fresh calls).symm
  have begun : ¬ (⟨.start⟩ : Session).position.offset ≠ 0 := not_not.mpr rfl
  obtain ⟨reply, stands⟩ := parse_agrees (fresh.after calls) template properties
  rw [start, Session.parse, if_neg begun] at reply stands
  refine ⟨((fresh.after calls).parse template properties).2, ?_, ?_⟩
  · rw [perform_request _ c template properties asked, reply]
    rfl
  · rw [session_request _ c template properties asked, place, Session.parse, if_neg begun, stands]
    rfl

-- Nothing crashes: no character is looked for behind the end, and every loop comes to its end.
theorem parser_life_cycle (calls : List Call) (c : Call) (template : String)
    (properties : Properties) (asked : c.request? = some (template, properties)) :
    ∃ reply r, (fresh.after calls).perform c = (some reply, r) ∧
      ((∃ message, reply = .panicked message) ↔ Spent calls) ∧
      (∀ message, reply = .panicked message →
        message = Session.refusal ∧ r.position = (fresh.after calls).position) ∧
      (¬ Spent calls →
        reply = .parsed (Template.parse template properties) ∧ (fresh.perform c).1 = some reply) ∧
      (∀ crash, reply ≠ crashed crash) ∧
      ∃ same, (Session.fresh.after calls).perform c = (some same, ⟨r.position⟩) ∧
        same.seen = reply := by
  by_cases spent : Spent calls
  · obtain ⟨ran, told⟩ := spent_refuses calls c template properties asked spent
    refine ⟨_, _, ran, ⟨fun _ => spent, fun _ => ⟨_, rfl⟩⟩, ?_, fun unspent => absurd spent unspent,
      fun crash => (refusal_no_crash crash).symm, _, told, rfl⟩
    intro message panicked
    exact ⟨(Reply.panicked.inj panicked).symm, rfl⟩
  · obtain ⟨r, ran, told⟩ := unspent_parses calls c template properties asked spent
    have new : ¬ Spent [] := (spent_iff []).not.mpr (not_not.mpr rfl)
    obtain ⟨r', first, -⟩ := unspent_parses [] c template properties asked new
    refine ⟨_, r, ran, ⟨fun ⟨_, panicked⟩ => (nomatch panicked), fun used => absurd used spent⟩,
      fun _ panicked => (nomatch panicked), fun _ => ⟨rfl, congrArg Prod.fst first⟩, ?_, _, told, rfl⟩
    intro crash
    cases crash <;> exact fun same => nomatch same

def usedCalls : List Call := [.parse "" [], .parse "a\x7b" [], .parseParts ["b"] []]

theorem parser_life_cycle_after_a_fault :
    Spent usedCalls ∧ ¬ Spent (usedCalls ++ [.release]) ∧
      ((fresh.after usedCalls).perform (.parseParts ["b"] [])).1 = some (.panicked Session.refusal) ∧
      ((fresh.after (usedCalls ++ [.release])).perform (.parseParts ["b"] [])).1 =
        some (.parsed (Template.parse "b" [])) := by
  have spent : Spent usedCalls := (spent_iff usedCalls).mpr (by decide)
  have released : ¬ Spent (usedCalls ++ [.release]) := (spent_iff _).not.mpr (by decide)
  refine ⟨spent, released, ?_, ?_⟩
  · obtain ⟨reply, r, ran, panics, only, -⟩ :=
      parser_life_cycle usedCalls (.parseParts ["b"] []) "b" [] rfl
    obtain ⟨message, panicked⟩ := panics.mpr spent
    rw [ran, panicked, (only message panicked).1]
  · obtain ⟨reply, r, ran, -, -, parses, -⟩ :=
      parser_life_cycle (usedCalls ++ [.release]) (.parseParts ["b"] []) "b" [] rfl
    rw [ran, (parses released).1]

end StructuredLog.Template
