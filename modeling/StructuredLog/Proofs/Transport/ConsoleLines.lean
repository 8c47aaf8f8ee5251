import StructuredLog.Proofs.Record.Calm
import StructuredLog.Proofs.Text.Styled
import StructuredLog.Transport.Console

set_option autoImplicit false

namespace StructuredLog

open Text Template

theorem day_unescaped (zone : Time.Zone) (millis : Nat) :
    Unescaped (Time.inZone zone millis) := by
  have padded (width n : Nat) : '\x1b' ∉ Time.padded width n := by
    intro member
    rcases List.mem_append.mp member with zero | digit
    · cases (List.mem_replicate.mp zero).2
    · cases Nat.isDigit_of_mem_toDigits (by decide) (by decide) digit
  unfold Unescaped Time.inZone
  split
  · decide
  · simp [padded]

theorem tag_unescaped (level : Level) : Unescaped level.tag := by
  unfold Unescaped
  cases level <;> decide

theorem level_style_numeric (level : Level) : (levelStyle level).all isNumeric = true := by
  cases level <;> rfl

namespace Console

-- No text that a line shows has an ESC of its own.
structure Plain (header : Header) (pieces : List Piece) : Prop where
  label : Unescaped header.label
  category : ∀ segment ∈ header.category, Unescaped segment
  pieces : ∀ piece ∈ pieces, Unescaped piece.text

theorem styled_leading_plain (zone : Time.Zone) (header : Header) :
    styledLeading zone false header = Record.leadingSegments zone header := rfl

theorem styled_message_plain (pieces : List Piece) :
    styledMessage false pieces = joined pieces := by
  refine congrArg String.join (List.map_congr_left fun piece _ => ?_)
  cases piece.kind with
  | literal => rfl
  | argument => rfl

theorem plain_line (zone : Time.Zone) (device : Device) :
    line zone ⟨false, .standard, device⟩ =
      (do return " ".intercalate (← Record.readSegments zone) : Record.Reading String) := by
  simp [line, segments, Record.readSegments, Record.readText, styled_leading_plain,
    styled_message_plain]

theorem line_read (zone : Time.Zone) (colors : Bool) (device : Device) (r t : Record)
    (pieces : List Piece) (events : List Event)
    (read : Record.readMessage r = ⟨.returned pieces, t, events⟩) :
    line zone ⟨colors, .standard, device⟩ r =
      ⟨.returned (" ".intercalate (styledLeading zone colors r.header ++
        [styledMessage colors pieces])), t, events⟩ := by
  have segments := Act.map_returned Record.readMessage
    (fun pieces => styledLeading zone colors r.header ++ [styledMessage colors pieces]) _ _ _ _ read
  have header := Act.bind_quiet Act.get (fun r => Record.readMessage >>= fun pieces =>
    pure (styledLeading zone colors r.header ++ [styledMessage colors pieces])) r r r rfl
  exact Act.map_returned _ (" ".intercalate ·) _ _ _ _ (header.trans segments)

theorem category_unescaped (category : List String)
    (clear : ∀ segment ∈ category, Unescaped segment) : Unescaped ("·".intercalate category) := by
  induction category with
  | nil => exact List.not_mem_nil
  | cons first rest ih =>
      obtain ⟨here, later⟩ := List.forall_mem_cons.mp clear
      cases rest with
      | nil => simpa using here
      | cons next more =>
          have joint : Unescaped "·" := by
            unfold Unescaped
            decide
          unfold Unescaped at *
          rw [String.intercalate_cons_cons, String.toList_append, String.toList_append]
          simp only [List.mem_append, not_or]
          exact ⟨⟨here, joint⟩, ih later⟩

theorem leading_unstyles (zone : Time.Zone) (header : Header) (label : Unescaped header.label)
    (category : ∀ segment ∈ header.category, Unescaped segment) :
    List.Forall₂ Unstyles (styledLeading zone true header) (Record.leadingSegments zone header) := by
  have time := unstyles_paint .dim rfl _ (day_unescaped zone header.timestamp)
  have tag := unstyles_paint _ (level_style_numeric header.level) _ (tag_unescaped header.level)
  have categories : List.Forall₂ Unstyles
      (if header.category.isEmpty then []
        else [Style.paint true .cyan ("·".intercalate header.category)])
      (if header.category.isEmpty then [] else ["·".intercalate header.category]) := by
    by_cases none : header.category.isEmpty = true
    · rw [if_pos none, if_pos none]
      exact .nil
    · rw [if_neg none, if_neg none]
      exact .cons (unstyles_paint .cyan rfl _ (category_unescaped _ category)) .nil
  unfold styledLeading Record.leadingSegments
  by_cases unlabelled : header.label.isEmpty = true
  · rw [if_pos unlabelled, if_pos unlabelled]
    exact .cons time (.cons tag categories)
  · rw [if_neg unlabelled, if_neg unlabelled]
    exact .cons time (.cons (unstyles_paint .bold rfl _ label) (.cons tag categories))

theorem message_unstyles (pieces : List Piece) (clear : ∀ piece ∈ pieces, Unescaped piece.text) :
    Unstyles (styledMessage true pieces) (joined pieces) := by
  refine unstyles_join _ Piece.text pieces fun piece member => ?_
  cases piece.kind with
  | literal => exact unstyles_unescaped piece.text (clear piece member)
  | argument => exact unstyles_paint .magenta rfl piece.text (clear piece member)

theorem line_unstyles (zone : Time.Zone) (header : Header) (pieces : List Piece)
    (plain : Plain header pieces) :
    Unstyles (" ".intercalate (styledLeading zone true header ++ [styledMessage true pieces]))
      (" ".intercalate (Record.leadingSegments zone header ++ [joined pieces])) := by
  have blank : Unescaped " " := by
    unfold Unescaped
    decide
  have message : List.Forall₂ Unstyles [styledMessage true pieces] [joined pieces] :=
    .cons (message_unstyles pieces plain.pieces) .nil
  have leading := leading_unstyles zone header plain.label plain.category
  exact unstyles_intercalate " " blank _ _ (List.rel_append leading message)

end Console

-- With colours the line is the same but for the style sequences.
theorem console_lines_agree (zone : Time.Zone) (device : Device) (header : Header)
    (ambient : Properties) (source : Source) (readable : source.Sound) :
    ∃ pieces segments styled,
      (∀ asked, ∃ after events,
        Record.readMessage ((Record.build header ambient source).1.after zone asked) =
            ⟨.returned pieces, after, events⟩ ∧
          Record.readSegments zone ((Record.build header ambient source).1.after zone asked) =
            ⟨.returned segments, after, events⟩ ∧
          Console.line zone ⟨false, .standard, device⟩
              ((Record.build header ambient source).1.after zone asked) =
            ⟨.returned (" ".intercalate segments), after, events⟩ ∧
          Console.line zone ⟨true, .standard, device⟩
              ((Record.build header ambient source).1.after zone asked) =
            ⟨.returned styled, after, events⟩) ∧
      (Console.Plain header pieces → unstyled styled = " ".intercalate segments) := by
  refine ⟨(source.contents ambient).pieces, _, _, fun asked => ?_, fun plain =>
    unstyled_of_unstyles _ _ (Console.line_unstyles zone header _ plain)⟩
  let stage := source.stageAfter .fresh asked
  have read := Source.read_message_at header ambient source stage
  rw [Source.sound_fault source readable] at read
  have segments := Record.read_segments zone _ _ (source.contents ambient) none _ read
  have colored := Console.line_read zone true device _ _ _ _ read
  rw [Source.record_header] at segments colored
  refine ⟨source.record header ambient (source.next stage .pieces),
    source.reported ambient stage .pieces, ?_⟩
  rw [Source.build_record, Source.after_at]
  refine ⟨read, segments, ?_, colored⟩
  rw [Console.plain_line]
  exact Act.map_returned _ (" ".intercalate ·) _ _ _ _ segments

def startedHeader : Header := ⟨.warn, ["http", "server"], "[app]", 0⟩

def startedPieces : List Piece := [⟨.literal, "listening on "⟩, ⟨.argument, "8080"⟩]

def startedSource : Source := .lazily ⟨[⟨["listening"], []⟩], .pieces startedPieces⟩

theorem console_lines_agree_lazily :
    startedSource.Sound ∧ ∃ styled after events,
      Console.line Time.utc ⟨false, .standard, .stream .stderr⟩
          (Record.build startedHeader [] startedSource).1 =
        ⟨.returned "00:00:00.000 [app] WRN http·server listening on 8080", after, events⟩ ∧
      Console.line Time.utc ⟨true, .standard, .stream .stderr⟩
          (Record.build startedHeader [] startedSource).1 = ⟨.returned styled, after, events⟩ ∧
      unstyled styled = "00:00:00.000 [app] WRN http·server listening on 8080" := by
  have readable : startedSource.Sound := ⟨rfl, rfl⟩
  obtain ⟨pieces, segments, styled, rendered, agree⟩ :=
    console_lines_agree Time.utc (.stream .stderr) startedHeader [] startedSource readable
  obtain ⟨after, events, read, listed, bare, colored⟩ := rendered []
  have known : startedPieces = pieces := Outcome.returned.inj (congrArg Ran.outcome read)
  have shown : Record.leadingSegments Time.utc startedHeader ++ [joined startedPieces] = segments :=
    Outcome.returned.inj (congrArg Ran.outcome listed)
  have line :
      "00:00:00.000 [app] WRN http·server listening on 8080" = " ".intercalate segments := by
    rw [← shown]
    decide
  have plain : Console.Plain startedHeader pieces := by
    rw [← known]
    constructor
    all_goals
      unfold Unescaped
      decide
  rw [line]
  exact ⟨readable, styled, after, events, bare, colored, agree plain⟩

end StructuredLog
