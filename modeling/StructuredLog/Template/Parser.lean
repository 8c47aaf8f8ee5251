import StructuredLog.Template.Token

set_option autoImplicit false

namespace StructuredLog.Template

-- The tokens decide the structure; properties are only looked up for the text of an argument.
inductive Segment where
  | literal (run : List Token)
  | argument (token : Token) (name : List Char)
deriving DecidableEq, Repr

namespace Segment

def text : Segment → List Char
  | .literal run => textOf run
  | .argument token _ => token.text

def push (token : Token) (segments : List Segment) : List Segment :=
  match token with
  | .argument _ name _ => .argument token name :: segments
  | _ =>
      match segments with
      | .literal run :: rest => .literal (token :: run) :: rest
      | _ => .literal [token] :: segments

def kind : Segment → Kind
  | .literal _ => .literal
  | .argument .. => .argument

def value (properties : Properties) : Segment → String
  | .literal run => String.ofList (run.flatMap Token.literal)
  | .argument _ name => resolve properties (String.ofList name)

def locate (properties : Properties) (p : Position) (s : Segment) : Element :=
  ⟨s.kind, s.value properties, ⟨p, p.after s.text⟩⟩

end Segment

def segments (tokens : List Token) : List Segment := tokens.foldr Segment.push []

def locateAll (properties : Properties) : Position → List Segment → List Element
  | _, [] => []
  | p, s :: rest => s.locate properties p :: locateAll properties (p.after s.text) rest

def parseFrom (p : Position) (template : String) (properties : Properties) :
    Except ParseError (List Element) :=
  match lex template.toList with
  | (tokens, none) => .ok (locateAll properties p (segments tokens))
  | (tokens, some broken) =>
      let start := p.after (textOf tokens)
      .error ⟨broken.fault, template, ⟨start, start.after broken.text⟩⟩

def parse (template : String) (properties : Properties) : Except ParseError (List Element) :=
  parseFrom .start template properties

def parseParts (parts : List String) (values : List Json) : Except ParseError (List Element) :=
  parse (splice parts values) []

def stopFrom (p : Position) (template : String) : Position :=
  match lex template.toList with
  | (tokens, broken) =>
      (p.after (textOf tokens)).after (match broken with | none => [] | some b => b.text)

end StructuredLog.Template
