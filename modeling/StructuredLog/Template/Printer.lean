import StructuredLog.Template.Parser

set_option autoImplicit false

namespace StructuredLog.Template

-- An apostrophe next to another element is doubled, and the stretch from the first brace to the
-- last is quoted.
def notBrace (c : Char) : Bool := !isBrace c

def quoteBraces (cs : List Char) : List Char :=
  match cs.dropWhile notBrace with
  | [] => cs
  | inner =>
      let back := inner.reverse
      cs.takeWhile notBrace ++ '\'' :: (back.dropWhile notBrace).reverse
        ++ '\'' :: (back.takeWhile notBrace).reverse

def guardEnds (isFirst isLast : Bool) (cs : List Char) : List Char :=
  let cs := if !isFirst && cs.head? == some '\'' then '\'' :: cs else cs
  if !isLast && cs.getLast? == some '\'' then cs ++ ['\''] else cs

def printLiteral (isFirst isLast : Bool) (value : String) : String :=
  String.ofList (quoteBraces (guardEnds isFirst isLast value.toList))

def printElement (isFirst isLast : Bool) (e : Element) : Piece :=
  match e.kind with
  | .literal => ⟨.literal, printLiteral isFirst isLast e.value⟩
  | .argument => ⟨.argument, e.value⟩

def printAll (isFirst : Bool) : List Element → List Piece
  | [] => []
  | e :: rest => printElement isFirst rest.isEmpty e :: printAll false rest

def print (elements : List Element) : List Piece := printAll true elements

def printText (elements : List Element) : String := joined (print elements)

def format (template : String) (properties : Properties) : Except ParseError String :=
  (parse template properties).map printText

end StructuredLog.Template
