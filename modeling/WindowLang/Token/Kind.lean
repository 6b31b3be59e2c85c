namespace WindowLang

/-!
# Kinds of token

A token is a punctuation mark, a keyword, text of a string literal, a number, or
a word that has no meaning where it stands. Marks and keywords have one spelling
each, and a keyword's spelling is also the name of its kind.
-/

/-- Punctuation marks. -/
inductive Mark where
  | semicolon
  | comma
  | openParen
  | closeParen
  | colon
  | period
  | quotation
  deriving DecidableEq, Repr

/-- All punctuation marks. -/
def Mark.all : List Mark :=
  [.semicolon, .comma, .openParen, .closeParen, .colon, .period, .quotation]

/-- The character that writes a mark. -/
def Mark.char : Mark → Char
  | .semicolon => ';'
  | .comma => ','
  | .openParen => '('
  | .closeParen => ')'
  | .colon => ':'
  | .period => '.'
  | .quotation => '"'

/-- The name of a mark. -/
def Mark.name : Mark → String
  | .semicolon => "Semicolon"
  | .comma => "Comma"
  | .openParen => "OpenParen"
  | .closeParen => "CloseParen"
  | .colon => "Colon"
  | .period => "Period"
  | .quotation => "Quotation"

/-- The mark that a character writes, if any. -/
def Mark.ofChar? (c : Char) : Option Mark :=
  Mark.all.find? fun mark => mark.char = c

/-- Keywords; `close` is the one that ends a body of widgets or buttons. -/
inductive Keyword where
  | window
  | layout
  | flow
  | grid
  | button
  | label
  | panel
  | textfield
  | group
  | radio
  | close
  deriving DecidableEq, Repr

/-- All keywords. -/
def Keyword.all : List Keyword :=
  [.window, .layout, .flow, .grid, .button, .label, .panel, .textfield, .group, .radio, .close]

/-- The only spelling of a keyword. -/
def Keyword.spelling : Keyword → String
  | .window => "Window"
  | .layout => "Layout"
  | .flow => "Flow"
  | .grid => "Grid"
  | .button => "Button"
  | .label => "Label"
  | .panel => "Panel"
  | .textfield => "Textfield"
  | .group => "Group"
  | .radio => "Radio"
  | .close => "End"

/-- The keyword that a word spells, if any. -/
def Keyword.ofWord? (word : String) : Option Keyword :=
  Keyword.all.find? fun keyword => keyword.spelling = word

/-- Kinds of token. -/
inductive Kind where
  /-- A punctuation mark. -/
  | mark (symbol : Mark)
  /-- A keyword. -/
  | keyword (word : Keyword)
  /-- The text of a string literal. -/
  | string
  /-- A number, or a word taken for one. -/
  | number
  /-- A word that has no meaning where it stands. -/
  | notFound
  /-- The end of the input, where it is given as a token. -/
  | endOfFile
  deriving DecidableEq, Repr

/-- All kinds of token. -/
def Kind.all : List Kind :=
  Mark.all.map .mark ++ Keyword.all.map .keyword ++ [.string, .number, .notFound, .endOfFile]

/-- The name of a kind. -/
def Kind.name : Kind → String
  | .mark symbol => symbol.name
  | .keyword word => word.spelling
  | .string => "String"
  | .number => "Number"
  | .notFound => "NotFound"
  | .endOfFile => "EndOfFile"

/-- The kind with a given name, if any. -/
def Kind.ofName? (name : String) : Option Kind :=
  Kind.all.find? fun kind => kind.name = name

/-- A mark is found by its character. -/
@[simp] theorem Mark.ofChar?_char (mark : Mark) :
    Mark.ofChar? mark.char = some mark := by
  cases mark <;> decide

/-- A keyword is found by its spelling. -/
@[simp] theorem Keyword.ofWord?_spelling (keyword : Keyword) :
    Keyword.ofWord? keyword.spelling = some keyword := by
  cases keyword <;> decide

/-- A kind is found by its name. -/
@[simp] theorem Kind.ofName?_name (kind : Kind) :
    Kind.ofName? kind.name = some kind := by
  cases kind with
  | mark symbol => cases symbol <;> decide
  | keyword word => cases word <;> decide
  | _ => decide

end WindowLang
