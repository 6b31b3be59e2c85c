import WindowLang.Grammar.Document

namespace WindowLang.Grammar

/-!
# Derivations

The grammar as a relation between tokens and what they describe, without any
order of recognition. Marks and keywords are told by their kind alone, texts are
the lexemes of string tokens, and numbers are the values of number tokens.
-/

/-- A number token that writes the value. -/
def Writes (token : Token) (value : UInt32) : Prop :=
  token.kind = .number ∧ Text.readUnsigned? token.lexeme = some value

/-- A string literal. -/
inductive QuotedForm : List Token → String → Prop where
  | literal
      {opening text closing : Token}
      (opens : opening.kind = .mark .quotation)
      (isText : text.kind = .string)
      (closes : closing.kind = .mark .quotation) :
      QuotedForm [opening, text, closing] text.lexeme

/-- A layout without its keyword and colon. -/
inductive LayoutTypeForm : List Token → Layout → Prop where
  | flow
      {word : Token}
      (isFlow : word.kind = .keyword .flow) :
      LayoutTypeForm [word] .flow
  | grid
      {word opening rowsToken comma columnsToken closing : Token}
      {rows columns : UInt32}
      (isGrid : word.kind = .keyword .grid)
      (opens : opening.kind = .mark .openParen)
      (writesRows : Writes rowsToken rows)
      (separates : comma.kind = .mark .comma)
      (writesColumns : Writes columnsToken columns)
      (closes : closing.kind = .mark .closeParen) :
      LayoutTypeForm
        [word, opening, rowsToken, comma, columnsToken, closing]
        (.grid rows columns none none)
  | gridWithGaps
      {word opening rowsToken comma columnsToken comma₂ : Token}
      {horizontalToken comma₃ verticalToken closing : Token}
      {rows columns horizontal vertical : UInt32}
      (isGrid : word.kind = .keyword .grid)
      (opens : opening.kind = .mark .openParen)
      (writesRows : Writes rowsToken rows)
      (separates : comma.kind = .mark .comma)
      (writesColumns : Writes columnsToken columns)
      (separates₂ : comma₂.kind = .mark .comma)
      (writesHorizontal : Writes horizontalToken horizontal)
      (separates₃ : comma₃.kind = .mark .comma)
      (writesVertical : Writes verticalToken vertical)
      (closes : closing.kind = .mark .closeParen) :
      LayoutTypeForm
        [word, opening, rowsToken, comma, columnsToken, comma₂, horizontalToken, comma₃,
          verticalToken, closing]
        (.grid rows columns (some horizontal) (some vertical))

/-- A layout. -/
inductive LayoutForm : List Token → Layout → Prop where
  | layout
      {word colon : Token}
      {type : List Token}
      {layout : Layout}
      (isLayout : word.kind = .keyword .layout)
      (derives : LayoutTypeForm type layout)
      (ends : colon.kind = .mark .colon) :
      LayoutForm (word :: type ++ [colon]) layout

/-- Radio buttons, one after the other. -/
inductive RadiosForm : List Token → List String → Prop where
  | nil : RadiosForm [] []
  | cons
      {word semicolon : Token}
      {literal rest : List Token}
      {text : String}
      {texts : List String}
      (isRadio : word.kind = .keyword .radio)
      (derives : QuotedForm literal text)
      (ends : semicolon.kind = .mark .semicolon)
      (others : RadiosForm rest texts) :
      RadiosForm (word :: literal ++ semicolon :: rest) (text :: texts)

mutual

/-- A widget in which at most so many panels are open at once. -/
inductive WidgetForm : Nat → List Token → Widget → Prop where
  | button
      {room : Nat}
      {word semicolon : Token}
      {literal : List Token}
      {text : String}
      (isButton : word.kind = .keyword .button)
      (derives : QuotedForm literal text)
      (ends : semicolon.kind = .mark .semicolon) :
      WidgetForm room (word :: literal ++ [semicolon]) (.button text)
  | label
      {room : Nat}
      {word semicolon : Token}
      {literal : List Token}
      {text : String}
      (isLabel : word.kind = .keyword .label)
      (derives : QuotedForm literal text)
      (ends : semicolon.kind = .mark .semicolon) :
      WidgetForm room (word :: literal ++ [semicolon]) (.label text)
  | textField
      {room : Nat}
      {word number semicolon : Token}
      {columns : UInt32}
      (isTextField : word.kind = .keyword .textfield)
      (writes : Writes number columns)
      (ends : semicolon.kind = .mark .semicolon) :
      WidgetForm room [word, number, semicolon] (.textField columns)
  | group
      {room : Nat}
      {word close semicolon : Token}
      {radios : List Token}
      {texts : List String}
      (isGroup : word.kind = .keyword .group)
      (derives : RadiosForm radios texts)
      (closes : close.kind = .keyword .close)
      (ends : semicolon.kind = .mark .semicolon) :
      WidgetForm room (word :: radios ++ [close, semicolon]) (.radioGroup texts)
  | panel
      {room : Nat}
      {word close semicolon : Token}
      {arrangement widgets : List Token}
      {layout : Layout}
      {children : List Widget}
      (isPanel : word.kind = .keyword .panel)
      (derivesLayout : LayoutForm arrangement layout)
      (derivesChildren : WidgetsForm room widgets children)
      (closes : close.kind = .keyword .close)
      (ends : semicolon.kind = .mark .semicolon) :
      WidgetForm (room + 1)
        (word :: arrangement ++ widgets ++ [close, semicolon])
        (.panel layout children)

/-- Widgets, one after the other, in each of which at most so many panels are open at once. -/
inductive WidgetsForm : Nat → List Token → List Widget → Prop where
  | nil
      {room : Nat} :
      WidgetsForm room [] []
  | cons
      {room : Nat}
      {first rest : List Token}
      {widget : Widget}
      {widgets : List Widget}
      (derives : WidgetForm room first widget)
      (others : WidgetsForm room rest widgets) :
      WidgetsForm room (first ++ rest) (widget :: widgets)

end

/-- A window, up to its period. -/
inductive WindowForm : List Token → Window → Prop where
  | window
      {word opening widthToken comma heightToken closing close period : Token}
      {literal arrangement widgets : List Token}
      {title : String}
      {width height : UInt32}
      {layout : Layout}
      {children : List Widget}
      (isWindow : word.kind = .keyword .window)
      (derivesTitle : QuotedForm literal title)
      (opens : opening.kind = .mark .openParen)
      (writesWidth : Writes widthToken width)
      (separates : comma.kind = .mark .comma)
      (writesHeight : Writes heightToken height)
      (closesSize : closing.kind = .mark .closeParen)
      (derivesLayout : LayoutForm arrangement layout)
      (derivesChildren : WidgetsForm panelLimit widgets children)
      (closes : close.kind = .keyword .close)
      (ends : period.kind = .mark .period) :
      WindowForm
        (word :: literal ++ [opening, widthToken, comma, heightToken, closing] ++
          arrangement ++ widgets ++ [close, period])
        ⟨title, width, height, layout, children⟩

/-- The input ends, or a token that stands for its end follows. -/
def AtEnd (rest : List Token) : Prop :=
  rest = [] ∨ rest.head?.map Token.kind = some .endOfFile

/-- The tokens are a document that describes the window. -/
def Describes (tokens : List Token) (window : Window) : Prop :=
  ∃ document rest,
    tokens = document ++ rest ∧ WindowForm document window ∧ AtEnd rest

end WindowLang.Grammar
