import Gutter.Console.Cells
import Gutter.Pattern
import Gutter.Text.Split

/-! Messages for the user: status lines with emoji and colour, and debug lines in which settings of
the form `key=value` stand out. They are pieces of text with styles, written to a terminal or
a file. -/

namespace Gutter.Console

/-! ### Styled text -/

/-- The colours that messages use. -/
inductive Colour
  | red
  | green
  | yellow
  | blue
  | magenta
  | cyan
deriving DecidableEq, Repr

def Colour.code : Colour → Nat
  | .red => 31
  | .green => 32
  | .yellow => 33
  | .blue => 34
  | .magenta => 35
  | .cyan => 36

/-- How a text looks. -/
structure Style where
  bold : Bool := false
  dim : Bool := false
  colour : Option Colour := none
deriving DecidableEq, Repr

namespace Style

def plain : Style := {}

/-- A style on top of another one. -/
def onTop (top base : Style) : Style where
  bold := base.bold || top.bold
  dim := base.dim || top.dim
  colour := top.colour <|> base.colour

/-- The numbers that switch a style on. -/
def codes (style : Style) : List Nat :=
  (if style.bold then [1] else []) ++ (if style.dim then [2] else [])
    ++ (style.colour.map Colour.code).toList

end Style

/-- A part of a text in one style. -/
structure Piece where
  style : Style
  text : List Char
deriving DecidableEq, Repr

/-- Bell, backspace, vertical tab, form feed and carriage return are not written. -/
def isDropped (c : Char) : Bool :=
  let n := c.toNat
  n = 7 || n = 8 || n = 11 || n = 12 || n = 13

def Piece.cleaned (piece : Piece) : Piece :=
  { piece with text := piece.text.filter fun c => !isDropped c }

/-- The lines of a text in pieces. -/
def pieceLines : List Piece → List (List Piece)
  | [] => [[]]
  | ⟨style, text⟩ :: rest =>
    let later := pieceLines rest
    match (Text.splitOn '\n' text).map (Piece.mk style) with
    | [] => later
    | parts =>
      match parts.getLast?, later with
      | some last, first :: others => parts.dropLast.map ([·]) ++ (last :: first) :: others
      | _, _ => later

def tabWidth : Nat := 8

/-- Where a line stands that is being written: the cell after the last tab stop, and the text since
then, its last character first. -/
structure Column where
  position : Nat
  since : List Char
deriving DecidableEq, Repr

/-- The column after a character that is no tab. -/
def Column.after (column : Column) (c : Char) : Column :=
  { column with since := c :: column.since }

/-- How many blanks a tab needs besides its own to reach the next tab stop, and the column there. -/
def Column.tab (column : Column) : Nat × Column :=
  let filled := column.position + cells (' ' :: column.since).reverse
  let extra := (tabWidth - filled % tabWidth) % tabWidth
  (extra, ⟨filled + extra, []⟩)

/-- The parts of a text that tabs end, each with the blanks that reach the next tab stop; `part` is
the start of the present part, its last character first. -/
def expandTabs (column : Column) (part : List Char) : List Char → List (List Char) × Column
  | [] => ([part.reverse], column)
  | c :: rest =>
    if c = '\t' then
      let (extra, column) := column.tab
      let (parts, stop) := expandTabs column [] rest
      ((List.replicate (1 + extra) ' ' ++ part).reverse :: parts, stop)
    else expandTabs (column.after c) (c :: part) rest

/-- A line without tabs. -/
def expandLine : Column → List Piece → List Piece
  | _, [] => []
  | column, ⟨style, text⟩ :: rest =>
    let (parts, stop) := expandTabs column [] text
    parts.map (Piece.mk style) ++ expandLine stop rest

/-- Where text is written, and whether in colour. -/
structure Target where
  terminal : Bool
  colour : Bool
deriving DecidableEq, Repr

/-- A piece as it is written: on a terminal between the codes of its style. -/
def Piece.render (target : Target) (piece : Piece) : List Char :=
  let style := if target.colour then piece.style else { piece.style with colour := none }
  if !target.terminal || piece.text.isEmpty || style.codes.isEmpty then piece.text
  else
    let escape := Char.ofNat 27
    let codes := ";".intercalate (style.codes.map toString)
    escape :: '[' :: codes.toList ++ 'm' :: piece.text ++ [escape, '[', '0', 'm']

/-- The text that is written for pieces, with a line end. -/
def render (target : Target) (pieces : List Piece) : String :=
  let lines := (pieceLines (pieces.map Piece.cleaned)).map fun line =>
    (expandLine ⟨0, []⟩ line).flatMap (Piece.render target)
  String.ofList (Text.joinWith '\n' lines ++ ['\n'])

/-! ### Messages -/

/-- How a status line is meant. -/
inductive Level
  | ok
  | warn
  | fail
deriving DecidableEq, Repr

def Level.symbol : Level → String
  | .ok => "✅ "
  | .warn => "⚠️ "
  | .fail => "❌ "

def Level.style : Level → Style
  | .ok => { colour := some .green }
  | .warn => { colour := some .yellow }
  | .fail => { colour := some .red }

/-- A symbol, if emoji are wanted. -/
def emoji (symbol : String) (enabled : Bool) : String := if enabled then symbol else ""

/-- The pieces of a status line. -/
def statusLine (level : Level) (message : String) (useEmoji useColour : Bool) : List Piece :=
  [⟨if useColour then level.style else .plain, (emoji level.symbol useEmoji ++ message).toList⟩]

/-- A setting: a key, an equals sign, and a value that is quoted, in brackets, or without blanks. -/
def settingText : String := "([\\w-]+)=(\\\".*?\\\"|'.*?'|\\[.*?\\]|\\S+)"

def settingPattern : Pattern :=
  match Pattern.compile .none settingText.toList with
  | .ok pattern => pattern
  | .error _ => ⟨.never, 0, false, 0, []⟩

def debugStyle : Style := { bold := true, colour := some .cyan }

def dimStyle : Style := Style.onTop { dim := true } debugStyle

def keyStyle : Style := Style.onTop { bold := true, colour := some .magenta } debugStyle

/-- The values of commands have a colour of their own. -/
def valueStyle (key : List Char) : Style :=
  let colour := if key = "command".toList ∨ key = "cmd".toList then Colour.blue else Colour.green
  Style.onTop { bold := true, colour := some colour } debugStyle

/-- A piece, unless it has no text. -/
def pieceOf (style : Style) (text : List Char) : List Piece :=
  if text.isEmpty then [] else [⟨style, text⟩]

/-- The text of a group of a match. -/
def groupText (message : List Char) (found : Pattern.Match) (index : Nat) : List Char :=
  match found.group? index with
  | some (start, stop) => Pattern.slice message start stop
  | none => []

/-- The pieces of a message from `cursor` on, with the settings found in it. -/
def highlightFrom (message : List Char) : Nat → List Pattern.Match → List Piece
  | cursor, [] => pieceOf dimStyle (message.drop cursor)
  | cursor, found :: rest =>
    let key := groupText message found 1
    pieceOf dimStyle (Pattern.slice message cursor found.start)
      ++ pieceOf keyStyle key ++ [⟨dimStyle, ['=']⟩]
      ++ pieceOf (valueStyle key) (groupText message found 2)
      ++ highlightFrom message found.stop rest

/-- The pieces of a debug message. -/
def highlight (message : List Char) : List Piece :=
  highlightFrom message 0 (settingPattern.findAll message)

def debugLine (message : String) : List Piece :=
  ⟨debugStyle, "[debug] ".toList⟩ :: highlight message.toList

/-- Writes messages as the user wants them. -/
structure Logger where
  useEmoji : Bool
  useColour : Bool
  debug : Bool
  terminal : Bool
deriving DecidableEq, Repr

namespace Logger

def target (logger : Logger) : Target := ⟨logger.terminal, logger.useColour⟩

def status (logger : Logger) (level : Level) (message : String) : String :=
  render logger.target (statusLine level message logger.useEmoji logger.useColour)

/-- What is written for a debug message: nothing, unless it is wanted. -/
def debugText (logger : Logger) (message : String) : String :=
  if logger.debug then render logger.target (debugLine message) else ""

end Logger

end Gutter.Console
