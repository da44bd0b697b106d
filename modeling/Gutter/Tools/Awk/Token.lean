import Gutter.Tools.Awk.Pattern
import Gutter.Tools.Awk.Program

/-! Programs in tokens. What a character means depends on the token before it, and inside of a
`print` on whether parentheses are open. -/

namespace Gutter.Tools.Awk

open Number (Binary64)

/-- A token. `noise` is complained about and then passed over, and nothing is read after something
`broken` or `stray`. -/
inductive Token
  | number (x : Binary64)
  | text (s : List Char)
  | pattern (s : List Char)
  | name (s : List Char)
  | callee (s : List Char)
  | builtin (b : Builtin)
  | keyword (word : String)
  | sign (mark : String)
  | newline
  | finish
  | noise (complaint : List Char)
  | broken (complaint : List Char)
  | stray (c : Char)
deriving DecidableEq, Repr

/-- A token where it stands: how it looks, its line, and what is open after it. -/
structure Lexeme where
  token : Token
  shown : List Char
  line : Nat
  parens : Nat
  braces : Nat
deriving DecidableEq, Repr

def keywords : List String :=
  ["BEGIN", "END", "if", "else", "while", "for", "do", "in", "break", "continue", "next",
    "nextfile", "exit", "return", "delete", "function", "getline", "print", "printf", "split",
    "match", "sub", "gsub"]

def builtins : List (String × Builtin) :=
  [("length", .length), ("substr", .substr), ("index", .index), ("sprintf", .sprintf),
    ("sin", .sin), ("cos", .cos), ("atan2", .atan2), ("exp", .exp), ("log", .log),
    ("sqrt", .sqrt), ("int", .int), ("rand", .rand), ("srand", .srand), ("close", .close),
    ("system", .system), ("toupper", .toupper), ("tolower", .tolower), ("fflush", .fflush),
    ("systime", .systime), ("strftime", .strftime), ("mktime", .mktime)]

/-- Signs of two characters, and of one. -/
def longSigns : List String :=
  ["&&", "||", "==", "!=", "<=", ">=", "++", "--", "+=", "-=", "*=", "/=", "%=", "^=", "!~"]

def shortSigns : List String :=
  ["+", "-", "*", "/", "%", "^", "!", "<", ">", "|", "?", ":", "~", "$", "=", ",", ";", "(", ")",
    "[", "]", "\x7b", "\x7d"]

/-- A text in which escapes have been replaced; one that means nothing stays, and a newline after a
backslash is dropped. -/
def withoutEscapes : Nat → List Char → List Char
  | 0, _ => []
  | _, [] => []
  | limit + 1, '\\' :: rest =>
    match rest with
    | '"' :: rest => '"' :: withoutEscapes limit rest
    | '\\' :: rest => '\\' :: withoutEscapes limit rest
    | '\n' :: rest => withoutEscapes limit rest
    | _ =>
      match codedEscape? rest with
      | some (c, rest) => c :: withoutEscapes limit rest
      | none =>
        match (rest.head?).bind namedEscape? with
        | some c => c :: withoutEscapes limit (rest.drop 1)
        | none => '\\' :: rest.take 1 ++ withoutEscapes limit (rest.drop 1)
  | limit + 1, c :: rest => c :: withoutEscapes limit rest

def unescaped (text : List Char) : List Char := withoutEscapes (text.length + 1) text

/-- The inside of a text up to its closing quote, and what follows it. -/
def quotedText : List Char → Option (List Char × List Char)
  | [] => none
  | '"' :: rest => some ([], rest)
  | '\n' :: _ => none
  | '\\' :: c :: rest => (quotedText rest).map fun (text, rest) => ('\\' :: c :: text, rest)
  | c :: rest => (quotedText rest).map fun (text, rest) => (c :: text, rest)

/-- An expression up to its closing slash, and what follows it. A slash in a list does not close it;
`boxed` counts what stands in the list. -/
def slashedText : Option Nat → List Char → Option (List Char × List Char)
  | _, [] => none
  | _, '\n' :: _ => none
  | boxed, '\\' :: '/' :: rest =>
    (slashedText (boxed.map (· + 1)) rest).map fun (text, rest) => ('/' :: text, rest)
  | boxed, '\\' :: c :: rest =>
    if c = '\n' then none
    else (slashedText (boxed.map (· + 1)) rest).map fun (text, rest) => ('\\' :: c :: text, rest)
  | boxed, c :: rest =>
    if c = '/' && boxed.isNone then some ([], rest)
    else
      let next := match boxed with
        | none => if c = '[' then some 0 else none
        | some n =>
          if c = ']' && 0 < n then none
          else if c = '^' && n = 0 then some 0
          else some (n + 1)
      (slashedText next rest).map fun (text, rest) => (c :: text, rest)

/-- Where a program is being read. `printing` tells that what follows belongs to a `print`. -/
structure Spot where
  line : Nat := 1
  parens : Nat := 0
  braces : Nat := 0
  previous : Token := .newline
  printing : Bool := false
  names : List (List Char) := []
  functions : List (List Char) := []

/-- After these tokens a slash divides. -/
def Token.dividesAfter : Token → Bool
  | .number _ => true
  | .text _ => true
  | .pattern _ => true
  | .name _ => true
  | .sign s => s = ")" || s = "]"
  | .keyword k => k = "getline"
  | _ => false

/-- Passes over blanks, newlines and comments; counts lines. -/
def skipLines : Nat → Nat → List Char → Nat × List Char
  | 0, line, text => (line, text)
  | _, line, [] => (line, [])
  | limit + 1, line, c :: rest =>
    if c = '\n' then skipLines limit (line + 1) rest
    else if isGap c then skipLines limit line rest
    else if c = '#' then skipLines limit line (rest.dropWhile (· ≠ '\n'))
    else if c = '\\' && rest.head? = some '\n' then skipLines limit (line + 1) (rest.drop 1)
    else (line, c :: rest)

/-- Passes over blanks and one semicolon, if there is one. -/
def skipSemicolon (text : List Char) : List Char :=
  let after := text.dropWhile isGap
  if after.head? = some ';' then after.drop 1 else text

def isNameStart (c : Char) : Bool := c.isAlpha || c = '_'

def isNameChar (c : Char) : Bool := c.isAlphanum || c = '_'

/-- How something starts that does not end. -/
def runaway (kind : String) (mark : Char) (text : List Char) : Token :=
  .broken ("runaway ".toList ++ kind.toList ++ ' ' :: mark ::
    (text.takeWhile (· ≠ '\n')).take 10 ++ " ...".toList)

/-- The token that a name is, and what is known of names after it. -/
def nameToken (spot : Spot) (word rest : List Char) : Token × Spot :=
  let text := String.ofList word
  match builtins.lookup text with
  | some b => (.builtin b, spot)
  | none =>
    if keywords.contains text then (.keyword text, spot)
    else if spot.previous = .keyword "function" || spot.functions.contains word
        || (rest.head? = some '(' && !spot.names.contains word) then
      (.callee word, { spot with functions := word :: spot.functions })
    else (.name word, { spot with names := word :: spot.names })

/-- A sign that starts here, and what follows it. -/
def signIn (text : List Char) : Option (String × List Char) :=
  match longSigns.find? fun s => s.toList = text.take 2 with
  | some s => some (s, text.drop 2)
  | none => (shortSigns.find? fun s => s.toList = text.take 1).map fun s => (s, text.drop 1)

/-- A sign that leads what is printed somewhere. -/
def outputSign (sign : String) (rest : List Char) : Option (String × List Char) :=
  if sign = ">" then
    if rest.head? = some '>' then some ("out>>", rest.drop 1) else some ("out>", rest)
  else if sign = "|" then some ("out|", rest)
  else none

/-- All tokens of a program; the number of them is limited. -/
def tokensFrom : Nat → Spot → List Char → List Lexeme
  | 0, _, _ => []
  | limit + 1, spot, text =>
    let lexeme (spot : Spot) (token : Token) (shown : List Char) : Lexeme :=
      ⟨token, shown, spot.line, spot.parens, spot.braces⟩
    let go (spot : Spot) (token : Token) (shown rest : List Char) : List Lexeme :=
      lexeme spot token shown :: tokensFrom limit { spot with previous := token } rest
    let skip (spot : Spot) (rest : List Char) : Spot × List Char :=
      let (line, rest) := skipLines (rest.length + 1) spot.line rest
      ({ spot with line }, rest)
    /- A sign after which newlines do not count. -/
    let open_ (spot : Spot) (token : Token) (shown rest : List Char) : List Lexeme :=
      let (after, rest) := skip spot rest
      lexeme spot token shown :: tokensFrom limit { after with previous := token } rest
    match text with
    | [] => [lexeme spot .finish "end of file".toList]
    | c :: rest =>
      if isGap c then tokensFrom limit spot rest
      else if c = '#' then tokensFrom limit spot (rest.dropWhile (· ≠ '\n'))
      else if c = '\\' && (rest.dropWhile isGap).head? = some '\n' then
        tokensFrom limit { spot with line := spot.line + 1 } ((rest.dropWhile isGap).drop 1)
      else if c = '\n' then
        let spot := { spot with printing := false }
        let (after, rest) := skip { spot with line := spot.line + 1 } rest
        lexeme spot .newline "end of line".toList
          :: tokensFrom limit { after with previous := .newline } rest
      else if c = '"' then
        match quotedText rest with
        | none => [lexeme spot (runaway "string constant" '"' rest) []]
        | some (inside, rest) =>
          let lines := (inside.filter (· = '\n')).length
          let s := unescaped inside
          go { spot with line := spot.line + lines } (.text s) s rest
      else if c = '/' && !spot.previous.dividesAfter then
        match slashedText none rest with
        | none => [lexeme spot (runaway "regular expression" '/' rest) []]
        | some (inside, rest) => go spot (.pattern inside) inside rest
      else if c.isDigit || (c = '.' && (rest.head?).any Char.isDigit) then
        let (digits, places, after) := Number.leadingDigits Text.isAsciiDigit text
        let (exponent, after) := Number.leadingExponent ['e', 'E'] after
        let x := Binary64.ofDecimal false (Text.valueOfDigits 10 digits) (exponent - places)
        go spot (.number x) (text.take (text.length - after.length)) after
      else if isNameStart c then
        let word := text.takeWhile isNameChar
        let rest := text.drop word.length
        let (token, spot) := nameToken spot word rest
        let spot := if token = .keyword "print" || token = .keyword "printf" then
          { spot with printing := true } else spot
        go spot token word rest
      else
        match signIn text with
        | none =>
          [lexeme spot (.stray c) []]
        | some (s, rest) =>
          match if spot.printing && spot.parens = 0 then outputSign s rest else none with
          | some (out, rest) =>
            go { spot with printing := false } (.sign out) [c] rest
          | none =>
            let sign : Token := .sign s
            match s with
            | "(" => go { spot with parens := spot.parens + 1 } sign ['('] rest
            | ")" =>
              if spot.parens = 0 then
                lexeme spot (.noise "extra ')'".toList) [] :: tokensFrom limit spot rest
              else go { spot with parens := spot.parens - 1 } sign [')'] rest
            | "\x7b" => open_ { spot with braces := spot.braces + 1 } sign ['\x7b'] rest
            | "\x7d" =>
              if spot.braces = 0 then
                lexeme spot (.noise "extra '\x7d'".toList) [] :: tokensFrom limit spot rest
              else if spot.previous = .newline || spot.previous = .sign ";"
                  || spot.previous = sign then
                let spot := { spot with braces := spot.braces - 1 }
                open_ spot sign ['\x7d'] (if spot.braces = 0 then skipSemicolon rest else rest)
              else
                go { spot with printing := false } (.sign ";") ['\x7d'] text
            | ";" => open_ { spot with printing := false } sign [';'] rest
            | "," => open_ spot sign [','] rest
            | "&&" => open_ spot sign s.toList rest
            | "||" => open_ spot sign s.toList rest
            | _ => go spot sign s.toList rest

def tokens (program : List Char) : List Lexeme :=
  let (line, rest) := skipLines (program.length + 1) 1 program
  tokensFrom (2 * program.length + 2) { line } rest

end Gutter.Tools.Awk
