import Gutter.Text.Hex
import Gutter.Text.Split
import Gutter.Toml.Fault

/-! The texts of TOML documents: basic ones with escapes, literal ones without, on one line or more;
what stands between tokens; and keys, which are names with dots between them. -/

namespace Gutter.Toml

def isSpace (c : Char) : Bool := c = ' ' || c = '\t'

def isSpaceOrNewline (c : Char) : Bool := isSpace c || c = '\n'

/-- A control character that no comment and no text on one line may hold. -/
def isForbidden (c : Char) : Bool := (c.toNat < 32 && c ≠ '\t') || c.toNat = 127

/-- A control character that no text may hold. -/
def isForbiddenInLines (c : Char) : Bool := isForbidden c && c ≠ '\n'

def skipSpaces (text : List Char) : List Char := text.dropWhile isSpace

/-- What follows a comment, if there is one. -/
def skipComment (text : List Char) : Except Refusal (List Char) :=
  match text with
  | '#' :: body =>
    match body.dropWhile (!isForbidden ·) with
    | [] => .ok []
    | c :: rest => if c = '\n' then .ok (c :: rest) else fail (.invalidChar c) (c :: rest)
  | text => .ok text

/-- The text in front of the first occurrence of `mark`, and the text after that occurrence. -/
def splitAtMark? (mark : List Char) : List Char → Option (List Char × List Char)
  | [] => (Text.dropStart? mark []).map fun rest => ([], rest)
  | c :: text =>
    match Text.dropStart? mark (c :: text) with
    | some rest => some ([], rest)
    | none => (splitAtMark? mark text).map fun (body, rest) => (c :: body, rest)

/-- A literal text up to `mark`. -/
def literalUntil (mark : List Char) (forbidden : Char → Bool) (text : List Char) :
    Reading (List Char) :=
  match splitAtMark? mark text with
  | none => fail (.missing mark) []
  | some (body, rest) =>
    match body.find? forbidden with
    | none => .ok (body, rest)
    | some c => fail (.invalidChar c) (text.dropWhile (!forbidden ·))

/-- Up to two more marks belong to the text that three of them end. -/
def extraMarks (mark : Char) (body rest : List Char) : List Char × List Char :=
  match rest with
  | a :: b :: after =>
    if a ≠ mark then (body, rest)
    else if b ≠ mark then (body ++ [mark], b :: after)
    else (body ++ [mark, mark], after)
  | [a] => if a = mark then (body ++ [mark], []) else (body, rest)
  | [] => (body, [])

/-- The character that hexadecimal digits write. -/
def hexChar (width : Nat) (text : List Char) : Reading (List Char) :=
  let digits := text.take width
  let rest := text.drop width
  if digits.length < width || !digits.all Text.isHexDigit then fail .hexDigits text
  else
    let n := Text.hexValue digits
    if n < 0xd800 ∨ (0xe000 ≤ n ∧ n ≤ 0x10ffff) then .ok ([Char.ofNat n], rest)
    else fail .noScalar rest

/-- A line end that a backslash hides, with the blanks around it. -/
def hiddenLineEnd (text : List Char) : Reading (List Char) :=
  match skipSpaces text with
  | [] => .ok ([], [])
  | c :: rest =>
    if c = '\n' then .ok ([], rest.dropWhile isSpaceOrNewline) else fail .backslash (c :: rest)

/-- What stands for an escape, after its backslash. -/
def escape (lines : Bool) (text : List Char) : Reading (List Char) :=
  match text with
  | [] => fail .backslash []
  | c :: rest =>
    if lines && isSpaceOrNewline c then hiddenLineEnd text
    else
      match c with
      | 'u' => hexChar 4 rest
      | 'U' => hexChar 8 rest
      | 'b' => .ok ([Char.ofNat 8], rest)
      | 't' => .ok (['\t'], rest)
      | 'n' => .ok (['\n'], rest)
      | 'f' => .ok ([Char.ofNat 12], rest)
      | 'r' => .ok (['\r'], rest)
      | '"' => .ok (['"'], rest)
      | '\\' => .ok (['\\'], rest)
      | _ => fail .backslash rest

/-- A basic text after its opening mark; `lines` says that it may have more than one line. The
length of the text bounds the number of steps. -/
def basicWithin (lines : Bool) : Nat → List Char → Reading (List Char)
  | 0, text => fail .unterminated text
  | _ + 1, [] => fail .unterminated []
  | steps + 1, c :: rest =>
    if c = '"' && !lines then .ok ([], rest)
    else if c = '"' && rest.take 2 = ['"', '"'] then .ok ([], rest.drop 2)
    else if c = '\\' then
      match escape lines rest with
      | .error e => .error e
      | .ok (part, after) =>
        (basicWithin lines steps after).map fun (body, rest) => (part ++ body, rest)
    else if (if lines then isForbiddenInLines c else isForbidden c) then
      fail (.illegalChar c) (c :: rest)
    else (basicWithin lines steps rest).map fun (body, rest) => (c :: body, rest)

def basic (lines : Bool) (text : List Char) : Reading (List Char) :=
  basicWithin lines (text.length + 1) text

/-- A line end right after the opening marks is dropped. -/
def skipFirstNewline : List Char → List Char
  | '\n' :: rest => rest
  | text => text

/-- A text, if one starts here. -/
def text? (text : List Char) : Option (Reading (List Char)) :=
  match text with
  | '"' :: '"' :: '"' :: rest =>
    some ((basic true (skipFirstNewline rest)).map fun (body, rest) => extraMarks '"' body rest)
  | '\'' :: '\'' :: '\'' :: rest =>
    some ((literalUntil ['\'', '\'', '\''] isForbiddenInLines (skipFirstNewline rest)).map
      fun (body, rest) => extraMarks '\'' body rest)
  | '"' :: rest => some (basic false rest)
  | '\'' :: rest => some (literalUntil ['\''] isForbidden rest)
  | _ => none

/-! ### Keys -/

def isBareKeyChar (c : Char) : Bool :=
  ('a' ≤ c && c ≤ 'z') || ('A' ≤ c && c ≤ 'Z') || ('0' ≤ c && c ≤ '9') || c = '-' || c = '_'

/-- A character with which a key may start. -/
def isKeyStart (c : Char) : Bool := isBareKeyChar c || c = '"' || c = '\''

/-- One name of a key: bare, or a text on one line. -/
def keyPart (text : List Char) : Reading String :=
  match text with
  | [] => fail .keyStart []
  | c :: rest =>
    if isBareKeyChar c then
      .ok (String.ofList (text.takeWhile isBareKeyChar), text.dropWhile isBareKeyChar)
    else if c = '\'' then
      (literalUntil ['\''] isForbidden rest).map fun (name, rest) => (String.ofList name, rest)
    else if c = '"' then
      (basic false rest).map fun (name, rest) => (String.ofList name, rest)
    else fail .keyStart text

/-- The names of a key, and the blanks after each. The length of the text bounds the number of
steps. -/
def keyWithin : Nat → List Char → Reading Key
  | 0, text => fail .keyStart text
  | steps + 1, text =>
    match keyPart text with
    | .error e => .error e
    | .ok (name, rest) =>
      match skipSpaces rest with
      | '.' :: after =>
        (keyWithin steps (skipSpaces after)).map fun (names, rest) => (name :: names, rest)
      | rest => .ok ([name], rest)

def key (text : List Char) : Reading Key := keyWithin (text.length + 1) text

end Gutter.Toml
