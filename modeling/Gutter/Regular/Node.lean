import Gutter.Shell.Text
import Gutter.Text.CharClass

/-! Regular expressions as trees: tests of one character, edges between characters, and what is put
together from them; and the characters of a text in which they are sought. -/

namespace Gutter.Regular

/-! ### Signs

The characters of a text in which expressions are sought: those that its bytes encode, and a sign
of its own for every byte that encodes nothing. -/

/-- The sign of a byte that encodes nothing. -/
def stray (byte : UInt8) : Char := Char.ofNat (0xF0000 + byte.toNat)

def isStray (c : Char) : Bool := 0xF0080 ≤ c.toNat && c.toNat ≤ 0xF00FF

/-- The signs of bytes; `skip` of them belong to what was read before. -/
def signsFrom : Nat → List UInt8 → List Char
  | _, [] => []
  | skip + 1, _ :: rest => signsFrom skip rest
  | 0, b :: rest =>
    match Text.Utf8.step b rest with
    | .char c size => c :: signsFrom (size - 1) rest
    | .fault _ _ => stray b :: signsFrom 0 rest

/-- The signs of a text whose bytes are characters; without a wide locale every byte is one. -/
def signs (wide : Bool) (bytes : List Char) : List Char :=
  if wide && bytes.any fun c => 0x80 ≤ c.toNat then signsFrom 0 (Shell.toBytes bytes) else bytes

/-- The bytes of one sign. -/
def bytesOfSign (wide : Bool) (c : Char) : List Char :=
  if !wide || c.toNat < 0x80 then [c]
  else if isStray c then [Char.ofNat (c.toNat - 0xF0000)]
  else Shell.charsOf (Text.Utf8.encodeChar c)

/-- The bytes of signs. -/
def unsigned (wide : Bool) (text : List Char) : List Char := text.flatMap (bytesOfSign wide)

/-! ### Expressions -/

/-- A kind of characters that has a name. -/
inductive Kind
  | alnum
  | alpha
  | blank
  | cntrl
  | digit
  | graph
  | lower
  | print
  | punct
  | space
  | upper
  | xdigit
  | word
deriving DecidableEq, Repr

namespace Kind

def named? (name : List Char) : Option Kind :=
  match String.ofList name with
  | "alnum" => some alnum
  | "alpha" => some alpha
  | "blank" => some blank
  | "cntrl" => some cntrl
  | "digit" => some digit
  | "graph" => some graph
  | "lower" => some lower
  | "print" => some print
  | "punct" => some punct
  | "space" => some space
  | "upper" => some upper
  | "xdigit" => some xdigit
  | _ => none

/-- A character of ASCII is of the kind. -/
def holdsNarrow (c : Char) : Kind → Bool
  | alnum => c.isAlphanum
  | alpha => c.isAlpha
  | blank => c = ' ' || c = '\t'
  | cntrl => c < ' ' || c = '\x7f'
  | digit => c.isDigit
  | graph => '!' ≤ c && c ≤ '~'
  | lower => c.isLower
  | print => ' ' ≤ c && c ≤ '~'
  | punct => '!' ≤ c && c ≤ '~' && !c.isAlphanum
  | space => c = ' ' || ('\t' ≤ c && c ≤ '\r')
  | upper => c.isUpper
  | xdigit => Text.isHexDigit c
  | word => c.isAlphanum || c = '_'

/-- Blanks at which no line may be broken. -/
def isFirmBlank (c : Char) : Bool := c.toNat = 0xa0 || c.toNat = 0x2007 || c.toNat = 0x202f

/-- A character beyond ASCII is of the kind. -/
def holdsWide (c : Char) : Kind → Bool
  | alnum => Text.isAlphabetic c || Text.isDecimal c
  | alpha => Text.isAlphabetic c || Text.isDecimal c
  | blank => Text.isBlank c && !isFirmBlank c && c.toNat ≠ 0x85 && c.toNat < 0x2028
  | cntrl => c.toNat < 0xa0 || c.toNat = 0x2028 || c.toNat = 0x2029
  | digit => false
  | graph => Text.isPrintable c && !Text.isBlank c
  | lower => Text.upperCode c.toNat ≠ c.toNat
  | print => Text.isPrintable c
  | punct => Text.isPrintable c && !Text.isAlphabetic c && !Text.isDecimal c && !Text.isBlank c
  | space => Text.isBlank c && !isFirmBlank c && c.toNat ≠ 0x85
  | upper => Text.lowerCode c.toNat ≠ c.toNat
  | xdigit => false
  | word => Text.isAlphabetic c || Text.isDecimal c

/-- Only a wide locale has kinds for characters beyond ASCII. -/
def holds (wide : Bool) (c : Char) (kind : Kind) : Bool :=
  if c.toNat < 0x80 then kind.holdsNarrow c else wide && !isStray c && kind.holdsWide c

end Kind

/-- What a list in brackets has: the characters of a range, or those of a kind. -/
inductive Member
  | range (first last : Char)
  | named (kind : Kind)
deriving DecidableEq, Repr

def Member.holds (wide : Bool) (c : Char) : Member → Bool
  | .range first last => first ≤ c && c ≤ last
  | .named kind => kind.holds wide c

/-- A test of one character. -/
inductive Test
  | any
  | list (inverted : Bool) (members : List Member)
deriving DecidableEq, Repr

/-- A character, and what it is in the other case. -/
def bothCases (wide : Bool) (c : Char) : List Char :=
  if c.toNat < 0x80 then [c.toLower, c.toUpper]
  else if wide then
    [c, Char.ofNat (Text.lowerCode c.toNat), Char.ofNat (Text.upperCode c.toNat)]
  else [c]

namespace Test

def char (c : Char) : Test := .list false [.range c c]

def ofKind (inverted : Bool) (kind : Kind) : Test := .list inverted [.named kind]

/-- The test holds of a character, or of one that differs from it in case. -/
def holds (wide folds : Bool) (c : Char) : Test → Bool
  | .any => !(wide && isStray c)
  | .list inverted members =>
    !(wide && isStray c) &&
      ((if folds then (bothCases wide c).any fun d => members.any (·.holds wide d)
        else members.any (·.holds wide c)) != inverted)

end Test

/-- A place between two characters, by what stands on its sides. -/
inductive Edge
  | textStart
  | textEnd
  | lineStart
  | lineEnd
  | wordStart
  | wordEnd
  | wordEdge
  | noWordEdge
  | noWordBefore
  | noWordAfter
deriving DecidableEq, Repr

/-- The edge is between two neighbours, either of which may be missing. In a text of lines those
start and end at newlines, too. -/
def Edge.holds (wide ofLines : Bool) (before after : Option Char) (edge : Edge) : Bool :=
  let inWord (c : Option Char) : Bool := c.any fun c => Kind.word.holds wide c
  match edge with
  | .textStart => before.isNone
  | .textEnd => after.isNone
  | .lineStart => before.isNone || (ofLines && before = some '\n')
  | .lineEnd => after.isNone || (ofLines && after = some '\n')
  | .wordStart => !inWord before && inWord after
  | .wordEnd => inWord before && !inWord after
  | .wordEdge => inWord before != inWord after
  | .noWordEdge => inWord before == inWord after
  | .noWordBefore => !inWord before
  | .noWordAfter => !inWord after

/-- An expression. What is repeated stands at least and at most a number of times; groups have
numbers, and what was in a group may be asked for again. -/
inductive Node
  | empty
  | one (test : Test)
  | edge (edge : Edge)
  | join (first second : Node)
  | either (first second : Node)
  | repeated (node : Node) (least : Nat) (most : Option Nat)
  | group (number : Nat) (node : Node)
  | back (number : Nat)
deriving DecidableEq, Repr

namespace Node

def joined : List Node → Node
  | [] => .empty
  | [node] => node
  | node :: rest => .join node (joined rest)

/-- A text as it stands. -/
def literal (text : List Char) : Node := joined (text.map fun c => .one (.char c))

/-- Something that was in a group is asked for again. -/
def asksBack : Node → Bool
  | .join a b => a.asksBack || b.asksBack
  | .either a b => a.asksBack || b.asksBack
  | .repeated a _ _ => a.asksBack
  | .group _ a => a.asksBack
  | .back _ => true
  | _ => false

/-- How many groups there are. -/
def groups : Node → Nat
  | .join a b => a.groups + b.groups
  | .either a b => a.groups + b.groups
  | .repeated a _ _ => a.groups
  | .group _ a => a.groups + 1
  | _ => 0

end Node

end Gutter.Regular
