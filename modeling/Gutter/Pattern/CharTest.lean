import Gutter.Pattern.Syntax
import Gutter.Text.CharClass

/-! Tests of one character: literals and character sets, with the case of letters ignored or not. -/

namespace Gutter.Pattern

/-- How letters are compared: as they are, or by their lowercase in one of two alphabets. -/
inductive Fold
  | exact
  | ascii
  | unicode
deriving DecidableEq, Repr

namespace Fold

/-- The code point that stands for `n` in comparisons. -/
def lower : Fold → Nat → Nat
  | .exact, n => n
  | .ascii, n => Text.lowerAsciiCode n
  | .unicode, n => Text.lowerCode n

/-- The other code points that a lowercase letter is equal to. -/
def variants : Fold → Nat → List Nat
  | .unicode, n => Text.variantsOf n
  | _, _ => []

/-- Some code point from `first` to `last` has another case. -/
def isCased : Fold → Nat → Nat → Bool
  | .exact, _, _ => false
  | .ascii, first, last => (first ≤ 90 && 65 ≤ last) || (first ≤ 122 && 97 ≤ last)
  | .unicode, first, last => Text.anyCased first last

/-- Every code point whose lowercase is `n`. -/
def sources : Fold → Nat → List Nat
  | .exact, n => [n]
  | .ascii, n =>
    if 97 ≤ n ∧ n ≤ 122 then [n, n - 32] else if 65 ≤ n ∧ n ≤ 90 then [] else [n]
  | .unicode, n => Text.lowerSources n

end Fold

/-- The alphabet and case rule that flags choose. -/
structure Alphabet where
  fold : Fold
  ascii : Bool
deriving DecidableEq, Repr

def Flags.alphabet (flags : Flags) : Alphabet where
  fold := if !flags.ignoreCase then .exact else if flags.unicode then .unicode else .ascii
  ascii := !flags.unicode

def isWordCharOf (ascii : Bool) (c : Char) : Bool :=
  if ascii then Text.isAsciiWordChar c else Text.isWordChar c

/-- The character is in the category. -/
def Category.holds (ascii : Bool) (c : Char) : Category → Bool
  | .digit => if ascii then Text.isAsciiDigit c else Text.isDecimal c
  | .space => if ascii then Text.isAsciiBlank c else Text.isBlank c
  | .word => isWordCharOf ascii c

/-- Code points above this one are not folded in sets. -/
def lastFolded : Nat := 0xffff

/-- A member of a set takes the character `c` with case as it is. -/
def Member.holds (ascii : Bool) (c : Char) : Member → Bool
  | .code n => c.toNat = n
  | .range first last => first ≤ c.toNat && c.toNat ≤ last
  | .category negated kind => kind.holds ascii c != negated

/-- The code point `n` is the lowercase of one from `first` to `last`, or equal to that. -/
def foldsInto (fold : Fold) (n first last : Nat) : Bool :=
  (n :: fold.variants n).any fun lower =>
    (fold.sources lower).any fun source => first ≤ source && source ≤ last

/-- A member of a set takes a character whose lowercase is `c`. -/
def Member.holdsFolded (alphabet : Alphabet) (c : Char) : Member → Bool
  | .code n =>
    let lower := alphabet.fold.lower n
    if lower ≤ lastFolded then
      c.toNat = lower || (alphabet.fold.variants lower).contains c.toNat
    else c.toNat = n
  | .range first last =>
    foldsInto alphabet.fold c.toNat first (min last lastFolded)
      || (lastFolded < last
        && ((first ≤ c.toNat && c.toNat ≤ last)
          || (first ≤ Text.upperCode c.toNat && Text.upperCode c.toNat ≤ last)))
  | .category negated kind => kind.holds alphabet.ascii c != negated

/-- A member of a set makes the set ignore case. -/
def Member.isCased (fold : Fold) : Member → Bool
  | .code n => fold.isCased n n || (fold ≠ .exact && lastFolded < fold.lower n)
  | .range first last => fold.isCased first last || (fold ≠ .exact && lastFolded < last)
  | .category .. => false

/-- What a pattern asks of one character. -/
inductive CharTest
  | any
  | notNewline
  | code (fold : Fold) (negated : Bool) (n : Nat)
  | set (folded negated : Bool) (alphabet : Alphabet) (members : List Member)
deriving DecidableEq, Repr

namespace CharTest

/-- The test for the code point `n`. -/
def ofCode (alphabet : Alphabet) (negated : Bool) (n : Nat) : CharTest :=
  if alphabet.fold.isCased n n then .code alphabet.fold negated (alphabet.fold.lower n)
  else .code .exact negated n

/-- The test for a set. It ignores case if a member has two. -/
def ofSet (alphabet : Alphabet) (negated : Bool) (members : List Member) : CharTest :=
  .set (members.any (Member.isCased alphabet.fold)) negated alphabet members

/-- A test that compares characters as they are: with a given one, or with the members of a set. -/
def isPlain : CharTest → Bool
  | .code fold negated _ => fold = .exact && !negated
  | .set folded _ _ _ => !folded
  | _ => false

/-- The test for one given character. -/
def exactly? : CharTest → Option CharTest
  | .code .exact false n => some (.code .exact false n)
  | _ => none

/-- A test that several characters of other case can pass. -/
def isStepwise : CharTest → Bool
  | .code fold _ n => !(fold.variants n).isEmpty
  | .set folded _ _ _ => folded
  | _ => false

/-- The lowercase of a character. -/
def lowered (fold : Fold) (c : Char) : Char :=
  if fold = .exact then c else Char.ofNat (fold.lower c.toNat)

def holds (c : Char) : CharTest → Bool
  | .any => true
  | .notNewline => c ≠ '\n'
  | .code fold negated n =>
    let lower := fold.lower c.toNat
    (lower = n || (fold.variants n).contains lower) != negated
  | .set folded negated alphabet members =>
    if folded then
      members.any (Member.holdsFolded alphabet (lowered alphabet.fold c)) != negated
    else members.any (Member.holds alphabet.ascii c) != negated

end CharTest

end Gutter.Pattern
