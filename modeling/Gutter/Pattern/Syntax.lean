/-! Patterns as they are written: flags, members of character sets, and the tree of items with the
least and greatest width of what it matches. -/

namespace Gutter.Pattern

/-- The settings that a pattern starts with and that its groups change. -/
structure Flags where
  ignoreCase : Bool := false
  multiline : Bool := false
  dotAll : Bool := false
  verbose : Bool := false
  ascii : Bool := false
  unicode : Bool := false
  template : Bool := false
deriving DecidableEq, Repr

namespace Flags

def none : Flags := {}

def union (a b : Flags) : Flags where
  ignoreCase := a.ignoreCase || b.ignoreCase
  multiline := a.multiline || b.multiline
  dotAll := a.dotAll || b.dotAll
  verbose := a.verbose || b.verbose
  ascii := a.ascii || b.ascii
  unicode := a.unicode || b.unicode
  template := a.template || b.template

def without (a b : Flags) : Flags where
  ignoreCase := a.ignoreCase && !b.ignoreCase
  multiline := a.multiline && !b.multiline
  dotAll := a.dotAll && !b.dotAll
  verbose := a.verbose && !b.verbose
  ascii := a.ascii && !b.ascii
  unicode := a.unicode && !b.unicode
  template := a.template && !b.template

/-- A flag is set in both. -/
def overlaps (a b : Flags) : Bool :=
  (a.ignoreCase && b.ignoreCase) || (a.multiline && b.multiline) || (a.dotAll && b.dotAll)
    || (a.verbose && b.verbose) || (a.ascii && b.ascii) || (a.unicode && b.unicode)
    || (a.template && b.template)

/-- Says which characters are letters, digits and blanks. -/
def choosesAlphabet (a : Flags) : Bool := a.ascii || a.unicode

/-- The flags inside a group that turns `on` some and `off` others. A group that chooses an alphabet
replaces the choice around it. -/
def within (outer on off : Flags) : Flags :=
  let kept := if on.choosesAlphabet then { outer with ascii := false, unicode := false } else outer
  (kept.union on).without off

end Flags

/-- A position that an item tests without taking a character. -/
inductive Anchor
  | lineStart
  | textStart
  | lineEnd
  | textEnd
  | boundary
  | noBoundary
deriving DecidableEq, Repr

/-- A class of characters that the flags may restrict to ASCII. -/
inductive Category
  | digit
  | space
  | word
deriving DecidableEq, Repr

/-- A member of a character set. Code points are numbers, since a pattern may name a surrogate. -/
inductive Member
  | code (n : Nat)
  | range (first last : Nat)
  | category (negated : Bool) (kind : Category)
deriving DecidableEq, Repr

/-- How a repetition tries its counts: most first, fewest first, or most without a second try. -/
inductive Mode
  | greedy
  | lazy
  | possessive
deriving DecidableEq, Repr

/-- A piece of a pattern; a list of them is a sequence. -/
inductive Item
  | code (negated : Bool) (n : Nat)
  | set (negated : Bool) (members : List Member)
  | any
  | anchor (point : Anchor)
  | choice (branches : List (List Item))
  | group (index : Option Nat) (on off : Flags) (body : List Item)
  | repeated (mode : Mode) (min : Nat) (max : Option Nat) (body : List Item)
  | look (behind negated : Bool) (body : List Item)
  | atomic (body : List Item)
  | again (index : Nat)
  | whenSet (index : Nat) (yes : List Item) (no : Option (List Item))

/-- The least and greatest number of characters that an item takes. -/
structure Width where
  least : Nat
  most : Nat
deriving DecidableEq, Repr

namespace Width

/-- Widths are not told apart from here on. -/
def limit : Nat := 0x10000000000000000

def zero : Width := ⟨0, 0⟩

def one : Width := ⟨1, 1⟩

def add (a b : Width) : Width := ⟨a.least + b.least, a.most + b.most⟩

def capped (a : Width) : Width := ⟨min a.least limit, min a.most limit⟩

def times (a : Width) (min : Nat) (max : Option Nat) : Width :=
  ⟨a.least * min, match max with
    | some max => a.most * max
    | none => if a.most = 0 then 0 else limit⟩

/-- One of several widths; with none to choose from, the least is the limit. -/
def either : List Width → Width
  | [] => ⟨limit, 0⟩
  | a :: rest => ⟨min a.least (either rest).least, max a.most (either rest).most⟩

end Width

mutual

/-- The width of an item, when `groups` are the widths of the groups from 1 on. -/
def Item.width (groups : List (Option Width)) : Item → Width
  | .code .. | .set .. | .any => .one
  | .anchor _ | .look .. => .zero
  | .choice branches => .either (branchWidths groups branches)
  | .group _ _ _ body | .atomic body => (widthSum groups body).capped
  | .repeated _ min max body => (widthSum groups body).capped.times min max
  | .again index => ((groups[index - 1]?).join).getD .zero
  | .whenSet _ yes none => { (widthSum groups yes).capped with least := 0 }
  | .whenSet _ yes (some no) =>
    .either [(widthSum groups yes).capped, (widthSum groups no).capped]

def branchWidths (groups : List (Option Width)) : List (List Item) → List Width
  | [] => []
  | branch :: rest => (widthSum groups branch).capped :: branchWidths groups rest

def widthSum (groups : List (Option Width)) : List Item → Width
  | [] => .zero
  | item :: rest => (item.width groups).add (widthSum groups rest)

end

def sequenceWidth (groups : List (Option Width)) (items : List Item) : Width :=
  (widthSum groups items).capped

/-- Two items without parts of their own that are written alike. -/
def Item.alike : Item → Item → Bool
  | .code a m, .code b n => a = b && m = n
  | .set a m, .set b n => a = b && m = n
  | .any, .any => true
  | .anchor a, .anchor b => a = b
  | .again m, .again n => m = n
  | _, _ => false

end Gutter.Pattern
