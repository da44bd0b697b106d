import Std.Data.HashMap
import Gutter.Tools.Awk.Value

/-! Tables from keys to values. The order in which keys are gone through is that of lists into which
they are spread: by their texts, and before those are needed by their numbers. What is looked up comes
to the front of its list. -/

namespace Gutter.Tools.Awk

/-- A key; a whole number that was not written as a text is a number. -/
inductive Key
  | number (n : Int)
  | text (s : List Char)
deriving DecidableEq, Repr

def Key.toText : Key → List Char
  | .number n => (toString n).toList
  | .text s => s

/-- The hash of a text: from an offset on, each byte is mixed in and the sum multiplied by a prime. -/
def textHash (text : List Char) : Nat :=
  (text.foldl (fun (hash : UInt32) c => (hash ^^^ c.toNat.toUInt32) * 16777619) 2166136261).toNat

/-- The keys in their lists; `run` keys that count from one are in no list yet. -/
structure Keys where
  lists : Nat := 64
  numbers : Array (List Int) := Array.replicate 64 []
  texts : Option (Array (List (List Char))) := none
  count : Nat := 0
  run : Nat := 0

/-- How many keys a list has when there are too few lists. -/
def listLimit : Nat := 12

/-- Enough lists for some keys. -/
def listsFor (count : Nat) : Nat → Nat → Nat
  | 0, lists => lists
  | limit + 1, lists => if lists * listLimit < count then listsFor count limit (2 * lists) else lists

namespace Keys

def numberPlace (k : Keys) (n : Int) : Nat := (n % k.lists).toNat

def textPlace (k : Keys) (text : List Char) : Nat := textHash text % k.lists

def putNumber (k : Keys) (n : Int) : Keys :=
  { k with numbers := k.numbers.modify (k.numberPlace n) (n :: ·) }

def putText (k : Keys) (text : List Char) : Keys :=
  { k with texts := k.texts.map fun texts => texts.modify (k.textPlace text) (text :: ·) }

def dropNumber (k : Keys) (n : Int) : Keys :=
  { k with numbers := k.numbers.modify (k.numberPlace n) (·.erase n) }

def dropText (k : Keys) (text : List Char) : Keys :=
  { k with texts := k.texts.map fun texts => texts.modify (k.textPlace text) (·.erase text) }

def hasNumber (k : Keys) (n : Int) : Bool := (k.numbers.getD (k.numberPlace n) []).contains n

def hasText (k : Keys) (text : List Char) : Bool :=
  k.texts.any fun texts => (texts.getD (k.textPlace text) []).contains text

/-- Keys that count from one to a number. -/
def counting (count : Nat) : Keys := if count = 0 then {} else { count, run := count }

/-- Puts keys that count from one into lists. -/
def spread (k : Keys) : Keys :=
  if k.run = 0 then k
  else
    let lists := listsFor k.run k.run 64
    let empty : Keys :=
      { k with lists, numbers := Array.replicate lists [], texts := none, run := 0 }
    (List.range k.run).foldl (fun (k : Keys) i => k.putNumber (i + 1 : Nat)) empty

/-- Puts the texts of all keys into lists. -/
def withTexts (k : Keys) : Keys :=
  let k := k.spread
  if k.texts.isSome then k
  else
    let empty := { k with texts := some (Array.replicate k.lists []) }
    k.numbers.foldl (fun (k : Keys) list =>
      list.foldl (fun (k : Keys) n => k.putText (toString n).toList) k) empty

/-- Lists that are split in two: what stays, and what moves to a new list behind them all. -/
def splitLists {α : Type} (moves : Nat → α → Bool) (lists : Array (List α)) : Array (List α) :=
  lists.mapIdx (fun i list => list.filter (!moves i ·))
    ++ lists.mapIdx (fun i list => list.filter (moves i ·))

/-- Counts a key that is new, and has twice as many lists if those are too long. -/
def grow (k : Keys) : Keys :=
  let k := { k with count := k.count + 1 }
  if k.count ≤ k.lists * listLimit then k
  else
    let twice := { k with lists := 2 * k.lists }
    { twice with
      numbers := splitLists (fun i n => twice.numberPlace n ≠ i) k.numbers
      texts := k.texts.map (splitLists fun i text => twice.textPlace text ≠ i) }

/-- Looks for a text, and adds it if that is asked for. -/
def findText (k : Keys) (text : List Char) (adds : Bool) : Bool × Keys :=
  let k := k.withTexts
  if k.hasText text then (true, (k.dropText text).putText text)
  else if adds then (true, k.grow.putText text)
  else (false, k)

def findNumber (k : Keys) (n : Int) (adds : Bool) : Bool × Keys :=
  if k.hasNumber n then (true, (k.dropNumber n).putNumber n)
  else if k.texts.isSome then
    match k.findText (toString n).toList adds with
    | (true, k) => (true, k.putNumber n)
    | missing => missing
  else if adds then (true, k.grow.putNumber n)
  else (false, k)

/-- Looks for a key, and adds it if that is asked for. -/
def find (k : Keys) (key : Key) (adds : Bool) : Bool × Keys :=
  if k.count = 0 && !adds then (false, k)
  else
    match key with
    | .text text => k.findText text adds
    | .number n =>
      if k.run = 0 then k.findNumber n adds
      else if 1 ≤ n && n ≤ k.run then (true, k)
      else if adds then k.spread.findNumber n adds
      else (false, k)

/-- Takes a key away. -/
def delete (k : Keys) (key : Key) : Keys :=
  let isNear : Bool := match key with
    | .number n => k.run = 0 || (1 ≤ n && n ≤ k.run)
    | .text _ => true
  if !isNear then k
  else
    let k := if key matches .number _ then k.spread else k
    match k.find key false with
    | (false, k) => k
    | (true, k) =>
      if k.count = 1 then {}
      else
        let text := key.toText
        let number : Option Int := match key with
          | .number n => some n
          | .text text => (String.ofList text).toInt?.filter fun n => (toString n).toList = text
        let k := (number.map k.dropNumber).getD k
        { k.dropText text with count := k.count - 1 }

/-- All keys in their order. -/
def ordered (k : Keys) : List (List Char) × Keys :=
  if k.count = 0 then ([], k)
  else
    let k := k.withTexts
    ((k.texts.getD #[]).toList.flatten, k)

end Keys

/-- The hash of a character that tables use, whatever other there is. -/
instance (priority := high) hashableChar : Hashable Char := instHashableChar

/-- A table. -/
structure Table where
  keys : Keys := {}
  values : Std.HashMap (List Char) Value := {}

namespace Table

def size (t : Table) : Nat := t.keys.count

/-- The values of texts that are numbered from one. -/
def ofList (values : List Value) : Table :=
  { keys := .counting values.length
    values := .ofList ((values.zipIdx 1).map fun (v, i) => ((toString i).toList, v)) }

def has (t : Table) (key : Key) : Bool × Table :=
  let (found, keys) := t.keys.find key false
  (found, { t with keys })

/-- The value of a key, which is added if it is new. -/
def get (t : Table) (key : Key) : Value × Table :=
  ((t.values.get? key.toText).getD .unset, { t with keys := (t.keys.find key true).2 })

def set (t : Table) (key : Key) (v : Value) : Table :=
  { t with values := t.values.insert key.toText v }

def delete (t : Table) (key : Key) : Table :=
  ⟨t.keys.delete key, t.values.erase key.toText⟩

def ordered (t : Table) : List (List Char) × Table :=
  let (list, keys) := t.keys.ordered
  (list, { t with keys })

end Table

end Gutter.Tools.Awk
