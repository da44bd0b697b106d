import Gutter.Text.Hex
import Gutter.Text.Split

/-! Tables of code points: `RangeTable` holds a set as ranges and `RunTable` a map as runs of equal
offset, both written as hexadecimal text and searched by halving. -/

namespace Gutter.Text

/-- A set of code points as sorted inclusive ranges. -/
structure RangeTable where
  ranges : Array (Nat × Nat)

namespace RangeTable

/-- Reads ranges such as `a1-b4`, or single code points, separated by spaces. -/
def decode (lines : List String) : RangeTable :=
  let item (text : List Char) : Nat × Nat :=
    match splitOn '-' text with
    | [first, last] => (hexValue first, hexValue last)
    | _ => (hexValue text, hexValue text)
  ⟨(lines.flatMap fun line => (splitOn ' ' line.toList).map item).toArray⟩

/-- The index of the range that holds `n`, found among those from `low` to below `high`. -/
def find? (ranges : Array (Nat × Nat)) (n : Nat) : Nat → Nat → Nat → Option Nat
  | 0, _, _ => none
  | fuel + 1, low, high =>
    if low < high then
      let middle := (low + high) / 2
      match ranges[middle]? with
      | none => none
      | some (first, last) =>
        if n < first then find? ranges n fuel low middle
        else if last < n then find? ranges n fuel (middle + 1) high
        else some middle
    else none

def contains (table : RangeTable) (n : Nat) : Bool :=
  (find? table.ranges n (table.ranges.size + 1) 0 table.ranges.size).isSome

/-- Some code point of the set lies between `first` and `last`. -/
def meets (table : RangeTable) (first last : Nat) : Bool :=
  table.ranges.any fun range => range.1 ≤ last && first ≤ range.2

end RangeTable

/-- The code points from `first` to `last`, every `stride`-th one, map to those from `target` on. -/
structure Run where
  first : Nat
  last : Nat
  stride : Nat
  target : Nat

/-- A map of code points that changes only those in its runs. -/
structure RunTable where
  runs : Array Run
  bounds : Array (Nat × Nat)

namespace RunTable

/-- Reads runs such as `41-5a>61`, `100-12e/2>101` for every other code point, or `178>ff`. -/
def decode (lines : List String) : RunTable :=
  let item (text : List Char) : Run :=
    match splitOn '>' text with
    | [source, target] =>
      let (span, stride) := match splitOn '/' source with
        | [span, stride] => (span, hexValue stride)
        | _ => (source, 1)
      match splitOn '-' span with
      | [first, last] => ⟨hexValue first, hexValue last, stride, hexValue target⟩
      | _ => ⟨hexValue span, hexValue span, stride, hexValue target⟩
    | _ => ⟨0, 0, 1, 0⟩
  let runs := (lines.flatMap fun line => (splitOn ' ' line.toList).map item).toArray
  ⟨runs, runs.map fun run => (run.first, run.last)⟩

/-- Where `n` maps, if it lies in a run. -/
def map? (table : RunTable) (n : Nat) : Option Nat :=
  match RangeTable.find? table.bounds n (table.bounds.size + 1) 0 table.bounds.size with
  | none => none
  | some index =>
    match table.runs[index]? with
    | none => none
    | some run =>
      if (n - run.first) % run.stride = 0 then some (run.target + (n - run.first)) else none

/-- The code points that a run maps to `m`. -/
def sources (table : RunTable) (m : Nat) : List Nat :=
  table.runs.toList.filterMap fun run =>
    if run.target ≤ m ∧ m - run.target ≤ run.last - run.first
        ∧ (m - run.target) % run.stride = 0 then
      some (run.first + (m - run.target))
    else none

end RunTable

end Gutter.Text
