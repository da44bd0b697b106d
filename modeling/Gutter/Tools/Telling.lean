import Gutter.Files.Tree
import Gutter.Tools.Instant.Reader
import Gutter.Tools.Options
import Gutter.Tools.Placing

/-! Tools that tell about the machine, its users, and dates. -/

namespace Gutter.Tools

open Machine Shell

/-- A tool without operands that tells one line. -/
def telling (options : Options) (line : Choice → List Char) : Tool := withOptions options 1 fun c => do
  match c.operands with
  | operand :: _ => extraOperand 1 operand
  | [] =>
    putLine (line c)
    return 0

def whoami : Tool := telling { letters := "" } fun _ => "root".toList

def arch : Tool := telling { letters := "" } fun _ => "x86_64".toList

def nproc : Tool := telling ⟨"i:", [("all", 'a'), ("ignore", 'i')], true⟩ fun _ => ['1']

/-- The parts of the name of the system, in their order. -/
def systemParts : List (Char × String) :=
  [('s', "Linux"), ('n', "localhost"), ('r', "6.1.0"), ('v', "#1 SMP"), ('m', "x86_64"),
    ('p', "unknown"), ('i', "unknown"), ('o', "GNU/Linux")]

def uname : Tool := telling ⟨"asnrvmpio", [("all", 'a'), ("kernel-name", 's'), ("machine", 'm'),
    ("nodename", 'n'), ("kernel-release", 'r'), ("kernel-version", 'v'), ("processor", 'p'),
    ("hardware-platform", 'i'), ("operating-system", 'o')], true⟩ fun c =>
  let chosen := systemParts.filter fun part =>
    if c.has 'a' then part.2 ≠ "unknown" else c.has part.1 || (c.given.isEmpty && part.1 = 's')
  ((chosen.map (·.2.toList)).intersperse [' ']).flatten

def hostname : Tool := fun _ => do
  putLine "localhost".toList
  return 0

def tty : Tool := withOptions ⟨"s", [("silent", 's'), ("quiet", 's')], true⟩ 2 fun c => do
  match c.operands with
  | operand :: _ => extraOperand 2 operand
  | [] =>
    if !c.has 's' then putLine "not a tty".toList
    return 1

def logname : Tool := withOptions { letters := "" } 1 fun c => do
  match c.operands with
  | operand :: _ => extraOperand 1 operand
  | [] =>
    warn ["no login name".toList]
    return 1

/-- Tells who is there: nobody. -/
def nobodyThere : Tool := fun _ => return 0

/-! ### Users and groups -/

/-- A user: the name, and the numbers of the user and of the group. -/
structure User where
  name : List Char
  number : Nat
  group : Nat

/-- The users of the machine. -/
def users : Act (List User) := do
  let bytes := ((← get).files.read Files.usersPath).toOption.getD []
  return (linesOf (charsOf bytes)).filterMap fun line =>
    match Text.splitOn ':' line with
    | name :: _ :: number :: group :: _ =>
      some ⟨name, Text.valueOfDigits 10 number, Text.valueOfDigits 10 group⟩
    | _ => none

/-- The user of a name or a number. -/
def userOf? (text : List Char) : Act (Option User) := do
  let all ← users
  let named := all.find? (·.name = text)
  let isNumber := !text.isEmpty && text.all Char.isDigit
  let numbered := if isNumber then
      all.find? (·.number = Text.valueOfDigits 10 text)
    else none
  return named <|> numbered

/-- The name of a group: that of the user whose own it is, or that of nobody's group. -/
def groupName (number : Nat) : Act (List Char) := do
  if number = 65534 then return "nogroup".toList
  let own := (← users).find? fun user => user.group = number
  return (own.map (·.name)).getD (digits number)

def groups : Tool := withOptions { letters := "" } 1 fun c => do
  if c.operands.isEmpty then
    putLine (← groupName 0)
    return 0
  let mut status := 0
  for name in c.operands do
    match (← users).find? (·.name = name) with
    | some user => putLine (name ++ " : ".toList ++ (← groupName user.group))
    | none =>
      status := 1
      warn [← quoted name, ": no such user".toList]
  return status

/-- Tells what is asked of a user: one number or name, or all. -/
def tellUser (c : Choice) (user : User) : Act Unit := do
  let group ← groupName user.group
  let ending := if c.has 'z' then ['\x00'] else ['\n']
  match c.last? ['u', 'g', 'G'] with
  | some 'u' => put ((if c.has 'n' then user.name else digits user.number) ++ ending)
  | some _ => put ((if c.has 'n' then group else digits user.group) ++ ending)
  | none =>
    let shown (what : String) (number : Nat) (name : List Char) : List Char :=
      what.toList ++ '=' :: digits number ++ '(' :: name ++ [')']
    putLine (shown "uid" user.number user.name ++ ' ' :: shown "gid" user.group group
      ++ ' ' :: shown "groups" user.group group)

def identity : Tool := withOptions ⟨"agGnruzZ", [("user", 'u'), ("group", 'g'), ("groups", 'G'),
    ("name", 'n'), ("real", 'r'), ("zero", 'z')], true⟩ 1 fun c => do
  let chosen := ['u', 'g', 'G'].filter c.has
  if 1 < chosen.length then
    warn ["cannot print \"only\" of more than one choice".toList]
    return 1
  if chosen.isEmpty && (c.has 'n' || c.has 'r') then
    warn ["cannot print only names or real IDs in default format".toList]
    return 1
  if chosen.isEmpty && c.has 'z' then
    warn ["option --zero not permitted in default format".toList]
    return 1
  let mut status := 0
  for name in (if c.operands.isEmpty then [['0']] else c.operands) do
    match ← userOf? name with
    | some user => tellUser c user
    | none =>
      status := 1
      warn [← quoted name, ": no such user".toList]
  return status

/-! ### Dates -/

/-- The forms of dates by how exact they are. -/
def isoForms : List (String × String) :=
  [("hours", "%Y-%m-%dT%H%:z"), ("minutes", "%Y-%m-%dT%H:%M%:z"), ("date", "%Y-%m-%d"),
    ("seconds", "%Y-%m-%dT%H:%M:%S%:z"), ("ns", "%Y-%m-%dT%H:%M:%S,%N%:z")]

def spacedForms : List (String × String) :=
  [("date", "%Y-%m-%d"), ("seconds", "%Y-%m-%d %H:%M:%S%:z"), ("ns", "%Y-%m-%d %H:%M:%S.%N%:z")]

/-- The format that options ask for, or the status with which the tool ends. -/
def dateFormat (c : Choice) : Act (Except Nat (List Char)) := do
  let forms := c.given.filter fun g => ['I', 'R', '3'].contains g.letter
  let formats := c.operands.filter (·.head? = some '+')
  if 1 < forms.length || (!forms.isEmpty && !formats.isEmpty) then
    warn ["multiple output formats specified".toList]
    return .error 1
  match forms, formats with
  | ⟨'R', _⟩ :: _, _ => return .ok "%a, %d %b %Y %H:%M:%S %z".toList
  | ⟨'I', text⟩ :: _, _ =>
    match chosenIn? isoForms (if text.isEmpty then "date".toList else text) with
    | some form => return .ok form.toList
    | none => return .error (← notAmong 1 text "--iso-8601" isoForms)
  | ⟨_, text⟩ :: _, _ =>
    match chosenIn? spacedForms text with
    | some form => return .ok form.toList
    | none => return .error (← notAmong 1 text "--rfc-3339" spacedForms)
  | [], format :: _ => return .ok (format.drop 1)
  | [], [] => return .ok "%a %b %e %H:%M:%S %Z %Y".toList

/-- Tells a date, or says that a text is none. -/
def tellDate (zone : Zone) (format text : List Char) (instant : Option Instant) : Act Nat := do
  match instant with
  | some instant =>
    putLine ((instant.clock zone).format format)
    return 0
  | none =>
    warn ["invalid date ".toList, ← quoted text]
    return 1

def date : Tool :=
    withOptions ⟨"d:f:I::r:Rs:u3:", [("date", 'd'), ("file", 'f'), ("utc", 'u'), ("universal", 'u'),
      ("reference", 'r'), ("rfc-email", 'R'), ("rfc-3339", '3'), ("iso-8601", 'I'), ("set", 's')],
      true⟩ 1 fun c => do
  let sources := (c.given.map (·.letter)).filter ['d', 'f', 'r'].contains
  if 1 < sources.eraseDups.length then
    return ← misuse 1 ["the options to specify dates for printing are mutually exclusive".toList]
  match c.operands with
  | _ :: other :: _ => return ← extraOperand 1 other
  | [operand] =>
    if operand.head? ≠ some '+' then
      if sources.isEmpty then
        warn ["invalid date ".toList, ← quoted operand]
        return 1
      return ← misuse 1 ["the argument ".toList, ← quoted operand,
        " lacks a leading '+';\nwhen using an option to specify date(s), any non-option\n".toList,
        "argument must be a format string beginning with '+'".toList]
  | [] => pure ()
  match ← dateFormat c with
  | .error status => return status
  | .ok format =>
    let zone ← if c.has 'u' then pure Zone.universal else zone
    let now ← present
    let read := Instant.ofText? zone now
    match c.value? 'd', c.value? 'f', c.value? 'r' with
    | some text, _, _ => tellDate zone format text (read text)
    | none, some path, _ =>
      match ← bytesAt path with
      | .error fault =>
        refuse [path] fault
        return 1
      | .ok bytes =>
        let mut status := 0
        for line in linesOf bytes do
          status := max status (← tellDate zone format line (read line))
        return status
    | none, none, some path =>
      match ← nodeAt true path with
      | .error fault =>
        refuse [path] fault
        return 1
      | .ok (place, _) =>
        let time := (← get).files.time place
        tellDate zone format path (some (instantOfTime time))
    | none, none, none => tellDate zone format [] (some now)

end Gutter.Tools
