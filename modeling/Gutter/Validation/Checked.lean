import Gutter.Value

/-! Results of checks that collect their issues: of two checks side by side both are made, and all
that is wrong is told at once. -/

namespace Gutter.Validation

/-! ### Issues

What is wrong with a value that should describe something: where it stands and why it is refused,
and how these issues are told. -/

/-- A step towards a part of a value: an entry of a table, an item of a list, or an entry under a
number. -/
inductive Step
  | entry (name : String)
  | item (index : Nat)
  | number (n : Int)
deriving DecidableEq, Repr

/-- The step to the entry under a key. Numbers of more than 64 bits are told as texts. -/
def Step.ofKey : Value → Step
  | .text name => .entry name
  | .bool b => .number (if b then 1 else 0)
  | .int n =>
    if -0x8000000000000000 ≤ n ∧ n < 0x8000000000000000 then .number n
    else .entry (Value.int n).render
  | value => .entry value.render

/-- Why a value is refused. -/
inductive Cause
  | missing
  | extra
  | keyNotText
  | notModel (model : String)
  | notText
  | textTooShort (least : Nat)
  | notInteger
  | integerText
  | integerSize
  | fraction
  | notFinite
  | notNumber
  | numberText
  | notTruth
  | truthText
  | notList
  | notTuple
  | notGreater (bound : Nat)
  | notAtLeast (bound : Nat)
  | rejected (reason : String)
  | frozen
  | noAttribute (name : String)
deriving DecidableEq, Repr

def Cause.type : Cause → String
  | .missing => "missing"
  | .extra => "extra_forbidden"
  | .keyNotText => "invalid_key"
  | .notModel _ => "model_type"
  | .notText => "string_type"
  | .textTooShort _ => "string_too_short"
  | .notInteger => "int_type"
  | .integerText => "int_parsing"
  | .integerSize => "int_parsing_size"
  | .fraction => "int_from_float"
  | .notFinite => "finite_number"
  | .notNumber => "float_type"
  | .numberText => "float_parsing"
  | .notTruth => "bool_type"
  | .truthText => "bool_parsing"
  | .notList => "list_type"
  | .notTuple => "tuple_type"
  | .notGreater _ => "greater_than"
  | .notAtLeast _ => "greater_than_equal"
  | .rejected _ => "value_error"
  | .frozen => "frozen_instance"
  | .noAttribute _ => "no_such_attribute"

def Cause.message : Cause → String
  | .missing => "Field required"
  | .extra => "Extra inputs are not permitted"
  | .keyNotText => "Keys should be strings"
  | .notModel model => s!"Input should be a valid dictionary or instance of {model}"
  | .notText => "Input should be a valid string"
  | .textTooShort least =>
    s!"String should have at least {least} character" ++ if least = 1 then "" else "s"
  | .notInteger => "Input should be a valid integer"
  | .integerText => "Input should be a valid integer, unable to parse string as an integer"
  | .integerSize => "Unable to parse input string as an integer, exceeded maximum size"
  | .fraction => "Input should be a valid integer, got a number with a fractional part"
  | .notFinite => "Input should be a finite number"
  | .notNumber => "Input should be a valid number"
  | .numberText => "Input should be a valid number, unable to parse string as a number"
  | .notTruth => "Input should be a valid boolean"
  | .truthText => "Input should be a valid boolean, unable to interpret input"
  | .notList => "Input should be a valid list"
  | .notTuple => "Input should be a valid tuple"
  | .notGreater bound => s!"Input should be greater than {bound}"
  | .notAtLeast bound => s!"Input should be greater than or equal to {bound}"
  | .rejected reason => "Value error, " ++ reason
  | .frozen => "Instance is frozen"
  | .noAttribute name => s!"Object has no attribute '{name}'"

/-- A value that is refused: where it stands, why, and the value. -/
structure Issue where
  location : List Step
  cause : Cause
  input : Value

def Issue.under (step : Step) (issue : Issue) : Issue :=
  { issue with location := step :: issue.location }

/-- All that is wrong with what should be a `model`. -/
structure Invalid where
  model : String
  issues : List Issue

/-- A name with a point in it stands between backticks. -/
def Step.text : Step → String
  | .entry name => if name.contains '.' then "\x60" ++ name ++ "\x60" else name
  | .item index => toString index
  | .number n => toString n

/-- At most fifty bytes of a value's text; a longer text keeps its ends. -/
def shortened (text : String) : String :=
  if text.utf8ByteSize ≤ 50 then text
  else
    let front := fitting 25 text.toList
    let back := (fitting 24 text.toList.reverse).reverse
    String.ofList front ++ "..." ++ String.ofList back
where
  /-- The longest start of at most `room` bytes. -/
  fitting (room : Nat) : List Char → List Char
    | [] => []
    | c :: rest => if c.utf8Size ≤ room then c :: fitting (room - c.utf8Size) rest else []

/-- The lines that tell of one issue. -/
def Issue.report (issue : Issue) : String :=
  let place :=
    if issue.location.isEmpty then "" else ".".intercalate (issue.location.map Step.text) ++ "\n"
  place ++ s!"  {issue.cause.message} [type={issue.cause.type}, input_value=" ++
    s!"{shortened issue.input.render}, input_type={issue.input.kind}]\n" ++
    s!"    For further information visit https://errors.pydantic.dev/2.14/v/{issue.cause.type}"

/-- The count of the issues, and each of them. -/
def Invalid.report (e : Invalid) : String :=
  let count := e.issues.length
  let head := s!"{count} validation error" ++ (if count = 1 then "" else "s") ++ s!" for {e.model}"
  "\n".intercalate (head :: e.issues.map Issue.report)

/-! ### Checks -/

/-- Why nothing came of a check: issues to be told, or a pattern whose count is too large to be
read, which ends all checks at once. -/
inductive Refusal
  | issues (list : List Issue)
  | countTooLarge

/-- The result of a check. -/
def Checked (α : Type) := Except Refusal α

namespace Checked

variable {α β : Type}

def ok (a : α) : Checked α := Except.ok a

def refuse (cause : Cause) (input : Value) : Checked α :=
  Except.error (.issues [⟨[], cause, input⟩])

/-- What two refusals side by side come to. A count that is too large hides the issues, which are
not complete without it. -/
def Refusal.both : Refusal → Refusal → Refusal
  | .issues first, .issues second => .issues (first ++ second)
  | _, _ => .countTooLarge

/-- Two checks side by side. -/
def apply (f : Checked (α → β)) (x : Checked α) : Checked β :=
  match f, x with
  | .ok f, .ok a => Except.ok (f a)
  | .ok _, .error e => Except.error e
  | .error e, .ok _ => Except.error e
  | .error first, .error second => Except.error (Refusal.both first second)

/-- A check of what an earlier one accepted. -/
def andThen (x : Checked α) (f : α → Checked β) : Checked β :=
  match x with
  | .ok a => f a
  | .error e => Except.error e

def map (f : α → β) (x : Checked α) : Checked β := x.andThen fun a => ok (f a)

/-- The issues stand one step further in. -/
def under (step : Step) (x : Checked α) : Checked α :=
  match x with
  | .ok a => ok a
  | .error (.issues issues) => Except.error (.issues (issues.map (Issue.under step)))
  | .error .countTooLarge => Except.error .countTooLarge

instance : Applicative Checked where
  pure := ok
  seq f x := apply f (x ())

/-- The checks of a list's items, counted from `index`. -/
def each (check : Value → Checked α) : Nat → List Value → Checked (List α)
  | _, [] => ok []
  | index, item :: rest =>
    List.cons <$> (check item).under (.item index) <*> each check (index + 1) rest

end Checked

end Gutter.Validation
