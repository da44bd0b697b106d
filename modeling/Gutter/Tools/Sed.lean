import Gutter.Tools.Sed.Run

/-! The stream editor as a tool. -/

namespace Gutter.Tools

open Machine

namespace Sed

def options : Options :=
  { letters := "bsnrzuEe:f:l:i::V:hαβγ"
    words := [("binary", 'b'), ("regexp-extended", 'r'), ("debug", 'α'), ("in-place", 'i'),
      ("expression", 'e'), ("file", 'f'), ("line-length", 'l'), ("null-data", 'z'),
      ("zero-terminated", 'z'), ("quiet", 'n'), ("posix", 'β'), ("silent", 'n'),
      ("sandbox", 'γ'), ("separate", 's'), ("unbuffered", 'u'), ("follow-symlinks", 'b')] }

/-- How the tool is used. -/
def usage (name : List Char) : List Char :=
  "Usage: ".toList ++ name
    ++ " [OPTION]... \x7bscript-only-if-no-other-script\x7d [input-file]...\n\n".toList
    ++ ("  -n, --quiet, --silent\n"
      ++ "                 suppress automatic printing of pattern space\n"
      ++ "      --debug\n"
      ++ "                 annotate program execution\n"
      ++ "  -e script, --expression=script\n"
      ++ "                 add the script to the commands to be executed\n"
      ++ "  -f script-file, --file=script-file\n"
      ++ "                 add the contents of script-file to the commands to be executed\n"
      ++ "  --follow-symlinks\n"
      ++ "                 follow symlinks when processing in place\n"
      ++ "  -i[SUFFIX], --in-place[=SUFFIX]\n"
      ++ "                 edit files in place (makes backup if SUFFIX supplied)\n"
      ++ "  -l N, --line-length=N\n"
      ++ "                 specify the desired line-wrap length for the ").toList
    ++ [Char.ofNat 96, 'l', '\''] ++ (" command\n"
      ++ "  --posix\n"
      ++ "                 disable all GNU extensions.\n"
      ++ "  -E, -r, --regexp-extended\n"
      ++ "                 use extended regular expressions in the script\n"
      ++ "                 (for portability use POSIX -E).\n"
      ++ "  -s, --separate\n"
      ++ "                 consider files as separate rather than as a single,\n"
      ++ "                 continuous long stream.\n"
      ++ "      --sandbox\n"
      ++ "                 operate in sandbox mode (disable e/r/w commands).\n"
      ++ "  -u, --unbuffered\n"
      ++ "                 load minimal amounts of data from the input files and flush\n"
      ++ "                 the output buffers more often\n"
      ++ "  -z, --null-data\n"
      ++ "                 separate lines by NUL characters\n"
      ++ "      --help     display this help and exit\n"
      ++ "      --version  output version information and exit\n\n"
      ++ "If no -e, --expression, -f, or --file option is given, then the first\n"
      ++ "non-option argument is taken as the sed script to interpret.  All\n"
      ++ "remaining arguments are names of input files; if no input files are\n"
      ++ "specified, then the standard input is read.\n\n").toList

/-- What a problem is said to be in. -/
def origin (o : Origin) (position line : Nat) : List Char :=
  match o with
  | .argument number => s!"-e expression #{number}, char {position}: ".toList
  | .file name => "file ".toList ++ name ++ s!" line {line}: ".toList

/-- Says why a script is refused, and ends with a status. -/
def tell (refusal : Refusal) : Act Nat := do
  match refusal with
  | .noLabel label =>
    warn ["can't find label for jump to ".toList, [Char.ofNat 96], label, ['\'']]
    return 4
  | .problem (.expression .bareKind) _ _ _ =>
    warn [Regular.Fault.bareKind.text.toList]
    return 1
  | .problem problem o position line =>
    warn [origin o position line, problem.text]
    return 1

/-- The pieces of the script that options give, in their order. -/
def pieces : Nat → List Given → Act (Except (List (List Char)) (List (List Char × Origin)))
  | _, [] => return .ok []
  | count, g :: rest => do
    if g.letter = 'e' then
      match ← pieces (count + 1) rest with
      | .ok others => return .ok ((g.value, .argument (count + 1)) :: others)
      | .error e => return .error e
    else if g.letter = 'f' then
      match ← bytesAt g.value with
      | .error fault =>
        return .error ["couldn't open file ".toList, g.value, ": ".toList, faultName fault]
      | .ok bytes =>
        match ← pieces count rest with
        | .ok others => return .ok ((bytes, .file g.value) :: others)
        | .error e => return .error e
    else pieces count rest

end Sed

def sed (worker : Worker) : Tool := fun arguments => do
  match ← readOptions Sed.options arguments with
  | .error fault =>
    warn [fault.message]
    write 2 (Sed.usage (← self).name)
    return 1
  | .ok (given, operands) =>
    let c : Choice := ⟨given, operands⟩
    let (found, files) ← do
      if c.has 'e' || c.has 'f' then
        let found ← Sed.pieces 0 given
        pure (found, operands)
      else
        match operands with
        | [] => pure (.ok [], [])
        | text :: files => pure (.ok [(text, Sed.Origin.argument 1)], files)
    match found with
    | .error spoken =>
      warn spoken
      return 4
    | .ok [] =>
      write 2 (Sed.usage (← self).name)
      return 1
    | .ok pieces =>
      let wide ← isWide
      let choices : Sed.Choices := ⟨c.has 'E' || c.has 'r', wide, c.has 'γ'⟩
      match Sed.readScript choices pieces with
      | .error refusal => Sed.tell refusal
      | .ok script =>
        if c.has 'i' && files.isEmpty then
          warn ["no input files".toList]
          return 4
        let settings : Sed.Settings := {
          script, wide
          quiet := c.has 'n' || script.quiet
          apart := c.has 's' || c.has 'i'
          inPlace := c.value? 'i'
          mark := if c.has 'z' then '\x00' else '\n'
          width := Text.valueOfDigits 10 (((c.value? 'l').getD ['7', '0']).takeWhile Char.isDigit)
          strict := c.has 'β' || ((← self).exported.lookup "POSIXLY_CORRECT".toList).isSome }
        let input : Sed.Input := { later := if files.isEmpty then [['-']] else files }
        let (result, editor) ← ((Sed.edit worker settings).run).run { input }
        let status ← match result with
          | .ok status => pure status
          | .error (.spoken spoken status) => do
            warn spoken
            pure status
          | .error .noExpression =>
            let last := (pieces.getLast?.map (·.2)).getD (.argument 1)
            Sed.tell (.problem .noExpression last 0 0)
        put editor.printed.reverse.flatten
        return status

end Gutter.Tools
