import Gutter.Files.Path
import Gutter.Text.Utf8

/-! Files in a tree of directories, and a place in it from where relative paths start. Links lead to
other paths, and every node has the time at which it was last written. -/

namespace Gutter

/-- A device. What is written to a sink or a source is lost, and nothing can be written to one that
is full. A sink gives nothing, and the others zeros without end. -/
inductive Device
  | sink
  | source
  | full
deriving DecidableEq, Repr

/-- What stands at a place: a directory, a file that may be run, a link to a path, a tool, or a
device. The bytes of a sealed file cannot be read. -/
inductive Node
  | directory
  | file (bytes : List UInt8) (executable : Bool)
  | link (target : List Char)
  | tool (name : String)
  | sealedFile
  | device (device : Device)
deriving DecidableEq, Repr

/-- A tree by its places, the current place, the present time, and what differs from what is usual:
the times of writing, the rights, and which places share one file. Times count nanoseconds. -/
structure Files where
  nodes : List (List (List Char) × Node)
  place : List (List Char)
  now : Nat
  times : List (List (List Char) × Nat)
  rights : List (List (List Char) × Nat)
  shares : List (List (List Char) × Nat)
deriving DecidableEq, Repr

namespace Files

/-- The nanoseconds of a second. -/
def perSecond : Nat := 1000000000

/-- The time at which machines start. -/
def startTime : Nat := 1735734896 * perSecond

/-- No files, at a place. -/
def empty (place : List (List Char)) : Files := ⟨[], place, startTime, [], [], []⟩

def node? (files : Files) (place : List (List Char)) : Option Node :=
  if place.isEmpty then some .directory else files.nodes.lookup place

/-- The places at which the file of a place stands. -/
def sharers (files : Files) (place : List (List Char)) : List (List (List Char)) :=
  match files.shares.lookup place with
  | some share => (files.shares.filter (·.2 = share)).map (·.1)
  | none => [place]

/-- Items of places, where some places have another one. -/
def replaceAt {α : Type} (places : List (List (List Char))) (new : α)
    (items : List (List (List Char) × α)) : List (List (List Char) × α) :=
  let others := items.filter fun item => !places.contains item.1
  places.map (fun place => (place, new)) ++ others

/-- Notes that a place was written at a time. -/
def stamp (files : Files) (place : List (List Char)) (time : Nat) : Files :=
  { files with times := replaceAt (files.sharers place) time files.times }

/-- Puts a node at a place. -/
def set (files : Files) (place : List (List Char)) (node : Node) : Files :=
  let files := { files with nodes := replaceAt (files.sharers place) node files.nodes }
  files.stamp place files.now

/-- The time at which a place was written. -/
def time (files : Files) (place : List (List Char)) : Nat :=
  (files.times.lookup place).getD startTime

/-- The rights to a node that are usual. -/
def usualRights : Node → Nat
  | .file _ executable => if executable then 0o755 else 0o644
  | .link _ => 0o777
  | .device _ => 0o666
  | .sealedFile => 0o644
  | _ => 0o755

/-- The rights to what stands at a place. -/
def rightsAt (files : Files) (place : List (List Char)) : Nat :=
  (files.rights.lookup place).getD (usualRights ((files.node? place).getD .directory))

/-- Gives other rights to what stands at a place. -/
def setRights (files : Files) (place : List (List Char)) (rights : Nat) : Files :=
  let places := files.sharers place
  let changed : Node → Node
    | .file bytes _ => .file bytes (rights &&& 0o111 ≠ 0)
    | node => node
  { files with
    nodes := files.nodes.map fun n => if places.contains n.1 then (n.1, changed n.2) else n
    rights := replaceAt places rights files.rights }

/-- Takes a place away, and all within it. -/
def remove (files : Files) (place : List (List Char)) : Files :=
  let stays {α : Type} (item : List (List Char) × α) : Bool := !place.isPrefixOf item.1
  { files with
    nodes := files.nodes.filter stays
    times := files.times.filter stays
    rights := files.rights.filter stays
    shares := files.shares.filter stays }

/-- Puts what stands at a place, and all within it, at another one. -/
def move (files : Files) (old new : List (List Char)) : Files :=
  let moved {α : Type} (items : List (List (List Char) × α)) : List (List (List Char) × α) :=
    items.filterMap fun item =>
      if old.isPrefixOf item.1 then some (new ++ item.1.drop old.length, item.2) else none
  let rest := (files.remove new).remove old
  { rest with
    nodes := moved files.nodes ++ rest.nodes
    times := moved files.times ++ rest.times
    rights := moved files.rights ++ rest.rights
    shares := moved files.shares ++ rest.shares }

/-- Lets the file of a place stand at another one, too. -/
def share (files : Files) (old new : List (List Char)) : Files :=
  let files := files.remove new
  match files.node? old with
  | none => files
  | some node =>
    let unused := files.shares.foldl (fun n s => max n (s.2 + 1)) 0
    let group := (files.shares.lookup old).getD unused
    let shares := (new, group) :: (old, group) :: files.shares.filter (·.1 ≠ old)
    let copied {α : Type} (items : List (List (List Char) × α)) : List (List (List Char) × α) :=
      ((items.lookup old).map (new, ·)).toList ++ items
    { files with
      nodes := (new, node) :: files.nodes
      times := copied files.times
      rights := copied files.rights
      shares }

/-- The names in a directory, the newest first. -/
def names (files : Files) (place : List (List Char)) : List (List Char) :=
  files.nodes.filterMap fun (other, _) =>
    if other.length = place.length + 1 && other.dropLast = place then other.getLast? else none

/-- Puts a node at a place, and directories at the places above it that have nothing. -/
def install (files : Files) (place : List (List Char)) (node : Node) : Files :=
  let above := (List.range place.length).map fun count => place.take count
  let files := above.foldl (fun files place =>
    if (files.node? place).isNone then files.set place .directory else files) files
  files.set place node

/-- The most bytes that a part of a path may have, and the most that a path may have. -/
def partLimit : Nat := 255

def pathLimit : Nat := 4095

/-- The most links that a path may lead through. -/
def linkLimit : Nat := 40

def byteSize (text : List Char) : Nat := text.foldl (fun n c => n + c.utf8Size) 0

/-- The parts of a path's text. A slash at the end asks for a directory. -/
def steps (path : List Char) : List (List Char) :=
  (Text.splitOn '/' path).filter (!·.isEmpty) ++ if path.getLast? = some '/' then [['.']] else []

/-- Where a walk starts. -/
def start (place : List (List Char)) (path : List Char) : List (List Char) :=
  if path.head? = some '/' then [] else place

/-- Where a walk has led: to a place, or to a link with parts that are left. -/
inductive Arrival
  | place (place : List (List Char)) (node : Option Node)
  | link (place : List (List Char)) (target : List Char) (rest : List (List Char))

/-- Walks along parts up to a link, each of which leads out of a directory. Only the last may lead
nowhere; if it is a link, `follow` tells whether the walk goes on. -/
def walkToLink (files : Files) (follow : Bool) : List (List Char) → List (List Char) →
    Except Fault Arrival
  | place, [] => .ok (.place place (files.node? place))
  | place, part :: rest =>
    if files.node? place ≠ some .directory then .error .notDirectory
    else if part = ['.'] then walkToLink files follow place rest
    else if part = ['.', '.'] then walkToLink files follow place.dropLast rest
    else if partLimit < byteSize part then .error .nameTooLong
    else
      match files.node? (place ++ [part]) with
      | none => if rest.isEmpty then .ok (.place (place ++ [part]) none) else .error .notFound
      | some (.link target) =>
        if rest.isEmpty && !follow then .ok (.place (place ++ [part]) (some (.link target)))
        else .ok (.link place target rest)
      | some _ => walkToLink files follow (place ++ [part]) rest

/-- Walks along parts and through a number of links. -/
def walk (files : Files) (follow : Bool) : Nat → List (List Char) → List (List Char) →
    Except Fault (List (List Char) × Option Node)
  | 0, _, _ => .error .tooManyLinks
  | links + 1, place, parts =>
    match walkToLink files follow place parts with
    | .error fault => .error fault
    | .ok (.place place node) => .ok (place, node)
    | .ok (.link place target rest) =>
      walk files follow links (start place target) (steps target ++ rest)

/-- The place that a path names, and what is there; a link at its end is followed or not. -/
def seek (files : Files) (follow : Bool) (path : String) :
    Except Fault (List (List Char) × Option Node) :=
  let text := path.toList
  if text.isEmpty then .error .notFound
  else if text.contains '\x00' then .error .nullByte
  else if pathLimit < byteSize text then .error .nameTooLong
  else files.walk follow (linkLimit + 1) (start files.place text) (steps text)

/-- The place that a path leads to, and what is there. -/
def locate (files : Files) (path : String) : Except Fault (List (List Char) × Option Node) :=
  files.seek true path

def find (files : Files) (path : String) : Except Fault Node :=
  match files.locate path with
  | .error e => .error e
  | .ok (_, none) => .error .notFound
  | .ok (_, some node) => .ok node

def failing {α : Type} (path : String) : Except Fault α → Except Failure α
  | .ok a => .ok a
  | .error fault => .error ⟨fault, path⟩

/-- The bytes of a file. -/
def read (files : Files) (path : String) : Except Failure (List UInt8) :=
  failing path <|
    match files.find path with
    | .error e => .error e
    | .ok .directory => .error .isDirectory
    | .ok (.file bytes _) => .ok bytes
    | .ok .sealedFile => .error .inputOutput
    | .ok _ => .ok []

/-- The device that a path leads to. -/
def device? (files : Files) (path : String) : Option Device :=
  match files.find path with
  | .ok (.device device) => some device
  | _ => none

/-- Makes a file hold bytes. -/
def write (files : Files) (path : String) (bytes : List UInt8) : Except Failure Files :=
  failing path <|
    match files.locate path with
    | .error e => .error e
    | .ok (_, some .directory) => .error .isDirectory
    | .ok (_, some (.device device)) =>
      if device = .full && !bytes.isEmpty then .error .noSpace else .ok files
    | .ok (place, some (.file _ executable)) => .ok (files.set place (.file bytes executable))
    | .ok (_, some _) => .error .notPermitted
    | .ok (place, none) => .ok (files.set place (.file bytes false))

/-- A file with bytes is there. A name that is too long cannot be looked up. -/
def isFile (files : Files) (path : String) : Except Failure Bool :=
  match files.find path with
  | .ok (.file ..) => .ok true
  | .ok (.tool _) => .ok true
  | .ok .sealedFile => .ok true
  | .ok _ => .ok false
  | .error .nameTooLong => .error ⟨.nameTooLong, path⟩
  | .error _ => .ok false

def isDirectory (files : Files) (path : String) : Bool :=
  match files.find path with
  | .ok .directory => true
  | _ => false

end Files

end Gutter

/-! ### Users

The list of users that a machine has: one line for each, with the name and the home among its seven
fields. -/

namespace Gutter.Files

/-- The user and the home in a line of the list. -/
def homeIn? (line : List Char) : Option (String × String) :=
  match Text.splitOn ':' line with
  | [user, _, _, _, _, home, _] => some (String.ofList user, String.ofList home)
  | _ => none

/-- The homes of the users in a list. -/
def homesIn (users : List Char) : List (String × String) :=
  (Text.splitOn '\n' users).filterMap homeIn?

/-- The users that a machine starts with: name, number, group, description, home and shell. -/
def standardEntries : List (String × Nat × Nat × String × String × String) :=
  let none_ := "/usr/sbin/nologin"
  [("root", 0, 0, "root", "/root", "/bin/bash"),
    ("daemon", 1, 1, "daemon", "/usr/sbin", none_),
    ("bin", 2, 2, "bin", "/bin", none_),
    ("sys", 3, 3, "sys", "/dev", none_),
    ("sync", 4, 65534, "sync", "/bin", "/bin/sync"),
    ("games", 5, 60, "games", "/usr/games", none_),
    ("man", 6, 12, "man", "/var/cache/man", none_),
    ("lp", 7, 7, "lp", "/var/spool/lpd", none_),
    ("mail", 8, 8, "mail", "/var/mail", none_),
    ("news", 9, 9, "news", "/var/spool/news", none_),
    ("uucp", 10, 10, "uucp", "/var/spool/uucp", none_),
    ("proxy", 13, 13, "proxy", "/bin", none_),
    ("www-data", 33, 33, "www-data", "/var/www", none_),
    ("backup", 34, 34, "backup", "/var/backups", none_),
    ("list", 38, 38, "Mailing List Manager", "/var/list", none_),
    ("irc", 39, 39, "ircd", "/run/ircd", none_),
    ("_apt", 42, 65534, "", "/nonexistent", none_),
    ("nobody", 65534, 65534, "nobody", "/nonexistent", none_)]

/-- The list of the users that a machine starts with. -/
def standardUsers : String :=
  String.join (standardEntries.map fun (name, number, group, told, home, shell) =>
    s!"{name}:x:{number}:{group}:{told}:{home}:{shell}\n")

/-- Where the list of users stands. -/
def usersPath : String := "/etc/passwd"

/-- The homes of the users of a machine. -/
def homes (files : Files) : List (String × String) :=
  match files.read usersPath with
  | .ok bytes =>
    match Text.Utf8.decode bytes with
    | .ok text => homesIn text
    | .error _ => []
  | .error _ => []

end Gutter.Files
