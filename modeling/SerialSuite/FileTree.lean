import SerialSuite.Bytes
import SerialSuite.IoError

/-!
A tree of files as far as opening, reading and writing them goes. Paths are walked one name at a
time; symbolic links are followed. Nothing here creates a file but `place`, which sets a tree up.

What has been written to a file stands over its front: `overwrite` puts all of it there at once.
-/

namespace SerialSuite

/-- Names from the root down. -/
abbrev Path := List String

inductive Device where
  /-- Takes everything, gives nothing. -/
  | null
  /-- Takes everything, gives zeros. -/
  | zero
  /-- Takes nothing for want of space, gives zeros. -/
  | full
  deriving DecidableEq, Repr

inductive Node where
  | file (data : Bytes)
  | directory
  | link (target : String)
  /-- A named pipe, with what is waiting in it. -/
  | pipe (data : Bytes)
  | device (kind : Device)
  deriving DecidableEq, Repr

structure FileTree where
  nodes : List (Path × Node)
  /-- Where relative paths begin. -/
  current : Path
  deriving DecidableEq, Repr

namespace FileTree

def node? (t : FileTree) (p : Path) : Option Node :=
  if p = [] then some .directory else t.nodes.lookup p

/-- Another content for what is at a path. -/
def update (t : FileTree) (p : Path) (n : Node) : FileTree :=
  { t with nodes := t.nodes.map fun (q, old) => (q, if q = p then n else old) }

/-- The names between slashes. -/
def splitSlashes : List Char → List (List Char)
  | [] => [[]]
  | c :: rest =>
    match splitSlashes rest with
    | first :: others => if c = '/' then [] :: first :: others else (c :: first) :: others
    | [] => [[c]]

def names (text : String) : List String := (splitSlashes text.toList).map String.ofList

/-- A path without the slashes and dots that lead nowhere. -/
def components (text : String) : List String :=
  match names text with
  | [] => []
  | first :: others => first :: others.filter fun name => name ≠ "" ∧ name ≠ "."

def isAbsolute (text : String) : Bool := text.toList.head? == some '/'

/-- Most bytes of a name, and of a path. -/
def maxName : Nat := 255
def maxPath : Nat := 4095

/-- Most symbolic links on the way to one file. -/
def maxLinks : Nat := 40

/-- Walks names from a path on; `links` more links may be followed. -/
def walk (t : FileTree) (links : Nat) (here : Path) (todo : List String) : Except IoError Path :=
  match todo with
  | [] => .ok here
  | name :: rest =>
    if t.node? here ≠ some .directory then .error .notDirectory
    else if name = "" ∨ name = "." then t.walk links here rest
    else if name = ".." then t.walk links here.dropLast rest
    else if maxName < name.utf8ByteSize then .error .nameTooLong
    else match t.node? (here ++ [name]) with
      | none => .error .noSuchFile
      | some (.link target) =>
        match links with
        | 0 => .error .tooManyLinks
        | links + 1 => t.walk links (if isAbsolute target then [] else here) (names target ++ rest)
      | some _ => t.walk links (here ++ [name]) rest
termination_by (links, todo.length)

/-- Where a path leads. -/
def locate (t : FileTree) (text : String) : Except IoError Path :=
  if text = "" then .error .noSuchFile
  else if text.toList.contains '\x00' then .error .badName
  else if maxPath < text.utf8ByteSize then .error .nameTooLong
  else t.walk maxLinks (if isAbsolute text then [] else t.current) (names text)

/-- The content of the file at a path. -/
def read? (t : FileTree) (text : String) : Option Bytes :=
  match t.locate text with
  | .error _ => none
  | .ok p =>
    match t.node? p with
    | some (.file data) => some data
    | some (.device .null) => some []
    | _ => none

/-- Empties the file at a path; nothing else is changed. -/
def truncate (t : FileTree) (p : Path) : FileTree :=
  match t.node? p with
  | some (.file _) => t.update p (.file [])
  | _ => t

/-- Writes over the front of a file; what is longer than the data stays behind it. -/
def overwrite (t : FileTree) (p : Path) (data : Bytes) : FileTree :=
  match t.node? p with
  | some (.file old) => t.update p (.file (data ++ old.drop data.length))
  | some (.pipe old) => t.update p (.pipe (old ++ data))
  | _ => t

/-- Adds to the end of the file at a path. -/
def append (t : FileTree) (p : Path) (data : Bytes) : FileTree :=
  match t.node? p with
  | some (.file old) => t.update p (.file (old ++ data))
  | some (.pipe old) => t.update p (.pipe (old ++ data))
  | _ => t

/-- Where names lead from a path on; directories that are missing on the way are made. With `follow`
the last name may be a link too. -/
def reach (t : FileTree) (follow : Bool) (links : Nat) (here : Path) (todo : List String) :
    FileTree × Path :=
  match todo with
  | [] => (t, here)
  | name :: rest =>
    if name = "" ∨ name = "." then t.reach follow links here rest
    else if name = ".." then t.reach follow links here.dropLast rest
    else
      let next := here ++ [name]
      match t.node? next with
      | none =>
        if rest = [] then (t, next)
        else { t with nodes := (next, .directory) :: t.nodes }.reach follow links next rest
      | some (.link target) =>
        if rest = [] && !follow then (t, next)
        else match links with
          | 0 => (t, next)
          | links + 1 =>
            t.reach follow links (if isAbsolute target then [] else here) (names target ++ rest)
      | some _ => t.reach follow links next rest
termination_by (links, todo.length)

/-- Sets up a node, with the directories above it, or puts another in its place. A file is set up
where a link leads. -/
def place (t : FileTree) (text : String) (n : Node) : FileTree :=
  let follow := match n with
    | .file _ => true
    | _ => false
  let (t, p) := t.reach follow maxLinks (if isAbsolute text then [] else t.current) (names text)
  { t with nodes := (p, n) :: t.nodes }

/-- An empty current directory beside the usual devices and directories. -/
def fresh : FileTree where
  nodes :=
    [(["dev", "null"], .device .null), (["dev", "zero"], .device .zero),
     (["dev", "full"], .device .full)] ++
    ["bin", "dev", "etc", "home", "lib", "opt", "proc", "root", "run", "sbin", "srv", "sys", "tmp",
      "usr", "var", "work"].map fun name => ([name], .directory)
  current := ["work"]

end FileTree

end SerialSuite
