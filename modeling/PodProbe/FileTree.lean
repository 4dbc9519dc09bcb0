import PodProbe.Bytes
import PodProbe.ErrorChain

/-!
This module contains the files below a directory, and the operations on them by which a path is read or written. A
path is a text whose names stand between slashes; it is followed name by name, so every name but the last has to be
the one of a directory. What the files are kept on may refuse to hold something new, or break off the writing of a file,
of which only the beginning is there then.
-/

namespace PodProbe

inductive FileNode where
  | directory
  | file (contents : Bytes)
deriving DecidableEq, Repr

inductive FileError where
  | notFound
  | alreadyExists
  | notDirectory
  | isDirectory
  | nameTooLong
  /-- The path holds a character that no path can hold. -/
  | invalidName
  /-- Any other error of the system. -/
  | system (code : Nat)
deriving DecidableEq, Repr

def FileError.chain : FileError → ErrorChain
  | notFound => .system 2
  | alreadyExists => .system 17
  | notDirectory => .system 20
  | isDirectory => .system 21
  | nameTooLong => .system 36
  | invalidName => .wrapped .other (.text "file name contained an unexpected NUL byte" none)
  | system code => .system code

abbrev Location := List String

/-- Where the writing of a file breaks off. -/
structure Interruption where
  /-- The number of bytes that were written before. -/
  kept : Nat
  code : Nat
deriving DecidableEq, Repr

/-- What files are kept on. What goes wrong at a place may depend on all that is there already. -/
structure Volume where
  /-- Why nothing can be made or opened for writing at a place. -/
  refusal? : List (Location × FileNode) → Location → Option Nat := fun _ _ => none
  interruption? : List (Location × FileNode) → Location → Option Interruption := fun _ _ => none

structure FileTree where
  entries : List (Location × FileNode) := []
  volume : Volume := {}

namespace FilePath

def longestName : Nat := 255

/-- The number of bytes that no path may have. -/
def tooLong : Nat := 4096

/-- The names between the slashes of a path; empty ones do not count. -/
def names (path : String) : List String :=
  ((path.toList.splitOn '/').filter (!·.isEmpty)).map String.ofList

/-- Whether a path ends in a slash, so that it has to be one of a directory. -/
def endsInSlash (path : String) : Bool :=
  path.toList.getLast? == some '/'

def trimEnd (path : List Char) : List Char :=
  (go path.reverse).reverse
where
  go : List Char → List Char
    | '/' :: cs => go cs
    | '.' :: '/' :: cs => go ('/' :: cs)
    | cs => cs

/-- A path without its last name, unless it has none. -/
def parent? (path : String) : Option String :=
  match (trimEnd path.toList).reverse with
  | [] => none
  | cs =>
    match cs.dropWhile (· != '/') with
    | [] => some ""
    | rest =>
      let before := trimEnd rest.reverse
      some (if before.isEmpty then "/" else String.ofList before)

def join (path name : String) : String :=
  if path.isEmpty || endsInSlash path then path ++ name else path ++ "/" ++ name

end FilePath

namespace FileTree

def node? (t : FileTree) (l : Location) : Option FileNode :=
  if l.isEmpty then some .directory else t.entries.lookup l

def put (t : FileTree) (l : Location) (n : FileNode) : FileTree :=
  { t with entries := (l, n) :: t.entries.filter (·.1 != l) }

@[simp] theorem node?_put_self (t : FileTree) (l : Location) (n : FileNode) (h : l ≠ []) :
    (t.put l n).node? l = some n := by
  simp [node?, put, h]

def step (t : FileTree) (l : Location) (name : String) : Except FileError Location :=
  match t.node? l with
  | none => .error .notFound
  | some (.file _) => .error .notDirectory
  | some .directory =>
    if name = "." then .ok l
    else if name = ".." then .ok l.dropLast
    else if FilePath.longestName < name.utf8ByteSize then .error .nameTooLong
    else .ok (l ++ [name])

/-- The place that a path leads to, where there need not be anything. -/
def locate (t : FileTree) (path : String) : Except FileError Location :=
  if path.toList.contains '\x00' then .error .invalidName
  else if path.isEmpty then .error .notFound
  else if FilePath.tooLong ≤ path.utf8ByteSize then .error .nameTooLong
  else (FilePath.names path).foldlM t.step []

def find? (t : FileTree) (path : String) : Option FileNode :=
  match t.locate path with
  | .ok l =>
    match t.node? l with
    | some (.file contents) => if FilePath.endsInSlash path then none else some (.file contents)
    | n => n
  | .error _ => none

def isDirectory (t : FileTree) (path : String) : Bool :=
  t.find? path == some .directory

def read (t : FileTree) (path : String) : Except FileError Bytes := do
  match t.node? (← t.locate path) with
  | none => .error .notFound
  | some .directory => .error .isDirectory
  | some (.file contents) => if FilePath.endsInSlash path then .error .notDirectory else .ok contents

/-- Lets something be made or opened for writing at a place. -/
def allow (t : FileTree) (l : Location) : Except FileError Location :=
  match t.volume.refusal? t.entries l with
  | none => .ok l
  | some code => .error (.system code)

/-- The place of a file that is opened for writing, be it there already or not. -/
def openFile (t : FileTree) (path : String) : Except FileError Location := do
  let l ← t.locate path
  match t.node? l with
  | some .directory => .error .isDirectory
  | some (.file _) => if FilePath.endsInSlash path then .error .notDirectory else t.allow l
  | none => if FilePath.endsInSlash path then .error .isDirectory else t.allow l

/-- Puts a file at a place. A file is empty once it is opened, so that it is lost if the writing breaks off. -/
def fill (t : FileTree) (l : Location) (contents : Bytes) : Except (FileError × FileTree) FileTree :=
  match t.volume.interruption? t.entries l with
  | none => .ok (t.put l (.file contents))
  | some i =>
    if i.kept < contents.length then .error (.system i.code, t.put l (.file (contents.take i.kept)))
    else .ok (t.put l (.file contents))

/-- Writes a file. An error comes with what is left behind. -/
def write (t : FileTree) (path : String) (contents : Bytes) : Except (FileError × FileTree) FileTree :=
  match t.openFile path with
  | .error e => .error (e, t)
  | .ok l => t.fill l contents

/-- Makes a directory where there is nothing. -/
def makeDirectory (t : FileTree) (path : String) : Except FileError FileTree := do
  let l ← t.locate path
  match t.node? l with
  | some _ => .error .alreadyExists
  | none => return t.put (← t.allow l) .directory

/-- Makes a directory unless it is there. -/
def ensureDirectory (t : FileTree) (path : String) : Except FileError FileTree :=
  match t.makeDirectory path with
  | .ok t => .ok t
  | .error e => if t.isDirectory path then .ok t else .error e

def lineage (fuel : Nat) (path : String) : List String :=
  match fuel with
  | 0 => [path]
  | fuel + 1 =>
    match FilePath.parent? path with
    | some p => if p.isEmpty then [path] else lineage fuel p ++ [path]
    | none => [path]

def ensureDirectories (t : FileTree) : List String → Except FileError Unit × FileTree
  | [] => (.ok (), t)
  | p :: ps =>
    match t.ensureDirectory p with
    | .ok t => ensureDirectories t ps
    | .error e => (.error e, t)

/-- Makes a directory with all that lead to it, unless they are there. What was made is kept if one cannot be made. -/
def makeDirectories (t : FileTree) (path : String) : Except FileError Unit × FileTree :=
  if path.isEmpty then (.ok (), t)
  else
    match t.ensureDirectory path with
    | .ok t => (.ok (), t)
    | .error .notFound => t.ensureDirectories (lineage path.length path)
    | .error e => (.error e, t)

end FileTree

end PodProbe
