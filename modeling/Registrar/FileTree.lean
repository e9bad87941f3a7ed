import Registrar.Bytes.Basic
import Registrar.Text.Utf8

/-!
A tree of files, and the walk along a path in it. Paths and names are bytes, whatever text they
spell.
-/

namespace Registrar

inductive FileError where
  | notFound
  | notDirectory
  | isDirectory
  | nameTooLong
  | nulInPath
  | notText
  deriving Repr, DecidableEq

def FileError.message : FileError → String
  | .notFound => "No such file or directory (os error 2)"
  | .notDirectory => "Not a directory (os error 20)"
  | .isDirectory => "Is a directory (os error 21)"
  | .nameTooLong => "File name too long (os error 36)"
  | .nulInPath => "file name contained an unexpected NUL byte"
  | .notText => "stream did not contain valid UTF-8"

inductive FileEntry where
  | directory
  | file (content : Bytes)
  /-- reads as empty, and keeps nothing that is written -/
  | nullDevice
  deriving Repr, DecidableEq

/-- A place in a tree: the names on the way from the root. -/
abbrev Place := List Bytes

/-- The places that are taken, and the directory in which a relative path starts. -/
structure FileTree where
  entries : List (Place × FileEntry)
  home : Place

namespace FileTree

def slash : UInt8 := 47

/-- The names of a path, of which some may be empty. -/
def names (path : Bytes) : List Bytes :=
  path.foldr
    (fun b parts => if b = slash then [] :: parts else (b :: parts.headD []) :: parts.drop 1) [[]]

def placeOf (path : String) : Place := names (Text.encodeUtf8 path)

def usualDirectories : List String :=
  ["bin", "boot", "dev", "etc", "home", "lib", "media", "mnt", "opt", "proc", "root", "run", "sbin",
    "srv", "sys", "tmp", "usr", "usr/bin", "usr/lib", "usr/local", "var", "var/lib", "var/log",
    "var/tmp"]

/--
What is found on every machine. Relative paths start two steps from the root, in directories without
names, so that no path from the root leads there.
-/
def usual : FileTree where
  entries :=
    [(placeOf "dev/null", .nullDevice),
      (placeOf "etc/passwd", .file (Text.encodeUtf8 "root:x:0:0:root:/root:/bin/sh\n")),
      ([[]], .directory), ([[], []], .directory)]
      ++ usualDirectories.map fun path => (placeOf path, .directory)
  home := [[], []]

def put (name : String) (content : Bytes) (files : FileTree) : FileTree :=
  { files with entries := (files.home ++ [Text.encodeUtf8 name], .file content) :: files.entries }

/-- What stands at a place; the root is always there. -/
def entry? (files : FileTree) (place : Place) : Option FileEntry :=
  if place = [] then some .directory else files.entries.lookup place

def start (files : FileTree) (path : Bytes) : Place :=
  if path.head? = some slash then [] else files.home

def isHere (name : Bytes) : Bool := name.isEmpty || name = Text.encodeUtf8 "."

def isAbove (name : Bytes) : Bool := name = Text.encodeUtf8 ".."

def longestName : Nat := 255

def longestPath : Nat := 4095

/-- One step from a place, which has to be a directory whatever the name is. -/
def step (files : FileTree) (place : Place) (name : Bytes) : Except FileError Place :=
  match files.entry? place with
  | none => .error .notFound
  | some .directory =>
    if longestName < name.length then .error .nameTooLong
    else if isHere name then .ok place
    else if isAbove name then .ok place.dropLast
    else .ok (place ++ [name])
  | some _ => .error .notDirectory

def find (files : FileTree) (path : Bytes) : Except FileError FileEntry :=
  if path.isEmpty then .error .notFound
  else if longestPath < path.length then .error .nameTooLong
  else
    match (names path).foldlM files.step (files.start path) with
    | .error e => .error e
    | .ok place =>
      match files.entry? place with
      | none => .error .notFound
      | some entry => .ok entry

def readText (files : FileTree) (path : String) : Except FileError String :=
  if '\x00' ∈ path.toList then .error .nulInPath
  else
    match files.find (Text.encodeUtf8 path) with
    | .error e => .error e
    | .ok .directory => .error .isDirectory
    | .ok .nullDevice => .ok ""
    | .ok (.file content) =>
      match Text.decodeUtf8? content with
      | none => .error .notText
      | some text => .ok text

end FileTree

end Registrar
