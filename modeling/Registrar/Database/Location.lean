import Registrar.Database.Basic
import Registrar.FileTree

/-!
Where a database is: a file by its path, or a URI of the scheme `file` with options that say how it
is opened.
-/

namespace Registrar.Database

inductive Access where
  | memory
  | read
  | readWrite
  | create
  deriving Repr, DecidableEq

namespace Access

def ofName? : String → Option Access
  | "memory" => some .memory
  | "ro" => some .read
  | "rw" => some .readWrite
  | "rwc" => some .create
  | _ => none

def rank : Access → Nat
  | .memory => 0
  | .read => 1
  | .readWrite => 2
  | .create => 3

/-- A later option may take from what an earlier one allows, but not add to it. -/
def allows (held wanted : Access) : Bool :=
  held = .memory || wanted.rank ≤ held.rank

end Access

abbrev Options := List (String × String)

namespace Options

/--
A number in an option: digits, or hexadecimal digits after `0x`, and what follows them is left out.
One of more than 31 bits counts as zero.
-/
def number (cs : List Char) : Nat :=
  let value (base : Nat) (ds : List Nat) : Nat := ds.foldl (fun n d => base * n + d) 0
  let digits (digit? : Char → Option Nat) (cs : List Char) : List Nat :=
    (cs.takeWhile fun c => (digit? c).isSome).filterMap digit?
  let n :=
    match cs with
    | '0' :: 'x' :: rest => value 16 (digits Text.hexValue? rest)
    | '0' :: 'X' :: rest => value 16 (digits Text.hexValue? rest)
    | cs => value 10 (digits Text.decimalValue? cs)
  if n < Int32.maxValue.toInt.toNat + 1 then n else 0

/--
Whether a value means yes: a number by its last eight bits, and a word in either case. Any other
value means no.
-/
def isYes (value : String) : Bool :=
  match value.toList with
  | [] => false
  | c :: cs =>
    if (Text.decimalValue? c).isSome then number (c :: cs) % 256 ≠ 0
    else String.ofList ((c :: cs).map Char.toLower) ∈ ["on", "yes", "true"]

/-- Whether an option is set; of several with the name the first one counts. -/
def isSet (options : Options) (name : String) : Bool :=
  ((options.lookup name).map isYes).getD false

end Options

structure Location where
  file : Bytes
  access : Access := .create
  fileSystem : String := "unix"
  options : Options := []
  deriving Repr, DecidableEq

namespace Location

/-! ### Reading a URI -/

/--
The bytes of a part of a URI, in which a percent sign and two hexadecimal digits stand for one byte.
A byte of zero ends the part.
-/
def partBytes : List Char → Bytes
  | [] => []
  | '%' :: a :: b :: rest =>
    match Text.hexValue? a, Text.hexValue? b with
    | some high, some low =>
      if high = 0 && low = 0 then [] else UInt8.ofNat (16 * high + low) :: partBytes rest
    | _, _ => String.utf8EncodeChar '%' ++ partBytes (a :: b :: rest)
  | c :: rest => String.utf8EncodeChar c ++ partBytes rest

def partText (cs : List Char) : String := Text.decodeLossy (partBytes cs)

/-- What follows the authority of a URI, if it has one: only this machine may be named there. -/
def afterAuthority (cs : List Char) : Except DatabaseError (List Char) :=
  match cs with
  | '/' :: '/' :: rest =>
    let authority := String.ofList (rest.takeWhile (· ≠ '/'))
    if authority = "" || authority = "localhost" then .ok (rest.dropWhile (· ≠ '/'))
    else .error (.invalidAuthority authority)
  | cs => .ok cs

/-- The options that a text holds. One without a name is no option. -/
def readOptions (cs : List Char) : Options :=
  ((String.ofList cs).splitOn "&").filterMap fun option =>
    let name := partText (option.toList.takeWhile (· ≠ '='))
    let value := partText ((option.toList.dropWhile (· ≠ '=')).drop 1)
    if name = "" then none else some (name, value)

def withOption (location : Location) (option : String × String) : Except DatabaseError Location :=
  let (name, value) := option
  if name = "vfs" then .ok { location with fileSystem := value }
  else if name = "cache" then
    if value = "shared" || value = "private" then .ok location
    else .error (.noSuchMode "cache" value)
  else if name = "mode" then
    match Access.ofName? value with
    | none => .error (.noSuchMode "access" value)
    | some access =>
      if location.access.allows access then .ok { location with access := access }
      else .error (.modeNotAllowed value)
  else .ok location

def memoryFiles : String := "memdb"

def fileSystems : List String :=
  ["unix", "unix-dotfile", "unix-excl", "unix-none", memoryFiles]

/--
Reads what follows the scheme of a URI: authority, file and options. A fragment means nothing.
-/
def ofUri (cs : List Char) : Except DatabaseError Location :=
  match afterAuthority cs with
  | .error e => .error e
  | .ok rest =>
    let rest := rest.takeWhile (· ≠ '#')
    let options := readOptions ((rest.dropWhile (· ≠ '?')).drop 1)
    let bare : Location := { file := partBytes (rest.takeWhile (· ≠ '?')), options := options }
    match options.foldlM withOption bare with
    | .error e => .error e
    | .ok location =>
      if location.fileSystem ∈ fileSystems then .ok location
      else .error (.noSuchFileSystem location.fileSystem)

def ofPath (path : String) : Except DatabaseError Location :=
  match path.toList with
  | 'f' :: 'i' :: 'l' :: 'e' :: ':' :: rest => ofUri rest
  | _ => .ok { file := Text.encodeUtf8 path }

/-! ### Opening -/

def isTransient (location : Location) : Bool :=
  location.access = .memory || location.file.isEmpty || location.file = Text.encodeUtf8 ":memory:"

def isReadOnly (location : Location) : Bool :=
  location.access = .read || location.options.isSet "immutable"

def length (place : Place) : Nat :=
  place.foldl (fun n name => n + 1 + name.length) 0

def longestPath : Nat := 511

/-- What has to be left for the names of the files beside the database. -/
def reserve : Nat := 8

/--
The place of the file, found by the letters of the path alone: a step up undoes the step before it,
whether or not there is anything. A step below a file leads nowhere.
-/
def place? (location : Location) (files : FileTree) : Option Place :=
  let step (place : Place) (name : Bytes) : Option Place :=
    if FileTree.isHere name then some place
    else if FileTree.isAbove name then some place.dropLast
    else
      let next := place ++ [name]
      if longestPath < length next then none
      else
        match files.entry? place with
        | none => some next
        | some .directory => if FileTree.longestName < name.length then none else some next
        | some _ => none
  match (FileTree.names location.file).foldlM step (files.start location.file) with
  | none => none
  | some place =>
    if place = [] || longestPath + 1 < length place + reserve then none else some place

/-- The file whose rights a new one is to have, where one is named, has to be there. -/
def hasModel (location : Location) (files : FileTree) : Bool :=
  match location.options.lookup "modeof" with
  | none => true
  | some model => (files.find (Text.encodeUtf8 model)).isOk

def longestMemoryName : Nat := 1024

end Location

def newDatabase (location : Location) : Except DatabaseError Database :=
  if location.isReadOnly then .error .readOnly else .ok {}

/-- Opens a file that is there. One that is not empty would have to be a database. -/
def openEntry (location : Location) (path : String) : FileEntry → Except DatabaseError Database
  | .directory => .error (if location.access = .read then .ioFailure else .cannotOpen path)
  | .nullDevice => .error (if location.isReadOnly then .readOnly else .ioFailure)
  | .file content => if content.isEmpty then newDatabase location else .error .notADatabase

/-- Opens the database at a path. A new one gets its tables at once, so it has to be writable. -/
def atPath (files : FileTree) (path : String) : Except DatabaseError Database :=
  match path.toList.findIdx? (· = '\x00') with
  | some i => .error (.nulInPath (Text.byteLength (path.toList.take i)))
  | none =>
    match Location.ofPath path with
    | .error e => .error e
    | .ok location =>
      if location.isTransient then
        if location.access = .read then .error .readOnly else .ok {}
      else if location.fileSystem = Location.memoryFiles then
        if Location.longestMemoryName < location.file.length + Location.reserve then
          .error (.cannotOpen path)
        else newDatabase location
      else
        match location.place? files with
        | none => .error (.cannotOpen path)
        | some place =>
          if !location.hasModel files then .error .ioFailure
          else
            match files.entry? place with
            | some entry => openEntry location path entry
            | none =>
              if location.access = .create && files.entry? place.dropLast = some .directory then
                newDatabase location
              else .error (.cannotOpen path)

end Registrar.Database
