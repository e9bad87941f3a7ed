import Registrar.Database.Location
import Registrar.Prekey.Provisioner

/-!
The settings of an installation: where its database is, and how many prekeys are made at a time.
-/

namespace Registrar

structure Settings where
  databasePath : String := "enroll.db"
  batchSizes : BatchSizes := {}
  deriving Repr, DecidableEq

namespace Settings

open Json in
instance : Format Settings where
  reader := Reader.record "EnrollConfig"
    [Reader.optional "database_path" Reader.path (.string ({} : Settings).databasePath),
      Reader.optional "provisioning" (Format.reader BatchSizes)
        (Format.toJson ({} : Settings).batchSizes)]
  toJson s := .object
    [("database_path", .string s.databasePath), ("provisioning", Format.toJson s.batchSizes)]
  ofJson? j := do
    some
      { databasePath := ← (← j.field? "database_path") |> toString?
        batchSizes := ← (← j.field? "provisioning") |> Format.ofJson? }

def ofText (text : String) : Except Failure Settings :=
  (Json.decode Settings text).mapError fun e => .configuration e.message

def load (files : FileTree) (path : String) : Except Failure Settings :=
  match files.readText path with
  | .error e => .error (.configuration ("read " ++ path ++ ": " ++ e.message))
  | .ok text => ofText text

/--
Opens the database at a path, which is given in bytes as the file system has it, and makes the
provisioner. The path is looked at first, then the batch sizes, and the database last.
-/
def openDatabase (files : FileTree) (path : Bytes) (sizes : BatchSizes) :
    Except Failure (Provisioner × Database) :=
  match Text.decodeUtf8? path with
  | none => .error (.configuration "database path is not valid UTF-8")
  | some path =>
    match Provisioner.ofSizes sizes with
    | .error e => .error (.configuration e.message)
    | .ok p =>
      match Database.atPath files path with
      | .error e => .error (.storage e.message)
      | .ok db => .ok (p, db)

end Settings

end Registrar
