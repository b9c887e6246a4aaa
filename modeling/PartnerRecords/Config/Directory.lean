import PartnerRecords.Config.Environment
import PartnerRecords.Text.Split

/-!
# A directory of files

Files by name in one directory, found as an operating system would: step by step along a
path, where single dots and doubled slashes lead nowhere. Of what lies outside only the
directories are known that stand everywhere.
-/

namespace PartnerRecords

abbrev Directory := List (String × ByteArray)

namespace Directory

/-- The most bytes that a name may have. -/
def nameLimit : Nat := 255

/-- Paths are shorter than so many bytes. -/
def pathLimit : Nat := 4096

/-- The parts of a path that lead somewhere. -/
def steps (path : String) : List String :=
  ((Text.splitOn '/' path.toList).map String.ofList).filter fun part => part ≠ "" ∧ part ≠ "."

/-- Whether a path demands that what it leads to is a directory. -/
def endsInDirectory (path : String) : Bool :=
  match (Text.splitOn '/' path.toList).getLast? with
  | some [] => true
  | some ['.'] => true
  | _ => false

/-- Directories at the root of every system. -/
def rootNames : List String :=
  ["bin", "dev", "etc", "home", "lib", "opt", "proc", "root", "run", "sbin", "srv", "sys", "tmp",
    "usr", "var"]

/-- What is found where only directories above are known. -/
def outside (steps : List String) : FileFault :=
  match steps.dropWhile (· = "..") with
  | [] => .isDirectory
  | name :: _ => if nameLimit < name.utf8ByteSize then .nameTooLong else .missing

/-- Reads what a path from the root leads to. The null device is empty. -/
def readFromRoot (path : String) : Except FileFault ByteArray :=
  match (steps path).dropWhile (· = "..") with
  | [] => .error .isDirectory
  | "dev" :: "null" :: rest =>
      if rest.isEmpty && !endsInDirectory path then .ok .empty else .error .notDirectory
  | name :: rest => .error (outside (if rootNames.contains name then rest else name :: rest))

/-- Reads what a path from the directory leads to. -/
def readFromHere (files : Directory) (path : String) : Except FileFault ByteArray :=
  match steps path with
  | [] => .error .isDirectory
  | name :: rest =>
      if name = ".." ∨ nameLimit < name.utf8ByteSize then .error (outside (name :: rest))
      else match files.lookup name with
        | none => .error .missing
        | some bytes =>
            if rest.isEmpty && !endsInDirectory path then .ok bytes else .error .notDirectory

/-- Reads what a path leads to. -/
def read (files : Directory) (path : String) : Except FileFault ByteArray :=
  if path.toList.contains '\x00' then .error .nulInName
  else if path = "" then .error .missing
  else if pathLimit ≤ path.utf8ByteSize then .error .nameTooLong
  else if path.toList.head? = some '/' then readFromRoot path
  else readFromHere files path

end Directory

end PartnerRecords
