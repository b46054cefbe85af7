import HttpKit.Bytes.Utf8
import HttpKit.Text.Split

/-!
# Files by name

A name is followed part by part from one directory to the next. Each part has to lead somewhere, and
only a directory leads further.
-/

namespace HttpKit

/-- What a name leads to. -/
inductive FileKind where
  | plain
  | directory
  deriving DecidableEq, Repr

/-- Why a file is not read. -/
inductive FileError where
  | missing
  /-- Something else stands where a directory should be. -/
  | notDirectory
  /-- A directory stands where a file should be. -/
  | isDirectory
  | nameTooLong
  deriving DecidableEq, Repr

/-- What the system says about it. -/
def FileError.message : FileError → String
  | missing => "[Errno 2] No such file or directory"
  | notDirectory => "[Errno 20] Not a directory"
  | isDirectory => "[Errno 21] Is a directory"
  | nameTooLong => "[Errno 36] File name too long"

/-- The files of a system. A place is given by the parts of its name below the root. -/
structure FileTree where
  /-- What stands at a place, if anything does. -/
  kind? : List String → Option FileKind
  /-- Where names start that do not start at the root. -/
  workingDirectory : List String

namespace FileTree

/-- The most bytes that a part of a name has. -/
def partLimit : Nat := 255

/-- The most bytes that a name has. -/
def nameLimit : Nat := 4095

/-- The place that a part of a name leads to from another. An empty part and a dot lead nowhere
else, two dots lead back. -/
def enter (t : FileTree) (place : List String) (part : String) :
    Except FileError (List String) :=
  if t.kind? place ≠ some .directory then .error .notDirectory
  else if part = "" ∨ part = "." then .ok place
  else if part = ".." then .ok place.dropLast
  else if partLimit < (utf8 part).length then .error .nameTooLong
  else if (t.kind? (place ++ [part])).isNone then .error .missing
  else .ok (place ++ [part])

/-- What a name leads to. -/
def find (t : FileTree) (name : String) : Except FileError FileKind := do
  if name = "" then throw .missing
  if nameLimit < (utf8 name).length then throw .nameTooLong
  let start := if name.toList.head? = some '/' then [] else t.workingDirectory
  let place ← (Text.splitOn '/' name).foldlM t.enter start
  match t.kind? place with
  | some kind => return kind
  | none => throw .missing

/-- The tree with these directories and plain files, and with an empty working directory. -/
def ofNames (directories plain : List String) (workingDirectory : String) : FileTree where
  kind? place :=
    let name := "/".intercalate place
    if place = [] ∨ name = workingDirectory ∨ directories.contains name then some .directory
    else if plain.contains name then some .plain
    else none
  workingDirectory := Text.splitOn '/' workingDirectory

/-- What is found on any system. -/
def standard : FileTree :=
  .ofNames
    ["bin", "boot", "dev", "dev/fd", "dev/pts", "dev/shm", "etc", "etc/ssl", "etc/ssl/certs",
      "home", "lib", "media", "mnt", "opt", "proc", "proc/self", "proc/sys", "root", "run", "sbin",
      "srv", "sys", "sys/kernel", "tmp", "usr", "usr/bin", "usr/lib", "usr/local", "usr/local/bin",
      "usr/local/lib", "usr/sbin", "usr/share", "var", "var/cache", "var/lib", "var/log",
      "var/tmp"]
    ["bin/sh", "dev/null", "etc/fstab", "etc/group", "etc/hostname", "etc/hosts", "etc/os-release",
      "etc/passwd", "etc/resolv.conf", "proc/cpuinfo", "proc/meminfo", "proc/version",
      "usr/bin/env"]
    "srv/www"

end FileTree

end HttpKit
