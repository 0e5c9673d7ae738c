import RowIngest.Fault
import RowIngest.Text.Blank
import RowIngest.Text.Lines
import RowIngest.Text.Charset
/-!
The files of a working directory, and reading them as text. A path is followed from the
working directory, one part after the other; every part but the last must be a directory.
Of what lies outside the working directory only the directories around it are there, and what
every system has at its root.
-/
namespace RowIngest

/-- A path of the file system in its plain form: the slashes at its root, and the parts
between slashes without empty ones and single dots. -/
structure FilePath where
  root : String
  parts : List String
  deriving DecidableEq

namespace FilePath

/-- Two slashes at the beginning are a root of their own; more than two count as one. -/
def rootOf (cs : List Char) : String :=
  match (cs.takeWhile (· == '/')).length with
  | 0 => ""
  | 2 => "//"
  | _ => "/"

/-- The parts between slashes. -/
def split (text : String) : List String :=
  (text.splitOn "/").filter fun part => part ≠ "" && part ≠ "."

def ofString (text : String) : FilePath := ⟨rootOf text.toList, split text⟩

/-- A path with nothing in it is that of the working directory. -/
def text (p : FilePath) : String :=
  let shown := p.root ++ "/".intercalate p.parts
  if shown.isEmpty then "." else shown

/-- The accounts of a usual system. What they call home is outside of the working directory. -/
def accounts : List String :=
  ["root", "daemon", "bin", "sys", "sync", "games", "man", "lp", "mail", "news", "uucp", "proxy",
   "www-data", "backup", "list", "irc", "nobody", "_apt"]

/-- A directory outside of the working directory. -/
def elsewhere : String := "/home"

/-- The directory that is meant by a tilde: the home of the user, or that of an account. -/
def homeOf (home? : Option String) (account : String) : Option String :=
  if account.isEmpty then
    let home := String.ofList (Text.trimEnd (· = '/') (home?.getD elsewhere).toList)
    some (if home.isEmpty then "/" else home)
  else if accounts.contains account then some elsewhere
  else none

/-- The path with the directory that a tilde at its front stands for. -/
def expanded (home? : Option String) (p : FilePath) : Except ForeignError FilePath :=
  match p.parts with
  | first :: rest =>
    if p.root.isEmpty && first.startsWith "~" then
      match homeOf home? (String.ofList (first.toList.drop 1)) with
      | some home =>
        if home.startsWith "~" then .error ⟨.runtime, "Could not determine home directory."⟩
        else .ok ⟨rootOf home.toList, split home ++ rest⟩
      | none => .error ⟨.runtime, "Could not determine home directory."⟩
    else .ok p
  | [] => .ok p

end FilePath

/-- The files of a working directory: the parts of their paths, and what they hold. -/
abbrev Files := List (List String × List UInt8)

namespace Files

/-- What a path leads to. -/
inductive Found where
  | file (bytes : List UInt8)
  /-- A directory, and where it is if it is in the working directory. -/
  | directory (place? : Option (List String))
  | nothing
  /-- A part before the last one is a file. -/
  | blocked
  | tooLong

/-- The most bytes the name of a file may have. -/
def nameLimit : Nat := 255

/-- The most bytes a whole path may have. -/
def pathLimit : Nat := 4095

def isDirectory (files : Files) (place : List String) : Bool :=
  files.any fun (path, _) => place.isPrefixOf path && place.length < path.length

def bytesAt? (files : Files) (place : List String) : Option (List UInt8) :=
  (files.find? fun (path, _) => path == place).map (·.2)

/-- Follows the parts of a path from a directory; outside the working directory there is no
place to name. -/
def follow (files : Files) : Option (List String) → List String → Found
  | place, [] => .directory place
  | place, ".." :: rest =>
    match place with
    | some (d :: ds) => follow files (some (d :: ds).dropLast) rest
    | _ => follow files none rest
  | place, name :: rest =>
    if name.utf8ByteSize > nameLimit then .tooLong
    else
      match place with
      | none => .nothing
      | some d =>
        let here := d ++ [name]
        match bytesAt? files here, rest with
        | some bytes, [] => .file bytes
        | some _, _ => .blocked
        | none, rest => if isDirectory files here then follow files (some here) rest else .nothing

/-- Directories that every system has. -/
def usualDirectories : List (List String) :=
  [["bin"], ["boot"], ["dev"], ["etc"], ["home"], ["lib"], ["media"], ["mnt"], ["opt"], ["proc"],
   ["root"], ["run"], ["sbin"], ["srv"], ["sys"], ["tmp"], ["usr"], ["usr", "bin"],
   ["usr", "lib"], ["usr", "local"], ["usr", "share"], ["var"], ["var", "lib"], ["var", "log"],
   ["var", "tmp"]]

/-- What every system has at its root. A directory is there for a file without a name in it. -/
def usual : Files :=
  (["dev", "null"], []) :: (["etc", "passwd"], "root:x:0:0:root:/root:/bin/bash\n".toUTF8.toList)
    :: usualDirectories.map fun place => (place ++ [""], [])

/-- What a path from the root of the system leads to. It is not in the working directory. -/
def findAtRoot (parts : List String) : Found :=
  match follow usual (some []) (parts.dropWhile (· = "..")) with
  | .directory _ => .directory none
  | found => found

def find (files : Files) (p : FilePath) : Found :=
  if p.text.utf8ByteSize > pathLimit then .tooLong
  else if p.root.isEmpty then follow files (some []) p.parts
  else findAtRoot p.parts

/-- An error of the file system, which names the path. -/
def pathError (p : FilePath) (kind : ForeignKind) (problem : String) : ForeignError :=
  ⟨kind, problem ++ ": " ++ Text.quoted p.text⟩

def tooLong (p : FilePath) : ForeignError := pathError p .system "[Errno 36] File name too long"

/-- Reads the bytes of what a path leads to. -/
def readFound (p : FilePath) (found : Found) : Except ForeignError (List UInt8) :=
  if p.text.contains (Char.ofNat 0) then .error ⟨.wrongValue, "embedded null byte"⟩
  else
    match found with
    | .file bytes => .ok bytes
    | .directory _ => .error (pathError p .isDirectory "[Errno 21] Is a directory")
    | .nothing => .error (pathError p .noSuchFile "[Errno 2] No such file or directory")
    | .blocked => .error (pathError p .notDirectory "[Errno 20] Not a directory")
    | .tooLong => .error (tooLong p)

/-- Reads the bytes of a file. -/
def readBytes (files : Files) (p : FilePath) : Except ForeignError (List UInt8) :=
  readFound p (files.find p)

/-- The names in a directory. -/
def namesIn (files : Files) (place : List String) : List String :=
  (files.filterMap fun (path, _) =>
    if place.isPrefixOf path then path[place.length]? else none).eraseDups

/-- The text of a file's bytes in a charset, with line feeds at all line ends. -/
def textIn (charset : Text.Charset) (bytes : List UInt8) : Except ForeignError String :=
  match charset.decode bytes with
  | .ok cs => .ok (String.ofList (Text.unifyLineEnds cs))
  | .error (.undecodable message) => .error ⟨.undecodable, message⟩
  | .error (.unusable message) => .error ⟨.unmarkedUnits, message⟩

/-- The text of a file's bytes. -/
def textOf (bytes : List UInt8) : Except ForeignError String := textIn (.utf8 false) bytes

end Files

end RowIngest
