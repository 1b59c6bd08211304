import LintRules.Files

/-!
# File trees

A finite file system given as a tree, with a working directory in it.  `FileTree.files` answers
the questions of `Files` by walking the segments of a path: idle segments stay, `..` goes to the
parent, and any other segment is looked up by name.  Only a directory can be walked through, so a
path with a slash after the name of a file leads nowhere.

A name of more than 255 bytes and a path of 4096 bytes or more are refused.
-/

namespace LintRules

/-- A file or a directory. -/
inductive FileTree where
  /-- A file with the answer to the question for its text. -/
  | file (text : Except FileError String)
  | directory (entries : List (String × FileTree))
  deriving Inhabited

namespace FileTree

/-- The entry of a directory under a name. -/
def child? (name : String) : FileTree → Option FileTree
  | .file _ => none
  | .directory entries => (entries.find? (·.1 == name)).map (·.2)

/-- Replaces or adds an entry. -/
def putEntry (name : String) (tree : FileTree) :
    List (String × FileTree) → List (String × FileTree)
  | [] => [(name, tree)]
  | e :: rest => if e.1 = name then (name, tree) :: rest else e :: putEntry name tree rest

/-- Puts `leaf` at the place that the names lead to; directories on the way are made. -/
def place (leaf : FileTree) : List String → FileTree → FileTree
  | [], _ => leaf
  | name :: rest, tree =>
    let entries := match tree with
      | .directory entries => entries
      | .file _ => []
    let below := (entries.find? (·.1 == name)).elim (.directory []) (·.2)
    .directory (putEntry name (place leaf rest below) entries)

/-- Makes a directory at the place that the names lead to, if nothing is there. -/
def makeDirectory (names : List String) (tree : FileTree) : FileTree :=
  match names with
  | [] => tree
  | name :: rest =>
    let entries := match tree with
      | .directory entries => entries
      | .file _ => []
    let below := (entries.find? (·.1 == name)).elim (.directory []) (·.2)
    .directory (putEntry name (makeDirectory rest below) entries)

/-- Walks segments.  `above` holds the directories above `here`, the nearest first; the root is
its own parent. -/
def walk : List (List Char) → (above : List FileTree) → (here : FileTree) →
    Except FileError FileTree
  | [], _, here => .ok here
  | segment :: rest, above, here =>
    match here with
    | .file _ => .error .notADirectory
    | .directory entries =>
      if Path.isIdle segment then walk rest above here
      else if segment = ['.', '.'] then
        match above with
        | [] => walk rest [] here
        | parent :: above => walk rest above parent
      else if 255 < (String.ofList segment).utf8ByteSize then .error .nameTooLong
      else
        match child? (String.ofList segment) (.directory entries) with
        | some next => walk rest (here :: above) next
        | none => .error .notFound

/-- What stands at a path, seen from the directory `here` below the directories `above`. -/
def lookup (above : List FileTree) (here : FileTree) (path : Path) : Except FileError FileTree :=
  if '\x00' ∈ path.toList then .error .nulInPath
  else if path.toList = [] then .error .notFound
  else if 4096 ≤ path.utf8ByteSize then .error .nameTooLong
  else if Path.isAbsolute path then walk (Path.segments path.toList) [] (above.getLast?.getD here)
  else walk (Path.segments path.toList) above here

/-- The answers of a tree, seen from a working directory. -/
def files (above : List FileTree) (here : FileTree) : Files where
  kind path := (lookup above here path).map fun
    | .file _ => .file
    | .directory _ => .directory
  text path :=
    match lookup above here path with
    | .ok (.file text) => text
    | .ok (.directory _) => .error .isADirectory
    | .error e => .error e
  names path :=
    match lookup above here path with
    | .ok (.directory entries) => .ok (entries.map (·.1))
    | .ok (.file _) => .error .notADirectory
    | .error e => .error e

end FileTree
end LintRules
