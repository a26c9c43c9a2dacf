/-
A directory kept in memory, with files below it.

Paths are taken relative to the directory.  A path that leads through a file, or that ends in
a slash behind one, needs a directory where there is none.  Outside there are only
directories, those above this one, and nothing else can be found there.  No name is longer
than 255 bytes, and no path longer than 4095: too long a path is refused as such, too long a
name when the directory in which it is looked up has been found.
-/
import ShardClient.FileStore

namespace ShardClient

/-- Files by their path below the directory, each a list of names. -/
structure FileTree where
  files : List (List String × Bytes) := []

namespace FileTree

/-- The tree of files given by their paths. -/
def ofList (files : List (String × Bytes)) : FileTree :=
  ⟨files.map fun f => (f.1.splitOn "/", f.2)⟩

/-- Whether there is a directory at a place. -/
def isDirectory (t : FileTree) (place : List String) : Bool :=
  t.files.any fun f => place.length < f.1.length && place.isPrefixOf f.1

/-- The greatest length of a name. -/
def longestName : Nat := 255

/-- The greatest length of a path. -/
def longestPath : Nat := 4095

/-- Follows names from a directory.  Its place is given, or nothing for one that lies outside. -/
def follow (t : FileTree) (place : Option (List String)) : List String → Except FileError Bytes
  | [] => .error .isDirectory
  | name :: rest =>
    if name == "" || name == "." then follow t place rest
    else if name == ".." then
      follow t (place.bind fun p => if p.isEmpty then none else some p.dropLast) rest
    else if longestName < name.utf8ByteSize then .error .nameTooLong
    else
      match place with
      | none => .error .notFound
      | some p =>
        let next := p ++ [name]
        match t.files.lookup next with
        | some content => if rest.isEmpty then .ok content else .error .notDirectory
        | none => if t.isDirectory next then follow t (some next) rest else .error .notFound

/-- The files as a store. -/
def store (t : FileTree) : FileStore where
  read path :=
    if path.toList.contains '\x00' then .error .nulInName
    else if path == "" then .error .notFound
    else if longestPath < path.utf8ByteSize then .error .nameTooLong
    else t.follow (if path.startsWith "/" then none else some []) (path.splitOn "/")

end FileTree

end ShardClient
