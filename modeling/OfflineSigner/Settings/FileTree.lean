import OfflineSigner.Settings.File

/-!
# Trees of files

What reading a path gives in a tree of folders. A path is followed name by name, from the root when
it begins with a slash and from the working folder otherwise. Only a folder can be left by a further
name, be it an empty one, so a file with a slash behind it is not read. A path or a name that is too
long is refused before it is looked for, but only once the folders in front of it are there.
-/

namespace OfflineSigner

/-- Files in folders, and the folder in which a program works. -/
structure FileTree where
  /-- The files, each under the names that lead to it from the root. -/
  files : List (List String × List UInt8)
  /-- The names that lead from the root to the working folder. -/
  workingFolder : List String

namespace FileTree

/-- The number of bytes of a path at which it is too long. -/
def pathLimit : Nat := 4096

/-- The largest number of bytes of a name. -/
def nameLimit : Nat := 255

/-- Whether some names lead to a folder: to the working folder or to one on the way to a file. -/
def hasFolder (tree : FileTree) (place : List String) : Bool :=
  place.isPrefixOf tree.workingFolder ||
    tree.files.any fun file => place.isPrefixOf file.1 && place != file.1

/-- Follows further names from a folder and reads the file to which they lead. -/
def follow (tree : FileTree) (folder : List String) :
    List String → Except ReadFault (List UInt8)
  | [] => .error .isDirectory
  | name :: rest =>
    if name == "" || name == "." then tree.follow folder rest
    else if name == ".." then tree.follow folder.dropLast rest
    else if nameLimit < name.utf8ByteSize then .error .nameTooLong
    else
      let place := folder ++ [name]
      match tree.files.lookup place with
      | some contents => if rest.isEmpty then .ok contents else .error .notDirectory
      | none => if tree.hasFolder place then tree.follow place rest else .error .notFound

/-- Reads the file of a path. -/
def read (tree : FileTree) (path : String) : Except ReadFault (List UInt8) :=
  if path.isEmpty then .error .notFound
  else if pathLimit ≤ path.utf8ByteSize then .error .nameTooLong
  else tree.follow (if path.startsWith "/" then [] else tree.workingFolder) (path.splitOn "/")

end FileTree

end OfflineSigner
