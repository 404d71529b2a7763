import Conformance.Text.Character
/-!
# Paths and files

Paths are texts, separated by slashes. A piece between two slashes is a component unless it is empty or
a dot; a leading dot of a relative path counts as well.

A `Disk` is what a command can learn about files: the bytes of a path, whether a path is a regular file,
and whether a path can be appended to. Each question that fails names its cause. A `FileTree` is a
directory of given files, below which every relative path is looked up step by step.
-/

/-! ## Paths -/

namespace Conformance.Path

/-- Starts at the root. -/
def isAbsolute (path : String) : Bool := path.toList.head? == some '/'

/-- A value taken relative to a base, as a text. -/
def join (base value : String) : String :=
  if isAbsolute value || base.isEmpty then value
  else if base.toList.getLast? == some '/' then base ++ value
  else base ++ "/" ++ value

/-- A piece that names a component, given whether it is the first piece. -/
def isComponent (first : Bool) (piece : List Char) : Bool :=
  !piece.isEmpty && (first || piece != ['.'])

/-- The pieces of a path up to its last component; none if it has no component. -/
def upToLast? : Bool → List (List Char) → Option (List (List Char))
  | _, [] => none
  | first, p :: ps =>
    match upToLast? false ps with
    | some rest => some (p :: rest)
    | none => if isComponent first p then some [p] else none

/-- Pieces joined with slashes again. -/
def glue (ps : List (List Char)) : String := Text.join "/" (ps.map String.ofList)

/-- The path without its last component; none if there is no component to take away. -/
def parent? (path : String) : Option String :=
  let ps := Text.split '/' path.toList
  (upToLast? true ps).map fun whole =>
    match upToLast? true whole.dropLast with
    | some rest => glue rest
    | none => if isAbsolute path then "/" else ""

/-- The number of bytes of the longest piece between slashes. -/
def longestPiece (path : String) : Nat :=
  (Text.pieces '/' path).foldl (fun n p => max n p.utf8ByteSize) 0

/-- How a text breaks the limits on paths. -/
inductive Excess where
  | total
  | component
deriving DecidableEq, Repr

/-- The most bytes a path may have. -/
def maxTotal : Nat := 4096

/-- The most bytes a component may have. -/
def maxComponent : Nat := 255

/-- The limit a path breaks, the total length before the length of a component. -/
def excess? (path : String) : Option Excess :=
  if maxTotal < path.utf8ByteSize then some .total
  else if maxComponent < longestPiece path then some .component
  else none

end Conformance.Path

/-! ## Files -/

namespace Conformance

/-- Why a file could not be used. -/
inductive FileError where
  | notFound
  | notADirectory
  | isADirectory
  | nameTooLong
  | nulInName
  | other (text : String)
deriving DecidableEq, Repr

/-- The text of the operating system for a cause. -/
def FileError.text : FileError → String
  | .notFound => "No such file or directory (os error 2)"
  | .notADirectory => "Not a directory (os error 20)"
  | .isADirectory => "Is a directory (os error 21)"
  | .nameTooLong => "File name too long (os error 36)"
  | .nulInName => "file name contained an unexpected NUL byte"
  | .other text => text

/-- What can be learned about files. -/
structure Disk where
  read : String → Except FileError ByteArray
  isFile : String → Bool
  appendable : String → Except FileError Unit

/-! ## File trees -/

/-- The files of a directory with the directories on the way to each of them. -/
structure FileTree where
  files : List (List String × ByteArray)

namespace FileTree

/-- What a name in the tree stands for. -/
inductive Node where
  | file (bytes : ByteArray)
  | directory
  | absent

/-- The node at a place. Nothing is known of the directories above the tree but that they are there. -/
def node (t : FileTree) (place : List String) : Node :=
  match t.files.find? fun f => f.1 == place with
  | some (_, bytes) => .file bytes
  | none =>
    if place.all (· == "..") || t.files.any fun f => place.isPrefixOf f.1 then .directory
    else .absent

/-- The directory above a directory. Places above the tree start with dots. -/
def above (place : List String) : List String :=
  if place.all (· == "..") then ".." :: place else place.dropLast

/-- The most bytes of a path and of a name that the system takes. -/
def longestPath : Nat := 4095

/-- Walks the pieces of a path from a directory to the place it names. The last piece may be missing. -/
def walk (t : FileTree) (here : List String) : List String → Except FileError (List String)
  | [] => .ok here
  | piece :: rest =>
    if piece = "" ∨ piece = "." then t.walk here rest
    else if piece = ".." then t.walk (above here) rest
    else if Path.maxComponent < piece.utf8ByteSize then .error .nameTooLong
    else
      let there := here ++ [piece]
      match t.node there, rest with
      | .directory, _ => t.walk there rest
      | .file _, [] => .ok there
      | .file _, _ :: _ => .error .notADirectory
      | .absent, [] => .ok there
      | .absent, _ :: _ => .error .notFound

/-- The place a path names. Paths from the root lead out of the tree, where nothing is found. -/
def locate (t : FileTree) (path : String) : Except FileError (List String) :=
  if path.toList.any fun c => c.toNat == 0 then .error .nulInName
  else if path.isEmpty then .error .notFound
  else if longestPath < path.utf8ByteSize then .error .nameTooLong
  else if Path.isAbsolute path then
    if path.toList.all (· == '/') then .ok [] else .error .notFound
  else t.walk [] (Text.pieces '/' path)

/-- The bytes of a file. -/
def read (t : FileTree) (path : String) : Except FileError ByteArray :=
  (t.locate path).bind fun place =>
    match t.node place with
    | .file bytes => .ok bytes
    | .directory => .error .isADirectory
    | .absent => .error .notFound

/-- A path that can be opened for appending: a file, or a new name in a directory. -/
def appendable (t : FileTree) (path : String) : Except FileError Unit :=
  let open? := (t.locate path).bind fun place =>
    match t.node place with
    | .directory => .error .isADirectory
    | _ => .ok ()
  match open? with
  | .error .notFound =>
    -- a missing name with a slash behind it would have to be a directory
    let trimmed := String.ofList (path.toList.reverse.dropWhile (· == '/')).reverse
    if trimmed ≠ path ∧ ((t.locate trimmed).toOption.isSome) then .error .isADirectory
    else .error .notFound
  | r => r

/-- The tree as a disk. -/
def disk (t : FileTree) : Disk where
  read := t.read
  isFile path := (t.read path).toOption.isSome
  appendable := t.appendable

/-- Puts a file into the tree, over an older one. -/
def put (t : FileTree) (path : String) (bytes : ByteArray) : FileTree :=
  let place := (Text.pieces '/' path).filter fun p => p ≠ "" && p ≠ "."
  ⟨t.files.filter (fun f => f.1 != place) ++ [(place, bytes)]⟩

/-- Adds text to the file at a path, which is made if it is not there. -/
def append (t : FileTree) (path text : String) : FileTree :=
  match t.locate path with
  | .error _ => t
  | .ok place =>
    let old := match t.node place with
      | .file bytes => bytes
      | _ => ByteArray.empty
    ⟨t.files.filter (fun f => f.1 != place) ++ [(place, old ++ text.toUTF8)]⟩

end FileTree

end Conformance
