/-!
# Reading files

What can go wrong when a file is read as text, and files held in memory. The program reads through
a function from paths to contents, so it runs on the files of a disk and on those of memory alike.
-/

namespace RoadWeather

/-- Why a file is not read. -/
inductive ReadFault where
  | missing
  | notDirectory
  | isDirectory
  | notText
  | invalidPath
  | nameTooLong
  | other (reason : String)

namespace ReadFault

def message : ReadFault → String
  | missing => "No such file or directory (os error 2)"
  | notDirectory => "Not a directory (os error 20)"
  | isDirectory => "Is a directory (os error 21)"
  | notText => "stream did not contain valid UTF-8"
  | invalidPath => "file name contained an unexpected NUL byte"
  | nameTooLong => "File name too long (os error 36)"
  | other reason => reason

/-- Whether the path could be opened and only reading it failed. -/
def isOpened : ReadFault → Bool
  | isDirectory | notText => true
  | _ => false

end ReadFault

/-- The bytes under a path, or why there are none. -/
abbrev FileContent := Except ReadFault ByteArray

/-- The text of a file, which must be UTF-8. -/
def FileContent.text (c : FileContent) : Except ReadFault String :=
  match c with
  | .error fault => .error fault
  | .ok bytes =>
    match String.fromUTF8? bytes with
    | some text => .ok text
    | none => .error .notText

/-- Reads under a path. No path has a zero character in it, so such a one is not even tried. -/
def FileContent.readWith {m : Type → Type} [Monad m] (read : String → m FileContent)
    (path : String) : m FileContent :=
  if path.contains '\x00' then pure (.error .invalidPath) else read path

/-! ## Files in memory -/

/-- Files by their paths from a common directory. A directory is there if a file is in it. -/
structure FileTree where
  files : List (List String × ByteArray)

namespace FileTree

/-- The parts of a path between slashes. -/
def parts (path : String) : List String := (path.split '/').toList.map (·.toString)

/-- Whether a part of a path stays in the directory. -/
def stays (part : String) : Bool := part = "" || part = "."

/-- The greatest length of a part of a path, in bytes. -/
def partLimit : Nat := 255

/-- The greatest length of a path, in bytes. -/
def pathLimit : Nat := 4095

def ofList (files : List (String × ByteArray)) : FileTree :=
  ⟨files.map fun (path, bytes) ↦ ((parts path).filter (!stays ·), bytes)⟩

/-- What is in a place: a file, a directory, or nothing. -/
def lookup (t : FileTree) (place : List String) : FileContent :=
  match t.files.find? (·.1 = place) with
  | some (_, bytes) => .ok bytes
  | none =>
    if place = [] ∨ t.files.any fun (file, _) ↦ place.isPrefixOf file then .error .isDirectory
    else .error .missing

def empty : FileTree := ⟨[]⟩

/-- What the parts of a path lead to from a place. Every place on the way has to be a directory,
and only then does the length of the next part matter. Above the common directory are directories
with nothing else in them. -/
def follow (t : FileTree) (place : List String) : List String → FileContent
  | [] => t.lookup place
  | part :: rest =>
    match t.lookup place with
    | .ok _ => .error .notDirectory
    | .error .isDirectory =>
      if stays part then t.follow place rest
      else if partLimit < part.utf8ByteSize then .error .nameTooLong
      else if part ≠ ".." then t.follow (place ++ [part]) rest
      else if place = [] then empty.follow [] rest
      else t.follow place.dropLast rest
    | .error fault => .error fault

/-- What is under a path. One from the root leads through none of the files. -/
def read (t : FileTree) (path : String) : FileContent :=
  if pathLimit < path.utf8ByteSize then .error .nameTooLong
  else if path = "" then .error .missing
  else (if path.startsWith "/" then empty else t).follow [] (parts path)

end FileTree

end RoadWeather
