import Stagewright.Command.Run
import Stagewright.Text.Lines

/-!
Files in memory: a tree below a working directory. Paths are walked part by part, as a file system
walks them.
-/

namespace Stagewright.Command

/-- The parts of a path from the working directory down. -/
abbrev Route := List String

structure FileTree where
  files : List (Route × List UInt8) := []
  /-- Directories apart from those that files stand in. -/
  directories : List Route := []
deriving DecidableEq, Repr

namespace FileTree

/-- What a path leads to. A place that does not exist may still stand in a directory that does. -/
inductive Place where
  | file (route : Route)
  | directory (route : Route)
  /-- A directory above the working directory. -/
  | above
  /-- Something else that is not below the working directory. -/
  | outside
  | vacant (route : Route)
  | missing
  | throughFile
  /-- A path, or a name in a directory, that is longer than any can be. -/
  | tooLong
deriving DecidableEq, Repr

/-- The parts of a path. -/
def parts (path : String) : List String :=
  (Text.splitChars '/' path.toList).map String.ofList

def isAbsolute (path : String) : Bool := path.toList.head? = some '/'

def isFile (tree : FileTree) (route : Route) : Bool := tree.files.any (·.1 = route)

def isDirectory (tree : FileTree) (route : Route) : Bool :=
  route.isEmpty || tree.files.any (fun f => route.isPrefixOf f.1 && f.1 ≠ route) ||
    tree.directories.any (route.isPrefixOf ·)

def placeAt (tree : FileTree) (route : Route) : Place :=
  if tree.isFile route then .file route
  else if tree.isDirectory route then .directory route
  else .vacant route

/-- The number of bytes of a path, where a half of a pair stands for one that is no text. -/
def byteCount (path : String) : Nat :=
  (Text.symbols path.toList).foldl (fun n s => n + max 1 s.bytes.length) 0

/-- Whether a name has more bytes than a name in a directory can have. -/
def isTooLong (name : String) : Bool := byteCount name > 255

/-- Takes one part of a path. -/
def step (tree : FileTree) (place : Place) (part : String) : Place :=
  let idle := part = "" || part = "."
  match place with
  | .file _ | .throughFile => .throughFile
  | .tooLong => .tooLong
  | .vacant _ | .missing => .missing
  | .above => if idle || part = ".." then .above else .outside
  | .outside => .outside
  | .directory route =>
    if idle then place
    else if part = ".." then (if route.isEmpty then .above else .directory route.dropLast)
    else if isTooLong part then .tooLong
    else tree.placeAt (route ++ [part])

/-- Where the parts of a path lead. -/
def walk (tree : FileTree) (path : String) (parts : List String) : Place :=
  if path.isEmpty then .missing
  else if byteCount path > 4095 then .tooLong
  else parts.foldl tree.step (if isAbsolute path then .above else .directory [])

/-- Where a path leads. -/
def resolve (tree : FileTree) (path : String) : Place := tree.walk path (parts path)

/-- What is found at a path. -/
def read (tree : FileTree) (path : String) : FileContent :=
  match tree.resolve path with
  | .file route => ((tree.files.find? (·.1 = route)).map fun f => .bytes f.2).getD .missing
  | .directory _ | .above => .directory
  | .outside | .vacant _ | .missing | .throughFile | .tooLong => .missing

/-- The route of a path, which is shortened before it is walked; none above the working
directory. -/
def shortened (path : String) : Option Route :=
  if isAbsolute path then none
  else (parts path).foldlM (fun (route : Route) part =>
    if part = "" || part = "." then some route
    else if part = ".." then (if route.isEmpty then none else some route.dropLast)
    else some (route ++ [part])) []

/-- A tree that holds nothing but files at the given paths. -/
def ofFiles (files : List (String × List UInt8)) : FileTree :=
  { files := files.filterMap fun f => (shortened f.1).map (·, f.2) }

/-- Makes the directories `made ++ rest`, the first of which are there already. None can be made
below a file, or in place of one. -/
def makeBelow (tree : FileTree) (made : Route) : List String → Except WriteFault FileTree
  | [] => .ok tree
  | part :: rest =>
    let path := "/".intercalate (made ++ [part])
    if tree.isFile (made ++ [part]) then
      match rest with
      | [] => .error (.refused (.occupied path))
      | next :: _ =>
        .error ((WriteFault.ofPath? next).getD (.refused (.belowFile (path ++ "/" ++ next))))
    else
      match WriteFault.ofPath? part with
      | some fault => .error fault
      | none =>
        if isTooLong part then .error (.refused (.tooLong path))
        else
          let tree := { tree with directories := tree.directories ++ [made ++ [part]] }
          makeBelow tree (made ++ [part]) rest

/-- Makes the directories above a path. -/
def makeDirectories (tree : FileTree) (path : String) : Except WriteFault FileTree :=
  match shortened path with
  | none => .ok tree
  | some route => tree.makeBelow [] route.dropLast

/-- Writes bytes to a path in a directory that exists. A path that ends with a slash names a
directory, whether it is one or not. What is written outside of the tree leaves it as it is. -/
def writeFile (tree : FileTree) (path : String) (data : List UInt8) : Except FileFault FileTree :=
  let parts := parts path
  let named := (parts.reverse.dropWhile (·.isEmpty)).reverse
  match tree.walk path (if named.length < parts.length then named.dropLast else parts) with
  | .file route =>
    if named.length < parts.length then .error (.belowFile path)
    else .ok { tree with files := tree.files.map fun f => if f.1 = route then (route, data) else f }
  | .vacant route =>
    if named.length < parts.length then .error (.missing path)
    else .ok { tree with files := tree.files ++ [(route, data)] }
  | .directory _ | .above => .error (.directory path)
  | .outside => .ok tree
  | .missing => .error (.missing path)
  | .throughFile => .error (.belowFile path)
  | .tooLong => .error (.tooLong path)

/-- Access to the files of a tree. -/
def access : Files (StateM FileTree) where
  read := fun path => do return (← get).read path
  write := fun path text => do
    match (← get).makeDirectories path with
    | .error fault => return .error fault
    | .ok tree =>
      set tree
      match WriteFault.ofPath? path with
      | some fault => return .error fault
      | none =>
        match tree.writeFile path (Text.bytes text) with
        | .error fault => return .error (.refused fault)
        | .ok tree =>
          set tree
          return .ok ()

end FileTree

end Stagewright.Command
