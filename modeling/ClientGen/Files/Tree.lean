import ClientGen.Files.System

/-
  Files in memory.

  Key definitions include:
    * `FileTree`
    * `FileTree.walk`
    * `FileTree.place`
    * `FileTree.texts`

  Every file and directory is found under the names on the
  way to it from the root, which is always there.
-/

namespace ClientGen.Files

------------------------------------------------------------
-- Trees
------------------------------------------------------------

/- What is found at a place. -/
inductive Entry where
  | directory
  | file (text : String)
  deriving DecidableEq, Repr

/- The names on the way from the root. -/
abbrev Place :=
  List String

/-
  What there is, and the directory that paths start in if
  they are not absolute.
-/
structure FileTree where
  current : Place
  entries : List (Place × Entry)
  deriving Repr, Inhabited

namespace FileTree

/- What is found at a place. -/
def entry?
    (t : FileTree)
    (place : Place) :
    Option Entry :=
  if place = [] then some .directory
  else t.entries.lookup place

/- Whether there is a directory at a place. -/
def hasDirectory
    (t : FileTree)
    (place : Place) :
    Bool :=
  t.entry? place == some .directory

/- The tree with an entry at a place. -/
def put
    (t : FileTree)
    (place : Place)
    (entry : Entry) :
    FileTree :=
  { t with
    entries :=
      (place, entry) ::
        t.entries.filter fun kept => kept.1 ≠ place }

/- All files with their texts, in no particular order. -/
def texts
    (t : FileTree) :
    List (Place × String) :=
  t.entries.filterMap fun (place, entry) =>
    match entry with
    | .file text => some (place, text)
    | .directory => none

------------------------------------------------------------
-- Walking
------------------------------------------------------------

/- Where a path starts. -/
def start
    (t : FileTree)
    (path : String) :
    Place :=
  if Path.isAbsolute path then [] else t.current

/- A path that can be looked up at all. -/
def checkPath
    (path : String) :
    Except FileError Unit :=
  if path = "" then .error .notFound
  else if !Path.isWhole path then .error .invalidName
  else if !Path.isShort path then .error .nameTooLong
  else .ok ()

/- One step from a place, which has to be a directory. -/
def step
    (t : FileTree)
    (place : Place)
    (name : String) :
    Except FileError Place :=
  if !t.hasDirectory place then .error .notDirectory
  else if Path.isIdle name then .ok place
  else if name = ".." then .ok place.dropLast
  else if !Path.fitsDirectory name then .error .nameTooLong
  else if (t.entry? (place ++ [name])).isSome then
    .ok (place ++ [name])
  else .error .notFound

/- The place that a path leads to, if something is there. -/
def walk
    (t : FileTree)
    (path : String) :
    Except FileError Place := do
  checkPath path
  (Path.names path).foldlM t.step (t.start path)

/-
  The directory that a path leads into, and the last name
  on it, which need not be there.
-/
def place
    (t : FileTree)
    (path : String) :
    Except FileError (Place × String) := do
  checkPath path
  match (Path.names path).reverse with
  | [] => .error .notFound
  | last :: before =>
      let parent ←
        before.reverse.foldlM t.step (t.start path)
      if !t.hasDirectory parent then .error .notDirectory
      else if Path.fitsDirectory last then .ok (parent, last)
      else .error .nameTooLong

------------------------------------------------------------
-- Operations
------------------------------------------------------------

/- The text of the file at a path. -/
def read
    (t : FileTree)
    (path : String) :
    Except FileError String := do
  match t.entry? (← t.walk path) with
  | some (.file text) => .ok text
  | some .directory => .error .isDirectory
  | none => .error .notFound

/- The tree after a text is written to a path. -/
def write
    (t : FileTree)
    (path text : String) :
    Except FileError FileTree := do
  let (parent, name) ← t.place path
  if Path.isIdle name || name = ".." ||
      t.hasDirectory (parent ++ [name]) then
    .error .isDirectory
  else .ok (t.put (parent ++ [name]) (.file text))

/- A path without the slashes at its end. -/
def withoutSlashes
    (path : String) :
    String :=
  String.ofList
    (path.toList.reverse.dropWhile (· = '/')).reverse

/- The tree after a directory is made. -/
def makeDirectory
    (t : FileTree)
    (path : String) :
    Except FileError FileTree :=
  let bare := withoutSlashes path
  if bare = "" then
    .error (if path = "" then .notFound else .alreadyExists)
  else do
    let (parent, name) ← t.place bare
    if Path.isIdle name || name = ".." ||
        (t.entry? (parent ++ [name])).isSome then
      .error .alreadyExists
    else .ok (t.put (parent ++ [name]) .directory)

/- Whether a path leads to a directory. -/
def isDirectory
    (t : FileTree)
    (path : String) :
    Bool :=
  match t.walk path with
  | .ok place => t.hasDirectory place
  | .error _ => false

/- Whether a path leads to anything. -/
def contains
    (t : FileTree)
    (path : String) :
    Bool :=
  (t.walk path).isOk

end FileTree

------------------------------------------------------------
-- The File System
------------------------------------------------------------

/- Change the tree, unless the change fails. -/
def changing
    (change : FileTree → Except FileError FileTree) :
    StateM FileTree (Except FileError Unit) := do
  match change (← get) with
  | .ok tree =>
      set tree
      return .ok ()
  | .error e => return .error e

instance : FileSystem (StateM FileTree) where
  read path := do return (← get).read path
  write path text := changing (·.write path text)
  makeDirectory path := changing (·.makeDirectory path)
  isDirectory path := do return (← get).isDirectory path
  isPresent path := do return (← get).contains path

end ClientGen.Files
