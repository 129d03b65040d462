import CardBinder.FileAccess.Basic

/-! Files that are held in memory, in folders below one root. -/

namespace CardBinder

/-- Folders and texts by the parts of their paths. -/
structure FileTree where
  /-- The name that the folder at the root goes by in paths. -/
  root : String
  folders : List (List String)
  texts : List (List String × String)
  deriving DecidableEq, Repr, Inhabited

/-- What a path leads to. -/
inductive Place where
  /-- A folder above the root; nothing is known of what else it holds. -/
  | outside
  | folder (parts : List String)
  | text (parts : List String) (content : String)
  deriving DecidableEq, Repr

/-- Work on a tree of files. What was done before a failure stays done. -/
abbrev FileWork := ExceptT FileProblem (StateM FileTree)

namespace FileTree

/-- The greatest number of bytes in a name. -/
def nameLimit : Nat := 255

/-- The number of bytes that a path stays below. -/
def pathLimit : Nat := 4096

/-- One step along a path; only a folder can be entered. -/
def enter (t : FileTree) (place : Place) (part : String) : Except FileProblem Place :=
  match place with
  | .text _ _ => .error .notFolder
  | .outside => if part.isEmpty || part == "." || part == ".." then .ok .outside else .error .missing
  | .folder parts =>
    if part.isEmpty || part == "." then .ok place
    else if part == ".." then .ok (if parts.isEmpty then .outside else .folder parts.dropLast)
    else if part.utf8ByteSize > nameLimit then .error .nameTooLong
    else match t.texts.lookup (parts ++ [part]) with
      | some content => .ok (.text (parts ++ [part]) content)
      | none =>
        if t.folders.contains (parts ++ [part]) then .ok (.folder (parts ++ [part]))
        else .error .missing

/-- The place that the pieces of a path lead to; a path that starts elsewhere is relative to the root. -/
def locate (t : FileTree) (pieces : List String) : Except FileProblem Place :=
  if pieces.any (·.toList.contains '\x00') then .error .nulByte
  else if (Text.join "/" pieces).utf8ByteSize ≥ pathLimit then .error .nameTooLong
  else match pieces with
    | "" :: rest => rest.foldlM t.enter .outside
    | first :: rest =>
      if first == t.root then rest.foldlM t.enter (.folder [])
      else pieces.foldlM t.enter (.folder [])
    | [] => .ok (.folder [])

def place (t : FileTree) (path : String) : Except FileProblem Place :=
  if path.isEmpty then .error .missing else t.locate (Text.split '/' path)

/-- There is a file or a folder. -/
def exists? (t : FileTree) (path : String) : Bool :=
  t.place path matches .ok _

def read (t : FileTree) (path : String) : Except FileProblem String := do
  match ← t.place path with
  | .text _ content => return content
  | _ => throw .isFolder

def isFolder (t : FileTree) (pieces : List String) : Bool :=
  match t.locate pieces with
  | .ok (.text _ _) => false
  | .ok _ => true
  | .error _ => false

/-- Where something new can be put: a folder, and a name that it does not hold. -/
def vacancy (t : FileTree) (pieces : List String) : Except FileProblem (List String) :=
  match t.locate pieces.dropLast, pieces.getLast? with
  | .ok (.folder parts), some name => .ok (parts ++ [name])
  | _, _ => .error .missing

def makeFolder (t : FileTree) (pieces : List String) : Except FileProblem FileTree :=
  match t.locate pieces with
  | .ok _ => .error .alreadyThere
  | .error .missing => do return { t with folders := (← t.vacancy pieces) :: t.folders }
  | .error problem => .error problem

/-- Makes a folder and those that it is in; the last piece of its path comes first. -/
def makeFolders : List String → FileWork Unit
  | [] => return
  | name :: above => do
    let pieces := (name :: above).reverse
    match (← get).makeFolder pieces with
    | .ok t => set t
    | .error .missing =>
      makeFolders above
      unless (← get).isFolder pieces do
        set (← (← get).makeFolder pieces)
    | .error problem => unless (← get).isFolder pieces do throw problem

/-- The folder of a path, without the pieces that lead nowhere. -/
def folderPieces (pieces : List String) : List String :=
  match pieces.dropLast with
  | "" :: rest => "" :: rest.filter fun p => !p.isEmpty && p != "."
  | rest => rest.filter fun p => !p.isEmpty && p != "."

def put (t : FileTree) (parts : List String) (text : String) : FileTree :=
  { t with texts := (parts, text) :: t.texts.filter (·.1 != parts) }

/-- Makes the folder of a path if nothing is there, and puts the text under its name in it. -/
def write (path text : String) : FileWork Unit := do
  let pieces := Text.split '/' path
  let folder := folderPieces pieces
  if (← get).locate folder matches .error _ then makeFolders folder.reverse
  match ← (← get).locate folder with
  | .text _ _ => throw .notFolder
  | _ =>
    let t ← get
    match t.locate pieces with
    | .ok (.text parts _) => set (t.put parts text)
    | .ok _ => throw .isFolder
    | .error .missing => set (t.put (← t.vacancy pieces) text)
    | .error problem => throw problem

/-- A tree of some texts; one that cannot be put where it belongs is left out. -/
def ofTexts (root : String) (texts : List (String × String)) : FileTree :=
  texts.foldl (fun t (path, text) => ((write path text).run.run t).2) ⟨root, [], []⟩

end FileTree

/-- Reading and writing a tree of files. -/
def FileAccess.memory : FileAccess (StateM FileTree) where
  read path := do return (← get).read path
  write path text := (FileTree.write path text).run

end CardBinder
