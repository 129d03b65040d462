import CardBinder.Failure

/-! Access to files, as far as collections need it. -/

namespace CardBinder

structure FileAccess (m : Type → Type) where
  read : String → m (Except FileProblem String)
  /-- Replaces the text of a file as a whole, and makes the folders it is in. -/
  write : String → String → m (Except FileProblem Unit)

namespace FileAccess

/-- A file below a folder; a name that starts at the root stands for itself. -/
def inFolder (folder name : String) : String :=
  if folder.isEmpty || name.toList.head? = some '/' then name
  else if folder.toList.getLast? = some '/' then folder ++ name
  else folder ++ "/" ++ name

/-- The folder that a path names before its last slash. -/
def folderOf (path : String) : String :=
  String.ofList (((path.toList.reverse.dropWhile (· != '/')).drop 1).reverse)

end FileAccess
end CardBinder
