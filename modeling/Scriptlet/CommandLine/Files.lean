/-!
# Files and paths

Paths are shown without repeated slashes and without steps to the same directory, but steps upward
stay, since where they lead depends on the directories that there are.
-/

namespace Scriptlet.CommandLine

/-- A path, taken apart. -/
structure Path where
  /-- What it starts with if it starts at the root: one slash or two. -/
  root : String
  /-- The steps of the path. -/
  steps : List String
deriving DecidableEq, Repr

namespace Path

/-- Takes a path apart. -/
def ofString (s : String) : Path :=
  let slashes := (s.toList.takeWhile (· = '/')).length
  let root := if slashes = 0 then "" else if slashes = 2 then "//" else "/"
  ⟨root, (s.splitOn "/").filter fun step => step ≠ "" && step ≠ "."⟩

/-- The path as text. -/
def text (p : Path) : String :=
  let s := p.root ++ "/".intercalate p.steps
  if s.isEmpty then "." else s

/-- The last step of the path. -/
def name (p : Path) : String := p.steps.getLast?.getD ""

end Path

/-- What is found under a path. -/
inductive Entry where
  /-- Nothing. -/
  | missing
  /-- A directory. -/
  | directory
  /-- A file with a text. -/
  | file (text : String)
deriving DecidableEq, Repr

/-- The files of a directory and of the directories in it. -/
structure FileTree where
  /-- The steps to each file, and its text. -/
  files : List (List String × String)

namespace FileTree

/-- The tree of files with given paths. -/
def ofList (files : List (String × String)) : FileTree :=
  ⟨files.map fun (path, text) => ((Path.ofString path).steps, text)⟩

/-- What is found under steps downward from the top of a tree. -/
def entry (t : FileTree) (steps : List String) : Entry :=
  match t.files.find? (·.1 = steps) with
  | some (_, text) => .file text
  | none =>
    if steps.isEmpty || t.files.any (fun f => steps.isPrefixOf f.1) then .directory else .missing

/-- What is found by going the given steps from a directory of the tree. Of what lies above the
top nothing is known but the way further up. -/
def walk (t : FileTree) (place : List String) : List String → Entry
  | [] => t.entry place
  | step :: steps =>
    match t.entry place with
    | .directory =>
      if step ≠ ".." then t.walk (place ++ [step]) steps
      else if !place.isEmpty then t.walk place.dropLast steps
      else if steps.all (· = "..") then .directory
      else .missing
    | _ => .missing

/-- What is found under a path that starts at the top of the tree. -/
def find (t : FileTree) (path : String) : Entry :=
  let p := Path.ofString path
  if p.root.isEmpty then t.walk [] p.steps
  else if p.steps.all (· = "..") then .directory
  else .missing

end FileTree

/-- A text in which every line ends with a line feed alone. -/
def plainNewlines : List Char → List Char
  | [] => []
  | '\r' :: '\n' :: cs => '\n' :: plainNewlines cs
  | '\r' :: cs => '\n' :: plainNewlines cs
  | c :: cs => c :: plainNewlines cs

/-- A text in which every line ends with a line feed alone has no carriage return. -/
theorem not_mem_plainNewlines (cs : List Char) : '\r' ∉ plainNewlines cs := by
  fun_induction plainNewlines cs with
  | case1 => simp
  | case2 cs ih => simp [ih]
  | case3 cs _ ih => simp [ih]
  | case4 c cs _ hne ih =>
    intro h
    rcases List.mem_cons.1 h with rfl | h
    · simp at hne
    · exact ih h

end Scriptlet.CommandLine
