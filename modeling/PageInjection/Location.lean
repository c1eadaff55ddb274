import PageInjection.Text.Separated

/-!
# Paths

A path is a text: names with slashes between them.  A path that starts with a
slash begins at the root, any other at the current folder.
-/

namespace PageInjection.Location

def isAbsolute (path : String) : Bool :=
  path.startsWith "/"

/-- A path below another; an absolute path stands for itself. -/
def join (root path : String) : String :=
  if isAbsolute path then path
  else if root.isEmpty || root.endsWith "/" then root ++ path
  else root ++ "/" ++ path

def pieces (path : String) : List String :=
  (Text.splitOn '/' path.toList).map String.ofList

/-- The names of a path.  Empty names do not count, nor does a single point,
which means the folder it is in. -/
def names (path : String) : List String :=
  (pieces path).filter fun name => name != "" && name != "."

def ofNames (absolute : Bool) (names : List String) : String :=
  (if absolute then "/" else "") ++ "/".intercalate names

def parent? (path : String) : Option String :=
  match (names path).reverse with
  | [] => none
  | _ :: lead => some (ofNames (isAbsolute path) lead.reverse)

/-- The last name of a path, when it names something in a folder. -/
def fileName? (path : String) : Option String :=
  (names path).getLast?.filter (· != "..")

/-- What follows the last point of a file's name; a point in front of the name
does not count. -/
def extension? (path : String) : Option String :=
  (fileName? path).bind fun name =>
    match (Text.splitOn '.' name.toList).reverse with
    | last :: lead :: more =>
        if lead.isEmpty && more.isEmpty then none else some (String.ofList last)
    | _ => none

/-- The path of the file whose name has an ending more. -/
def withEnding (path ending : String) : String :=
  match fileName? path, parent? path with
  | some name, some folder => join folder (name ++ ending)
  | _, _ => path

/-- Names with every double point taken together with the name before it. -/
def settled (names : List String) : List String :=
  (names.foldl (fun done name => if name = ".." then done.drop 1 else name :: done) []).reverse

/-- What is left of two lists behind their common lead. -/
def withoutCommon : List String → List String → List String × List String
  | a :: left, b :: right =>
      if a = b then withoutCommon left right else (a :: left, b :: right)
  | left, right => (left, right)

/-- The path that leads from one absolute path to another. -/
def relativeTo (base path : String) : String :=
  let (rest, back) := withoutCommon (names path) (names base)
  ofNames false (back.map (fun _ => "..") ++ rest)

end PageInjection.Location
