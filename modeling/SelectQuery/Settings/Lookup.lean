import SelectQuery.Settings

/-!
# Looking settings up

Settings come from one file only: the one the environment names, else the one in the working
directory, else the one of the user; without any of them the defaults hold. A file that is chosen
and cannot be used is an error, never a reason to go on to the next. The variable of the environment
is one of three things (`Variable`), and the directory of the user is a parameter: what stands there
is looked up like any other path.
-/

namespace SelectQuery

/-- What stands at a path. -/
inductive FileNode where
  | file (bytes : ByteArray)
  | directory

/-- What stands at each path, if anything. -/
abbrev Files := String → Option FileNode

/-! ## Files by relative path -/

/-- Files and directories by their relative paths. -/
structure FileTable where
  nodes : List (List String × FileNode)

namespace FileTable

/-- The parts of a path between its slashes. -/
def segments (path : String) : List String :=
  (path.toList.splitOn '/').map String.ofList

/-- The names along a path. -/
def names (path : String) : List String :=
  (segments path).filter fun n => n ≠ "" && n ≠ "."

def ofList (nodes : List (String × FileNode)) : FileTable :=
  ⟨nodes.map fun (path, node) => (names path, node)⟩

/-- What stands at the end of some names: a node of its own, or a directory that others lie in. -/
def nodeAt? (t : FileTable) (ns : List String) : Option FileNode :=
  match t.nodes.lookup ns with
  | some node => some node
  | none => if ns.isEmpty || t.nodes.any (fun n => ns.isPrefixOf n.1) then some .directory else none

/-- Whether some names lead to a directory. -/
def isDirectory (t : FileTable) (ns : List String) : Bool :=
  match t.nodeAt? ns with
  | some .directory => true
  | _ => false

/-- Follows a path from a directory; `none` stands for a place outside the table. Nothing outside
is known but that going up is possible. -/
def follow (t : FileTable) : Option (List String) → List String → Option FileNode
  | none, [] => some .directory
  | none, n :: ns => if n = "" || n = "." || n = ".." then t.follow none ns else none
  | some here, [] => t.nodeAt? here
  | some here, n :: ns =>
    if !t.isDirectory here then none
    else if n = "" || n = "." then t.follow (some here) ns
    else if n = ".." then t.follow (if here.isEmpty then none else some here.dropLast) ns
    else t.follow (some (here ++ [n])) ns

/-- What stands at a path; an empty path leads nowhere. -/
def files (t : FileTable) : Files := fun path =>
  if path = "" then none
  else if path.startsWith "/" then t.follow none (segments path)
  else t.follow (some []) (segments path)

theorem files_of_relative (t : FileTable) {path : String} (hne : path ≠ "")
    (hr : path.startsWith "/" = false) : t.files path = t.follow (some []) (segments path) := by
  simp [files, hne, hr]

end FileTable

/-! ## Choosing a file -/

namespace Settings

/-- `SQLSELECT_CONFIG`, the variable of the environment that names a file. -/
inductive Variable where
  | unset
  | text (value : String)
  /-- It is set, but not to a Unicode text. -/
  | notText

namespace Variable

/-- A variable that is not set, or set to a text. -/
def ofText? : Option String → Variable
  | none => unset
  | some value => text value

instance : Coe (Option String) Variable := ⟨ofText?⟩

end Variable

/-- The file in the working directory. -/
def localPath : String := "sqlselect.toml"

/-- The file of the user, in the directory where programs have their configuration. -/
def userPath (directory : String) : String :=
  (if directory = "" || directory.endsWith "/" then directory else directory ++ "/") ++
    "sqlselect/config.toml"

/-- Settings from one file. -/
def fromFile (parse : String → Option Settings) (files : Files) (path : String) :
    Except SettingsError Settings :=
  match files path with
  | none => .error (.fileNotFound path)
  | some .directory => .error .unreadable
  | some (.file bytes) =>
    match String.fromUTF8? bytes with
    | none => .error .unreadable
    | some text => ofText parse text

/-- The file that settings come from. The one the environment names need not exist, the others are
passed over if they do not. A variable that holds no text is passed over as well, and so is the file
of the user where there is no directory for it. -/
def source? (files : Files) (environment : Variable) (directory : Option String) : Option String :=
  match environment with
  | .text path => some path
  | .unset | .notText =>
    (localPath :: (directory.map userPath).toList).find? fun path => (files path).isSome

/-- The settings in force. Unless another directory is given, it is that of a user who works at
home. -/
def load (parse : String → Option Settings) (files : Files) (environment : Variable)
    (directory : Option String := some ".config") : Except SettingsError Settings :=
  match source? files environment directory with
  | none => .ok {}
  | some path => fromFile parse files path

end Settings

end SelectQuery
