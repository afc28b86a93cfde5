import DocStore.Path

/-!
This module contains journals: channels that write lines to files.
-/

namespace DocStore

inductive Level where
  | debug
  | info
  | warning
  | error
  | critical
  deriving DecidableEq, Repr

namespace Level

def number : Level → Nat
  | .debug => 10
  | .info => 20
  | .warning => 30
  | .error => 40
  | .critical => 50

def name : Level → String
  | .debug => "DEBUG"
  | .info => "INFO"
  | .warning => "WARNING"
  | .error => "ERROR"
  | .critical => "CRITICAL"

end Level

structure Line where
  level : Level
  channel : String
  text : String
  deriving DecidableEq, Repr

structure Channel where
  threshold : Nat := 0
  propagates : Bool := true
  file : Option (List Char) := none
  deriving DecidableEq, Repr

/--
Channels by their names, files by their paths, and the paths of the directories that were made.
-/
structure Journal where
  channels : List (String × Channel) := []
  files : List (List Char × List Line) := []
  directories : List (List Char) := []
  deriving Repr

inductive OpenFault where
  | nullCharacter
  | fileThere
  | fileBetween
  | directoryThere
  | longName
  deriving DecidableEq, Repr

namespace Journal

def sizeLimit : Nat := 104857600

def backups : Nat := 5

def channelName (name : String) : String := if name = "" then "root" else name

def put {α β : Type} [DecidableEq α] (k : α) (v : β) : List (α × β) → List (α × β)
  | [] => [(k, v)]
  | e :: es => if e.1 = k then (k, v) :: es else e :: put k v es

def channel (j : Journal) (name : String) : Channel :=
  (j.channels.lookup (channelName name)).getD {}

def setChannel (j : Journal) (name : String) (c : Channel) : Journal :=
  { j with channels := put (channelName name) c j.channels }

def write (j : Journal) (name : String) (level : Level) (text : String) : Journal :=
  let c := j.channel name
  match c.file with
  | none => j
  | some path =>
    if c.threshold ≤ level.number then
      { j with files := put path ((j.files.lookup path).getD [] ++
        [⟨level, channelName name, text⟩]) j.files }
    else j

def isLong (name : List Char) : Bool := 255 < (String.ofList name).utf8ByteSize

def isFile (j : Journal) (path : List Char) : Bool := (j.files.lookup path).isSome

/--
Make the directories that lead from a place on, whose parts are given from the last one on. What was
made stays if the way is blocked.
-/
def makeDirectories (j : Journal) (root : List Char) :
    List (List Char) → List (List Char) → Except OpenFault Unit × Journal
  | place, [] =>
  (if j.isFile (Path.ofNames root place.reverse) then .error .fileThere else .ok (), j)
  | place, name :: names =>
    if name = [] then makeDirectories j root place names
    else if name.contains '\x00' then (.error .nullCharacter, j)
    else if j.isFile (Path.ofNames root place.reverse) then (.error .fileBetween, j)
    else if name = ['.'] then makeDirectories j root place names
    else if isLong name then (.error .longName, j)
    else
      let next := Path.enter (!root.isEmpty) place name
      let path := Path.ofNames root next.reverse
      let known := j.isFile path || j.directories.contains path
      makeDirectories (if known then j else { j with directories := path :: j.directories }) root
        next names

def filePath (directory : List Char) (name : String) (path : Option String) : List Char :=
  Path.join directory ((path.filter (· ≠ "")).getD name ++ ".log").toList

def fileFault? (j : Journal) (file : List Char) : Option OpenFault :=
  if (Path.names file).isEmpty || j.directories.contains (Path.normal file) then
    some .directoryThere
  else if isLong (Path.lastPart file) then some .longName
  else none

/--
Let a channel write all lines to its file, and nowhere else. The first line of a channel in a file
tells its name. If the file cannot be opened the channel keeps the one that it has.
-/
def openChannel (j : Journal) (directory : List Char) (name : String) (path : Option String) :
    Except OpenFault Unit × Journal :=
  let given := filePath directory name path
  let before := j.channel name
  let j := j.setChannel name { before with threshold := Level.debug.number, propagates := false }
  match j.makeDirectories (Path.root given) [] (Path.leadingParts given) with
  | (.error fault, j) => (.error fault, j)
  | (.ok (), j) =>
    let file := Path.cut given
    if before.file = some file then (.ok (), j)
    else
      match j.fileFault? file with
      | some fault => (.error fault, j)
      | none =>
        let opened := j.setChannel name ⟨Level.debug.number, false, some file⟩
        (.ok (), opened.write name .debug s!"Logger initialized for {name}")

def foreignChannels : List String :=
  ["pymongo", "pymongo.command", "pymongo.connection", "pymongo.serverSelection",
   "pymongo.topology", "bson",
   "dotenv", "asyncio"]

def quieten (j : Journal) : Journal :=
  foreignChannels.foldl
    (fun j name =>
      j.setChannel name
        { j.channel name with threshold := Level.warning.number, propagates := false }) j

end Journal

end DocStore
