import DocStore.Disk.Basic
import DocStore.Text.Quoted

/-!
This module contains the replacement of a file by way of a temporary file, and its removal.
-/

namespace DocStore

abbrev Filing := ExceptT String (StateM Disk)

namespace Disk

def quotedPath (d : Disk) (name : FileName) : String :=
  String.ofList (Text.quote (d.path name).toList)

def directoryText (d : Disk) (name : FileName) : String :=
  "[Errno 21] Is a directory: " ++ d.quotedPath name

def longNameText (d : Disk) (name : FileName) : String :=
  "[Errno 36] File name too long: " ++ d.quotedPath name

def nameLimit : Nat := 255

def temporaryBytes : Nat := 18

end Disk

namespace Filing

def use (u : FileUse) : Filing Unit := fun d =>
  match d.use u with
  | (some text, d) => (.error text, d)
  | (none, d) => (.ok (), d)

def makeTemporary (base : String) : Filing FileName := do
  use .makeTemporary
  let d ← get
  let name := FileName.temporary base d.made
  if Disk.nameLimit < base.utf8ByteSize + Disk.temporaryBytes then throw (d.longNameText name)
  set { d.put name (.file (.text [])) with made := d.made + 1 }
  return name

def rename (temporary : FileName) (name : FileName) : Filing Unit := do
  let d ← get
  match d.get? temporary, d.get? name with
  | some _, some .directory => throw (d.directoryText temporary ++ " -> " ++ d.quotedPath name)
  | some e, _ => set ((d.erase temporary).put name e)
  | none, _ => return

def clear (temporary : FileName) : Filing Unit := fun d =>
  match d.use .remove with
  | (some _, d) => (.ok (), d)
  | (none, d) => (.ok (), d.erase temporary)

def fill (temporary : FileName) (base : String) (s : List Char) : Filing Unit := do
  use .openTemporary
  modify fun d => d.put temporary (.file (.text s))
  use .sync
  use .replace
  rename temporary (.given base)

def replace (base : String) (s : List Char) : Filing Unit := do
  use .makeDirectories
  let temporary ← makeTemporary base
  tryCatch (fill temporary base s) fun text => do
    clear temporary
    throw text

def remove (base : String) : Filing Bool := do
  if (← get).contains (.given base) then
    use .remove
    let d ← get
    match d.get? (.given base) with
    | some .directory => throw (d.directoryText (.given base))
    | _ =>
      set (d.erase (.given base))
      return true
  return false

end Filing

end DocStore
