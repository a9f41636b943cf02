import TunnelFleet.Files.Fault
import TunnelFleet.Files.Path
import Std.Data.ExtTreeMap

/-!
# File trees

A tree of files and directories, as one finite map from locations to entries. A
location is the list of names on the way from the root, which is always a
directory. Reading leaves the tree as it is. An operation that changes the tree
returns the new one beside its result, because a failing operation may have
changed something before it failed.

Two things are taken for granted of the file system that the tree stands for. There are no
links in it, so a location names one entry and an entry has one location. And everything in
it may be read and written, so no operation fails for want of a permission. Nothing else
writes to it while an operation is under way.
-/

namespace TunnelFleet

/-- The names on the way from the root of the tree to an entry. -/
abbrev Location := List String

/-- What stands at a location: never a link, and nothing that is kept from the user. -/
inductive Entry
  | file (content : ByteArray)
  | directory

instance : DecidableEq Entry
  | .file a, .file b => decidable_of_iff (a.data = b.data) (by simp [ByteArray.ext_iff])
  | .directory, .directory => isTrue rfl
  | .file _, .directory => isFalse Entry.noConfusion
  | .directory, .file _ => isFalse Entry.noConfusion

/-- A tree of files, and the directory from which relative paths start. -/
structure FileTree where
  entries : Std.ExtTreeMap Location Entry := ∅
  workingDirectory : Location := []

namespace FileTree

/-- The longest name that an entry can have, in bytes. -/
def maxNameLength : Nat := 255

/-- The longest text that a path can have, in bytes. -/
def maxPathLength : Nat := 4095

/-- The entry at a location. -/
def lookup? (t : FileTree) (l : Location) : Option Entry :=
  if l = [] then some .directory else t.entries[l]?

/-- The tree with an entry at a location. -/
def put (t : FileTree) (l : Location) (e : Entry) : FileTree :=
  { t with entries := t.entries.insert l e }

/-- The tree without the entry at a location. -/
def drop (t : FileTree) (l : Location) : FileTree :=
  { t with entries := t.entries.erase l }

/-- Goes from the location `here` to the entry that the next piece of a path names.
Nothing can be looked up below a file or below an entry that is missing. -/
def follow (t : FileTree) (here : Location) (piece : String) : Except Fault Location :=
  match t.lookup? here with
  | none => .error .notFound
  | some (.file _) => .error .notADirectory
  | some .directory =>
    if Path.isIdle piece then .ok here
    else if piece == ".." then .ok here.dropLast
    else if maxNameLength < piece.utf8ByteSize then .error .nameTooLong
    else .ok (here ++ [piece])

/-- Where the walk along a path starts, and the pieces that it follows. -/
def origin (t : FileTree) (p : Path) : Location × List String :=
  if p.isAbsolute then ([], p.pieces.drop 1) else (t.workingDirectory, p.pieces)

/-- Refuses a path that no operation accepts, whatever the tree holds. -/
def checkPath (p : Path) : Except Fault Unit :=
  if p.pieces.any (·.toList.contains (Char.ofNat 0)) then .error .nulInPath
  else if maxPathLength < p.text.utf8ByteSize then .error .nameTooLong
  else .ok ()

/-- The location that a path names. Everything before the last piece has to be a
directory; the location itself may be vacant. -/
def locate (t : FileTree) (p : Path) : Except Fault Location := do
  checkPath p
  if p.text == "" then .error .notFound
  else
    let (start, pieces) := t.origin p
    pieces.foldlM t.follow start

/-- Whether a path names an entry. A path that leads nowhere names none. -/
def has (t : FileTree) (p : Path) : Bool :=
  match t.locate p with
  | .ok l => (t.lookup? l).isSome
  | .error _ => false

/-- The bytes of a file. -/
def read (t : FileTree) (p : Path) : Except Fault ByteArray := do
  let l ← t.locate p
  match t.lookup? l with
  | none => .error .notFound
  | some .directory => .error .isADirectory
  | some (.file content) => .ok content

/-- The text of a file. -/
def readText (t : FileTree) (p : Path) : Except Fault String := do
  match String.fromUTF8? (← t.read p) with
  | some text => .ok text
  | none => .error .notText

/-- Opens an entry for reading; a directory can be opened too. -/
def openable (t : FileTree) (p : Path) : Except Fault Unit := do
  let l ← t.locate p
  match t.lookup? l with
  | none => .error .notFound
  | some _ => .ok ()

/-- The location that a path names for a file to be written. A path that ends in a slash
can only name a directory, whether there is one or not. -/
def locateFile (t : FileTree) (p : Path) : Except Fault Location := do
  if p.endsInSlash then
    let _ ← t.locate p.dropSlash
    .error .isADirectory
  else t.locate p

/-- Writes a file, in place of the one that was there. -/
def write (t : FileTree) (p : Path) (content : ByteArray) : Except Fault FileTree := do
  let l ← t.locateFile p
  match t.lookup? l with
  | some .directory => .error .isADirectory
  | _ => .ok (t.put l (.file content))

/-- Writes a text file. -/
def writeText (t : FileTree) (p : Path) (text : String) : Except Fault FileTree :=
  t.write p text.toUTF8

/-- Removes a file. -/
def remove (t : FileTree) (p : Path) : Except Fault FileTree := do
  let l ← t.locate p
  match t.lookup? l with
  | none => .error .notFound
  | some .directory => .error .isADirectory
  | some (.file _) => .ok (t.drop l)

/-- Follows the pieces from a location and makes a directory of each name that is
vacant. The last piece may not be a file. -/
def makeDirectories (t : FileTree) (here : Location) : List String → Except Fault Unit × FileTree
  | [] => (.ok (), t)
  | piece :: rest =>
    match t.follow here piece with
    | .error f => (.error f, t)
    | .ok next =>
      match t.lookup? next with
      | none => (t.put next .directory).makeDirectories next rest
      | some .directory => t.makeDirectories next rest
      | some (.file _) =>
        (.error (if rest.all Path.isIdle then .exists else .notADirectory), t)

/-- Makes a directory and every missing directory on the way to it. Directories
made before a fault stay. -/
def createDirectory (t : FileTree) (p : Path) : Except Fault Unit × FileTree :=
  match checkPath p with
  | .error fault => (.error fault, t)
  | .ok () =>
    let (start, pieces) := t.origin p
    t.makeDirectories start pieces

/-- The name and the entry of everything directly below a location, in the order of
the names. -/
def childrenOf (t : FileTree) (l : Location) : List (String × Entry) :=
  t.entries.toList.filterMap fun (l', e) =>
    if l'.dropLast = l then l'.getLast?.map (·, e) else none

/-- The names in a directory, in order. -/
def names (t : FileTree) (p : Path) : Except Fault (List String) := do
  let l ← t.locate p
  match t.lookup? l with
  | none => .error .notFound
  | some (.file _) => .error .notADirectory
  | some .directory => .ok ((t.childrenOf l).map Prod.fst)

/-- The tree without a location and everything below it. -/
def prune (t : FileTree) (l : Location) : FileTree :=
  { t with entries := t.entries.filter fun l' _ => !l.isPrefixOf l' }

/-- Puts a file with some content, or a directory if there is none, at a path, and makes
the directories on the way. What cannot be put is left out. -/
def plant (t : FileTree) (p : Path) (content : Option ByteArray) : FileTree :=
  match content with
  | none => (t.createDirectory p).2
  | some content =>
    let t := match p.parent? with
      | some directory => (t.createDirectory directory).2
      | none => t
    match t.write p content with
    | .ok t => t
    | .error _ => t

/-- What stands at the ends of the tree below a location: every file and every empty
directory, with the way to it from there. -/
def leavesBelow (t : FileTree) (l : Location) : List (Location × Entry) :=
  t.entries.toList.filterMap fun (l', e) =>
    if l.isPrefixOf l' && l' != l && (e != .directory || (t.childrenOf l').isEmpty) then
      some (l'.drop l.length, e)
    else none

@[simp] theorem lookup?_root (t : FileTree) : t.lookup? [] = some .directory := rfl

/-- Putting an entry shows at its own location only. -/
theorem lookup?_put (t : FileTree) {l : Location} (e : Entry) (hl : l ≠ []) (l' : Location) :
    (t.put l e).lookup? l' = if l' = l then some e else t.lookup? l' := by
  by_cases h : l' = l
  · subst h
    simp [lookup?, put, hl]
  · simp [lookup?, put, h, Std.ExtTreeMap.getElem?_insert, Ne.symm h]

/-- Dropping an entry shows at its own location only. -/
theorem lookup?_drop (t : FileTree) {l : Location} (hl : l ≠ []) (l' : Location) :
    (t.drop l).lookup? l' = if l' = l then none else t.lookup? l' := by
  by_cases h : l' = l
  · subst h
    simp [lookup?, drop, hl]
  · simp [lookup?, drop, h, Std.ExtTreeMap.getElem?_erase, Ne.symm h]

end FileTree

end TunnelFleet
