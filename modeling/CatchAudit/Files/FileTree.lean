/-
A file system as a value: directories, files with their bytes, and a current directory. Looking up,
reading, making directories and writing fail with the reasons an operating system gives. There are no
permissions, so that nothing refuses to be looked at, and no symbolic links.
-/
import CatchAudit.Document.Basic
import CatchAudit.Files.Path
import CatchAudit.Text.Quoted

namespace CatchAudit

inductive Entry where
  | file (bytes : List UInt8)
  | directory (entries : List (String × Entry))
  deriving Inhabited

inductive FileReason where
  | noSuchFile
  | fileExists
  | notADirectory
  | isADirectory
  | nameTooLong
  /-- A null character stands in the path. -/
  | nullInPath
  /-- Any other reason, such as a lack of permission, with its number and words. No `FileTree` gives one. -/
  | other (code : Nat) (words : String)
  deriving DecidableEq, Repr

namespace FileReason

def code : FileReason → Nat
  | .noSuchFile => 2
  | .fileExists => 17
  | .notADirectory => 20
  | .isADirectory => 21
  | .nameTooLong => 36
  | .nullInPath => 22
  | .other code _ => code

def words : FileReason → String
  | .noSuchFile => "No such file or directory"
  | .fileExists => "File exists"
  | .notADirectory => "Not a directory"
  | .isADirectory => "Is a directory"
  | .nameTooLong => "File name too long"
  | .nullInPath => "embedded null byte"
  | .other _ words => words

/-- Whether the `FileReason` means that nothing is there. -/
def isAbsence : FileReason → Bool
  | .noSuchFile | .notADirectory | .nullInPath => true
  | _ => false

end FileReason

/-- A failed operation on a path. -/
structure FileError where
  reason : FileReason
  path : String
  deriving DecidableEq, Repr

def FileError.message (e : FileError) : String :=
  if e.reason = .nullInPath then e.reason.words
  else "[Errno " ++ toString e.reason.code ++ "] " ++ e.reason.words ++ ": " ++ Text.quoted e.path

/-- The root directory, and the parts of the path of the current directory. -/
structure FileTree where
  root : List (String × Entry)
  current : List String
  deriving Inhabited

namespace FileTree

/-- The parts of a path from the root directory on. -/
def fullParts (t : FileTree) (p : Path) : List String :=
  if p.isAbsolute then p.parts else t.current ++ p.parts

/-- The greatest number of bytes in a name. -/
def maxNameBytes : Nat := 255

/-- The greatest number of bytes in a path. -/
def maxPathBytes : Nat := 4095

/-- Follows parts from an entry; `above` are the directories on the way, nearest first. -/
def follow (above : List Entry) (here : Entry) : List String → Except FileReason Entry
  | [] => .ok here
  | part :: rest =>
    match here with
    | .file _ => .error .notADirectory
    | .directory entries =>
      if part = ".." then
        match above with
        | [] => follow [] here rest
        | up :: above => follow above up rest
      else if maxNameBytes < part.utf8ByteSize then .error .nameTooLong
      else match memberOf? part entries with
        | none => .error .noSuchFile
        | some e => follow (here :: above) e rest

def find (t : FileTree) (p : Path) : Except FileReason Entry :=
  if p.text.toList.contains '\x00' then .error .nullInPath
  else if maxPathBytes < p.text.utf8ByteSize then .error .nameTooLong
  else follow [] (.directory t.root) (t.fullParts p)

/-- What is at a path, if anything; a reason that `isAbsence` means that nothing is. -/
def look (t : FileTree) (p : Path) : Except FileError (Option Entry) :=
  match t.find p with
  | .ok entry => .ok (some entry)
  | .error reason => if reason.isAbsence then .ok none else .error ⟨reason, p.text⟩

def exists? (t : FileTree) (p : Path) : Except FileError Bool := return (← t.look p).isSome

def isFile (t : FileTree) (p : Path) : Except FileError Bool := do
  match ← t.look p with
  | some (.file _) => return true
  | _ => return false

def isDirectory (t : FileTree) (p : Path) : Except FileError Bool := do
  match ← t.look p with
  | some (.directory _) => return true
  | _ => return false

/-- The entries of a directory. -/
def list (t : FileTree) (p : Path) : Except FileError (List (String × Entry)) :=
  match t.find p with
  | .ok (.directory entries) => .ok entries
  | .ok (.file _) => .error ⟨.notADirectory, p.text⟩
  | .error reason => .error ⟨reason, p.text⟩

/-- The bytes of a file. -/
def read (t : FileTree) (p : Path) : Except FileError (List UInt8) :=
  match t.find p with
  | .ok (.file bytes) => .ok bytes
  | .ok (.directory _) => .error ⟨.isADirectory, p.text⟩
  | .error reason => .error ⟨reason, p.text⟩

/-! ## Changes -/

/-- The parts from the root once two dots have been followed; `done` is reversed. -/
def straighten (done : List String) : List String → List String
  | [] => done.reverse
  | part :: rest => if part = ".." then straighten done.tail rest else straighten (part :: done) rest

/-- Puts an entry at straight parts; missing directories on the way are made. -/
def place (entry : Entry) : List String → List (String × Entry) → List (String × Entry)
  | [], entries => entries
  | [part], entries => setMember part entry entries
  | part :: rest, entries =>
    let inner := match memberOf? part entries with
      | some (.directory inner) => inner
      | _ => []
    setMember part (.directory (place entry rest inner)) entries

def put (t : FileTree) (p : Path) (entry : Entry) : FileTree :=
  { t with root := place entry (straighten [] (t.fullParts p)) t.root }

/-- Makes one directory in a directory that is there. -/
def makeDirectory (t : FileTree) (p : Path) : Except FileReason FileTree :=
  match t.find p with
  | .ok _ => .error .fileExists
  | .error .noSuchFile =>
    match t.find p.parent with
    | .ok (.directory _) => .ok (t.put p (.directory []))
    | .ok (.file _) => .error .notADirectory
    | .error reason => .error reason
  | .error reason => .error reason

/-- Makes a directory and those above it, `fuel` of them at most; one that is there is kept. -/
def ensureFrom (t : FileTree) : (fuel : Nat) → Path → Except FileError FileTree
  | 0, p => .error ⟨.noSuchFile, p.text⟩
  | fuel + 1, p =>
    let keep (t : FileTree) (reason : FileReason) : Except FileError FileTree := do
      if ← t.isDirectory p then return t else throw ⟨reason, p.text⟩
    match t.makeDirectory p with
    | .ok t => .ok t
    | .error .noSuchFile =>
      if p.parts.isEmpty then .error ⟨.noSuchFile, p.text⟩
      else do
        let t ← ensureFrom t fuel p.parent
        match t.makeDirectory p with
        | .ok t => .ok t
        | .error reason => keep t reason
    | .error reason => keep t reason

def ensureDirectory (t : FileTree) (p : Path) : Except FileError FileTree :=
  ensureFrom t (p.parts.length + 1) p

/-- Writes a file in a directory that is there. -/
def write (t : FileTree) (p : Path) (bytes : List UInt8) : Except FileError FileTree :=
  match t.find p with
  | .ok (.file _) => .ok (t.put p (.file bytes))
  | .ok (.directory _) => .error ⟨.isADirectory, p.text⟩
  | .error .noSuchFile =>
    match t.find p.parent with
    | .ok (.directory _) => .ok (t.put p (.file bytes))
    | .ok (.file _) => .error ⟨.notADirectory, p.text⟩
    | .error reason => .error ⟨reason, p.text⟩
  | .error reason => .error ⟨reason, p.text⟩

end FileTree

end CatchAudit
