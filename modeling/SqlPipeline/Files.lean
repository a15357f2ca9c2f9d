import SqlPipeline.Error

/-!
Directories as trees of names. A path is a list of steps from a directory, of which `.` and an
empty one stay where they are and `..` goes back to the directory around. Around the directories
that are known there is nothing but empty ones. Reading fails on what is no text.
-/

namespace SqlPipeline

inductive FileEntry where
  | file (content : ByteArray)
  | directory (entries : List (String × FileEntry))

namespace FileEntry

def ofText (text : String) : FileEntry := .file text.toUTF8

/-- How many bytes a step of a path may have, and how many a path. -/
def stepLimit : Nat := 255

def pathLimit : Nat := 4095

/-- What stands at the end of a path, given the directories around, the innermost first. -/
def find? : List String → List FileEntry → FileEntry → Except FileFault FileEntry
  | [], _, entry => .ok entry
  | _ :: _, _, .file _ => .error .throughFile
  | step :: rest, around, .directory entries =>
      if step = "" ∨ step = "." then find? rest around (.directory entries)
      else if step = ".." then find? rest around.tail (around.head?.getD (.directory []))
      else if stepLimit < step.utf8ByteSize then .error .nameTooLong
      else
        match entries.lookup step with
        | some entry => find? rest (.directory entries :: around) entry
        | none => .error .missing

def text? : FileEntry → Except FileFault String
  | .file content => (String.fromUTF8? content).elim (.error .notText) .ok
  | .directory _ => .error .directory

theorem text?_ofText (text : String) : (ofText text).text? = .ok text := by
  have whole : String.fromUTF8? text.toUTF8 = some text := by
    simp only [String.fromUTF8?, String.toUTF8_eq_toByteArray, dif_pos text.isValidUTF8]
    rfl
  simp only [ofText, text?, whole, Option.elim]

end FileEntry

/-- A directory and the path under which it is known. -/
structure Folder where
  path : String
  entries : List (String × FileEntry)

namespace Folder

/-- Whether a path begins at the root of all directories. -/
def isAbsolute (file : String) : Bool := file.toList.head? == some '/'

def pathOf (folder : Folder) (file : String) : String :=
  if isAbsolute file then file else folder.path ++ "/" ++ file

def find? (folder : Folder) (file : String) : Except FileFault FileEntry :=
  if file.toList.contains '\x00' then .error .zeroByte
  else if FileEntry.pathLimit < (folder.pathOf file).utf8ByteSize then .error .nameTooLong
  else
    FileEntry.find? (file.splitOn "/") []
      (.directory (if isAbsolute file then [] else folder.entries))

def holds (folder : Folder) (file : String) : Bool := (folder.find? file).isOk

/-- The text of a file. -/
def read (folder : Folder) (file : String) : Except ProjectError String :=
  match folder.find? file >>= FileEntry.text? with
  | .ok text => .ok text
  | .error fault => .error (.unreadable (folder.pathOf file) fault)

end Folder
end SqlPipeline
