/-!
# Files — what reading a file gives

1. `FileError`, why a file has no text, with its wording;
2. `FileSystem`, what reading each path gives;
3. `FileSystem.text`.
-/

namespace FleetLifecycle

/-- Why a file has no text. -/
inductive FileError where
  | notFound
  /-- A part of the path is a file. -/
  | notDirectory
  | isDirectory
  /-- The bytes are no UTF-8 text. -/
  | notText
  /-- The machine refuses to read the file. -/
  | refused (reason : String)
  deriving DecidableEq, Repr

namespace FileError

def message : FileError → String
  | .notFound => "No such file or directory (os error 2)"
  | .notDirectory => "Not a directory (os error 20)"
  | .isDirectory => "Is a directory (os error 21)"
  | .notText => "stream did not contain valid UTF-8"
  | .refused reason => reason

end FileError

abbrev FileSystem : Type := String → Except FileError ByteArray

namespace FileSystem

def text (files : FileSystem) (path : String) : Except FileError String := do
  let bytes ← files path
  match String.fromUTF8? bytes with
  | some s => .ok s
  | none => .error .notText

end FileSystem
end FleetLifecycle
