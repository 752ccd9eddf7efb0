/-!
# Files

The files that a command can see, as far as it can tell: what it reads under a path, and what
becomes of the bytes that it writes there. A file is written in two steps. It is opened, which makes
it or empties it, and then it takes the bytes in their order, all of them or as many as it can.

## Main definitions

* `FileError` — why a file cannot be read or written.
* `Sink` — a file that is open for writing.
* `Files` — the answers of a file system to reads and writes.
* `Files.save` — writing a file.
-/

namespace PixelMath.Command

/-- Why a file cannot be read or written, in the words and under the number of the operating
system. -/
structure FileError where
  reason : String
  code : Nat
deriving DecidableEq, Repr

namespace FileError

/-- There is nothing under the path. -/
def notFound : FileError := ⟨"No such file or directory", 2⟩

/-- The path goes through a file. -/
def notDirectory : FileError := ⟨"Not a directory", 20⟩

/-- There is a directory under the path. -/
def isDirectory : FileError := ⟨"Is a directory", 21⟩

/-- The path or one of its names is too long. -/
def nameTooLong : FileError := ⟨"File name too long", 36⟩

/-- There is no room for what is written. -/
def noSpace : FileError := ⟨"No space left on device", 28⟩

/-- The text of the error. -/
def message (e : FileError) : String :=
  s!"{e.reason} (os error {e.code})"

end FileError

/-- Why a text cannot be read from a file. -/
inductive TextError where
  /-- The file cannot be read. -/
  | file (e : FileError)
  /-- Its bytes are no text. -/
  | notText
deriving DecidableEq, Repr

/-- The text of the error. -/
def TextError.message : TextError → String
  | file e => e.message
  | notText => "stream did not contain valid UTF-8"

/-- A file that is open for writing, and empty. -/
inductive Sink where
  /-- The file takes every byte. -/
  | unlimited
  /-- The file takes the first `room` bytes and has an error for the next one. -/
  | limited (room : Nat) (e : FileError)
deriving DecidableEq, Repr

namespace Sink

/-- What the file takes of some bytes. -/
def taken : Sink → List UInt8 → List UInt8
  | unlimited, bytes => bytes
  | limited room _, bytes => bytes.take room

/-- The error that a file has for so many bytes, if it does not take them all. -/
def error? : Sink → Nat → Option FileError
  | unlimited, _ => none
  | limited room e, count => if room < count then some e else none

variable {sink : Sink} {bytes : List UInt8}

theorem taken_isPrefix (sink : Sink) (bytes : List UInt8) : sink.taken bytes <+: bytes := by
  cases sink with
  | unlimited => exact List.prefix_rfl
  | limited room e => exact List.take_prefix room bytes

/-- A file takes all bytes exactly if it has no error for them. -/
theorem taken_eq_iff : sink.taken bytes = bytes ↔ sink.error? bytes.length = none := by
  cases sink with
  | unlimited => exact iff_of_true rfl rfl
  | limited room e =>
    rw [taken, error?, ite_eq_right_iff]
    refine ⟨fun h hlt => ?_, fun h => List.take_of_length_le (Nat.le_of_not_lt fun hlt => ?_)⟩
    · have hle := List.length_take_le room bytes
      rw [h] at hle
      exact absurd hlt (Nat.not_lt.mpr hle)
    · exact nomatch h hlt

end Sink

/-- What a file system has done to write a file. -/
structure Saving where
  /-- The path and the bytes that were taken there, if the file was opened. -/
  written? : Option (String × ByteArray) := none
  /-- The error that came up, if one did. -/
  error? : Option FileError := none

/-- The answers of a file system. -/
structure Files where
  /-- The bytes under a path. -/
  read : String → Except FileError ByteArray
  /-- Opens the file under a path for writing. A file that is not there is made, and one that is
  there is emptied. -/
  create : String → Except FileError Sink

namespace Files

/-- Writes bytes under a path. -/
def save (files : Files) (path : String) (bytes : List UInt8) : Saving :=
  match files.create path with
  | .error e => { error? := some e }
  | .ok sink =>
    { written? := some (path, ⟨(sink.taken bytes).toArray⟩)
      error? := sink.error? bytes.length }

/-- Why so many bytes cannot be written under a path, if they cannot. -/
def refusal? (files : Files) (path : String) (count : Nat) : Option FileError :=
  match files.create path with
  | .error e => some e
  | .ok sink => sink.error? count

/-- The text under a path. -/
def readText (files : Files) (path : String) : Except TextError String :=
  match files.read path with
  | .error e => .error (.file e)
  | .ok bytes =>
    match String.fromUTF8? bytes with
    | some text => .ok text
    | none => .error .notText

variable {files : Files} {path : String} {bytes : List UInt8}

theorem error?_save (files : Files) (path : String) (bytes : List UInt8) :
    (files.save path bytes).error? = files.refusal? path bytes.length := by
  rw [save, refusal?]
  cases files.create path <;> rfl

theorem written?_save_of_create {sink : Sink} (h : files.create path = .ok sink) :
    (files.save path bytes).written? = some (path, ⟨(sink.taken bytes).toArray⟩) := by
  rw [save, h]

/-- When all bytes can be written, they are. -/
theorem written?_save_of_refusal? (h : files.refusal? path bytes.length = none) :
    (files.save path bytes).written? = some (path, ⟨bytes.toArray⟩) := by
  cases hcreate : files.create path with
  | error e =>
    rw [refusal?, hcreate] at h
    cases h
  | ok sink =>
    rw [refusal?, hcreate] at h
    rw [written?_save_of_create hcreate, Sink.taken_eq_iff.mpr h]

end Files

end PixelMath.Command
