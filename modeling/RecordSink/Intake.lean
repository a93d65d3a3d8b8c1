import RecordSink.Sink

/-!
# Input

Lines of input on their way into a sink file: each line is a record, and a full buffer is synced
before the next one is taken.
-/

namespace RecordSink.Intake

/-- Why the input ended before its end. -/
inductive InputError where
  /-- A line is no text. -/
  | notText
  | sink (cause : SinkError)
  deriving DecidableEq, Repr

/-- The wording of an input error. -/
def InputError.message : InputError → String
  | .notText => "stream did not contain valid UTF-8"
  | .sink cause => cause.message

/-- A line without its end. A carriage return belongs to the end only in front of a line feed. -/
def withoutReturn (line : Bytes) : Bytes :=
  if line.getLast? = some 0x0D then line.dropLast else line

/-- The ended lines of pieces between line feeds; what follows the last line feed is a line where
it is not empty. -/
def linesOfPieces : List Bytes → List Bytes
  | [] => []
  | [last] => if last = [] then [] else [last]
  | piece :: next :: rest => withoutReturn piece :: linesOfPieces (next :: rest)

/-- The lines of an input. -/
def lines (input : Bytes) : List Bytes := linesOfPieces (input.splitOn 0x0A)

variable {W : Type}

/-- Makes room for a record. -/
def makeRoom (store : RemoteStore W) (file : SinkFile) : StateM W (Except SinkError Unit × SinkFile) :=
  if file.isFull then file.sync store else return (.ok (), file)

/-- Appends every line, syncing whenever the buffer is full. -/
def copy (store : RemoteStore W) :
    List Bytes → SinkFile → StateM W (Except InputError Unit × SinkFile)
  | [], file => return (.ok (), file)
  | line :: rest, file => do
      if line.text?.isNone then return (.error .notText, file)
      match ← makeRoom store file with
      | (.error cause, file) => return (.error (.sink cause), file)
      | (.ok (), file) =>
          match file.append line with
          | (.error cause, file) => return (.error (.sink cause), file)
          | (.ok (), file) => copy store rest file

end RecordSink.Intake
