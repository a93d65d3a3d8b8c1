import RecordSink.Text

/-!
# Logging settings

The format and the level of log lines. Settings that cannot be read are replaced by the standard
ones.
-/

namespace RecordSink

/-- The format of log lines. -/
inductive LogFormat where
  | text
  | json
  deriving DecidableEq, Repr, Inhabited

namespace LogFormat

/-- The name of a format. -/
def name : LogFormat → String
  | .text => "text"
  | .json => "json"

/-- The format of a written name, or the name that is unknown. Case and blanks around it do not
count. -/
def read (written : String) : Except String LogFormat :=
  let name := Text.asciiLower (Text.trimmed written)
  if name = "text" ∨ name = "pretty" then .ok .text
  else if name = "json" then .ok .json
  else .error name

/-- The wording where a name is unknown. -/
def unknownMessage (name : String) : String := "unknown log format '" ++ name ++ "'"

end LogFormat

/-- The settings for log lines. -/
structure LogSettings where
  format : LogFormat
  /-- What is logged. -/
  level : String
  deriving DecidableEq, Repr, Inhabited

namespace LogSettings

/-- The settings where none are given. -/
def standard : LogSettings := { format := .text, level := "info" }

/-- The settings of written ones. -/
def ofWritten (format level : Option String) : LogSettings :=
  { format := match format.map LogFormat.read with
      | some (.ok format) => format
      | _ => standard.format
    level := match level.map Text.trimmed with
      | some level => if level = "" then standard.level else level
      | none => standard.level }

/-! ## Levels -/

/-- The name or the number of a level. -/
def isLevel (written : String) : Bool :=
  ["trace", "debug", "info", "warn", "error", "off", "0", "1", "2", "3", "4", "5"].contains
    (Text.asciiLower written)

/-- A character of the name of a part of a program. -/
def isPartChar (char : Char) : Bool :=
  char.isAlphanum || char == '_' || char == '-' || char == ':' || char == '.'

/-- One rule of a level: a level alone, or a part of a program with or without one. -/
def isRule (written : String) : Bool :=
  let chars := written.toList
  let part := chars.takeWhile isPartChar
  isLevel written
    || (!part.isEmpty && match chars.dropWhile isPartChar with
      | [] => true
      | ['='] => true
      | '=' :: level => isLevel (String.ofList level)
      | _ => false)

/-- The level is a list of rules, separated by commas. -/
def isLevelValid (settings : LogSettings) : Bool :=
  ((settings.level.toList.splitOn ',').filter (· ≠ [])).all fun rule => isRule (String.ofList rule)

end LogSettings

end RecordSink
