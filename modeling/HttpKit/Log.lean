import HttpKit.Text.Casing

/-!
# Logs

Entries have a severity. What is too severe to be left out is set by the name of a level.
-/

namespace HttpKit

/-- The severity of a log entry. -/
abbrev Level := Int

namespace Level

def debug : Level := 10

def info : Level := 20

def warning : Level := 30

def error : Level := 40

def critical : Level := 50

/-- The level's name in the log. -/
def name (level : Level) : String :=
  if level = debug then "DEBUG"
  else if level = info then "INFO"
  else if level = warning then "WARNING"
  else if level = error then "ERROR"
  else if level = critical then "CRITICAL"
  else s!"Level {level}"

/-- A name that is taken by something else than a level. -/
inductive NotLevel where
  /-- The usual format of a line. -/
  | format
  /-- The table of the styles that a format may have. -/
  | styles
  deriving DecidableEq, Repr

/-- What is said about it: what the name stands for is shown. -/
def NotLevel.message : NotLevel → String
  | format => "Unknown level: '%(levelname)s:%(name)s:%(message)s'"
  | styles =>
    "Level not an integer or a valid string: \x7b'%': (<class 'logging.PercentStyle'>, "
      ++ "'%(levelname)s:%(name)s:%(message)s'), '\x7b': (<class 'logging.StrFormatStyle'>, "
      ++ "'\x7blevelname\x7d:\x7bname\x7d:\x7bmessage\x7d'), "
      ++ "'$': (<class 'logging.StringTemplateStyle'>, "
      ++ "'$\x7blevelname\x7d:$\x7bname\x7d:$\x7bmessage\x7d')\x7d"

/-- The least severity that is logged when the level is set to a name in any casing. A name that
stands for nothing counts as `INFO`. -/
def threshold (name : String) : Except NotLevel Level :=
  match Text.upper name with
  | "NOTSET" => .ok 0
  | "DEBUG" => .ok debug
  | "WARN" | "WARNING" => .ok warning
  | "ERROR" => .ok error
  | "FATAL" | "CRITICAL" => .ok critical
  | "BASIC_FORMAT" => .error .format
  | "_STYLES" => .error .styles
  | _ => .ok info

end Level

/-- A line of a log. -/
structure LogEntry where
  level : Level
  text : String

end HttpKit
