import HttpKit.CommandLine.Word
import HttpKit.Settings

/-!
# Command line

The words of a command line are taken in order. A switch that ends the program does so at once, a
value that is not allowed is refused at once, and words that belong to nothing are refused last.
-/

namespace HttpKit.CommandLine

/-- What the command line says about the access log. -/
inductive AccessChoice where
  | lines (format : LineFormat)
  | off
  deriving DecidableEq, Repr

namespace AccessChoice

/-- The choice as it is written. -/
def name : AccessChoice → String
  | lines format => format.name
  | off => "off"

/-- The choice of a name. -/
def ofName? (name : String) : Option AccessChoice :=
  if name = "off" then some off else (LineFormat.ofName? name).map lines

end AccessChoice

/-- What the command line sets. Of each the last value counts. -/
structure Options where
  host : Option (Setting String)
  port : Option (Setting Int)
  logLevel : Option (Setting String)
  accessLog : Option (Setting AccessChoice)
  certificate : Option (Setting String)
  key : Option (Setting String)

namespace Options

/-- Nothing set. -/
def none : Options := ⟨.none, .none, .none, .none, .none, .none⟩

/-- Whether the access log is switched off. -/
def isSilent (o : Options) : Bool :=
  match o.accessLog with
  | some (.value .off) => true
  | _ => false

/-- The settings with what the command line sets in place of theirs. -/
def overlay (o : Options) (s : Settings) : Settings :=
  { s with
    host := o.host.getD s.host
    port := o.port.getD s.port
    logLevel := o.logLevel.getD s.logLevel
    logFormat := match o.accessLog with
      | some (.value (.lines format)) => .value format.name
      | some .blank => .blank
      | some (.value .off) | .none => s.logFormat
    certificate := o.certificate <|> s.certificate
    key := o.key <|> s.key }

/-- Sets a switch to a value. -/
def set (o : Options) (switch : Switch) (value : String) : Except UsageError Options :=
  match switch with
  | .host => .ok { o with host := some (.value value) }
  | .port =>
    match Numeral.whole value with
    | .ok n => .ok { o with port := some (.value n) }
    | .error _ => .error (.notWhole switch value)
  | .logLevel =>
    if switch.choices.contains value then .ok { o with logLevel := some (.value value) }
    else .error (.notAllowed switch value)
  | .accessLog =>
    match AccessChoice.ofName? value with
    | some choice => .ok { o with accessLog := some (.value choice) }
    | .none => .error (.notAllowed switch value)
  | .certificate => .ok { o with certificate := some (.value value) }
  | .key => .ok { o with key := some (.value value) }
  | .help | .version => .ok o

/-- Sets a switch to nothing at all. -/
def clear (o : Options) : Switch → Options
  | .host => { o with host := some .blank }
  | .port => { o with port := some .blank }
  | .logLevel => { o with logLevel := some .blank }
  | .accessLog => { o with accessLog := some .blank }
  | .certificate => { o with certificate := some .blank }
  | .key => { o with key := some .blank }
  | .help | .version => o

/-- Sets a switch to what is written for it. A double dash is no value, and nothing at all is
allowed for every switch. -/
def assign (o : Options) (switch : Switch) (text : String) : Except UsageError Options :=
  if text = "--" then .ok (o.clear switch) else o.set switch text

end Options

/-- What the command line asks for. -/
inductive Command where
  | help
  | version
  | run (options : Options)

/-- How a word with switches ends. -/
inductive Ending where
  /-- With a switch that needs no more. -/
  | complete
  /-- With a value for a switch. -/
  | value (switch : Switch) (text : String)
  /-- With a switch whose value is the next word. -/
  | awaiting (switch : Switch)

/-- The switches without a value in a word, in order, and how the word ends. Behind a letter
without a value stands the next letter, until one of them takes what is left as its value. What is
neither is not called for. -/
def unfold (switch : Switch) (isLetter : Bool) (attached : Option (List Char)) :
    Except UsageError (List Switch × Ending) :=
  match attached with
  | none => .ok (if switch.takesValue then ([], .awaiting switch) else ([switch], .complete))
  | some cs =>
    if switch.takesValue then .ok ([], .value switch (String.ofList cs))
    else
      match cs with
      | [] => .error (.uncalledFor switch "")
      | c :: rest =>
        match if isLetter then Switch.ofName? (String.ofList ['-', c]) else none with
        | none => .error (.uncalledFor switch (String.ofList cs))
        | some next => do
          let (switches, ending) ← unfold next true (if rest.isEmpty then none else some rest)
          return (switch :: switches, ending)
  termination_by (attached.map fun cs => cs.length + 1).getD 0
  decreasing_by
    cases rest <;> simp

/-- The command that a switch without a value is. -/
def commandOf? : Switch → Option Command
  | .help => some .help
  | .version => some .version
  | _ => none

/-- Takes the words one after the other. `extra` holds those that belong to nothing, the last
first. -/
def take (options : Options) (extra : List String) : List Word → Except UsageError Command
  | [] => if extra.isEmpty then .ok (.run options) else .error (.unrecognized extra.reverse)
  | .value text :: rest => take options (text :: extra) rest
  | .separator :: rest => take options ("--" :: extra) rest
  | .unknown text :: rest => take options (text :: extra) rest
  | .use u :: rest =>
    match unfold u.switch u.isLetter u.attached with
    | .error e => .error e
    | .ok (switches, ending) =>
      let command? := switches.findSome? commandOf?
      match ending, rest with
      | .awaiting switch, .value text :: rest =>
        match command?, options.assign switch text with
        | some command, _ => .ok command
        | none, .ok options => take options extra rest
        | none, .error e => .error e
      | .awaiting switch, _ => .error (.missingValue switch)
      | .value switch text, rest =>
        match command?, options.assign switch text with
        | some command, _ => .ok command
        | none, .ok options => take options extra rest
        | none, .error e => .error e
      | .complete, rest =>
        match command? with
        | some command => .ok command
        | none => take options extra rest

/-- What a command line asks for. -/
def parse (words : List String) : Except UsageError Command := do
  take .none [] (← Word.ofStrings words)

end HttpKit.CommandLine
