import HttpKit.CommandLine.Switch
import HttpKit.Text.Digit
import HttpKit.Text.Split

/-!
# Words of the command line

A word that starts with a dash names a switch, in full or by the beginning of a long name, and may
hold more behind an equals sign or behind a letter. Behind a lone double dash every word is a value.
-/

namespace HttpKit.CommandLine

/-- A switch as it is named in a word. -/
structure Use where
  switch : Switch
  /-- Whether it is named by a letter. -/
  isLetter : Bool
  /-- What is written behind it in the same word. -/
  attached : Option (List Char)

/-- What a word is. -/
inductive Word where
  | value (text : String)
  | separator
  | use (u : Use)
  /-- It looks like a switch and is none. -/
  | unknown (text : String)

/-- Whether a name is a dash and a letter. -/
def isLetterName (name : String) : Bool := (name.toList.drop 1).head? != some '-'

/-- Whether a word is a number below zero: a whole one, or one with digits behind a point. A line
feed may end it. -/
def isNegativeNumber (word : String) : Bool :=
  match word.toList with
  | '-' :: cs =>
    let cs := if cs.getLast? = some '\n' then cs.dropLast else cs
    let (whole, rest) := cs.span Text.isDigit
    match rest with
    | [] => !whole.isEmpty
    | '.' :: fraction => !fraction.isEmpty && fraction.all Text.isDigit
    | _ => false
  | _ => false

/-- The uses that the beginning of a long name may stand for, with the names. -/
def longCandidates (word : String) : List (String × Use) :=
  let (start, value) := Text.cut '=' word.toList
  (Switch.table.filter fun entry => start.isPrefixOf entry.1.toList).map fun (name, switch) =>
    (name, ⟨switch, isLetterName name, value⟩)

/-- The use of a letter with what is written behind it. -/
def letterCandidates (word : String) : List (String × Use) :=
  let name := String.ofList (word.toList.take 2)
  match Switch.ofName? name with
  | some switch => [(name, ⟨switch, true, some (word.toList.drop 2)⟩)]
  | none => []

/-- The uses that a word may stand for when it holds no name in full. -/
def candidates (word : String) : List (String × Use) :=
  if isLetterName word then letterCandidates word else longCandidates word

/-- The use of a name in full, alone or before an equals sign. -/
def named? (word : String) : Option Use :=
  match Switch.ofName? word with
  | some switch => some ⟨switch, isLetterName word, none⟩
  | none =>
    match Text.cut '=' word.toList with
    | (name, some value) =>
      (Switch.ofName? (String.ofList name)).map fun switch =>
        ⟨switch, isLetterName (String.ofList name), some value⟩
    | (_, none) => none

/-- What a word before the lone double dash is. -/
def Word.ofString (word : String) : Except UsageError Word :=
  if word.toList.head? ≠ some '-' then .ok (.value word)
  else
    match named? word with
    | some u => .ok (.use u)
    | none =>
      if word = "-" then .ok (.value word)
      else
        match candidates word with
        | [(_, u)] => .ok (.use u)
        | [] =>
          if isNegativeNumber word || word.toList.contains ' ' then .ok (.value word)
          else .ok (.unknown word)
        | several => .error (.ambiguous word (several.map Prod.fst))

/-- What the words of a command line are. The first one that is ambiguous is refused. -/
def Word.ofStrings : List String → Except UsageError (List Word)
  | [] => .ok []
  | word :: rest =>
    if word = "--" then .ok (.separator :: rest.map .value)
    else do
      let first ← Word.ofString word
      let others ← Word.ofStrings rest
      return first :: others

end HttpKit.CommandLine
