import HttpKit.Bytes.Utf8
import HttpKit.Text.Hex
import HttpKit.Text.Split

/-!
# Query strings

Names and values of a form: pairs between ampersands, a name before the first equals sign, a plus
for a blank, and percent escapes of UTF-8 bytes.
-/

namespace HttpKit.Query

/-- The byte of the two hexadecimal digits that a text starts with. -/
def escape? : List Char → Option UInt8
  | hi :: lo :: _ => do
    let h ← Text.hexValue? hi
    let l ← Text.hexValue? lo
    return UInt8.ofNat (16 * h + l)
  | _ => none

/-- Bytes of an ASCII text with its percent escapes resolved. A percent sign that starts no escape
stands for itself. `done` holds the bytes before, in reverse. -/
def percentBytes (done : Bytes) : List Char → Bytes
  | [] => done.reverse
  | c :: rest =>
    if c = '%' then
      match escape? rest with
      | some b => percentBytes (b :: done) (rest.drop 2)
      | none => percentBytes (0x25 :: done) rest
    else percentBytes (UInt8.ofNat c.toNat :: done) rest
  termination_by cs => cs.length
  decreasing_by all_goals simp only [List.length_cons, List.length_drop]; omega

/-- The text of a run of ASCII characters, given in reverse. -/
def decodeRun (run : List Char) : List Char := Utf8.decode (percentBytes [] run.reverse)

/-- Decodes a text run by run: escapes within a run of ASCII characters make up characters
together, and other characters stand for themselves. Both arguments are in reverse. -/
def decodeRuns (done run : List Char) : List Char → List Char
  | [] => (decodeRun run).reverseAux done |>.reverse
  | c :: rest =>
    if c.toNat < 0x80 then decodeRuns done (c :: run) rest
    else decodeRuns (c :: (decodeRun run).reverseAux done) [] rest

/-- Resolves the percent escapes of a text. -/
def percentDecode (cs : List Char) : List Char :=
  if cs.contains '%' then decodeRuns [] [] cs else cs

/-- A name or a value: pluses are blanks, escapes are resolved. -/
def decodeComponent (cs : List Char) : String :=
  String.ofList (percentDecode (cs.map fun c => if c = '+' then ' ' else c))

/-- The pair written between two ampersands. Without an equals sign the value is empty. -/
def pairOf (cs : List Char) : String × String :=
  let (name, value) := Text.cut '=' cs
  (decodeComponent name, decodeComponent (value.getD []))

/-- The pairs of a query string in order. Nothing between two ampersands is no pair. -/
def pairs (query : String) : List (String × String) :=
  ((Text.pieces '&' query.toList).filter fun cs => !cs.isEmpty).map pairOf

/-- The first value of a name. -/
def first? (query name : String) : Option String :=
  ((pairs query).find? (·.1 = name)).map Prod.snd

end HttpKit.Query
