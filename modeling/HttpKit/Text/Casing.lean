import HttpKit.Text.CaseTable

/-!
# Upper, lower and title case

The full case mappings of a text: one character may become several, and a capital sigma becomes a
final sigma at the end of a word.
-/

namespace HttpKit.Text

/-- The image of a character beyond ASCII: the special mapping, else the run that holds it. -/
def mapBeyondAscii (special : List (Nat × List Nat)) (runs : List CaseRun) (c : Char) :
    List Char :=
  match special.lookup c.toNat with
  | some image => image.map Char.ofNat
  | none => [((runs.findSome? (·.map? c.toNat)).map Char.ofNat).getD c]

/-- Lower case of a character on its own. -/
def lowerChar (c : Char) : List Char :=
  if c.toNat < 0x80 then [c.toLower] else mapBeyondAscii lowerSpecial lowerRuns c

/-- Upper case of a character. -/
def upperChar (c : Char) : List Char :=
  if c.toNat < 0x80 then [c.toUpper] else mapBeyondAscii upperSpecial upperRuns c

/-- Title case of a character: its form at the start of a word. -/
def titleChar (c : Char) : List Char :=
  match titleSpecial.lookup c.toNat with
  | some image => image.map Char.ofNat
  | none => if inSpans titleFixed c.toNat then [c] else upperChar c

/-- Whether the character has case. -/
def isCased (c : Char) : Bool :=
  if c.toNat < 0x80 then c.isAlpha else inSpans casedSpans c.toNat

/-- Whether the character is skipped when looking for the letters beside a sigma. -/
def isCaseIgnorable (c : Char) : Bool := inSpans caseIgnorableSpans c.toNat

/-- Whether the nearest character that is not skipped has case. -/
def casedBeside (cs : List Char) : Bool :=
  ((cs.dropWhile isCaseIgnorable).head?.map isCased).getD false

/-- Lower case of a character between its neighbours, those before it nearest first. A capital
sigma after a letter and before none is final. -/
def lowerBetween (prior : List Char) (c : Char) (following : List Char) : List Char :=
  if c = 'Σ' then
    if casedBeside prior && !casedBeside following then ['ς'] else ['σ']
  else lowerChar c

/-- Lower case of the rest of a text. `prior` is what precedes the rest and `done` its lower case,
both in reverse. -/
def lowerRest (done prior : List Char) : List Char → List Char
  | [] => done.reverse
  | c :: rest => lowerRest ((lowerBetween prior c rest).reverse ++ done) (c :: prior) rest

/-- The form of a character in title case: after a character with case it is in lower case. -/
def titleBetween (prior : List Char) (c : Char) (following : List Char) : List Char :=
  if (prior.head?.map isCased).getD false then lowerBetween prior c following else titleChar c

/-- Title case of the rest of a text. `prior` is what precedes the rest and `done` its title case,
both in reverse. -/
def titleRest (done prior : List Char) : List Char → List Char
  | [] => done.reverse
  | c :: rest => titleRest ((titleBetween prior c rest).reverse ++ done) (c :: prior) rest

/-- Texts that have a lower case. -/
class HasLower (τ : Type) where
  lower : τ → τ

instance : HasLower String := ⟨fun s => String.ofList (lowerRest [] [] s.toList)⟩

/-- The text in lower case. -/
def lower {τ : Type} [HasLower τ] (t : τ) : τ := HasLower.lower t

theorem lower_string (s : String) : lower s = String.ofList (lowerRest [] [] s.toList) := rfl

/-- The text in upper case. -/
def upper (s : String) : String := String.ofList (s.toList.flatMap upperChar)

/-- The text with every word in title case. -/
def title (s : String) : String := String.ofList (titleRest [] [] s.toList)

end HttpKit.Text
