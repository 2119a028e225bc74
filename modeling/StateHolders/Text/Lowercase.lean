import StateHolders.Text.Lowercase.Table
import StateHolders.Text.Spans

/-!
# Lower case

Full lower-casing of text by the rules of Unicode: ASCII letters by their fixed distance, the
other simple mappings by table, the dotted capital I as two characters, and the capital sigma by
its place in the word. The result can be longer than the argument.
-/

namespace StateHolders.Text

/-- Whether the character has the Cased property. -/
def isCased (c : Char) : Bool := inSpans casedSpans c.toNat

/-- Whether the character has the Case_Ignorable property. -/
def isCaseIgnorable (c : Char) : Bool := inSpans caseIgnorableSpans c.toNat

/-- Whether the first character that is not case-ignorable is cased. -/
def startsCased (cs : List Char) : Bool :=
  match cs.dropWhile isCaseIgnorable with
  | [] => false
  | c :: _ => isCased c

/-- Moves a code point by the first progression that holds it. -/
def lowercaseByTable (c : Char) : Char :=
  match lowercaseProgressions.find? (·.holds c.toNat) with
  | some p => Char.ofNat ((c.toNat : Int) + p.shift).toNat
  | none => c

/-- The lower case of one character out of context. -/
def lowercaseChar (c : Char) : List Char :=
  if c.toNat < 0x80 then [c.toLower]
  else if c = 'İ' then ['i', '\u0307']
  else [lowercaseByTable c]

/-- Lower-cases the rest of a text whose beginning, last character first, is `before`. A capital
sigma after a cased and not before a cased character takes its final form. -/
def lowercaseAfter (before : List Char) : List Char → List Char
  | [] => []
  | c :: rest =>
    let here :=
      if c = 'Σ' then [if startsCased before && !startsCased rest then 'ς' else 'σ']
      else lowercaseChar c
    here ++ lowercaseAfter (c :: before) rest

/-- The lower case of a text. -/
def lowercase (s : String) : String :=
  String.ofList (lowercaseAfter [] s.toList)

end StateHolders.Text
