set_option autoImplicit false

/-!
# Tokens of the indented format

Indentation and brackets are both told by tokens, so that what reads them need not look at columns. A mapping
entry is a key token, the key, a value token and the value, whether or not a question mark stood before the key.
-/

namespace AsyncReports.Yaml

inductive Token
  /-- The line that names the version of the format. -/
  | version
  /-- A line that sets what a tag handle stands for. -/
  | handle (name start : String)
  | documentStart
  | documentEnd
  | blockSequence
  | blockMapping
  | blockEnd
  | blockEntry
  | flowSequence
  | flowSequenceEnd
  | flowMapping
  | flowMappingEnd
  | flowEntry
  | key
  | value
  | alias (name : String)
  | anchor (name : String)
  | tag (handle suffix : String)
  /-- A text; a plain one has no quotes and may spell something else than itself. -/
  | scalar (plain : Bool) (text : String)
deriving DecidableEq

def isBlank (c : Char) : Bool := c = ' ' || c = '\t'

def isBreak (c : Char) : Bool := c = '\n' || c = '\r'

/-- A blank, a line break, or the end of the text. -/
def endsWord : Option Char → Bool
  | some c => isBlank c || isBreak c
  | none => true

/-- A line break, or the end of the text. -/
def endsLine : Option Char → Bool
  | some c => isBreak c
  | none => true

/-- The characters that build brackets. -/
def isFlow (c : Char) : Bool := c ∈ [',', '[', ']', '\x7b', '\x7d']

def isWordChar (c : Char) : Bool := c.isAlphanum || c = '_' || c = '-'

def isUriChar (c : Char) : Bool :=
  isWordChar c || c ∈ ['#', ';', '/', '?', ':', '@', '&', '=', '+', '$', ',', '.', '!', '~', '*', '\'', '(', ')',
    '[', ']', '%']

def isTagChar (c : Char) : Bool := isUriChar c && !isFlow c && c ≠ '!'

def isAnchorChar (c : Char) : Bool := !isBlank c && !isBreak c && !isFlow c && c ≠ '\ufeff'

/-- Three of this character, and then the end of a word. -/
def isMark (mark : Char) (s : List Char) : Bool :=
  s.take 3 = [mark, mark, mark] && endsWord s[3]?

/-- The start or the end of a document. -/
def isDocumentMark (s : List Char) : Bool := isMark '-' s || isMark '.' s

end AsyncReports.Yaml
