import AsyncReports.Text
import AsyncReports.Yaml.Layout

set_option autoImplicit false

/-!
# Texts of the indented format

A text stands in quotes, or plain, or as a block of lines. Over several lines it is folded: a single line break
counts as a space, and of more of them one is lost.
-/

namespace AsyncReports.Yaml

open Text

/-- What follows a backslash between double quotes. -/
def readEscape : List Char → Option (Char × List Char)
  | '0' :: rest => some ('\x00', rest)
  | 'a' :: rest => some ('\x07', rest)
  | 'b' :: rest => some ('\x08', rest)
  | 't' :: rest | '\t' :: rest => some ('\t', rest)
  | 'n' :: rest => some ('\n', rest)
  | 'v' :: rest => some ('\x0b', rest)
  | 'f' :: rest => some ('\x0c', rest)
  | 'r' :: rest => some ('\r', rest)
  | 'e' :: rest => some ('\x1b', rest)
  | ' ' :: rest => some (' ', rest)
  | '"' :: rest => some ('"', rest)
  | '/' :: rest => some ('/', rest)
  | '\\' :: rest => some ('\\', rest)
  | 'N' :: rest => some ('\u0085', rest)
  | '_' :: rest => some ('\u00a0', rest)
  | 'L' :: rest => some ('\u2028', rest)
  | 'P' :: rest => some ('\u2029', rest)
  | 'x' :: rest => readCode 2 rest
  | 'u' :: rest => readCode 4 rest
  | 'U' :: rest => readCode 8 rest
  | _ => none

def breaks (n : Nat) : List Char := List.replicate n '\n'

/-- What a gap in a text stands for: its blanks, if it has no line break. -/
def folded (blanks : List Char) : Nat → List Char
  | 0 => blanks
  | 1 => [' ']
  | n + 2 => breaks (n + 1)

namespace Lexer

/-! ## Texts in quotes -/

/-- A part without blanks. The flag tells that it ends in a line break that a backslash takes away. -/
def quotedWord (mark : Char) : Nat → List Char → Lexer (List Char × Bool)
  | 0, done => pure (done.reverse, false)
  | fuel + 1, done => do
    match (← get).rest with
    | [] => pure (done.reverse, false)
    | c :: rest =>
      if isBlank c || isBreak c then pure (done.reverse, false)
      else if c = mark then
        if mark = '\'' && rest.head? = some mark then
          move (·.skip 2)
          quotedWord mark fuel (mark :: done)
        else pure (done.reverse, false)
      else if c = '\\' && mark = '"' then
        if rest.head?.any isBreak then
          move fun s => (s.skip 1).skipBreak
          pure (done.reverse, true)
        else
          match readEscape rest with
          | none => failure
          | some (c, after) =>
            move (·.skip (rest.length - after.length + 1))
            quotedWord mark fuel (c :: done)
      else
        move (·.skip 1)
        quotedWord mark fuel (c :: done)

/-- Blanks and line breaks between two parts. `broken` tells that there was a line break before, `lines` is how
many of them count. -/
def quotedGap : Nat → List Char → Bool → Nat → Lexer (List Char × Nat)
  | 0, blanks, _, lines => pure (blanks.reverse, lines)
  | fuel + 1, blanks, broken, lines => do
    let s ← get
    match s.next with
    | none => pure (blanks.reverse, lines)
    | some c =>
      if isBlank c then
        require (!(broken && c = '\t' && s.column < s.indent))
        move (·.skipBlanks 1)
        quotedGap fuel (if broken then blanks else c :: blanks) broken lines
      else if isBreak c then
        move (·.skipBreak)
        quotedGap fuel [] true (lines + 1)
      else pure (blanks.reverse, lines)

/-- The text up to the closing quote. -/
def quotedText (mark : Char) : Nat → List Char → Lexer (List Char)
  | 0, _ => failure
  | fuel + 1, done => do
    let s ← get
    require !(s.column = 0 && isDocumentMark s.rest)
    require (!s.rest.isEmpty && s.indent ≤ s.column)
    let (word, cut) ← quotedWord mark s.rest.length []
    if (← next) = some mark then
      pure (done ++ word)
    else
      let (blanks, lines) ← quotedGap s.rest.length [] cut 0
      quotedText mark fuel (done ++ word ++ (if cut then breaks lines else folded blanks lines))

/-- What may stand on the line behind a text in quotes. -/
def mayFollowQuote (s : Layout) (line : Nat) : Bool :=
  endsLine s.next ||
    match s.next with
    | some ':' => s.inFlow || s.line = line
    | some c => s.inFlow && (c = ',' || c = '\x7d' || c = ']')
    | none => true

def quoted (mark : Char) : Lexer Token := do
  let line := (← get).line
  move (·.skip 1)
  let text ← quotedText mark ((← get).rest.length + 1) []
  move (·.skip 1)
  let _ ← skipLine
  require (mayFollowQuote (← get) line)
  pure (.scalar false (String.ofList text))

/-! ## Plain texts -/

/-- A plain text can go on with the next character. -/
def goesOn (inFlow : Bool) : List Char → Bool
  | ':' :: rest => !(endsWord rest.head? || inFlow && rest.head?.any isFlow)
  | c :: _ => !(inFlow && isFlow c)
  | [] => false

/-- A part without blanks. -/
def plainWord (inFlow : Bool) : List Char → List Char
  | [] => []
  | c :: rest => if isBlank c || isBreak c || !goesOn inFlow (c :: rest) then [] else c :: plainWord inFlow rest

/-- Blanks and line breaks between two parts, or behind the last one. -/
def plainGap (indent : Int) : Nat → List Char → Nat → Lexer (List Char)
  | 0, blanks, lines => pure (folded blanks.reverse lines)
  | fuel + 1, blanks, lines => do
    let s ← get
    match s.next with
    | none => pure (folded blanks.reverse lines)
    | some c =>
      if isBlank c then
        if !s.fresh then
          move (·.skipBlanks 1)
          plainGap indent fuel (c :: blanks) lines
        else if c = '\t' && s.column < indent then
          let _ ← skipLine
          require (endsLine (← next))
          plainGap indent fuel blanks lines
        else
          move (·.skipBlanks 1)
          plainGap indent fuel blanks lines
      else if isBreak c then
        move (·.skipBreak)
        plainGap indent fuel [] (lines + 1)
      else pure (folded blanks.reverse lines)

/-- The parts of a plain text; `gap` is what stands before the next one. -/
def plainText (indent : Int) : Nat → List Char → List Char → Lexer (List Char)
  | 0, done, _ => pure done
  | fuel + 1, done, gap => do
    let s ← get
    if s.column = 0 && isDocumentMark s.rest || s.next = some '#' then pure done
    else
      require !(s.inFlow && s.next = some '-' && s.rest[1]?.any isFlow)
      let word := plainWord s.inFlow s.rest
      let done := if word.isEmpty then done else done ++ gap ++ word
      move (·.skip word.length)
      match ← next with
      | none => pure done
      | some c =>
        if isBlank c || isBreak c then
          let gap ← plainGap indent s.rest.length [] 0
          let s ← get
          if !s.inFlow && s.column < indent then pure done else plainText indent fuel done gap
        else pure done

def plain : Lexer Token := do
  move (·.toBlockIndent)
  let s ← get
  let indent := s.indent + 1
  require !(s.inFlow && s.column < indent)
  let text ← plainText indent (s.rest.length + 1) [] []
  move fun s => { s with keyAllowed := s.keyAllowed || s.fresh }
  pure (.scalar true (String.ofList text))

/-! ## Blocks of lines -/

/-- What becomes of the line breaks at the end of a block. -/
inductive Ending
  | strip
  | clip
  | keep
deriving DecidableEq

def ending? : Char → Option Ending
  | '-' => some .strip
  | '+' => some .keep
  | _ => none

/-- How far a block is indented; none is not far enough. -/
def increment? (c : Char) : Option Nat :=
  if isDigit c then some (digitValue c) else none

/-- The marks behind the one that opens a block, with how far it is indented, and how many marks there are. -/
def readBlockMarks : List Char → Ending × Option Nat × Nat
  | a :: b :: _ =>
    match ending? a, increment? a with
    | some ending, _ =>
      match increment? b with
      | some n => (ending, some n, 2)
      | none => (ending, none, 1)
    | none, some n =>
      match ending? b with
      | some ending => (ending, some n, 2)
      | none => (.clip, some n, 1)
    | none, none => (.clip, none, 0)
  | [a] =>
    match ending? a, increment? a with
    | some ending, _ => (ending, none, 1)
    | none, some n => (.clip, some n, 1)
    | none, none => (.clip, none, 0)
  | [] => (.clip, none, 0)

/-- Goes over empty lines and over the indentation of the first other one. Gives back how many there were. -/
def skipIndent (indent : Nat) : Nat → Nat → Lexer Nat
  | 0, lines => pure lines
  | fuel + 1, lines => do
    let s ← get
    let spaces := ((s.rest.take (indent - s.column)).takeWhile (· = ' ')).length
    move (·.skipBlanks spaces)
    if (← next).any isBreak then
      move (·.skipBreak)
      skipIndent indent fuel (lines + 1)
    else pure lines

/-- The same where the first other line tells the indentation; the deepest one of all of them counts. -/
def findIndent : Nat → Nat → Nat → Lexer (Nat × Nat)
  | 0, indent, lines => pure (indent, lines)
  | fuel + 1, indent, lines => do
    move fun s => s.skipBlanks (s.rest.takeWhile (· = ' ')).length
    let indent := max indent (← get).column
    if (← next).any isBreak then
      move (·.skipBreak)
      findIndent fuel indent (lines + 1)
    else pure (indent, lines)

/-- What the lines of a block have come to: the text, whether a line break is still open behind it, and how many
empty lines follow. -/
structure BlockLines where
  done : List Char := []
  broken : Bool := false
  empty : Nat
  /-- The last line starts with a blank. -/
  blank : Bool := false

/-- The lines with this indentation. Folding spares lines that start with a blank. -/
def blockLines (folding : Bool) (indent : Nat) : Nat → BlockLines → Lexer BlockLines
  | 0, b => pure b
  | fuel + 1, b => do
    let s ← get
    match s.next with
    | none => pure b
    | some c =>
      if s.column ≠ indent || indent = 0 && isMark '.' s.rest then pure b
      else
        let blank := isBlank c
        let gap := if folding && b.broken && !b.blank && !blank then folded [] (b.empty + 1)
          else breaks (b.empty + if b.broken then 1 else 0)
        let line := s.rest.takeWhile (!isBreak ·)
        move (·.skipBlanks line.length)
        let done := b.done ++ gap ++ line
        if (← next).isNone then pure { done, empty := 0, blank }
        else
          move (·.skipBreak)
          let empty ← skipIndent indent s.rest.length 0
          blockLines folding indent fuel { done, broken := true, empty, blank }

/-- The text of a block without lines at the end of everything. -/
def emptyBlock (ending : Ending) (sameLine : Bool) (empty : Nat) : List Char :=
  if ending = .strip || sameLine then []
  else if ending = .clip || empty = 0 then breaks 1
  else breaks empty

def block (folding : Bool) : Lexer Token := do
  let line := (← get).line
  move fun s => (s.skip 1).toBlockIndent
  let (ending, increment, marks) := readBlockMarks (← get).rest
  require (increment ≠ some 0)
  move (·.skip marks)
  let _ ← skipLine
  require (endsLine (← next))
  if (← next).isSome then move (·.skipBreak)
  require ((← next) ≠ some '\t')
  let s ← get
  let fuel := s.rest.length + 1
  let (indent, empty) ← match increment with
    | some n => do
      let indent := (max s.indent 0).toNat + n
      pure (indent, ← skipIndent indent fuel 0)
    | none => do
      let (indent, empty) ← findIndent fuel 0 0
      pure (max indent (s.indent + 1).toNat, empty)
  let s ← get
  if s.next.isNone then
    pure (.scalar false (String.ofList (emptyBlock ending (s.line = line) empty)))
  else
    require !(s.column < indent && s.indent < s.column)
    let b ← blockLines folding indent fuel { empty }
    let s ← get
    let last := if b.broken then 1 else 0
    let unclosed := if s.next.isNone && max indent 1 ≤ s.column then 1 else 0
    let tail := match ending with
      | .strip => 0
      | .clip => last + unclosed
      | .keep => last + unclosed + b.empty
    pure (.scalar false (String.ofList (b.done ++ breaks tail)))

end Lexer

end AsyncReports.Yaml
