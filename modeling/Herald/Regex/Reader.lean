/- Reading regular expressions.

A text is read from left to right, one part at a time; the groups that are open are kept in a
stack, and so are the brackets of a set. A part is a group, a set in brackets, an escape, a
character; `?`, `*` and `+` repeat the part before them, and a further `?` makes a repetition
lazy. In verbose mode blanks and comments stand between parts. A counted repetition is never
complete: the texts that are read hold no closing brace, so an opening one outside a set is
refused, and so are named classes of characters, which are not at hand. -/
import Herald.Number.Numeral
import Herald.Regex.Basic
import Herald.Text.Letters
namespace Herald
set_option autoImplicit false
namespace Regex

/-- The text after blanks and comments; a comment runs from `#` to the end of its line. -/
def skipBlanks (inComment : Bool) : List Char → List Char
  | [] => []
  | c :: rest =>
    if inComment then skipBlanks (c != '\n') rest
    else if Text.isBlank c then skipBlanks false rest
    else if c == '#' then skipBlanks true rest
    else c :: rest

/-- The text from its next part on. -/
def skip (verbose : Bool) (text : List Char) : List Char :=
  if verbose then skipBlanks false text else text

/-- The character that decides whether a hyphen before a text makes a range. In verbose mode
that is the next one that is not blank, past the mark of a comment but not past the comment. -/
def peek? (verbose : Bool) (text : List Char) : Option Char :=
  if !verbose then text.head?
  else match text.dropWhile Text.isBlank with
    | '#' :: rest => (rest.dropWhile Text.isBlank).head?
    | rest => rest.head?

/-! ## Escapes -/

/-- The number that some hexadecimal digits denote, added to those already read, and the rest. -/
def readHex? (verbose : Bool) : Nat → Nat → List Char → Option (Nat × List Char)
  | 0, value, text => some (value, text)
  | count + 1, value, text =>
    match skip verbose text with
    | [] => none
    | c :: rest => (hexValue? c).bind fun digit => readHex? verbose count (value * 16 + digit) rest

/-- A character given by hexadecimal digits, and the rest. -/
def readCode? (verbose byte : Bool) (digits : Nat) (text : List Char) : Option (RegexAtom × List Char) := do
  let (code, rest) ← readHex? verbose digits 0 text
  if code < 0xD800 || (0xDFFF < code && code < 0x110000) then
    some (.literal ⟨Char.ofNat code, byte⟩, rest)
  else none

/-- The control characters that have a letter. -/
def controlLetters : List (Char × Char) :=
  [('a', '\x07'), ('t', '\x09'), ('n', '\x0a'), ('v', '\x0b'), ('f', '\x0c'), ('r', '\x0d')]

/-- What a single character after a backslash stands for. Of the ASCII characters those that
are no letters and no digits stand for themselves. -/
def letterAtom? (c : Char) : Option RegexAtom :=
  if ['d', 's', 'w'].contains c then some (.shorthand false)
  else if ['D', 'S', 'W'].contains c then some (.shorthand true)
  else if ['b', 'B', '<', '>'].contains c then some (.edge true)
  else if ['A', 'z'].contains c then some (.edge false)
  else if c.toNat < 0x80 && !c.isAlphanum then some (.literal ⟨c, false⟩)
  else (controlLetters.lookup c).map fun control => .literal ⟨control, false⟩

/-- An escape after its backslash, and the rest. -/
def readEscape? (verbose : Bool) : List Char → Option (RegexAtom × List Char)
  | [] => none
  | 'x' :: rest => readCode? verbose true 2 rest
  | 'u' :: rest => readCode? verbose false 4 rest
  | 'U' :: rest => readCode? verbose false 8 rest
  | c :: rest => (letterAtom? c).map fun single => (single, rest)

/-! ## Sets -/

/-- A bracket that is open: its operand before the last operator, and the items of the operand
under way, the latest first. At its start a hyphen, and a closing bracket before anything
else, stands for itself. -/
structure OpenSet where
  negated : Bool
  atStart : Bool := true
  left : Option RegexSet := none
  items : List RegexSet := []

namespace OpenSet

/-- The bracket with another item. -/
def add (bracket : OpenSet) (item : RegexSet) : OpenSet :=
  { bracket with atStart := false, items := item :: bracket.items }

/-- What the bracket holds so far. -/
def content (bracket : OpenSet) : RegexSet :=
  let right := RegexSet.ofItems bracket.items.reverse
  match bracket.left with
  | some left => .combined left right
  | none => right

/-- The bracket after an operator. -/
def combine (bracket : OpenSet) : OpenSet :=
  { bracket with atStart := false, left := some bracket.content, items := [] }

end OpenSet

/-- A bracket opened before a text, and the rest of it. -/
def openSet (verbose : Bool) (text : List Char) : OpenSet × List Char :=
  match skip verbose text with
  | '^' :: rest => (⟨true, true, none, []⟩, rest)
  | rest => (⟨false, true, none, []⟩, rest)

/-- The names of ASCII classes. -/
def classNames : List String :=
  ["alnum", "alpha", "ascii", "blank", "cntrl", "digit", "graph", "lower", "print", "punct", "space",
    "upper", "word", "xdigit"]

/-- An ASCII class after its opening bracket, and the rest. -/
def readClass? : List Char → Option (RegexSet × List Char)
  | ':' :: text =>
    let negated := text.head? == some '^'
    let name := if negated then text.drop 1 else text
    match name.dropWhile (· != ':') with
    | ':' :: ']' :: rest =>
      if classNames.contains (String.ofList (name.takeWhile (· != ':'))) then some (.named negated, rest)
      else none
    | _ => none
  | _ => none

/-- A character or an escape in a set, and the rest. -/
def readMember? (verbose : Bool) : List Char → Option (RegexAtom × List Char)
  | [] => none
  | '\\' :: rest => readEscape? verbose rest
  | c :: rest => some (.literal ⟨c, false⟩, rest)

/-- The range between two literals. -/
def range? : RegexAtom → RegexAtom → Option RegexSet
  | .literal low, .literal high => if low.character ≤ high.character then some (.range low high) else none
  | _, _ => none

/-- The set of a single atom; an edge is no set. -/
def single? : RegexAtom → Option RegexSet
  | .literal written => some (.literal written)
  | .shorthand negated => some (.shorthand negated)
  | _ => none

/-- An item or a range of a set, and the rest. -/
def readItem? (verbose : Bool) (text : List Char) : Option (RegexSet × List Char) := do
  let (first, rest) ← readMember? verbose text
  let single := (single? first).map fun item => (item, rest)
  match skip verbose rest with
  | '-' :: after =>
    let next := peek? verbose after
    if next == some ']' || next == some '-' then single
    else do
      let (last, rest) ← readMember? verbose (skip verbose after)
      (range? first last).map fun item => (item, rest)
  | _ => single

/-- How far a set has been read: to its end, or into the innermost of its open brackets. -/
inductive SetProgress where
  | closed (characters : RegexSet)
  | inside (bracket : OpenSet) (outer : List OpenSet)

/-- Reads on in a set, from the next character that is no blank. -/
def setStep? (verbose : Bool) (bracket : OpenSet) (outer : List OpenSet) (c : Char) (rest : List Char) :
    Option (SetProgress × List Char) :=
  if bracket.atStart && c == '-' then
    some (.inside { bracket.add (.literal ⟨c, false⟩) with atStart := true } outer, rest)
  else if bracket.atStart && bracket.items.isEmpty && c == ']' then
    some (.inside (bracket.add (.literal ⟨c, false⟩)) outer, rest)
  else if c == ']' then
    let characters := RegexSet.bracket bracket.negated bracket.content
    match outer with
    | [] => some (.closed characters, rest)
    | parent :: others => some (.inside (parent.add characters) others, rest)
  else if c == '[' then
    match readClass? rest with
    | some (item, rest) => some (.inside (bracket.add item) outer, rest)
    | none =>
      let (inner, rest) := openSet verbose rest
      some (.inside inner (bracket :: outer), rest)
  else if ['&', '-', '~'].contains c && rest.head? == some c then
    some (.inside bracket.combine outer, rest.drop 1)
  else (readItem? verbose (c :: rest)).map fun (item, rest) => (.inside (bracket.add item) outer, rest)

/-- A set whose brackets are open, and the rest. Each step shortens the text. -/
def readSet? (verbose : Bool) (bracket : OpenSet) (outer : List OpenSet) (text : List Char) :
    Option (RegexSet × List Char) :=
  match skip verbose text with
  | [] => none
  | c :: rest =>
    match setStep? verbose bracket outer c rest with
    | none => none
    | some (.closed characters, after) => some (characters, after)
    | some (.inside bracket outer, after) =>
      if after.length < text.length then readSet? verbose bracket outer after else none
termination_by text.length

/-! ## Groups -/

/-- A group that is open: its flags, whether the text around it is verbose, the branches
before the one under way and the parts of that one, the latest first. -/
structure OpenGroup where
  changes : FlagChanges := []
  verboseOutside : Bool := false
  branches : List Regex := []
  parts : List Regex := []

namespace OpenGroup

/-- The group with another part. -/
def add (group : OpenGroup) (part : Regex) : OpenGroup := { group with parts := part :: group.parts }

/-- The group with its branch ended. -/
def endBranch (group : OpenGroup) : OpenGroup :=
  { group with branches := ofParts group.parts.reverse :: group.branches, parts := [] }

/-- What the group holds. -/
def content (group : OpenGroup) : Regex := ofBranches group.endBranch.branches.reverse

end OpenGroup

/-- How far an expression has been read: whether the text is verbose, the names of groups so
far, the innermost open group and those around it. The last of these is the whole expression. -/
structure Progress where
  verbose : Bool := false
  names : List (List Char) := []
  group : OpenGroup := {}
  outer : List OpenGroup := []

namespace Progress

/-- The progress with another part. -/
def add (progress : Progress) (part : Regex) : Progress := { progress with group := progress.group.add part }

/-- The progress with verbose mode as changes say. -/
def changed (progress : Progress) (changes : FlagChanges) : Progress :=
  { progress with verbose := (changes.lookup 'x').getD progress.verbose }

/-- The progress into a group. -/
def enter (progress : Progress) (changes : FlagChanges) : Progress :=
  { progress.changed changes with
    group := { changes := changes, verboseOutside := progress.verbose }
    outer := progress.group :: progress.outer }

/-- The progress out of a group. -/
def leave? (progress : Progress) : Option Progress :=
  match progress.outer with
  | [] => none
  | parent :: others => some { progress with
      verbose := progress.group.verboseOutside
      group := parent.add (.group progress.group.changes progress.group.content)
      outer := others }

/-- The progress with the last part repeated. Flags are no part to repeat. -/
def repeat? (progress : Progress) : Option Progress :=
  match progress.group.parts with
  | [] => none
  | .flags _ :: _ => none
  | last :: before => some { progress with group := { progress.group with parts := .repeated last :: before } }

end Progress

/-- Flags: letters to switch on and, after a hyphen, letters to switch off. None is there
twice, and a hyphen has a letter after it. -/
def readFlags? (written : List Char) : Option FlagChanges :=
  let known (letters : List Char) : Bool := letters.all "imsUuRx".toList.contains
  let change (on off : List Char) : Option FlagChanges :=
    if known (on ++ off) && (on ++ off).Nodup then some (on.map (·, true) ++ off.map (·, false)) else none
  match Text.cutAt (· == '-') written with
  | [on] => change on []
  | [on, off] => if off.isEmpty then none else change on off
  | _ => none

/-- A group's name: a letter or an underscore, then letters, digits and some marks. -/
def isGroupName : List Char → Bool
  | [] => false
  | c :: rest =>
    (c == '_' || Text.isLetter c) &&
      rest.all fun c => ['_', '.', '[', ']'].contains c || Text.isAlphanumeric c

/-- Enters a group with a name, from the name on. -/
def enterNamed? (progress : Progress) (text : List Char) : Option (Progress × List Char) :=
  let name := text.takeWhile (· != '>')
  match text.dropWhile (· != '>') with
  | '>' :: rest =>
    if isGroupName name && !progress.names.contains name then
      some ({ progress.enter [] with names := name :: progress.names }, rest)
    else none
  | _ => none

/-- Reads what stands after an opening parenthesis, up to what the group holds: a name, or
flags, which make no group if a closing parenthesis follows them at once. -/
def enter? (progress : Progress) (text : List Char) : Option (Progress × List Char) :=
  match skip progress.verbose text with
  | '?' :: 'P' :: '<' :: rest => enterNamed? progress rest
  | '?' :: '<' :: rest => enterNamed? progress rest
  | '?' :: rest =>
    let isEnd (c : Char) : Bool := c == ':' || c == ')'
    (readFlags? (rest.takeWhile (!isEnd ·))).bind fun changes =>
      match rest.dropWhile (!isEnd ·) with
      | ':' :: after => some (progress.enter changes, after)
      | ')' :: after =>
        if changes.isEmpty then none else some ((progress.changed changes).add (.flags changes), after)
      | _ => none
  | rest => some (progress.enter [], rest)

/-- Reads on in an expression, from the next character that is no blank. -/
def step? (progress : Progress) (c : Char) (rest : List Char) : Option (Progress × List Char) :=
  if c == '(' then enter? progress rest
  else if c == ')' then progress.leave?.map fun next => (next, rest)
  else if c == '|' then some ({ progress with group := progress.group.endBranch }, rest)
  else if c == '[' then
    let (bracket, text) := openSet progress.verbose rest
    (readSet? progress.verbose bracket [] text).map fun (characters, rest) =>
      (progress.add (.set characters), rest)
  else if c == '?' || c == '*' || c == '+' then
    progress.repeat?.map fun next => (next, if rest.head? == some '?' then rest.drop 1 else rest)
  else if c == '\x7b' then none
  else if c == '\\' then
    (readEscape? progress.verbose rest).map fun (single, rest) => (progress.add (.atom single), rest)
  else if c == '.' then some (progress.add (.atom .any), rest)
  else if c == '^' || c == '$' then some (progress.add (.atom (.edge false)), rest)
  else some (progress.add (.atom (.literal ⟨c, false⟩)), rest)

/-- The expression that a text completes. Each step shortens the text. -/
def readFrom? (progress : Progress) (text : List Char) : Option Regex :=
  match skip progress.verbose text with
  | [] => if progress.outer.isEmpty then some progress.group.content else none
  | c :: rest =>
    match step? progress c rest with
    | none => none
    | some (next, after) => if after.length < text.length then readFrom? next after else none
termination_by text.length

/-- The expression that a text writes out. -/
def read? (text : List Char) : Option Regex := readFrom? {} text

end Regex
end Herald
