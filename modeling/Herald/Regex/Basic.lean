/- Regular expressions, as far as it depends on them whether they can be used.

An expression is read from a text by `Regex.read?`. Of what is read, two things decide whether
the expression can be used: how deeply its parts are nested, and whether each part can be
matched byte by byte under the flags in force where it stands. No table of Unicode classes and
of Unicode case is at hand, and what is matched is UTF-8: so in Unicode mode, which is the mode
at the start, shorthand classes, word edges and everything caseless are out of reach; in byte
mode whatever could match a byte above 127 on its own is. -/
namespace Herald
set_option autoImplicit false

/-- A single character of an expression; `byte` says that it was given by two hexadecimal
digits, which mean a byte in byte mode. -/
structure RegexLiteral where
  character : Char
  byte : Bool := false
  deriving DecidableEq, Repr

/-- What a character or an escape stands for. -/
inductive RegexAtom where
  | literal (written : RegexLiteral)
  | any
  | shorthand (negated : Bool)
  | edge (ofWord : Bool)
  deriving DecidableEq, Repr

/-- A set of characters: what stands in brackets, and the brackets. `combined` is the
intersection, the difference or the symmetric difference of two sets. -/
inductive RegexSet where
  | empty
  | literal (written : RegexLiteral)
  | range (low high : RegexLiteral)
  | shorthand (negated : Bool)
  | named (negated : Bool)
  | bracket (negated : Bool) (inside : RegexSet)
  | union (items : List RegexSet)
  | combined (left right : RegexSet)

/-- The letters of flags, each with whether it is switched on. -/
abbrev FlagChanges := List (Char × Bool)

/-- The flags that matter to reading and to support. -/
structure RegexFlags where
  verbose : Bool := false
  caseless : Bool := false
  unicode : Bool := true
  deriving DecidableEq, Repr

/-- The flags after changes. -/
def RegexFlags.after (flags : RegexFlags) (changes : FlagChanges) : RegexFlags where
  verbose := (changes.lookup 'x').getD flags.verbose
  caseless := (changes.lookup 'i').getD flags.caseless
  unicode := (changes.lookup 'u').getD flags.unicode

/-- A regular expression. `flags` changes the flags for the rest of the group that it stands
in, `group` for its inside. -/
inductive Regex where
  | empty
  | atom (single : RegexAtom)
  | set (characters : RegexSet)
  | flags (changes : FlagChanges)
  | repeated (inside : Regex)
  | group (changes : FlagChanges) (inside : Regex)
  | sequence (parts : List Regex)
  | choice (branches : List Regex)

namespace RegexLiteral

/-- Whether a literal is an ASCII character. -/
def isAscii (literal : RegexLiteral) : Bool := literal.character.toNat < 0x80

/-- Whether a literal can stand in a set. -/
def supportedInSet (flags : RegexFlags) (literal : RegexLiteral) : Bool :=
  if flags.unicode then !flags.caseless else literal.isAscii

/-- Whether a literal can stand by itself. -/
def supported (flags : RegexFlags) (literal : RegexLiteral) : Bool :=
  if flags.unicode then !flags.caseless else literal.isAscii || !literal.byte

end RegexLiteral

/-- Whether an atom can stand by itself. -/
def RegexAtom.supported (flags : RegexFlags) : RegexAtom → Bool
  | .literal written => written.supported flags
  | .any => flags.unicode
  | .shorthand negated => !flags.unicode && !negated
  | .edge ofWord => !(ofWord && flags.unicode)

namespace RegexSet

/-- The set of several items. -/
def ofItems : List RegexSet → RegexSet
  | [] => .empty
  | [item] => item
  | items => .union items

mutual
/-- How deeply brackets, unions and combinations are nested. -/
def depth : RegexSet → Nat
  | .bracket _ inside => inside.depth + 1
  | .union items => depthOfAll items + 1
  | .combined left right => max left.depth right.depth + 1
  | _ => 0

/-- The depth of the deepest set of a list. -/
def depthOfAll : List RegexSet → Nat
  | [] => 0
  | item :: items => max item.depth (depthOfAll items)
end

mutual
/-- Whether a set is one of characters that can be matched. -/
def supported (flags : RegexFlags) : RegexSet → Bool
  | .empty => true
  | .literal written => written.supportedInSet flags
  | .range low high => low.supportedInSet flags && high.supportedInSet flags
  | .shorthand negated => !flags.unicode && !negated
  | .named negated => if flags.unicode then !flags.caseless else !negated
  | .bracket negated inside => (flags.unicode || !negated) && inside.supported flags
  | .union items => allSupported flags items
  | .combined left right => left.supported flags && right.supported flags

/-- Whether each set of a list is one of characters that can be matched. -/
def allSupported (flags : RegexFlags) : List RegexSet → Bool
  | [] => true
  | item :: items => item.supported flags && allSupported flags items
end

end RegexSet

namespace Regex

/-- The parts of a branch one after another. -/
def ofParts : List Regex → Regex
  | [] => .empty
  | [part] => part
  | parts => .sequence parts

/-- The choice between branches. -/
def ofBranches : List Regex → Regex
  | [branch] => branch
  | branches => .choice branches

mutual
/-- How deeply sets, repetitions, groups, sequences and choices are nested. -/
def depth : Regex → Nat
  | .set characters => characters.depth
  | .repeated inside => inside.depth + 1
  | .group _ inside => inside.depth + 1
  | .sequence parts => depthOfAll parts + 1
  | .choice branches => depthOfAll branches + 1
  | _ => 0

/-- The depth of the deepest expression of a list. -/
def depthOfAll : List Regex → Nat
  | [] => 0
  | part :: parts => max part.depth (depthOfAll parts)
end

mutual
/-- The flags in force after an expression, if each of its parts can be matched under the
flags in force where it stands. -/
def flagsAfter? (flags : RegexFlags) : Regex → Option RegexFlags
  | .empty => some flags
  | .atom single => if single.supported flags then some flags else none
  | .set characters => if characters.supported flags then some flags else none
  | .flags changes => some (flags.after changes)
  | .repeated inside => flagsAfter? flags inside
  | .group changes inside => (flagsAfter? (flags.after changes) inside).map fun _ => flags
  | .sequence parts => flagsAfterAll? flags parts
  | .choice branches => flagsAfterAll? flags branches

/-- The flags in force after expressions that follow one another. -/
def flagsAfterAll? (flags : RegexFlags) : List Regex → Option RegexFlags
  | [] => some flags
  | part :: parts => (flagsAfter? flags part).bind fun next => flagsAfterAll? next parts
end

/-- Whether an expression can be used: nothing is nested more than 250 deep, and everything
can be matched. -/
def usable (regex : Regex) : Bool := regex.depth ≤ 250 && (regex.flagsAfter? {}).isSome

end Regex
end Herald
