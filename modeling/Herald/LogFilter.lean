/- Filters of log lines.

A filter is a list of directives between commas. A directive is a level, a target, or a
target with a level after an equals sign; a target may carry a span in brackets, and the span
a field in braces. A level is one of six words in any case or a digit from 0 to 5. A field is
a name, and a value after an equals sign: a boolean, a number or a regular expression.

A directive is looked at without the blanks around it, but what is taken out of it is counted
off from its start with them: the offsets at which a level or a field begins and ends are
those of the directive without blanks, and the text between them that of the directive as it
is written. So blanks at the end spoil a level, and blanks in front move a field. -/
import Herald.Regex.Reader
import Herald.Text.Offset
namespace Herald
set_option autoImplicit false
namespace LogFilter

/-- A level: a word or a digit; nothing at all is a level too. -/
def isLevel (text : List Char) : Bool :=
  let lower := String.ofList (Text.asciiLower text)
  text.isEmpty || (match readNat? text with | some digit => digit ≤ 5 | none => false) ||
    ["off", "error", "warn", "info", "debug", "trace"].contains lower

/-- The value of a field. -/
def isFieldValue (text : List Char) : Bool :=
  text == "true".toList || text == "false".toList || (Binary64.read? text).isSome ||
    (Regex.read? text).any Regex.usable

/-- A field: a name and, after an equals sign, a value; a second equals sign ends the value. -/
def isField (text : List Char) : Bool :=
  !text.isEmpty && match Text.cutAt (· == '=') text with
    | _ :: value :: _ => isFieldValue value
    | _ => true

/-- Where the reading of a directive stands: in front of it, in a level or a target, in a span,
in a field of it, past the field, past the span, in a level. A field and a level know the
offset at which they began. -/
inductive Place where
  | start
  | levelOrTarget
  | span
  | field (since : Nat)
  | afterField
  | afterSpan
  | level (since : Nat)
  deriving DecidableEq, Repr

/-- The place after the character at an offset of a directive, which is `written` with blanks. -/
def step? (written : List Char) (offset : Nat) (c : Char) : Place → Option Place
  | .start =>
    if c == '[' then some .span
    else if Text.isAlphanumeric c || c == '-' || c == ':' || c == '_' then some .levelOrTarget
    else none
  | .levelOrTarget =>
    some (if c == '=' then .level (offset + 1) else if c == '[' then .span else .levelOrTarget)
  | .span => some (if c == ']' then .afterSpan else if c == '\x7b' then .field (offset + 1) else .span)
  | .field since =>
    if c == '\x7d' then
      if (Text.between? since offset written).any isField then some .afterField else none
    else some (.field since)
  | .afterField => if c == ']' then some .afterSpan else none
  | .afterSpan => if c == '=' then some (.level (offset + 1)) else none
  | .level since => some (.level since)

/-- The place at the end of a directive, read on from a place at an offset. -/
def placeAfter? (written : List Char) (place : Place) (offset : Nat) : List Char → Option Place
  | [] => some place
  | c :: rest =>
    (step? written offset c place).bind fun next => placeAfter? written next (offset + c.utf8Size) rest

/-- A directive of a filter. -/
def isDirective (written : List Char) : Bool :=
  match placeAfter? written .start 0 (Text.trim written) with
  | some .levelOrTarget => true
  | some .afterSpan => true
  | some (.level since) => (Text.between? since (Text.byteLength written) written).any isLevel
  | _ => false

/-- A filter; empty directives count for nothing. -/
def isValid (text : String) : Bool :=
  ((Text.cutAt (· == ',') text.toList).filter (!·.isEmpty)).all isDirective

end LogFilter
end Herald
