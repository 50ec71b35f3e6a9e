/- The tree of a template source.

Tokens become nodes: text, placeholders, and blocks with a body and perhaps an
otherwise-branch. Blocks nest at most `depthLimit` deep. An opener met at that depth, its
closer, and any otherwise-marker between them stay text. So do a closer or otherwise-marker
that finds no open block for it, and an opener that is never closed. At the top level
neighbouring texts are one text. -/
import Herald.Token
namespace Herald
set_option autoImplicit false

/-- A node of a template's tree. -/
inductive Node where
  | text (raw : List Char)
  | placeholder (source : List Char) (braces : Braces) (raw : List Char)
  | block (kind : BlockKind) (argument : List Char) (body : List Node)
      (otherwise : Option (List Node))
  deriving Repr

/-- An opened block: its opener, the nodes of its body so far, and from an otherwise-marker
on that marker's text and the nodes after it. -/
structure Frame where
  kind : BlockKind
  argument : List Char
  openRaw : List Char
  body : Array Node
  otherwise : Option (List Char × Array Node)

namespace Frame

/-- The frame with one more node in the branch under way. -/
def push (frame : Frame) (node : Node) : Frame :=
  match frame.otherwise with
  | some (raw, nodes) => { frame with otherwise := some (raw, nodes.push node) }
  | none => { frame with body := frame.body.push node }

/-- The block of a closed frame. -/
def toBlock (frame : Frame) : Node :=
  .block frame.kind frame.argument frame.body.toList (frame.otherwise.map fun branch => branch.2.toList)

/-- The nodes of a frame that is never closed: its markers as text around its children. -/
def toLiteral (frame : Frame) : List Node :=
  .text frame.openRaw :: (frame.body.toList ++
    match frame.otherwise with
    | some (raw, nodes) => .text raw :: nodes.toList
    | none => [])

end Frame

/-- A tree under construction: finished nodes at the top level, the open frames, and the
kinds of the openers met beyond the depth limit and not closed yet; innermost first. -/
structure Assembly where
  root : Array Node
  frames : List Frame
  overflow : List BlockKind

namespace Assembly

/-- Nothing read yet. -/
def empty : Assembly := ⟨#[], [], []⟩

/-- The assembly with one more node in the innermost frame, or at the top level. -/
def emit (assembly : Assembly) (node : Node) : Assembly :=
  match assembly.frames with
  | frame :: outer => { assembly with frames := frame.push node :: outer }
  | [] => { assembly with root := assembly.root.push node }

/-- The assembly after a closer whose kind is not the one awaited beyond the limit: the
innermost frame becomes a block if it is of that kind. -/
def close (assembly : Assembly) (kind : BlockKind) (raw : List Char) : Assembly :=
  match assembly.frames with
  | frame :: outer =>
    if assembly.overflow.isEmpty && frame.kind == kind then
      { assembly with frames := outer }.emit frame.toBlock
    else assembly.emit (.text raw)
  | [] => assembly.emit (.text raw)

/-- The assembly after an otherwise-marker: it divides the innermost frame, unless that is
divided already or a block beyond the limit is open. -/
def divide (assembly : Assembly) (raw : List Char) : Assembly :=
  match assembly.frames with
  | frame :: outer =>
    if assembly.overflow.isEmpty && frame.otherwise.isNone then
      { assembly with frames := { frame with otherwise := some (raw, #[]) } :: outer }
    else assembly.emit (.text raw)
  | [] => assembly.emit (.text raw)

/-- The assembly after one more token, with blocks nested at most `limit` deep. -/
def step (limit : Nat) (assembly : Assembly) : Token → Assembly
  | .text raw => assembly.emit (.text raw)
  | .placeholder source braces raw => assembly.emit (.placeholder source braces raw)
  | .opener kind argument raw =>
    if limit ≤ assembly.frames.length then
      { assembly with overflow := kind :: assembly.overflow }.emit (.text raw)
    else { assembly with frames := ⟨kind, argument, raw, #[], none⟩ :: assembly.frames }
  | .otherwise raw => assembly.divide raw
  | .closer kind raw =>
    match assembly.overflow with
    | awaited :: outer =>
      if awaited == kind then { assembly with overflow := outer }.emit (.text raw)
      else assembly.close kind raw
    | [] => assembly.close kind raw

/-- The top-level nodes at the end of the source; frames still open become text. -/
def finish (assembly : Assembly) : List Node :=
  assembly.root.toList ++
    assembly.frames.foldl (fun inner frame => frame.toLiteral ++ inner) []

end Assembly

namespace Node

/-- The deepest nesting of blocks. -/
def depthLimit : Nat := 64

/-- Neighbouring texts made one. -/
def mergeTexts (nodes : List Node) : List Node :=
  nodes.foldr (fun node rest =>
    match node, rest with
    | .text raw, .text next :: more => .text (raw ++ next) :: more
    | _, _ => node :: rest) []

/-- The nodes of a list of tokens, with blocks nested at most `limit` deep. -/
def ofTokens (limit : Nat) (tokens : List Token) : List Node :=
  mergeTexts (tokens.foldl (Assembly.step limit) Assembly.empty).finish

/-- The nodes of a template source. -/
def ofSource (source : List Char) : List Node := ofTokens depthLimit (Token.ofSource source)

end Node
end Herald
