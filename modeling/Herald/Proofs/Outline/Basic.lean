/- Outlines: trees of templates that keep their markers.

The tree of a source forgets how its blocks were written. An outline keeps, with every block,
the text of its opener, of its closer and of the otherwise-marker that divides it, and the
number of openers that were still open when its own was met. So an outline can be printed
(`tokens`), its markers can be dropped (`nodes`), and the blocks opened too deep can be
written out in place (`capped`).

`ofTokens` builds the outline of a token list with one stack and without any depth limit. -/
import Herald.Node
namespace Herald
set_option autoImplicit false

/-- An item of a template's outline. The level of a block is the number of openers that
were still open when its opener was met. -/
inductive Outline where
  | text (raw : List Char)
  | placeholder (source : List Char) (braces : Braces) (raw : List Char)
  | block (kind : BlockKind) (argument openRaw : List Char) (level : Nat) (body : List Outline)
      (otherwise : Option (List Char × List Outline)) (closeRaw : List Char)

namespace Outline

/-! ## What an outline stands for -/

mutual
/-- The node that is left when the markers are forgotten. -/
def node : Outline → Node
  | .text raw => .text raw
  | .placeholder source braces raw => .placeholder source braces raw
  | .block kind argument _ _ body otherwise _ =>
    .block kind argument (nodes body) (branchNodes otherwise)

/-- The nodes of outlines one after another. -/
def nodes : List Outline → List Node
  | [] => []
  | item :: rest => node item :: nodes rest

/-- The otherwise-branch that is left when the markers are forgotten. -/
def branchNodes : Option (List Char × List Outline) → Option (List Node)
  | none => none
  | some (_, items) => some (nodes items)
end

mutual
/-- The tokens of an outline in document order: opener, body, otherwise-marker, branch,
closer. -/
def tokens : Outline → List Token
  | .text raw => [.text raw]
  | .placeholder source braces raw => [.placeholder source braces raw]
  | .block kind argument openRaw _ body otherwise closeRaw =>
    .opener kind argument openRaw ::
      (listTokens body ++ (branchTokens otherwise ++ [.closer kind closeRaw]))

/-- The tokens of outlines one after another. -/
def listTokens : List Outline → List Token
  | [] => []
  | item :: rest => tokens item ++ listTokens rest

/-- The tokens of an otherwise-branch, its marker first. -/
def branchTokens : Option (List Char × List Outline) → List Token
  | none => []
  | some (raw, items) => .otherwise raw :: listTokens items
end

/-- An otherwise-branch written out: its marker as text before its items. -/
def spelled : Option (List Char × List Outline) → List Outline
  | none => []
  | some (raw, items) => .text raw :: items

mutual
/-- The outline with every block of level `limit` or more written out in place: its markers
as text around what it holds. -/
def capped (limit : Nat) : Outline → List Outline
  | .text raw => [.text raw]
  | .placeholder source braces raw => [.placeholder source braces raw]
  | .block kind argument openRaw level body otherwise closeRaw =>
    if level < limit then
      [.block kind argument openRaw level (listCapped limit body) (branchCapped limit otherwise) closeRaw]
    else
      .text openRaw ::
        (listCapped limit body ++ (spelled (branchCapped limit otherwise) ++ [.text closeRaw]))

/-- The capped outlines one after another. -/
def listCapped (limit : Nat) : List Outline → List Outline
  | [] => []
  | item :: rest => capped limit item ++ listCapped limit rest

/-- The capped outlines of an otherwise-branch. -/
def branchCapped (limit : Nat) : Option (List Char × List Outline) → Option (List Char × List Outline)
  | none => none
  | some (raw, items) => some (raw, listCapped limit items)
end

@[simp] theorem nodes_append (first second : List Outline) :
    nodes (first ++ second) = nodes first ++ nodes second := by
  induction first with
  | nil => rfl
  | cons item rest ih => simp only [List.cons_append, nodes, ih]

@[simp] theorem listTokens_append (first second : List Outline) :
    listTokens (first ++ second) = listTokens first ++ listTokens second := by
  induction first with
  | nil => rfl
  | cons item rest ih => simp only [List.cons_append, listTokens, ih, List.append_assoc]

@[simp] theorem listCapped_append (limit : Nat) (first second : List Outline) :
    listCapped limit (first ++ second) = listCapped limit first ++ listCapped limit second := by
  induction first with
  | nil => rfl
  | cons item rest ih => simp only [List.cons_append, listCapped, ih, List.append_assoc]

@[simp] theorem listCapped_spelled (limit : Nat) (branch : Option (List Char × List Outline)) :
    listCapped limit (spelled branch) = spelled (branchCapped limit branch) := by
  match branch with
  | none => rfl
  | some (raw, items) => rfl

/-- The nodes of outlines with the blocks beyond the limit written out. -/
def cappedNodes (limit : Nat) (items : List Outline) : List Node := nodes (listCapped limit items)

@[simp] theorem cappedNodes_append (limit : Nat) (first second : List Outline) :
    cappedNodes limit (first ++ second) = cappedNodes limit first ++ cappedNodes limit second := by
  simp [cappedNodes]

end Outline

/-! ## One stack without a limit -/

/-- A block that is open: its opener, its body so far, and from an otherwise-marker on that
marker's text and the items after it. -/
structure Opening where
  kind : BlockKind
  argument : List Char
  openRaw : List Char
  body : List Outline
  otherwise : Option (List Char × List Outline)

namespace Opening

/-- The opening with one more item in the branch under way. -/
def push (opening : Opening) (item : Outline) : Opening :=
  match opening.otherwise with
  | some (raw, items) => { opening with otherwise := some (raw, items ++ [item]) }
  | none => { opening with body := opening.body ++ [item] }

/-- The block that a closer makes of an opening below which `level` others are open. -/
def toBlock (opening : Opening) (level : Nat) (closeRaw : List Char) : Outline :=
  .block opening.kind opening.argument opening.openRaw level opening.body opening.otherwise closeRaw

/-- The items of an opening that is never closed: its markers as text around what it
holds. -/
def toLiteral (opening : Opening) : List Outline :=
  .text opening.openRaw :: (opening.body ++ Outline.spelled opening.otherwise)

@[simp] theorem toLiteral_push (opening : Opening) (item : Outline) :
    (opening.push item).toLiteral = opening.toLiteral ++ [item] := by
  obtain ⟨kind, argument, openRaw, body, otherwise⟩ := opening
  match otherwise with
  | none => simp [push, toLiteral, Outline.spelled]
  | some (raw, items) => simp [push, toLiteral, Outline.spelled]

@[simp] theorem kind_push (opening : Opening) (item : Outline) :
    (opening.push item).kind = opening.kind := by
  simp only [push]
  split <;> rfl

end Opening

/-- An outline under construction: finished items at the top level and the open blocks,
innermost first. -/
structure Draft where
  root : List Outline
  openings : List Opening

namespace Draft

/-- Nothing read yet. -/
def empty : Draft := ⟨[], []⟩

/-- The draft with one more item in the innermost opening, or at the top level. -/
def emit (draft : Draft) (item : Outline) : Draft :=
  match draft.openings with
  | opening :: outer => { draft with openings := opening.push item :: outer }
  | [] => { draft with root := draft.root ++ [item] }

/-- The draft after one more token. -/
def step (draft : Draft) : Token → Draft
  | .text raw => draft.emit (.text raw)
  | .placeholder source braces raw => draft.emit (.placeholder source braces raw)
  | .opener kind argument raw =>
    { draft with openings := ⟨kind, argument, raw, [], none⟩ :: draft.openings }
  | .otherwise raw =>
    match draft.openings with
    | opening :: outer =>
      if opening.otherwise.isNone then
        { draft with openings := { opening with otherwise := some (raw, []) } :: outer }
      else draft.emit (.text raw)
    | [] => draft.emit (.text raw)
  | .closer kind raw =>
    match draft.openings with
    | opening :: outer =>
      -- What is below an opening stays while it is open, so this is the level of its opener.
      if opening.kind == kind then
        { draft with openings := outer }.emit (opening.toBlock outer.length raw)
      else draft.emit (.text raw)
    | [] => draft.emit (.text raw)

/-- The items of openings that are never closed, the outermost first. -/
def pending : List Opening → List Outline
  | [] => []
  | opening :: outer => pending outer ++ opening.toLiteral

/-- The top-level items at the end of the source; openings still open become text. -/
def finish (draft : Draft) : List Outline := draft.root ++ pending draft.openings

theorem pending_append (inner outer : List Opening) :
    pending (inner ++ outer) = pending outer ++ pending inner := by
  induction inner with
  | nil => simp [pending]
  | cons opening rest ih => simp only [List.cons_append, pending, ih, List.append_assoc]

end Draft

namespace Outline

/-- The outline of a list of tokens. -/
def ofTokens (tokens : List Token) : List Outline := (tokens.foldl Draft.step Draft.empty).finish

end Outline
end Herald
