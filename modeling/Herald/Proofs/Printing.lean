/- Printing a tree.

A tree is printed with one spelling for each marker: `printList` writes texts as they are,
placeholders between their braces, and blocks between an opener, perhaps an otherwise-marker,
and a closer. A tree is printable when its texts are not empty, have no opening brace and no
text next to them, and its placeholders and arguments can stand in a marker
(`ListPrintable`).

Reading undoes printing for every printable tree within the depth limit
(`ofSource_printed`). Two facts carry this. Nothing printed runs into what stands behind it,
so the tokens of a printed tree are those of its nodes in document order
(`tokens_printList`); and the stack machine puts the nodes together again from these tokens
as long as there is a level left for each block (`foldl_listTokens`). -/
import Herald.Proofs.Assembly
import Herald.Proofs.Expression
import Herald.Proofs.Outline.Levels
import Herald.Proofs.Token.Reading
namespace Herald
set_option autoImplicit false

namespace Token

/-! ## Texts and placeholders before any rest -/

/-- No literal text stands in front. -/
def BeginsMarked (tokens : List Token) : Prop := ∀ token ∈ tokens.head?, token.isText = false

theorem beginsMarked_nil : BeginsMarked [] := by
  intro token inside
  cases inside

theorem beginsMarked_cons {token : Token} (marker : token.isText = false) (rest : List Token) :
    BeginsMarked (token :: rest) := by
  intro first inside
  obtain rfl := Option.some.inj inside
  exact marker

/-- Without a brace in it, a text is pending as a whole. -/
theorem scan_plain {raw : List Char} (plain : '{' ∉ raw) (held rest : List Char) :
    scan true held [] (raw ++ rest) = scan true (raw.reverse ++ held) [] rest := by
  induction raw generalizing held with
  | nil => rfl
  | cons c raw ih =>
      obtain ⟨other, later⟩ := not_or.mp (mt List.mem_cons.mpr plain)
      rw [List.cons_append, scan_other (Ne.symm other), ih later, List.reverse_cons,
        List.append_assoc, List.singleton_append]

/-- A text with a marker behind it is a token of its own. -/
theorem ofSource_plain {raw : List Char} (nonempty : raw ≠ []) (plain : '{' ∉ raw) {rest : List Char}
    (marked : BeginsMarked (ofSource rest)) : ofSource (raw ++ rest) = .text raw :: ofSource rest := by
  have joined : ofSource (raw ++ rest) = prepend raw (ofSource rest) := by
    rw [ofSource, scan_plain plain, List.append_nil, scan_eq, List.reverse_reverse]
    rfl
  rcases prepend_cases nonempty (ofSource rest) with ⟨next, more, begins, -⟩ | apart
  · rw [begins] at marked
    cases marked (.text next) rfl
  · rw [joined, apart]

/-- A placeholder in single braces, as it is written. -/
def singleMarker (path : List Char) : List Char := '{' :: (path ++ ['}'])

theorem ofSource_single {path : List Char} (dotted : isPath path = true) (rest : List Char) :
    ofSource (singleMarker path ++ rest) =
      .placeholder path .single (singleMarker path) :: ofSource rest := by
  have trimmed : Text.trim path = path := Text.trim_of_visible (Text.visible_of_word (isWord_of_isPath dotted))
  have shown : IsMarker (.placeholder path .single (singleMarker path)) := by
    have single := IsMarker.single (by rwa [trimmed] : isPath (Text.trim path) = true)
    rwa [trimmed] at single
  exact ofSource_marked shown rest

/-- An expression that does not end in a brace can stand right before the closing braces. -/
theorem IsExpression.enclosed_of_last {source : List Char} (expression : IsExpression source)
    (ends : source.getLast? ≠ some '}') : Enclosed source := by
  rcases List.eq_nil_or_concat source with rfl | ⟨front, last, shape⟩
  · exact enclosed_of_notMem List.not_mem_nil
  · rw [List.concat_eq_append] at shape
    subst shape
    have other : last ≠ '}' := by
      rintro rfl
      exact ends List.getLast?_concat
    have before := mt (braces_infix_append_cons other front []).mpr expression.noBraces
    rw [Enclosed, List.append_assoc, List.singleton_append, braces_infix_append_cons other, not_or]
    exact ⟨fun inside => before (.inl inside), not_braces_of_count (by decide)⟩

theorem ofSource_double {source : List Char} (expression : IsExpression source)
    (ends : source.getLast? ≠ some '}') (rest : List Char) :
    ofSource (marker source ++ rest) = .placeholder source .double (marker source) :: ofSource rest :=
  ofSource_marker (expression.enclosed_of_last ends) expression.ofInside_bare rest

end Token

namespace Node

/-! ## The printed text -/

/-- A placeholder as it is written. -/
def placeholderText (source : List Char) : Braces → List Char
  | .double => Token.marker source
  | .single => Token.singleMarker source

mutual
/-- The text of a node. -/
def print : Node → List Char
  | .text raw => raw
  | .placeholder source braces _ => placeholderText source braces
  | .block kind argument body otherwise =>
    Token.marker (Token.openerInside kind argument) ++
      (printList body ++ (printBranch otherwise ++ Token.marker (Token.closerInside kind)))

/-- The texts of nodes one after another. -/
def printList : List Node → List Char
  | [] => []
  | node :: rest => print node ++ printList rest

/-- The text of an otherwise-branch, its marker first. -/
def printBranch : Option (List Node) → List Char
  | none => []
  | some nodes => Token.marker "else".toList ++ printList nodes
end

mutual
/-- The tokens that a printed node consists of. -/
def tokens : Node → List Token
  | .text raw => [.text raw]
  | .placeholder source braces _ => [.placeholder source braces (placeholderText source braces)]
  | .block kind argument body otherwise =>
    .opener kind argument (Token.marker (Token.openerInside kind argument)) ::
      (listTokens body ++
        (branchTokens otherwise ++ [.closer kind (Token.marker (Token.closerInside kind))]))

/-- The tokens of nodes one after another. -/
def listTokens : List Node → List Token
  | [] => []
  | node :: rest => tokens node ++ listTokens rest

/-- The tokens of an otherwise-branch, its marker first. -/
def branchTokens : Option (List Node) → List Token
  | none => []
  | some nodes => .otherwise (Token.marker "else".toList) :: listTokens nodes
end

/-! ## Printable trees -/

/-- Whether a node is literal text. -/
def isText : Node → Bool
  | .text _ => true
  | _ => false

/-- The sources that a placeholder can be written with. -/
def IsSource (source : List Char) : Braces → Prop
  | .double => Token.IsExpression source ∧ source.getLast? ≠ some '}'
  | .single => Token.isPath source = true

mutual
/-- A node whose text reads as what the node is. -/
def Printable : Node → Prop
  | .text raw => raw ≠ [] ∧ '{' ∉ raw
  | .placeholder source braces raw => IsSource source braces ∧ raw = placeholderText source braces
  | .block _ argument body otherwise =>
    Text.trim argument = argument ∧ '}' ∉ argument ∧ ListPrintable body ∧ BranchPrintable otherwise

/-- Printable nodes, no two texts of them next to each other. -/
def ListPrintable : List Node → Prop
  | [] => True
  | node :: rest =>
    Printable node ∧ (node.isText = true → ∀ next ∈ rest.head?, next.isText = false) ∧
      ListPrintable rest

/-- A printable otherwise-branch. -/
def BranchPrintable : Option (List Node) → Prop
  | none => True
  | some nodes => ListPrintable nodes
end

/-! ## Reading the tokens -/

theorem beginsMarked_tokens {node : Node} (other : node.isText = false) (rest : List Token) :
    Token.BeginsMarked (node.tokens ++ rest) := by
  cases node with
  | text raw => cases other
  | placeholder source braces raw => exact Token.beginsMarked_cons rfl _
  | block kind argument body otherwise => exact Token.beginsMarked_cons rfl _

theorem beginsMarked_listTokens {nodes : List Node} {rest : List Token}
    (others : ∀ next ∈ nodes.head?, next.isText = false) (behind : Token.BeginsMarked rest) :
    Token.BeginsMarked (listTokens nodes ++ rest) := by
  cases nodes with
  | nil => exact behind
  | cons node more =>
      rw [listTokens, List.append_assoc]
      exact beginsMarked_tokens (others node rfl) _

theorem beginsMarked_branchTokens (otherwise : Option (List Node)) {rest : List Token}
    (behind : Token.BeginsMarked rest) : Token.BeginsMarked (branchTokens otherwise ++ rest) := by
  match otherwise with
  | none => exact behind
  | some nodes => exact Token.beginsMarked_cons rfl _

mutual
/-- A printed node is read as its tokens, whatever stands behind it; behind a text that must
not be text again. -/
theorem tokens_print (node : Node) (printable : node.Printable) {rest : List Char}
    (apart : node.isText = true → Token.BeginsMarked (Token.ofSource rest)) :
    Token.ofSource (node.print ++ rest) = node.tokens ++ Token.ofSource rest := by
  match node with
  | .text raw => exact Token.ofSource_plain printable.1 printable.2 (apart rfl)
  | .placeholder source .double raw =>
      obtain ⟨expression, ends⟩ := printable.1
      exact Token.ofSource_double expression ends rest
  | .placeholder source .single raw => exact Token.ofSource_single printable.1 rest
  | .block kind argument body otherwise =>
      obtain ⟨trimmed, closed, inBody, inBranch⟩ := printable
      have openerClosed : Token.Enclosed (Token.openerInside kind argument) :=
        Token.enclosed_of_notMem (by cases kind <;> simp [Token.openerInside, BlockKind.keyword, closed])
      have closerClosed : Token.Enclosed (Token.closerInside kind) :=
        Token.enclosed_of_notMem (by cases kind <;> decide)
      have opener := Token.ofInside_opener kind argument
      rw [trimmed] at opener
      -- The branch and the closer are read first: the body needs to know that a marker follows.
      have ending := Token.ofSource_marker closerClosed (Token.ofInside_closer kind) rest
      have endMarked : Token.BeginsMarked
          (Token.ofSource (Token.marker (Token.closerInside kind) ++ rest)) := by
        rw [ending]
        exact Token.beginsMarked_cons rfl _
      have branch := tokens_printBranch otherwise inBranch endMarked
      have branchMarked : Token.BeginsMarked (Token.ofSource
          (printBranch otherwise ++ (Token.marker (Token.closerInside kind) ++ rest))) := by
        rw [branch]
        exact beginsMarked_branchTokens otherwise endMarked
      simp only [print, tokens, List.append_assoc, List.cons_append, List.nil_append]
      rw [Token.ofSource_marker openerClosed opener, tokens_printList body inBody branchMarked, branch,
        ending]

/-- Printed nodes are read as their tokens. -/
theorem tokens_printList (nodes : List Node) (printable : ListPrintable nodes) {rest : List Char}
    (apart : Token.BeginsMarked (Token.ofSource rest)) :
    Token.ofSource (printList nodes ++ rest) = listTokens nodes ++ Token.ofSource rest := by
  match nodes with
  | [] => rfl
  | node :: more =>
      obtain ⟨first, lone, others⟩ := printable
      have behind := tokens_printList more others apart
      rw [printList, listTokens, List.append_assoc, List.append_assoc, tokens_print node first ?_, behind]
      intro text
      rw [behind]
      exact beginsMarked_listTokens (lone text) apart

/-- A printed otherwise-branch is read as its tokens. -/
theorem tokens_printBranch (otherwise : Option (List Node)) (printable : BranchPrintable otherwise)
    {rest : List Char} (apart : Token.BeginsMarked (Token.ofSource rest)) :
    Token.ofSource (printBranch otherwise ++ rest) = branchTokens otherwise ++ Token.ofSource rest := by
  match otherwise with
  | none => rfl
  | some nodes =>
      have closed : Token.Enclosed "else".toList := Token.enclosed_of_notMem (by decide)
      rw [printBranch, branchTokens, List.append_assoc,
        Token.ofSource_marker closed Token.ofInside_otherwise, tokens_printList nodes printable apart]
      rfl
end

/-! ## Rebuilding the nodes -/

section Rebuilding
variable {limit : Nat}

mutual
/-- The tokens of a node emit the node, if there is a level left for each of its blocks. -/
theorem foldl_tokens (node : Node) (printable : node.Printable) {base : Assembly}
    (clear : base.overflow = []) (room : base.frames.length + node.depth ≤ limit) :
    node.tokens.foldl (Assembly.step limit) base = base.emit node := by
  match node with
  | .text raw => rfl
  | .placeholder source braces raw =>
      obtain ⟨-, rfl⟩ := printable
      rfl
  | .block kind argument body otherwise =>
      obtain ⟨-, -, inBody, inBranch⟩ := printable
      obtain ⟨root, frames, overflow⟩ := base
      obtain rfl : overflow = [] := clear
      replace room : frames.length + (max (listDepth body) (branchDepth otherwise) + 1) ≤ limit := by
        rwa [depth] at room
      let openRaw := Token.marker (Token.openerInside kind argument)
      let opened : Frame := ⟨kind, argument, openRaw, #[], none⟩
      have opening : (Assembly.mk root frames []).step limit (.opener kind argument openRaw) =
          ⟨root, opened :: frames, []⟩ := by
        have free : ¬ limit ≤ frames.length := by omega
        rw [Assembly.step, if_neg free]
      have bodied : (listTokens body).foldl (Assembly.step limit) ⟨root, opened :: frames, []⟩ =
          ⟨root, ⟨kind, argument, openRaw, body.toArray, none⟩ :: frames, []⟩ := by
        rw [foldl_listTokens body inBody rfl (by simp only [List.length_cons]; omega),
          Assembly.emitAll_frame, Frame.foldl_push_body]
        simp
      have branched := foldl_branchTokens otherwise inBranch root frames kind argument openRaw
        body.toArray (by omega)
      simp only [tokens, List.foldl_cons, List.foldl_append, List.foldl_nil]
      rw [opening, bodied, branched]
      cases otherwise <;> simp [Assembly.step, Assembly.close, Frame.toBlock]

/-- The tokens of nodes emit the nodes. -/
theorem foldl_listTokens (nodes : List Node) (printable : ListPrintable nodes) {base : Assembly}
    (clear : base.overflow = []) (room : base.frames.length + listDepth nodes ≤ limit) :
    (listTokens nodes).foldl (Assembly.step limit) base = base.emitAll nodes := by
  match nodes with
  | [] => rfl
  | node :: rest =>
      obtain ⟨first, -, others⟩ := printable
      rw [listDepth] at room
      have emitted : (base.emit node).overflow = [] ∧
          (base.emit node).frames.length = base.frames.length := by
        rw [← Assembly.emitAll_singleton, Assembly.overflow_emitAll, Assembly.length_frames_emitAll]
        exact ⟨clear, rfl⟩
      rw [listTokens, List.foldl_append, foldl_tokens node first clear (by omega),
        foldl_listTokens rest others emitted.1 (by rw [emitted.2]; omega)]
      rfl

/-- The tokens of an otherwise-branch divide the innermost frame and emit the branch there. -/
theorem foldl_branchTokens (otherwise : Option (List Node)) (printable : BranchPrintable otherwise)
    (root : Array Node) (outer : List Frame) (kind : BlockKind) (argument openRaw : List Char)
    (body : Array Node) (room : outer.length + 1 + branchDepth otherwise ≤ limit) :
    (branchTokens otherwise).foldl (Assembly.step limit)
        ⟨root, ⟨kind, argument, openRaw, body, none⟩ :: outer, []⟩ =
      ⟨root, ⟨kind, argument, openRaw, body,
        otherwise.map fun nodes => (Token.marker "else".toList, nodes.toArray)⟩ :: outer, []⟩ := by
  match otherwise with
  | none => rfl
  | some nodes =>
      have divided : (Assembly.mk root (⟨kind, argument, openRaw, body, none⟩ :: outer) []).step limit
          (.otherwise (Token.marker "else".toList)) =
          ⟨root, ⟨kind, argument, openRaw, body, some (Token.marker "else".toList, #[])⟩ :: outer, []⟩ :=
        rfl
      rw [branchDepth] at room
      rw [branchTokens, List.foldl_cons, divided,
        foldl_listTokens nodes printable rfl (by simp only [List.length_cons]; omega),
        Assembly.emitAll_frame, Frame.foldl_push_branch]
      simp
end

end Rebuilding

/-- Nodes without neighbouring texts have none to merge. -/
theorem mergeTexts_of_printable {nodes : List Node} (printable : ListPrintable nodes) :
    mergeTexts nodes = nodes := by
  induction nodes with
  | nil => rfl
  | cons node rest ih =>
      obtain ⟨-, lone, others⟩ := printable
      have same := ih others
      simp only [mergeTexts, List.foldr_cons] at same ⊢
      rw [same]
      split
      · rename_i raw next more
        cases lone rfl (.text next) rfl
      · rfl

/-! ## The round trip -/

/-- **Reading undoes printing.** A printable tree within the depth limit is the tree of its
printed text. -/
theorem ofSource_printed (nodes : List Node) (printable : ListPrintable nodes)
    (shallow : listDepth nodes ≤ depthLimit) : ofSource (printList nodes) = nodes := by
  have read : Token.ofSource (printList nodes) = listTokens nodes := by
    have marked : Token.BeginsMarked (Token.ofSource []) := by
      rw [Token.ofSource_nil]
      exact Token.beginsMarked_nil
    have behind := tokens_printList nodes printable marked
    rwa [List.append_nil, Token.ofSource_nil, List.append_nil] at behind
  have room : Assembly.empty.frames.length + listDepth nodes ≤ depthLimit := by
    simpa [Assembly.empty] using shallow
  rw [ofSource, ofTokens, read, foldl_listTokens nodes printable rfl room, Assembly.empty,
    Assembly.emitAll_root]
  simpa [Assembly.finish] using mergeTexts_of_printable printable

namespace Example

/-- Blocks that fill a number of levels, each between a placeholder and a text, and each with
an empty otherwise-branch. -/
def levels : Nat → List Node
  | 0 => [.placeholder "total | number:2".toList .double (Token.marker "total | number:2".toList)]
  | deeper + 1 =>
    [.placeholder "user.name".toList .single (Token.singleMarker "user.name".toList),
      .block .whenTrue "a == \"\x7b\"".toList (levels deeper) (some []), .text "\x7d and so on".toList]

theorem depth_levels (count : Nat) : listDepth (levels count) = count := by
  induction count with
  | zero => rfl
  | succ deeper ih => simp [levels, listDepth, depth, branchDepth, ih]

theorem printable_levels (count : Nat) : ListPrintable (levels count) := by
  induction count with
  | zero =>
      have expression : Token.IsExpression "total | number:2".toList :=
        ⟨by decide, by decide, by decide, by decide, Token.not_braces_of_notMem (by decide)⟩
      exact ⟨⟨⟨expression, by decide⟩, rfl⟩, fun text => (by cases text), trivial⟩
  | succ deeper ih =>
      have path : Token.isPath "user.name".toList = true := by decide +kernel
      have trimmed : Text.trim "a == \"\x7b\"".toList = "a == \"\x7b\"".toList := by decide
      have closed : '}' ∉ "a == \"\x7b\"".toList := by decide
      have plain : "\x7d and so on".toList ≠ [] ∧ '{' ∉ "\x7d and so on".toList := by decide
      refine ⟨⟨path, rfl⟩, fun text => (by cases text), ⟨trimmed, closed, ih, trivial⟩,
        fun text => (by cases text), plain, ?_, trivial⟩
      intro _ next inside
      cases inside

theorem ofSource_printed_levels :
    ListPrintable (levels 64) ∧ listDepth (levels 64) ≤ depthLimit ∧
      ofSource (printList (levels 64)) = levels 64 := by
  have shallow : listDepth (levels 64) ≤ depthLimit := by
    rw [depth_levels]
    exact Nat.le_refl 64
  exact ⟨printable_levels 64, shallow, ofSource_printed _ (printable_levels 64) shallow⟩

end Example

end Node
end Herald
