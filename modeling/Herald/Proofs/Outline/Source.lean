/- The source behind a tree.

Nothing of a source is lost on the way to its tree: the tree has an outline that prints the
source, and whose markers are tokens of the source in their order
(`Outline.recovers_source`). On the way every token is kept or shown as text
(`Demotes`): a marker that finds no partner, one beyond the depth limit, and the markers of
a block that is never closed. -/
import Herald.Proofs.Outline.Stacks
import Herald.Proofs.Token
namespace Herald
set_option autoImplicit false

/-! ## Tokens shown as text -/

namespace Token

/-- The second list shows the tokens of the first in their order, some of them as text. -/
inductive Demotes : List Token → List Token → Prop where
  | nil : Demotes [] []
  | keep (token : Token) {rest shown : List Token} :
      Demotes rest shown → Demotes (token :: rest) (token :: shown)
  | demote (token : Token) {rest shown : List Token} :
      Demotes rest shown → Demotes (token :: rest) (.text token.raw :: shown)

namespace Demotes
variable {tokens shown others otherShown : List Token}

@[simp] theorem refl (tokens : List Token) : Demotes tokens tokens := by
  induction tokens with
  | nil => exact .nil
  | cons token rest ih => exact ih.keep token

theorem append (first : Demotes tokens shown) (second : Demotes others otherShown) :
    Demotes (tokens ++ others) (shown ++ otherShown) := by
  induction first with
  | nil => exact second
  | keep token _ ih => exact ih.keep token
  | demote token _ ih => exact ih.demote token

theorem trans (first : Demotes tokens shown) :
    ∀ {final : List Token}, Demotes shown final → Demotes tokens final := by
  induction first with
  | nil => exact fun second => second
  | keep token _ ih =>
      intro final second
      cases second with
      | keep _ rest => exact (ih rest).keep token
      | demote _ rest => exact (ih rest).demote token
  | demote token _ ih =>
      intro final second
      cases second with
      | keep _ rest => exact (ih rest).demote token
      | demote _ rest => exact (ih rest).demote token

theorem raws (demotes : Demotes tokens shown) : shown.flatMap raw = tokens.flatMap raw := by
  induction demotes with
  | nil => rfl
  | keep token _ ih => rw [List.flatMap_cons, List.flatMap_cons, ih]
  | demote token _ ih => rw [List.flatMap_cons, List.flatMap_cons, ih]; rfl

/-- What is not shown as text is a token in its place. -/
theorem markers_sublist (demotes : Demotes tokens shown) :
    (shown.filter (!·.isText)).Sublist tokens := by
  induction demotes with
  | nil => exact List.Sublist.slnil
  | keep token _ ih =>
      rw [List.filter_cons]
      split
      · exact ih.cons_cons token
      · exact ih.cons token
  | demote token _ ih => exact ih.cons token

end Demotes

end Token

/-! ## The tokens of a draft -/

namespace Opening

/-- The tokens of an opening so far. -/
def tokens (opening : Opening) : List Token :=
  .opener opening.kind opening.argument opening.openRaw ::
    (Outline.listTokens opening.body ++ Outline.branchTokens opening.otherwise)

@[simp] theorem tokens_push (opening : Opening) (item : Outline) :
    (opening.push item).tokens = opening.tokens ++ item.tokens := by
  obtain ⟨kind, argument, openRaw, body, otherwise⟩ := opening
  match otherwise with
  | none => simp [push, tokens, Outline.listTokens, Outline.branchTokens]
  | some (raw, items) => simp [push, tokens, Outline.listTokens, Outline.branchTokens]

theorem tokens_toBlock (opening : Opening) (level : Nat) (closeRaw : List Char) :
    (opening.toBlock level closeRaw).tokens = opening.tokens ++ [.closer opening.kind closeRaw] := by
  simp [toBlock, tokens, Outline.tokens]

theorem demotes_spelled (branch : Option (List Char × List Outline)) :
    Token.Demotes (Outline.branchTokens branch) (Outline.listTokens (Outline.spelled branch)) := by
  match branch with
  | none => exact .nil
  | some (raw, items) => exact .demote (.otherwise raw) (.refl _)

/-- Unclosed, an opening shows its markers as text. -/
theorem demotes_toLiteral (opening : Opening) :
    Token.Demotes opening.tokens (Outline.listTokens opening.toLiteral) := by
  have inside := (Token.Demotes.refl (Outline.listTokens opening.body)).append
    (demotes_spelled opening.otherwise)
  rw [toLiteral, Outline.listTokens, Outline.listTokens_append]
  exact .demote (.opener opening.kind opening.argument opening.openRaw) inside

end Opening

namespace Draft

/-- The tokens of openings so far, the outermost first. -/
def openTokens : List Opening → List Token
  | [] => []
  | opening :: outer => openTokens outer ++ opening.tokens

/-- The tokens of a draft. -/
def tokens (draft : Draft) : List Token :=
  Outline.listTokens draft.root ++ openTokens draft.openings

theorem tokens_emit (draft : Draft) (item : Outline) :
    (draft.emit item).tokens = draft.tokens ++ item.tokens := by
  obtain ⟨root, openings⟩ := draft
  cases openings with
  | nil => simp [emit, tokens, openTokens, Outline.listTokens]
  | cons opening outer => simp [emit, tokens, openTokens]

theorem tokens_emit_text (draft : Draft) (raw : List Char) :
    (draft.emit (.text raw)).tokens = draft.tokens ++ [.text raw] := tokens_emit draft _

/-- A token adds itself or its text. -/
theorem tokens_step (draft : Draft) (token : Token) :
    ∃ shown, (draft.step token).tokens = draft.tokens ++ shown ∧ Token.Demotes [token] shown := by
  have written : Token.Demotes [token] [.text token.raw] := .demote token .nil
  have kept : Token.Demotes [token] [token] := .refl _
  cases token with
  | text raw => exact ⟨_, tokens_emit draft _, written⟩
  | placeholder source braces raw => exact ⟨_, tokens_emit draft _, kept⟩
  | opener kind argument raw =>
      refine ⟨_, ?_, kept⟩
      simp [step, tokens, openTokens, Opening.tokens, Outline.listTokens, Outline.branchTokens]
  | otherwise raw =>
      obtain ⟨root, openings⟩ := draft
      cases openings with
      | nil => exact ⟨_, tokens_emit_text _ raw, written⟩
      | cons opening outer =>
          simp only [step]
          split
          · rename_i undivided
            have whole : opening.otherwise = none := by simpa using undivided
            refine ⟨_, ?_, kept⟩
            simp [tokens, openTokens, Opening.tokens, whole, Outline.listTokens, Outline.branchTokens]
          · exact ⟨_, tokens_emit_text _ raw, written⟩
  | closer kind raw =>
      obtain ⟨root, openings⟩ := draft
      cases openings with
      | nil => exact ⟨_, tokens_emit_text _ raw, written⟩
      | cons opening outer =>
          simp only [step]
          split
          · rename_i same
            have kinds : opening.kind = kind := by simpa using same
            refine ⟨_, ?_, kept⟩
            rw [tokens_emit, Opening.tokens_toBlock, kinds]
            simp [tokens, openTokens]
          · exact ⟨_, tokens_emit_text _ raw, written⟩

theorem tokens_run (tokens : List Token) (draft : Draft) :
    ∃ shown, (tokens.foldl step draft).tokens = draft.tokens ++ shown ∧ Token.Demotes tokens shown := by
  induction tokens generalizing draft with
  | nil => exact ⟨[], by simp, .nil⟩
  | cons token rest ih =>
      obtain ⟨shown, first, demotes⟩ := tokens_step draft token
      obtain ⟨others, second, restDemotes⟩ := ih (draft.step token)
      refine ⟨shown ++ others, ?_, demotes.append restDemotes⟩
      rw [List.foldl_cons, second, first, List.append_assoc]

theorem demotes_pending (openings : List Opening) :
    Token.Demotes (openTokens openings) (Outline.listTokens (pending openings)) := by
  induction openings with
  | nil => exact .nil
  | cons opening outer ih =>
      rw [openTokens, pending, Outline.listTokens_append]
      exact ih.append opening.demotes_toLiteral

end Draft

namespace Outline

theorem demotes_ofTokens (tokens : List Token) :
    Token.Demotes tokens (listTokens (ofTokens tokens)) := by
  obtain ⟨shown, kept, demotes⟩ := Draft.tokens_run tokens Draft.empty
  have run : Token.Demotes tokens (tokens.foldl Draft.step Draft.empty).tokens := by
    rw [kept]; exact demotes
  refine run.trans ?_
  rw [ofTokens, Draft.finish, listTokens_append]
  exact (Token.Demotes.refl _).append (Draft.demotes_pending _)

mutual
theorem demotes_capped (limit : Nat) (item : Outline) :
    Token.Demotes item.tokens (listTokens (capped limit item)) := by
  match item with
  | .text _ => exact .refl _
  | .placeholder _ _ _ => exact .refl _
  | .block kind argument openRaw level body otherwise closeRaw =>
      have inBody := demotes_listCapped limit body
      have inBranch := demotes_branchCapped limit otherwise
      simp only [capped]
      split
      · simp only [listTokens, tokens, List.append_nil]
        exact (inBody.append (inBranch.append (.refl _))).keep _
      · simp only [listTokens, tokens, listTokens_append, List.append_nil]
        refine .demote (.opener kind argument openRaw) (inBody.append (.append ?_ ?_))
        · exact inBranch.trans (Opening.demotes_spelled _)
        · exact .demote (.closer kind closeRaw) .nil

theorem demotes_listCapped (limit : Nat) (items : List Outline) :
    Token.Demotes (listTokens items) (listTokens (listCapped limit items)) := by
  match items with
  | [] => exact .nil
  | item :: rest =>
      rw [listTokens, listCapped, listTokens_append]
      exact (demotes_capped limit item).append (demotes_listCapped limit rest)

theorem demotes_branchCapped (limit : Nat) (branch : Option (List Char × List Outline)) :
    Token.Demotes (branchTokens branch) (branchTokens (branchCapped limit branch)) := by
  match branch with
  | none => exact .nil
  | some (raw, items) => exact (demotes_listCapped limit items).keep (.otherwise raw)
end

/-! ## Neighbouring texts -/

/-- Neighbouring texts made one. -/
def mergeTexts (items : List Outline) : List Outline :=
  items.foldr (fun item rest =>
    match item, rest with
    | .text raw, .text next :: more => .text (raw ++ next) :: more
    | _, _ => item :: rest) []

theorem nodes_mergeTexts (items : List Outline) :
    nodes (mergeTexts items) = Node.mergeTexts (nodes items) := by
  induction items with
  | nil => rfl
  | cons item rest ih =>
      simp only [mergeTexts, Node.mergeTexts, List.foldr_cons, nodes] at ih ⊢
      rw [← ih]
      generalize List.foldr _ [] rest = merged
      match item, merged with
      | .text raw, [] => rfl
      | .text raw, .text next :: more => rfl
      | .text raw, .placeholder .. :: more => rfl
      | .text raw, .block .. :: more => rfl
      | .placeholder .., _ => rfl
      | .block .., _ => rfl

theorem raws_mergeTexts (items : List Outline) :
    (listTokens (mergeTexts items)).flatMap Token.raw = (listTokens items).flatMap Token.raw := by
  induction items with
  | nil => rfl
  | cons item rest ih =>
      simp only [mergeTexts, List.foldr_cons, listTokens, List.flatMap_append] at ih ⊢
      rw [← ih]
      split
      · rename_i raw next more joined
        rw [joined]
        simp [listTokens, tokens, Token.raw]
      · simp [listTokens]

theorem markers_mergeTexts (items : List Outline) :
    (listTokens (mergeTexts items)).filter (!·.isText) = (listTokens items).filter (!·.isText) := by
  induction items with
  | nil => rfl
  | cons item rest ih =>
      simp only [mergeTexts, List.foldr_cons, listTokens, List.filter_append] at ih ⊢
      rw [← ih]
      split
      · rename_i raw next more joined
        rw [joined]
        simp [listTokens, tokens, Token.isText]
      · simp [listTokens]

end Outline

/-! ## The source recovered -/

namespace Node

/-- Whether a node is a block. -/
def isBlock : Node → Bool
  | .block _ _ _ _ => true
  | _ => false

/-- The text that a leaf was read from. -/
def leafText : Node → List Char
  | .text raw => raw
  | .placeholder _ _ raw => raw
  | .block _ _ _ _ => []

end Node

namespace Outline

/-- An outline without blocks prints its leaves. -/
theorem raws_of_leaves (items : List Outline)
    (leaves : ∀ node ∈ nodes items, node.isBlock = false) :
    (listTokens items).flatMap Token.raw = (nodes items).flatMap Node.leafText := by
  induction items with
  | nil => rfl
  | cons item rest ih =>
      have others := ih fun node inside => leaves node (List.mem_cons_of_mem _ inside)
      rw [listTokens, nodes, List.flatMap_append, List.flatMap_cons, others]
      cases item with
      | text raw => simp [tokens, node, Token.raw, Node.leafText]
      | placeholder source braces raw => simp [tokens, node, Token.raw, Node.leafText]
      | block kind argument openRaw level body otherwise closeRaw =>
          have leaf := leaves _ List.mem_cons_self
          simp [node, Node.isBlock] at leaf

/-- **Nothing of a source is lost, duplicated or reordered.** Its tokens spell it. Its tree
is that of an outline which assigns to every block the text of an opener of its kind and
argument, of a closer of its kind and, exactly when it has an otherwise-branch, of an
otherwise-marker; these markers and the placeholders are tokens of the source, in their
order, and the outline printed in document order is the source. Without blocks the leaves
of the tree spell the source. -/
theorem recovers_source (source : List Char) :
    (Token.ofSource source).flatMap Token.raw = source ∧
      (∃ outline : List Outline,
        nodes outline = Node.ofSource source ∧
        ((listTokens outline).filter (!·.isText)).Sublist (Token.ofSource source) ∧
        (listTokens outline).flatMap Token.raw = source) ∧
      ((∀ node ∈ Node.ofSource source, node.isBlock = false) →
        (Node.ofSource source).flatMap Node.leafText = source) := by
  have recovered : ∃ outline : List Outline,
      nodes outline = Node.ofSource source ∧
      ((listTokens outline).filter (!·.isText)).Sublist (Token.ofSource source) ∧
      (listTokens outline).flatMap Token.raw = source := by
    let limited := listCapped Node.depthLimit (ofTokens (Token.ofSource source))
    have demotes : Token.Demotes (Token.ofSource source) (listTokens limited) :=
      (demotes_ofTokens _).trans (demotes_listCapped _ _)
    refine ⟨mergeTexts limited, ?_, ?_, ?_⟩
    · rw [nodes_mergeTexts, Node.ofSource, Node.ofTokens_eq_capped, cappedNodes]
    · rw [markers_mergeTexts]
      exact demotes.markers_sublist
    · rw [raws_mergeTexts, demotes.raws, Token.raws_ofSource]
  refine ⟨Token.raws_ofSource source, recovered, ?_⟩
  intro leaves
  obtain ⟨outline, same, -, printed⟩ := recovered
  rw [← same] at leaves ⊢
  rw [← raws_of_leaves outline leaves, printed]

/-- A closer without an opener, and two openers without closers. -/
def unclosed : String := "a\x7b\x7b/if\x7d\x7d\x7b\x7b#each xs\x7d\x7db\x7b\x7b#if c\x7d\x7d"

theorem recovers_source_unclosed :
    (∀ node ∈ Node.ofSource unclosed.toList, node.isBlock = false) ∧
      (Node.ofSource unclosed.toList).flatMap Node.leafText =
        unclosed.toList :=
  have leaves : ∀ node ∈ Node.ofSource unclosed.toList,
      node.isBlock = false := by decide +kernel
  ⟨leaves, (recovers_source _).2.2 leaves⟩

end Outline
end Herald
