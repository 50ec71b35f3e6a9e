/- Self-contained sources.

A source is self-contained when its blocks are properly nested, at least one level short of
the depth limit, every otherwise-marker of it lies inside one of its own blocks, and its
literal text has no opening brace. Such a source is read inside a block, or before another
source, as it is read on its own: reading it anywhere emits the nodes that it gives alone
(`Assembly.foldl_nested`). So the tree of two sources one after another, and of a block
around two sources, is put together from theirs (`Node.ofSource_append`,
`Node.ofSource_block`). -/
import Herald.Proofs.Assembly
import Herald.Proofs.Token
namespace Herald
set_option autoImplicit false

/-! ## Nested tokens -/

namespace Token

/-- The kinds of the blocks open after a token, innermost first; none where the token is a
marker without a place among them, an opener that would fill the last level, or a literal
text with an opening brace. -/
def nest? (kinds : List BlockKind) : Token → Option (List BlockKind)
  | .text raw => if '{' ∈ raw then none else some kinds
  | .placeholder _ _ _ => some kinds
  | .opener kind _ _ => if kinds.length + 1 < Node.depthLimit then some (kind :: kinds) else none
  | .otherwise _ => if kinds.isEmpty then none else some kinds
  | .closer kind _ =>
    match kinds with
    | top :: outer => if top = kind then some outer else none
    | [] => none

/-- Tokens lead from some open blocks to others. -/
def Nests (kinds : List BlockKind) (tokens : List Token) (after : List BlockKind) : Prop :=
  tokens.foldlM nest? kinds = some after

instance (kinds : List BlockKind) (tokens : List Token) (after : List BlockKind) :
    Decidable (Nests kinds tokens after) :=
  inferInstanceAs (Decidable (_ = _))

theorem nests_nil {kinds after : List BlockKind} : Nests kinds [] after ↔ kinds = after := by
  simp [Nests]

theorem nests_cons {kinds after : List BlockKind} {token : Token} {rest : List Token} :
    Nests kinds (token :: rest) after ↔ ∃ next, nest? kinds token = some next ∧ Nests next rest after := by
  simp [Nests, Option.bind_eq_some_iff]

theorem nests_append {kinds after : List BlockKind} {first second : List Token} :
    Nests kinds (first ++ second) after ↔
      ∃ between, Nests kinds first between ∧ Nests between second after := by
  simp [Nests, Option.bind_eq_some_iff]

theorem nests_text {kinds after : List BlockKind} {raw : List Char} {rest : List Token} :
    Nests kinds (.text raw :: rest) after ↔ '{' ∉ raw ∧ Nests kinds rest after := by
  rw [nests_cons]
  by_cases brace : '{' ∈ raw <;> simp [nest?, brace]

theorem Nests.plain {tokens : List Token} {after : List BlockKind} :
    ∀ {kinds : List BlockKind}, Nests kinds tokens after → Plain tokens := by
  induction tokens with
  | nil => exact fun _ raw inside => absurd inside List.not_mem_nil
  | cons token rest ih =>
      intro kinds nests raw inside
      obtain ⟨next, first, others⟩ := nests_cons.mp nests
      rcases List.mem_cons.mp inside with rfl | deeper
      · exact (nests_text.mp nests).1
      · exact ih others raw deeper

/-- A text joined to the text behind it nests as the two do. -/
theorem nests_prepend {kinds between after : List BlockKind} {held : List Char} {tokens : List Token}
    (alone : Nests kinds (prepend held []) between) (behind : Nests between tokens after) :
    Nests kinds (prepend held tokens) after := by
  by_cases pending : held = []
  · subst pending
    obtain rfl := nests_nil.mp alone
    exact behind
  · have single : prepend held [] = [.text held] := by simp [prepend, pending]
    rw [single] at alone
    obtain ⟨plain, rest⟩ := nests_text.mp alone
    obtain rfl := nests_nil.mp rest
    rcases prepend_cases pending tokens with ⟨raw, more, rfl, joined⟩ | apart
    · obtain ⟨rawPlain, others⟩ := nests_text.mp behind
      rw [joined]
      exact nests_text.mpr ⟨by simp [plain, rawPlain], others⟩
    · rw [apart]
      exact nests_text.mpr ⟨plain, behind⟩

end Token

/-- A source that closes the blocks it opens, with a level to spare, divides none but its own,
and has no opening brace in its literal text. -/
def SelfContained (source : List Char) : Prop := Token.Nests [] (Token.ofSource source) []

instance (source : List Char) : Decidable (SelfContained source) :=
  inferInstanceAs (Decidable (Token.Nests _ _ _))

/-! ## Nested tokens in an assembly -/

namespace Assembly

/-- An assembly built upon another one: its top-level nodes go where the other emits, its
frames are inside those of the other. -/
def carrying (base inner : Assembly) : Assembly :=
  { base.emitAll inner.root.toList with
    frames := inner.frames ++ (base.emitAll inner.root.toList).frames }

theorem emit_carrying (base inner : Assembly) (node : Node) :
    (base.carrying inner).emit node = base.carrying (inner.emit node) := by
  obtain ⟨root, frames, overflow⟩ := inner
  cases frames with
  | nil =>
      simp only [carrying, emit, List.nil_append, Array.toList_push, emitAll_append, emitAll_singleton]
  | cons frame outer => simp [carrying, emit]

/-- An assembly has these blocks open, and none beyond the limit. -/
structure HasOpen (assembly : Assembly) (kinds : List BlockKind) : Prop where
  frames : assembly.frames.map Frame.kind = kinds
  overflow : assembly.overflow = []

theorem HasOpen.emit {assembly : Assembly} {kinds : List BlockKind} (opened : assembly.HasOpen kinds)
    (node : Node) : (assembly.emit node).HasOpen kinds := by
  obtain ⟨root, frames, overflow⟩ := assembly
  cases frames with
  | nil => exact ⟨opened.frames, opened.overflow⟩
  | cons frame outer =>
      have kind : (frame.push node).kind = frame.kind := by
        simp only [Frame.push]
        split <;> rfl
      refine ⟨?_, opened.overflow⟩
      have frames := opened.frames
      simpa [Assembly.emit, kind] using frames

section Carrying
variable {base : Assembly} {root : Array Node} {frame : Frame} {outer : List Frame}

theorem overflow_carrying (clear : base.overflow = []) (inner : Assembly) :
    (base.carrying inner).overflow = [] := by
  rw [carrying, overflow_emitAll]
  exact clear

theorem step_carrying_opener {frames : List Frame} (shallow : base.frames.length ≤ 1)
    (room : frames.length + 1 < Node.depthLimit) (kind : BlockKind) (argument raw : List Char) :
    (base.carrying ⟨root, frames, []⟩).step Node.depthLimit (.opener kind argument raw) =
        base.carrying ((Assembly.mk root frames []).step Node.depthLimit (.opener kind argument raw)) ∧
      ((Assembly.mk root frames []).step Node.depthLimit (.opener kind argument raw)).HasOpen
        (kind :: frames.map Frame.kind) := by
  have alone : ¬ Node.depthLimit ≤ frames.length := by omega
  have above : ¬ Node.depthLimit ≤ (base.carrying ⟨root, frames, []⟩).frames.length := by
    simp only [carrying, List.length_append, length_frames_emitAll]
    omega
  simp only [step, if_neg alone, if_neg above]
  exact ⟨rfl, rfl, rfl⟩

theorem step_carrying_otherwise (clear : base.overflow = []) (raw : List Char) :
    (base.carrying ⟨root, frame :: outer, []⟩).step Node.depthLimit (.otherwise raw) =
        base.carrying ((Assembly.mk root (frame :: outer) []).step Node.depthLimit (.otherwise raw)) ∧
      ((Assembly.mk root (frame :: outer) []).step Node.depthLimit (.otherwise raw)).HasOpen
        ((frame :: outer).map Frame.kind) := by
  have emptied : (base.emitAll root.toList).overflow = [] := overflow_carrying clear ⟨root, [], []⟩
  by_cases undivided : frame.otherwise = none
  · let divided : Frame := { frame with otherwise := some (raw, #[]) }
    have alone : (Assembly.mk root (frame :: outer) []).step Node.depthLimit (.otherwise raw) =
        ⟨root, divided :: outer, []⟩ := by
      simp [step, divide, undivided, divided]
    have above : (base.carrying ⟨root, frame :: outer, []⟩).step Node.depthLimit (.otherwise raw) =
        base.carrying ⟨root, divided :: outer, []⟩ := by
      simp [step, divide, carrying, emptied, undivided, divided]
    rw [alone, above]
    exact ⟨rfl, rfl, rfl⟩
  · have alone : (Assembly.mk root (frame :: outer) []).step Node.depthLimit (.otherwise raw) =
        (Assembly.mk root (frame :: outer) []).emit (.text raw) := by
      simp [step, divide, undivided]
    have above : (base.carrying ⟨root, frame :: outer, []⟩).step Node.depthLimit (.otherwise raw) =
        (base.carrying ⟨root, frame :: outer, []⟩).emit (.text raw) := by
      simp [step, divide, carrying, undivided]
    have opened : HasOpen ⟨root, frame :: outer, []⟩ ((frame :: outer).map Frame.kind) := ⟨rfl, rfl⟩
    rw [alone, above]
    exact ⟨emit_carrying _ _ _, opened.emit _⟩

theorem step_carrying_closer (clear : base.overflow = []) (raw : List Char) :
    (base.carrying ⟨root, frame :: outer, []⟩).step Node.depthLimit (.closer frame.kind raw) =
        base.carrying ((Assembly.mk root (frame :: outer) []).step Node.depthLimit (.closer frame.kind raw)) ∧
      ((Assembly.mk root (frame :: outer) []).step Node.depthLimit (.closer frame.kind raw)).HasOpen
        (outer.map Frame.kind) := by
  have emptied : (base.emitAll root.toList).overflow = [] := overflow_carrying clear ⟨root, [], []⟩
  have alone : (Assembly.mk root (frame :: outer) []).step Node.depthLimit (.closer frame.kind raw) =
      (Assembly.mk root outer []).emit frame.toBlock := by
    simp [step, close]
  have above : (base.carrying ⟨root, frame :: outer, []⟩).step Node.depthLimit (.closer frame.kind raw) =
      (base.carrying ⟨root, outer, []⟩).emit frame.toBlock := by
    simp [step, close, carrying, emptied]
  have opened : HasOpen ⟨root, outer, []⟩ (outer.map Frame.kind) := ⟨rfl, rfl⟩
  rw [alone, above]
  exact ⟨emit_carrying _ _ _, opened.emit _⟩

end Carrying

/-- **A nested token does upon another assembly what it does alone**, if one more level is
free there. -/
theorem step_carrying {base inner : Assembly} {kinds after : List BlockKind} {token : Token}
    (clear : base.overflow = []) (shallow : base.frames.length ≤ 1) (opened : inner.HasOpen kinds)
    (nests : Token.nest? kinds token = some after) :
    (base.carrying inner).step Node.depthLimit token = base.carrying (inner.step Node.depthLimit token) ∧
      (inner.step Node.depthLimit token).HasOpen after := by
  obtain ⟨root, frames, overflow⟩ := inner
  obtain ⟨rfl, none_over⟩ := opened
  obtain rfl : overflow = [] := none_over
  have same : HasOpen ⟨root, frames, []⟩ (frames.map Frame.kind) := ⟨rfl, rfl⟩
  cases token with
  | text raw =>
      simp only [Token.nest?] at nests
      split at nests
      · cases nests
      · cases nests
        exact ⟨emit_carrying _ _ _, same.emit _⟩
  | placeholder source braces raw =>
      cases nests
      exact ⟨emit_carrying _ _ _, same.emit _⟩
  | opener kind argument raw =>
      simp only [Token.nest?, List.length_map] at nests
      split at nests
      · cases nests
        exact step_carrying_opener shallow ‹_› kind argument raw
      · cases nests
  | otherwise raw =>
      cases frames with
      | nil => cases nests
      | cons frame outer =>
          cases nests
          exact step_carrying_otherwise clear raw
  | closer kind raw =>
      cases frames with
      | nil => cases nests
      | cons frame outer =>
          simp only [Token.nest?, List.map_cons] at nests
          split at nests
          · rename_i matching
            cases nests
            subst matching
            exact step_carrying_closer clear raw
          · cases nests

/-- Nested tokens do upon another assembly what they do alone. -/
theorem foldl_carrying {base : Assembly} {tokens : List Token} (clear : base.overflow = [])
    (shallow : base.frames.length ≤ 1) :
    ∀ {inner : Assembly} {kinds after : List BlockKind}, inner.HasOpen kinds →
      Token.Nests kinds tokens after →
      tokens.foldl (step Node.depthLimit) (base.carrying inner) =
          base.carrying (tokens.foldl (step Node.depthLimit) inner) ∧
        (tokens.foldl (step Node.depthLimit) inner).HasOpen after := by
  induction tokens with
  | nil =>
      intro inner kinds after opened nests
      obtain rfl := Token.nests_nil.mp nests
      exact ⟨rfl, opened⟩
  | cons token rest ih =>
      intro inner kinds after opened nests
      obtain ⟨next, first, others⟩ := Token.nests_cons.mp nests
      obtain ⟨stepped, nextOpen⟩ := step_carrying clear shallow opened first
      rw [List.foldl_cons, List.foldl_cons, stepped]
      exact ih nextOpen others

end Assembly

namespace Token

/-- The nodes of tokens that open and close their own blocks. -/
def nodes (tokens : List Token) : List Node :=
  (tokens.foldl (Assembly.step Node.depthLimit) Assembly.empty).root.toList

end Token

/-- **Nested tokens emit, wherever they stand, the nodes that they give alone.** -/
theorem Assembly.foldl_nested {tokens : List Token} (nests : Token.Nests [] tokens [])
    {base : Assembly} (clear : base.overflow = []) (shallow : base.frames.length ≤ 1) :
    tokens.foldl (Assembly.step Node.depthLimit) base = base.emitAll (Token.nodes tokens) := by
  have opened : Assembly.empty.HasOpen [] := ⟨rfl, rfl⟩
  obtain ⟨run, closed⟩ := Assembly.foldl_carrying clear shallow opened nests
  have begun : base.carrying Assembly.empty = base := rfl
  have frames : (tokens.foldl (Assembly.step Node.depthLimit) Assembly.empty).frames = [] :=
    List.map_eq_nil_iff.mp closed.frames
  rw [begun] at run
  rw [run, Assembly.carrying, frames]
  rfl

/-! ## Tokens one after another -/

namespace Token

theorem foldl_nodes {tokens : List Token} (nests : Nests [] tokens []) (root : Array Node) :
    tokens.foldl (Assembly.step Node.depthLimit) ⟨root, [], []⟩ =
      ⟨root ++ (nodes tokens).toArray, [], []⟩ := by
  have shallow : (Assembly.mk root [] []).frames.length ≤ 1 := Nat.zero_le 1
  rw [Assembly.foldl_nested nests rfl shallow, Assembly.emitAll_root]

theorem foldl_nodes_inside {tokens : List Token} (nests : Nests [] tokens []) (root : Array Node)
    (frame : Frame) :
    tokens.foldl (Assembly.step Node.depthLimit) ⟨root, [frame], []⟩ =
      ⟨root, [(nodes tokens).foldl Frame.push frame], []⟩ := by
  have shallow : (Assembly.mk root [frame] []).frames.length ≤ 1 := Nat.le_refl 1
  rw [Assembly.foldl_nested nests rfl shallow, Assembly.emitAll_frame]

theorem nodes_append {first second : List Token} (firstNests : Nests [] first [])
    (secondNests : Nests [] second []) : nodes (first ++ second) = nodes first ++ nodes second := by
  rw [nodes, List.foldl_append, Assembly.empty, foldl_nodes firstNests, foldl_nodes secondNests]
  simp

theorem nodes_text {raw : List Char} {rest : List Token} (nests : Nests [] (.text raw :: rest) []) :
    nodes (.text raw :: rest) = .text raw :: nodes rest := by
  obtain ⟨plain, others⟩ := nests_text.mp nests
  have alone : Nests [] [.text raw] [] := nests_text.mpr ⟨plain, nests_nil.mpr rfl⟩
  exact nodes_append alone others

end Token

namespace Node

/-- Two texts next to each other are merged as their join is. -/
theorem mergeTexts_join (before rest : List Node) (first second : List Char) :
    mergeTexts (before ++ .text first :: .text second :: rest) =
      mergeTexts (before ++ .text (first ++ second) :: rest) := by
  simp only [mergeTexts, List.foldr_append, List.foldr_cons]
  generalize List.foldr _ [] rest = merged
  match merged with
  | [] => rfl
  | .text next :: more => simp only [List.append_assoc]
  | .placeholder _ _ _ :: _ => rfl
  | .block _ _ _ _ :: _ => rfl

theorem ofTokens_nested {tokens : List Token} (nests : Token.Nests [] tokens []) :
    ofTokens depthLimit tokens = mergeTexts (Token.nodes tokens) := by
  rw [ofTokens, Assembly.empty, Token.foldl_nodes nests]
  simp [Assembly.finish]

/-- The tree of a self-contained source. -/
theorem ofSource_nested {source : List Char} (own : SelfContained source) :
    ofSource source = mergeTexts (Token.nodes (Token.ofSource source)) :=
  ofTokens_nested own

/-- Literal text in front of nested tokens is merged with the text that they begin with. -/
theorem mergeTexts_prepend {held : List Char} {tokens : List Token} (before : List Node)
    (alone : Token.Nests [] (Token.prepend held []) []) (behind : Token.Nests [] tokens []) :
    mergeTexts (before ++ Token.nodes (Token.prepend held tokens)) =
      mergeTexts (before ++ (Token.nodes (Token.prepend held []) ++ Token.nodes tokens)) := by
  by_cases pending : held = []
  · subst pending
    rfl
  · have single : Token.prepend held [] = [.text held] := by simp [Token.prepend, pending]
    have joinedNests := Token.nests_prepend alone behind
    rw [single] at alone
    have shown : Token.nodes [.text held] = [.text held] := Token.nodes_text alone
    rw [single, shown, List.singleton_append]
    rcases Token.prepend_cases pending tokens with ⟨raw, rest, rfl, joined⟩ | apart
    · rw [joined] at joinedNests ⊢
      rw [Token.nodes_text joinedNests, Token.nodes_text behind, mergeTexts_join]
    · rw [apart] at joinedNests ⊢
      rw [Token.nodes_text joinedNests]

/-! ## Sources one after another -/

/-- A self-contained source before another one: the nodes of both, merged where they meet. -/
theorem ofSource_append {first second : List Char} (firstOwn : SelfContained first)
    (secondOwn : SelfContained second) :
    SelfContained (first ++ second) ∧
      ofSource (first ++ second) =
        mergeTexts (Token.nodes (Token.ofSource first) ++ Token.nodes (Token.ofSource second)) := by
  obtain ⟨tokens, held, alone, followed⟩ := Token.ofSource_append firstOwn.plain
  have split : Token.Nests [] (tokens ++ Token.prepend held []) [] := by
    rw [← alone]; exact firstOwn
  obtain ⟨between, before, heldNests⟩ := Token.nests_append.mp split
  obtain rfl : between = [] := by
    cases held with
    | nil => exact Token.nests_nil.mp heldNests
    | cons c held => exact Token.nests_nil.mp (Token.nests_text.mp heldNests).2
  have behind := Token.nests_prepend heldNests secondOwn
  have whole : Token.Nests [] (Token.ofSource (first ++ second)) [] := by
    rw [followed]
    exact Token.nests_append.mpr ⟨[], before, behind⟩
  refine ⟨whole, ?_⟩
  rw [ofSource_nested whole, followed, alone, Token.nodes_append before behind,
    Token.nodes_append before heldNests, List.append_assoc]
  exact mergeTexts_prepend _ heldNests secondOwn

end Node

/-- A block around two sources. -/
def blockSource (kind : BlockKind) (argument first second : List Char) : List Char :=
  Token.marker (Token.openerInside kind argument) ++ (first ++ (Token.marker "else".toList ++
    (second ++ Token.marker (Token.closerInside kind))))

/-- The tokens of a block around two plain sources are those of the sources between its
markers. -/
theorem Token.ofSource_block {first second argument : List Char} (firstPlain : Plain (ofSource first))
    (secondPlain : Plain (ofSource second)) (closed : '}' ∉ argument) (kind : BlockKind)
    (rest : List Char) :
    ofSource (blockSource kind argument first second ++ rest) =
      .opener kind (Text.trim argument) (marker (openerInside kind argument)) ::
        (ofSource first ++ .otherwise (marker "else".toList) ::
          (ofSource second ++ .closer kind (marker (closerInside kind)) :: ofSource rest)) := by
  have openerClosed : Enclosed (openerInside kind argument) :=
    enclosed_of_notMem (by cases kind <;> simp [openerInside, BlockKind.keyword, closed])
  have closerClosed : Enclosed (closerInside kind) :=
    enclosed_of_notMem (by cases kind <;> decide)
  have elseClosed : Enclosed "else".toList := enclosed_of_notMem (by decide)
  simp only [blockSource, List.append_assoc]
  rw [ofSource_marker openerClosed (ofInside_opener kind argument),
    ofSource_append_marker firstPlain elseClosed ofInside_otherwise,
    ofSource_append_marker secondPlain closerClosed (ofInside_closer kind)]

/-- **The tree of a block around two self-contained sources**, with a third one behind it. -/
theorem Node.ofSource_block {first second third argument : List Char} (firstOwn : SelfContained first)
    (secondOwn : SelfContained second) (thirdOwn : SelfContained third) (closed : '}' ∉ argument)
    (kind : BlockKind) :
    Node.ofSource (blockSource kind argument first second ++ third) =
      Node.mergeTexts (.block kind (Text.trim argument) (Token.nodes (Token.ofSource first))
        (some (Token.nodes (Token.ofSource second))) :: Token.nodes (Token.ofSource third)) := by
  have read := Token.ofSource_block firstOwn.plain secondOwn.plain closed kind third
  generalize Token.marker (Token.openerInside kind argument) = openRaw at read
  generalize Token.marker "else".toList = elseRaw at read
  generalize Token.marker (Token.closerInside kind) = closeRaw at read
  let opened : Frame := ⟨kind, Text.trim argument, openRaw, #[], none⟩
  let bodied : Frame := { opened with body := (Token.nodes (Token.ofSource first)).toArray }
  let divided : Frame := { bodied with otherwise := some (elseRaw, #[]) }
  let branched : Frame :=
    { bodied with otherwise := some (elseRaw, (Token.nodes (Token.ofSource second)).toArray) }
  have opener : Assembly.empty.step Node.depthLimit (.opener kind (Text.trim argument) openRaw) =
      ⟨#[], [opened], []⟩ := by
    simp [Assembly.step, Assembly.empty, Node.depthLimit, opened]
  have body : (Token.ofSource first).foldl (Assembly.step Node.depthLimit) ⟨#[], [opened], []⟩ =
      ⟨#[], [bodied], []⟩ := by
    rw [Token.foldl_nodes_inside firstOwn, Frame.foldl_push_body]
    simp [bodied, opened]
  have otherwise : (Assembly.mk #[] [bodied] []).step Node.depthLimit (.otherwise elseRaw) =
      ⟨#[], [divided], []⟩ := by
    simp [Assembly.step, Assembly.divide, divided, bodied, opened]
  have branch : (Token.ofSource second).foldl (Assembly.step Node.depthLimit) ⟨#[], [divided], []⟩ =
      ⟨#[], [branched], []⟩ := by
    rw [Token.foldl_nodes_inside secondOwn, Frame.foldl_push_branch]
    simp [branched]
  have closer : (Assembly.mk #[] [branched] []).step Node.depthLimit (.closer kind closeRaw) =
      ⟨#[branched.toBlock], [], []⟩ := by
    simp [Assembly.step, Assembly.close, Assembly.emit, branched, bodied, opened]
  rw [Node.ofSource, Node.ofTokens, read, List.foldl_cons, opener, List.foldl_append, body,
    List.foldl_cons, otherwise, List.foldl_append, branch, List.foldl_cons, closer,
    Token.foldl_nodes thirdOwn]
  simp [Assembly.finish, Frame.toBlock, branched, bodied, opened]

end Herald
