/- What the depth limit does to a template.

The tree of a source is that of its outline, built without a limit, in which every block met
with the limit's number of openers still open is written out in place
(`Outline.limit_refines`). While the source is read, the open frames are the outermost open
blocks of the unlimited reading, each with its own opener and otherwise-marker: what lies
beyond the limit neither takes a marker from them nor gives them one. -/
import Herald.Proofs.Outline.Levels
import Herald.Proofs.Outline.Stacks
namespace Herald
set_option autoImplicit false

/-! ## The markers of open blocks -/

/-- The kind, the argument, and the texts of the opener and otherwise-marker of a frame. -/
def Frame.markers (frame : Frame) : BlockKind × List Char × List Char × Option (List Char) :=
  (frame.kind, frame.argument, frame.openRaw, frame.otherwise.map (·.1))

/-- The kind, the argument, and the texts of the opener and otherwise-marker of an open
block. -/
def Opening.markers (opening : Opening) : BlockKind × List Char × List Char × Option (List Char) :=
  (opening.kind, opening.argument, opening.openRaw, opening.otherwise.map (·.1))

theorem Opening.markers_frame (limit : Nat) (opening : Opening) :
    (opening.frame limit).markers = opening.markers := by
  simp [Opening.frame, Frame.markers, Opening.markers, Function.comp_def]

theorem Frame.markers_push (frame : Frame) (node : Node) : (frame.push node).markers = frame.markers := by
  obtain ⟨kind, argument, openRaw, body, otherwise⟩ := frame
  cases otherwise <;> rfl

/-- A node goes into a block and not into its markers. -/
theorem Assembly.markers_emitAll (assembly : Assembly) (nodes : List Node) :
    (assembly.emitAll nodes).frames.map Frame.markers = assembly.frames.map Frame.markers := by
  induction nodes generalizing assembly with
  | nil => rfl
  | cons node rest ih =>
      refine (ih (assembly.emit node)).trans ?_
      obtain ⟨root, frames, overflow⟩ := assembly
      cases frames with
      | nil => rfl
      | cons frame outer => simp [Assembly.emit, Frame.markers_push]

namespace Draft
variable {limit : Nat}

/-- The outermost `limit` openings, the innermost of them first. -/
def within (limit : Nat) (draft : Draft) : List Opening :=
  draft.openings.drop (draft.openings.length - limit)

/-- The openings inside those, the innermost first. -/
def beyond (limit : Nat) (draft : Draft) : List Opening :=
  draft.openings.take (draft.openings.length - limit)

theorem Represents.split {draft : Draft} {inner outer : List Opening} {assembly : Assembly}
    (represents : Represents limit draft inner outer assembly) :
    draft.within limit = outer ∧ draft.beyond limit = inner := by
  have excess : draft.openings.length - limit = inner.length := by
    have fits := represents.fits
    have full := represents.full
    rw [represents.openings, List.length_append]
    cases inner with
    | nil => simp only [List.length_nil]; omega
    | cons opening rest =>
        have filled := full (by simp)
        omega
  rw [within, beyond, excess, represents.openings]
  exact ⟨List.drop_left, List.take_left⟩

/-- The open frames have the markers of the outermost openings, and the kinds of the others
wait for their closers. -/
theorem Represents.markers {draft : Draft} {inner outer : List Opening} {assembly : Assembly}
    (represents : Represents limit draft inner outer assembly) :
    assembly.frames.map Frame.markers = (draft.within limit).map Opening.markers ∧
      assembly.overflow = (draft.beyond limit).map Opening.kind := by
  obtain ⟨outermost, others⟩ := represents.split
  rw [outermost, others, represents.assembled]
  refine ⟨?_, overflow_assemble ..⟩
  simp [assemble, Assembly.markers_emitAll, Function.comp_def, Opening.markers_frame]

end Draft

/-! ## The limit -/

/-- A limit that no list of tokens reaches is no limit. -/
theorem Node.ofTokens_unlimited (tokens : List Token) (spare : Nat) :
    Node.ofTokens (tokens.length + spare) tokens =
      Node.mergeTexts (Outline.nodes (Outline.ofTokens tokens)) := by
  rw [Node.ofTokens_eq_capped, Outline.cappedNodes,
    Outline.listCapped_eq_self (Nat.le_add_right _ _) _ 0 (Outline.nested_ofTokens tokens)]

theorem Node.listDepth_ofTokens_le (limit : Nat) (tokens : List Token) :
    Node.listDepth (Node.ofTokens limit tokens) ≤ limit := by
  rw [Node.ofTokens_eq_capped, Node.listDepth_mergeTexts]
  exact Outline.listDepth_capped_le _ 0 (Outline.nested_ofTokens tokens)

/-- **The depth limit refines the unlimited reading.** The tree of a source is the tree of
its outline with the blocks of level `depthLimit` or more written out in place; the outline
is what the same stack machine builds when its limit is out of reach. At every point of the
source the open frames are the outermost open blocks of the unlimited reading, with the same
openers and otherwise-markers, and the awaited kinds are those of the others. The tree is
never deeper than the limit. -/
theorem Outline.limit_refines (source : List Char) :
    let tokens := Token.ofSource source
    let outline := Outline.ofTokens tokens
    Node.ofSource source =
        Node.mergeTexts (Outline.nodes (Outline.listCapped Node.depthLimit outline)) ∧
      (∀ spare : Nat, Node.ofTokens (tokens.length + spare) tokens =
        Node.mergeTexts (Outline.nodes outline)) ∧
      (∀ count : Nat,
        let assembly :=
          (tokens.take count).foldl (Assembly.step Node.depthLimit) Assembly.empty
        let draft := (tokens.take count).foldl Draft.step Draft.empty
        assembly.frames.map Frame.markers = (draft.within Node.depthLimit).map Opening.markers ∧
          assembly.overflow = (draft.beyond Node.depthLimit).map Opening.kind) ∧
      Node.listDepth (Node.ofSource source) ≤ Node.depthLimit := by
  intro tokens outline
  refine ⟨Node.ofTokens_eq_capped _ tokens, Node.ofTokens_unlimited tokens, ?_,
    Node.listDepth_ofTokens_le _ tokens⟩
  intro count assembly draft
  obtain ⟨inner, outer, represents⟩ := Draft.represents_run Node.depthLimit (tokens.take count)
  exact represents.markers

end Herald
