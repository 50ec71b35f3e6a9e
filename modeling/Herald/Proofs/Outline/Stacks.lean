/- Two stacks for one.

The tree is built with two stacks: the open blocks within the limit, and the kinds of the
openers met beyond it. Together they stand for the one stack of an outline
(`Represents`): the frames are its outermost openings, the kinds are those of the others, and
what the others hold has been written out behind the innermost frame. Every token preserves
this, whatever it is (`Represents.step`), and so the tree is that of the outline with the
blocks beyond the limit written out in place (`Node.ofTokens_eq_capped`). -/
import Herald.Proofs.Assembly
import Herald.Proofs.Outline.Basic
namespace Herald
set_option autoImplicit false

/-! ## Two stacks for one -/

/-- The frame that stands for an opening within the limit. -/
def Opening.frame (limit : Nat) (opening : Opening) : Frame :=
  ⟨opening.kind, opening.argument, opening.openRaw,
    (Outline.cappedNodes limit opening.body).toArray,
    opening.otherwise.map fun branch => (branch.1, (Outline.cappedNodes limit branch.2).toArray)⟩

theorem Opening.frame_push (limit : Nat) (opening : Opening) (item : Outline) :
    (opening.push item).frame limit =
      (Outline.cappedNodes limit [item]).foldl Frame.push (opening.frame limit) := by
  obtain ⟨kind, argument, openRaw, body, otherwise⟩ := opening
  match otherwise with
  | none => simp [Opening.push, Opening.frame, Frame.foldl_push_body]
  | some (raw, items) => simp [Opening.push, Opening.frame, Frame.foldl_push_branch]

/-- Within the limit a closed opening is the block of its frame. -/
theorem Opening.cappedNodes_toBlock_within {limit level : Nat} (within : level < limit)
    (opening : Opening) (closeRaw : List Char) :
    Outline.cappedNodes limit [opening.toBlock level closeRaw] = [(opening.frame limit).toBlock] := by
  obtain ⟨kind, argument, openRaw, body, otherwise⟩ := opening
  match otherwise with
  | none =>
      simp [Opening.toBlock, Opening.frame, Frame.toBlock, Outline.cappedNodes, Outline.listCapped,
        Outline.capped, Outline.branchCapped, Outline.nodes, Outline.node, Outline.branchNodes, within]
  | some (raw, items) =>
      simp [Opening.toBlock, Opening.frame, Frame.toBlock, Outline.cappedNodes, Outline.listCapped,
        Outline.capped, Outline.branchCapped, Outline.nodes, Outline.node, Outline.branchNodes, within]

/-- Beyond the limit a closed opening is what it is unclosed, and the text of its closer. -/
theorem Opening.cappedNodes_toBlock_beyond {limit level : Nat} (beyond : limit ≤ level)
    (opening : Opening) (closeRaw : List Char) :
    Outline.cappedNodes limit [opening.toBlock level closeRaw] =
      Outline.cappedNodes limit opening.toLiteral ++ [.text closeRaw] := by
  simp [Opening.toBlock, Opening.toLiteral, Outline.cappedNodes, Outline.listCapped, Outline.capped,
    Nat.not_lt.mpr beyond, Outline.nodes, Outline.node]

namespace Draft
variable {limit : Nat}

/-- The assembly that stands for a draft with the openings `outer` within the limit and the
openings `inner` beyond it. -/
def assemble (limit : Nat) (root : List Outline) (inner outer : List Opening) : Assembly :=
  (Assembly.mk (Outline.cappedNodes limit root).toArray (outer.map (Opening.frame limit))
    (inner.map Opening.kind)).emitAll (Outline.cappedNodes limit (pending inner))

/-- An assembly stands for a draft whose openings are split at the limit into `inner` and
`outer`. -/
structure Represents (limit : Nat) (draft : Draft) (inner outer : List Opening)
    (assembly : Assembly) : Prop where
  openings : draft.openings = inner ++ outer
  fits : outer.length ≤ limit
  full : inner ≠ [] → outer.length = limit
  assembled : assembly = assemble limit draft.root inner outer

theorem assemble_within (root : List Outline) (outer : List Opening) :
    assemble limit root [] outer =
      ⟨(Outline.cappedNodes limit root).toArray, outer.map (Opening.frame limit), []⟩ := rfl

theorem overflow_assemble (root : List Outline) (inner outer : List Opening) :
    (assemble limit root inner outer).overflow = inner.map Opening.kind :=
  Assembly.overflow_emitAll _ _

theorem length_frames_assemble (root : List Outline) (inner outer : List Opening) :
    (assemble limit root inner outer).frames.length = outer.length := by
  rw [assemble, Assembly.length_frames_emitAll, List.length_map]

/-- An opening beyond the limit: its kind waits for a closer, and what it holds is written
out. -/
theorem assemble_beyond (root : List Outline) (opening : Opening) (inner outer : List Opening) :
    assemble limit root (opening :: inner) outer =
      { (assemble limit root inner outer).emitAll (Outline.cappedNodes limit opening.toLiteral) with
        overflow := opening.kind :: inner.map Opening.kind } := by
  simp only [assemble, List.map_cons, pending, Outline.cappedNodes_append, Assembly.emitAll_append]
  rw [← Assembly.emitAll_overflow, ← Assembly.emitAll_overflow]

/-- Its closer taken, only what it holds and the text of its opener stay. -/
theorem assemble_released (root : List Outline) (opening : Opening) (inner outer : List Opening) :
    { assemble limit root (opening :: inner) outer with overflow := inner.map Opening.kind } =
      (assemble limit root inner outer).emitAll (Outline.cappedNodes limit opening.toLiteral) := by
  rw [assemble_beyond, ← @overflow_assemble limit root inner outer, ← Assembly.emitAll_overflow]

/-- An item emitted is its capped nodes emitted, wherever the innermost opening is. -/
theorem Represents.emit {draft : Draft} {inner outer : List Opening} {assembly : Assembly}
    (represents : Represents limit draft inner outer assembly) (item : Outline) :
    ∃ inner' outer', Represents limit (draft.emit item) inner' outer'
      (assembly.emitAll (Outline.cappedNodes limit [item])) := by
  obtain ⟨root, openings⟩ := draft
  obtain ⟨rfl, fits, full, rfl⟩ := represents
  cases inner with
  | nil =>
      cases outer with
      | nil =>
          refine ⟨[], [], rfl, fits, full, ?_⟩
          rw [assemble_within, List.map_nil, Assembly.emitAll_root]
          simp [Draft.emit, assemble_within]
      | cons opening rest =>
          refine ⟨[], opening.push item :: rest, rfl, fits, full, ?_⟩
          rw [assemble_within, List.map_cons, Assembly.emitAll_frame, ← Opening.frame_push]
          rfl
  | cons opening rest =>
      refine ⟨opening.push item :: rest, outer, rfl, fits, fun _ => full (by simp), ?_⟩
      rw [assemble_beyond, assemble_beyond, Assembly.emitAll_overflow, ← Assembly.emitAll_append,
        ← Outline.cappedNodes_append, Opening.toLiteral_push, Opening.kind_push]
      rfl

theorem Represents.emit_text {draft : Draft} {inner outer : List Opening} {assembly : Assembly}
    (represents : Represents limit draft inner outer assembly) (raw : List Char) :
    ∃ inner' outer', Represents limit (draft.emit (.text raw)) inner' outer'
      (assembly.emit (.text raw)) :=
  represents.emit (.text raw)

/-- An opener opens a frame as long as there is room, and is written out beyond. -/
theorem Represents.step_opener {draft : Draft} {inner outer : List Opening} {assembly : Assembly}
    (represents : Represents limit draft inner outer assembly) (kind : BlockKind)
    (argument raw : List Char) :
    ∃ inner' outer', Represents limit (draft.step (.opener kind argument raw)) inner' outer'
      (assembly.step limit (.opener kind argument raw)) := by
  obtain ⟨root, openings⟩ := draft
  obtain ⟨rfl, fits, full, rfl⟩ := represents
  by_cases room : outer.length < limit
  · obtain rfl : inner = [] :=
      Classical.byContradiction fun beyond => Nat.ne_of_lt room (full beyond)
    refine ⟨[], ⟨kind, argument, raw, [], none⟩ :: outer, rfl, room, fun beyond => absurd rfl beyond, ?_⟩
    simp [Assembly.step, assemble_within, Nat.not_le.mpr room, Opening.frame, Draft.step,
      Outline.cappedNodes, Outline.listCapped, Outline.nodes]
  · have filled : outer.length = limit := by omega
    refine ⟨⟨kind, argument, raw, [], none⟩ :: inner, outer, rfl, fits, fun _ => filled, ?_⟩
    simp only [Assembly.step, length_frames_assemble, filled, Nat.le_refl, if_true, overflow_assemble]
    rw [assemble_beyond, Assembly.emit_overflow]
    rfl

/-- An otherwise-marker divides the innermost opening if that is undivided and within the
limit. Beyond the limit it is written out whether it divides an opening or not. -/
theorem Represents.step_otherwise {draft : Draft} {inner outer : List Opening} {assembly : Assembly}
    (represents : Represents limit draft inner outer assembly) (raw : List Char) :
    ∃ inner' outer', Represents limit (draft.step (.otherwise raw)) inner' outer'
      (assembly.step limit (.otherwise raw)) := by
  have written := represents.emit_text raw
  obtain ⟨root, openings⟩ := draft
  obtain ⟨rfl, fits, full, rfl⟩ := represents
  cases inner with
  | nil =>
      cases outer with
      | nil => simpa [Draft.step, Assembly.step, Assembly.divide, assemble_within] using written
      | cons opening rest =>
          obtain ⟨kind, argument, openRaw, body, otherwise⟩ := opening
          cases otherwise with
          | none =>
              refine ⟨[], ⟨kind, argument, openRaw, body, some (raw, [])⟩ :: rest, rfl, fits, full, ?_⟩
              simp [Assembly.step, Assembly.divide, assemble_within, Opening.frame, Draft.step,
                Outline.cappedNodes, Outline.listCapped, Outline.nodes]
          | some branch =>
              simpa [Draft.step, Assembly.step, Assembly.divide, assemble_within, Opening.frame]
                using written
  | cons opening rest =>
      have beyond : (assemble limit root (opening :: rest) outer).overflow ≠ [] := by
        simp [overflow_assemble]
      simp only [Assembly.step, Assembly.divide_beyond beyond]
      obtain ⟨kind, argument, openRaw, body, otherwise⟩ := opening
      cases otherwise with
      | none =>
          refine ⟨⟨kind, argument, openRaw, body, some (raw, [])⟩ :: rest, outer, rfl, fits,
            fun _ => full (by simp), ?_⟩
          have grown : Outline.cappedNodes limit
              (Opening.toLiteral ⟨kind, argument, openRaw, body, some (raw, [])⟩) =
              Outline.cappedNodes limit (Opening.toLiteral ⟨kind, argument, openRaw, body, none⟩) ++
                [.text raw] := by
            simp [Opening.toLiteral, Outline.spelled, Outline.cappedNodes, Outline.listCapped,
              Outline.capped, Outline.nodes, Outline.node]
          rw [assemble_beyond, assemble_beyond, grown, Assembly.emitAll_append, Assembly.emit_overflow]
          rfl
      | some branch => simpa [Draft.step] using written

/-- A closer closes the innermost opening if that is of its kind. Beyond the limit it takes
its kind off the overflow, and only its text shows. -/
theorem Represents.step_closer {draft : Draft} {inner outer : List Opening} {assembly : Assembly}
    (represents : Represents limit draft inner outer assembly) (kind : BlockKind)
    (raw : List Char) :
    ∃ inner' outer', Represents limit (draft.step (.closer kind raw)) inner' outer'
      (assembly.step limit (.closer kind raw)) := by
  have written := represents.emit_text raw
  obtain ⟨root, openings⟩ := draft
  obtain ⟨rfl, fits, full, rfl⟩ := represents
  cases inner with
  | nil =>
      cases outer with
      | nil => simpa [Draft.step, Assembly.step, Assembly.close, assemble_within] using written
      | cons opening rest =>
          by_cases same : opening.kind = kind
          · have outside : Represents limit ⟨root, rest⟩ [] rest (assemble limit root [] rest) :=
              ⟨rfl, Nat.le_of_succ_le fits, fun beyond => absurd rfl beyond, rfl⟩
            have closed := outside.emit (opening.toBlock rest.length raw)
            rw [Opening.cappedNodes_toBlock_within fits, Assembly.emitAll_singleton] at closed
            simpa [Draft.step, Assembly.step, Assembly.close, assemble_within, same, Opening.frame]
              using closed
          · simpa [Draft.step, Assembly.step, Assembly.close, assemble_within, same, Opening.frame]
              using written
  | cons opening rest =>
      have filled : outer.length = limit := full (by simp)
      by_cases same : opening.kind = kind
      · have outside : Represents limit ⟨root, rest ++ outer⟩ rest outer (assemble limit root rest outer) :=
          ⟨rfl, fits, fun _ => filled, rfl⟩
        have closed := outside.emit (opening.toBlock (rest ++ outer).length raw)
        have beyond : limit ≤ (rest ++ outer).length := by
          rw [List.length_append]
          omega
        rw [Opening.cappedNodes_toBlock_beyond beyond, Assembly.emitAll_append, ← assemble_released,
          Assembly.emitAll_singleton] at closed
        simpa [Draft.step, Assembly.step, overflow_assemble, same] using closed
      · have other : (assemble limit root (opening :: rest) outer).overflow =
            opening.kind :: rest.map Opening.kind := overflow_assemble ..
        have beyond : (assemble limit root (opening :: rest) outer).overflow ≠ [] := by
          simp [other]
        simp only [Assembly.step, other, Assembly.close_beyond beyond]
        simpa [Draft.step, same] using written

theorem Represents.step {draft : Draft} {inner outer : List Opening} {assembly : Assembly}
    (represents : Represents limit draft inner outer assembly) (token : Token) :
    ∃ inner' outer', Represents limit (draft.step token) inner' outer' (assembly.step limit token) := by
  cases token with
  | text raw => exact represents.emit_text raw
  | placeholder source braces raw => exact represents.emit (.placeholder source braces raw)
  | opener kind argument raw => exact represents.step_opener kind argument raw
  | otherwise raw => exact represents.step_otherwise raw
  | closer kind raw => exact represents.step_closer kind raw

/-- **Two stacks stand for one**, after every list of tokens. -/
theorem represents_run (limit : Nat) (tokens : List Token) :
    ∃ inner outer, Represents limit (tokens.foldl Draft.step Draft.empty) inner outer
      (tokens.foldl (Assembly.step limit) Assembly.empty) := by
  have run : ∀ (draft : Draft) (assembly : Assembly) (inner outer : List Opening),
      Represents limit draft inner outer assembly →
      ∃ inner' outer', Represents limit (tokens.foldl Draft.step draft) inner' outer'
        (tokens.foldl (Assembly.step limit) assembly) := by
    induction tokens with
    | nil => exact fun draft assembly inner outer represents => ⟨inner, outer, represents⟩
    | cons token rest ih =>
        intro draft assembly inner outer represents
        obtain ⟨inner', outer', next⟩ := represents.step token
        exact ih _ _ _ _ next
  exact run Draft.empty Assembly.empty [] []
    ⟨rfl, Nat.zero_le limit, fun beyond => absurd rfl beyond, rfl⟩

end Draft

/-! ## The end of the source -/

theorem Opening.toLiteral_frame (limit : Nat) (opening : Opening) :
    (opening.frame limit).toLiteral = Outline.cappedNodes limit opening.toLiteral := by
  obtain ⟨kind, argument, openRaw, body, otherwise⟩ := opening
  match otherwise with
  | none =>
      simp [Opening.frame, Frame.toLiteral, Opening.toLiteral, Outline.spelled, Outline.cappedNodes,
        Outline.listCapped, Outline.capped, Outline.nodes, Outline.node]
  | some (raw, items) =>
      simp [Opening.frame, Frame.toLiteral, Opening.toLiteral, Outline.spelled, Outline.cappedNodes,
        Outline.listCapped, Outline.capped, Outline.nodes, Outline.node]

namespace Draft
variable {limit : Nat}

theorem finish_frames (outer : List Opening) (inner : List Node) :
    (outer.map (Opening.frame limit)).foldl (fun inner frame => frame.toLiteral ++ inner) inner =
      Outline.cappedNodes limit (pending outer) ++ inner := by
  induction outer generalizing inner with
  | nil => rfl
  | cons opening rest ih =>
      simp only [List.map_cons, List.foldl_cons, ih, Opening.toLiteral_frame, pending,
        Outline.cappedNodes_append, List.append_assoc]

theorem Represents.finish {draft : Draft} {inner outer : List Opening} {assembly : Assembly}
    (represents : Represents limit draft inner outer assembly) :
    assembly.finish = Outline.cappedNodes limit draft.finish := by
  obtain ⟨split, -, -, rfl⟩ := represents
  rw [assemble, Assembly.finish_emitAll, Draft.finish, split, pending_append]
  simp only [Assembly.finish, finish_frames]
  simp

end Draft

/-- The tree of a list of tokens is that of its outline with the blocks beyond the limit
written out. -/
theorem Node.ofTokens_eq_capped (limit : Nat) (tokens : List Token) :
    Node.ofTokens limit tokens =
      Node.mergeTexts (Outline.cappedNodes limit (Outline.ofTokens tokens)) := by
  obtain ⟨inner, outer, represents⟩ := Draft.represents_run limit tokens
  rw [Node.ofTokens, represents.finish, Outline.ofTokens]

end Herald
