/- Nodes emitted into an assembly.

An assembly takes nodes one after another into its innermost frame, or at its top level. What
waits beyond the depth limit has no part in that, and what is emitted last comes out last. -/
import Herald.Node
namespace Herald
set_option autoImplicit false

namespace Frame

/-! ## Nodes in a frame -/

theorem foldl_push_body (kind : BlockKind) (argument openRaw : List Char) (body : Array Node)
    (nodes : List Node) :
    nodes.foldl push ⟨kind, argument, openRaw, body, none⟩ =
      ⟨kind, argument, openRaw, body ++ nodes.toArray, none⟩ := by
  induction nodes generalizing body with
  | nil => simp
  | cons node rest ih =>
      simp only [List.foldl_cons, push]
      rw [ih]
      simp

theorem foldl_push_branch (kind : BlockKind) (argument openRaw raw : List Char)
    (body branch : Array Node) (nodes : List Node) :
    nodes.foldl push ⟨kind, argument, openRaw, body, some (raw, branch)⟩ =
      ⟨kind, argument, openRaw, body, some (raw, branch ++ nodes.toArray)⟩ := by
  induction nodes generalizing branch with
  | nil => simp
  | cons node rest ih =>
      simp only [List.foldl_cons, push]
      rw [ih]
      simp

theorem toLiteral_push (frame : Frame) (node : Node) :
    (frame.push node).toLiteral = frame.toLiteral ++ [node] := by
  obtain ⟨kind, argument, openRaw, body, otherwise⟩ := frame
  match otherwise with
  | none => simp [push, toLiteral]
  | some (raw, nodes) => simp [push, toLiteral]

end Frame

namespace Assembly

/-! ## Several nodes at once -/

/-- The assembly with several nodes more. -/
def emitAll (assembly : Assembly) (nodes : List Node) : Assembly := nodes.foldl emit assembly

@[simp] theorem emitAll_nil (assembly : Assembly) : assembly.emitAll [] = assembly := rfl

@[simp] theorem emitAll_singleton (assembly : Assembly) (node : Node) :
    assembly.emitAll [node] = assembly.emit node := rfl

@[simp] theorem emitAll_append (assembly : Assembly) (first second : List Node) :
    assembly.emitAll (first ++ second) = (assembly.emitAll first).emitAll second := by
  simp [emitAll, List.foldl_append]

/-- What waits beyond the limit has no part in where a node goes. -/
theorem emit_overflow (assembly : Assembly) (overflow : List BlockKind) (node : Node) :
    { assembly with overflow := overflow }.emit node =
      { assembly.emit node with overflow := overflow } := by
  simp only [emit]
  split <;> rfl

theorem emitAll_overflow (assembly : Assembly) (overflow : List BlockKind) (nodes : List Node) :
    { assembly with overflow := overflow }.emitAll nodes =
      { assembly.emitAll nodes with overflow := overflow } := by
  induction nodes generalizing assembly with
  | nil => rfl
  | cons node rest ih =>
      simp only [emitAll, List.foldl_cons] at ih ⊢
      rw [emit_overflow, ih]

/-- Nodes at the top level. -/
theorem emitAll_root (root : Array Node) (overflow : List BlockKind) (nodes : List Node) :
    (Assembly.mk root [] overflow).emitAll nodes = ⟨root ++ nodes.toArray, [], overflow⟩ := by
  induction nodes generalizing root with
  | nil => simp
  | cons node rest ih =>
      simp only [emitAll, List.foldl_cons, emit] at ih ⊢
      rw [ih]
      simp

/-- Nodes in an open block. -/
theorem emitAll_frame (root : Array Node) (frame : Frame) (outer : List Frame)
    (overflow : List BlockKind) (nodes : List Node) :
    (Assembly.mk root (frame :: outer) overflow).emitAll nodes =
      ⟨root, nodes.foldl Frame.push frame :: outer, overflow⟩ := by
  induction nodes generalizing frame with
  | nil => rfl
  | cons node rest ih =>
      simp only [emitAll, List.foldl_cons, emit] at ih ⊢
      exact ih (frame.push node)

theorem overflow_emitAll (assembly : Assembly) (nodes : List Node) :
    (assembly.emitAll nodes).overflow = assembly.overflow := by
  obtain ⟨root, frames, overflow⟩ := assembly
  cases frames with
  | nil => rw [emitAll_root]
  | cons frame outer => rw [emitAll_frame]

theorem length_frames_emitAll (assembly : Assembly) (nodes : List Node) :
    (assembly.emitAll nodes).frames.length = assembly.frames.length := by
  obtain ⟨root, frames, overflow⟩ := assembly
  cases frames with
  | nil => rw [emitAll_root]
  | cons frame outer => simp [emitAll_frame]

/-- A closer that finds another one awaited beyond the limit closes nothing. -/
theorem close_beyond {assembly : Assembly} (beyond : assembly.overflow ≠ []) (kind : BlockKind)
    (raw : List Char) : assembly.close kind raw = assembly.emit (.text raw) := by
  simp only [close]
  split
  · simp [beyond]
  · rfl

/-- An otherwise-marker that is met beyond the limit divides nothing. -/
theorem divide_beyond {assembly : Assembly} (beyond : assembly.overflow ≠ []) (raw : List Char) :
    assembly.divide raw = assembly.emit (.text raw) := by
  simp only [divide]
  split
  · simp [beyond]
  · rfl

/-! ## The end of the source -/

theorem foldl_toLiteral (frames : List Frame) (inner rest : List Node) :
    frames.foldl (fun inner frame => frame.toLiteral ++ inner) (inner ++ rest) =
      frames.foldl (fun inner frame => frame.toLiteral ++ inner) inner ++ rest := by
  induction frames generalizing inner with
  | nil => rfl
  | cons frame outer ih =>
      rw [List.foldl_cons, List.foldl_cons, ← List.append_assoc, ih]

/-- What is emitted last comes out last. -/
theorem finish_emit (assembly : Assembly) (node : Node) :
    (assembly.emit node).finish = assembly.finish ++ [node] := by
  obtain ⟨root, frames, overflow⟩ := assembly
  cases frames with
  | nil => simp [emit, finish]
  | cons frame outer =>
      simp only [emit, finish, List.foldl_cons, Frame.toLiteral_push, List.append_nil, List.append_assoc]
      rw [foldl_toLiteral]

theorem finish_emitAll (assembly : Assembly) (nodes : List Node) :
    (assembly.emitAll nodes).finish = assembly.finish ++ nodes := by
  induction nodes generalizing assembly with
  | nil => simp
  | cons node rest ih =>
      simp only [emitAll, List.foldl_cons] at ih ⊢
      rw [ih, finish_emit, List.append_assoc]
      rfl

end Assembly
end Herald
