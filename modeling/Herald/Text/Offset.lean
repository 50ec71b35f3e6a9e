/- Byte offsets in texts.

An offset counts the bytes that the characters before it take in UTF-8. A text can be cut at
an offset only between two characters. -/
namespace Herald.Text
set_option autoImplicit false

/-- The bytes that a text takes. -/
def byteLength : List Char → Nat
  | [] => 0
  | c :: rest => c.utf8Size + byteLength rest

/-- Cuts a text at an offset: what is before it and what is from it on. -/
def cutAtOffset? : Nat → List Char → Option (List Char × List Char)
  | 0, text => some ([], text)
  | _ + 1, [] => none
  | offset + 1, c :: rest =>
    if c.utf8Size ≤ offset + 1 then
      (cutAtOffset? (offset + 1 - c.utf8Size) rest).map fun (before, after) => (c :: before, after)
    else none

/-- What a text holds between two offsets. -/
def between? (low high : Nat) (text : List Char) : Option (List Char) := do
  let (_, after) ← cutAtOffset? low text
  let (inside, _) ← cutAtOffset? (high - low) after
  some inside

/-- A text can be cut where another follows it. -/
theorem cutAtOffset?_append (before after : List Char) :
    cutAtOffset? (byteLength before) (before ++ after) = some (before, after) := by
  induction before with
  | nil => cases after <;> rfl
  | cons c rest ih =>
    have positive := c.utf8Size_pos
    obtain ⟨count, size⟩ : ∃ count, byteLength (c :: rest) = count + 1 :=
      ⟨c.utf8Size + byteLength rest - 1, by simp only [byteLength]; omega⟩
    have fits : c.utf8Size ≤ count + 1 := by simp only [byteLength] at size; omega
    have left : count + 1 - c.utf8Size = byteLength rest := by simp only [byteLength] at size; omega
    rw [size, List.cons_append, cutAtOffset?, if_pos fits, left, ih]
    rfl

end Herald.Text
