/- Reading a source step by step.

A step of reading either skips a piece of literal text (`Skips`) or takes a marker (`IsMarker`),
and every source that is not empty begins with one (`exists_step`). The memo of the scan, that no
closing braces are left, is what searching for them afresh would find (`scan_eq_scanAfresh`). So a
step depends on nothing before it, and the tokens of a source are what the first step gives in
front of the tokens of the rest (`ofSource_skipped`, `ofSource_marked`).

A marker is taken whatever follows it. A piece that is skipped before some text is also skipped
before any beginning of that text (`Skips.cut`). -/
import Herald.Proofs.Names
import Herald.Proofs.Token
namespace Herald.Token
set_option autoImplicit false

/-! ## The search for closing braces -/

theorem breakClosing_eq_none_iff (before text : List Char) :
    breakClosing before text = none ↔ ¬ ['}', '}'] <:+: text := by
  fun_induction breakClosing before text with
  | case1 => simp
  | case2 before rest => simp [List.infix_cons_iff]
  | case3 before c rest other ih =>
      have begins : ¬ ['}', '}'] <+: c :: rest := by
        rintro ⟨after, same⟩
        obtain ⟨rfl, rfl⟩ := List.cons.inj same
        exact other after rfl rfl
      rw [ih, List.infix_cons_iff, not_or]
      exact ⟨fun later => ⟨begins, later⟩, And.right⟩

/-- The search stops at the first closing braces. -/
theorem enclosed_of_breakClosing {before text whole rest : List Char}
    (found : breakClosing before text = some (whole, rest)) :
    ∃ inside, whole = before.reverse ++ inside ∧ text = inside ++ '}' :: '}' :: rest ∧ Enclosed inside := by
  fun_induction breakClosing before text with
  | case1 => cases found
  | case2 before after =>
      cases found
      exact ⟨[], (List.append_nil _).symm, rfl, enclosed_of_notMem List.not_mem_nil⟩
  | case3 before c after other ih =>
      obtain ⟨inside, rfl, rfl, closed⟩ := ih found
      refine ⟨c :: inside, by simp, rfl, ?_⟩
      rintro braces
      rcases List.infix_cons_iff.mp braces with ⟨more, begins⟩ | later
      · obtain ⟨rfl, next⟩ := List.cons.inj begins
        cases inside with
        | nil => exact other _ rfl rfl
        | cons d inside =>
            obtain ⟨rfl, -⟩ := List.cons.inj next
            exact other _ rfl rfl
      · exact closed later

theorem suffix_of_breakClosing {text inside rest : List Char}
    (found : breakClosing [] text = some (inside, rest)) : rest <:+ text :=
  ⟨inside ++ ['}', '}'], by simpa using (breakClosing_eq_some found).symm⟩

/-! ## The memo of the scan -/

/-- Reads the tokens of a text as `scan` does, but looks for the closing braces at every double
brace afresh. -/
def scanAfresh (held : List Char) (done : List Token) (text : List Char) : List Token :=
  match text with
  | [] => (flush held done).reverse
  | '{' :: '{' :: inner =>
    match _found : breakClosing [] inner with
    | none => scanAfresh ('{' :: '{' :: held) done inner
    | some (inside, rest) =>
      match ofInside? inside with
      | some token => scanAfresh [] (token :: flush held done) rest
      | none => scanAfresh ('}' :: '}' :: (inside.reverse ++ '{' :: '{' :: held)) done rest
  | '{' :: rest =>
    match _found : ofSingle? rest with
    | some (token, after) => scanAfresh [] (token :: flush held done) after
    | none => scanAfresh ('{' :: held) done rest
  | c :: rest => scanAfresh (c :: held) done rest
termination_by text.length
decreasing_by
  all_goals simp only [List.length_cons]
  · omega
  · have := breakClosing_shorter [] inner inside rest _found
    omega
  · have := breakClosing_shorter [] inner inside rest _found
    omega
  · have := ofSingle_shorter rest after token _found
    omega
  · omega
  · omega

/-- Where the memo is right, the search it stands for finds what a search made afresh finds. -/
theorem search_eq {closable : Bool} {inner : List Char}
    (exact : closable = true ∨ ¬ ['}', '}'] <:+: inner) :
    (if closable = true then breakClosing [] inner else none) = breakClosing [] inner := by
  split
  · rfl
  · rename_i unset
    exact ((breakClosing_eq_none_iff [] inner).mpr (exact.resolve_left unset)).symm

/-- **The memo is exact.** Where it says that no closing braces are left, there are none. -/
theorem scan_eq_scanAfresh {closable : Bool} {text : List Char}
    (exact : closable = true ∨ ¬ ['}', '}'] <:+: text) (held : List Char) (done : List Token) :
    scan closable held done text = scanAfresh held done text := by
  have later : ∀ {closable : Bool} {text rest : List Char}, rest <:+ text →
      (closable = true ∨ ¬ ['}', '}'] <:+: text) → closable = true ∨ ¬ ['}', '}'] <:+: rest :=
    fun behind exact => exact.imp_right fun absent braces => absent (braces.trans behind.isInfix)
  fun_induction scan closable held done text with
  | case1 => rw [scanAfresh]
  | case2 closable held done inner found ih =>
      have ahead := later (List.suffix_append ['{', '{'] inner) exact
      have fresh : breakClosing [] inner = none := (search_eq ahead).symm.trans found
      rw [ih (.inr ((breakClosing_eq_none_iff [] inner).mp fresh)), scanAfresh]
      split <;> simp_all
  | case3 closable held done inner inside rest found token known ih =>
      have ahead := later (List.suffix_append ['{', '{'] inner) exact
      have fresh : breakClosing [] inner = some (inside, rest) := (search_eq ahead).symm.trans found
      rw [ih (later (suffix_of_breakClosing fresh) ahead), scanAfresh]
      split <;> simp_all
  | case4 closable held done inner inside rest found unknown ih =>
      have ahead := later (List.suffix_append ['{', '{'] inner) exact
      have fresh : breakClosing [] inner = some (inside, rest) := (search_eq ahead).symm.trans found
      rw [ih (later (suffix_of_breakClosing fresh) ahead), scanAfresh]
      split <;> simp_all
  | case5 closable held done rest alone token after found ih =>
      have behind : after <:+ '{' :: rest := ⟨token.raw, raw_of_ofSingle found⟩
      rw [ih (later behind exact), scanAfresh.eq_3 _ _ _ alone]
      split <;> simp_all
  | case6 closable held done rest alone found ih =>
      rw [ih (later (List.suffix_cons '{' rest) exact), scanAfresh.eq_3 _ _ _ alone]
      split <;> simp_all
  | case7 closable held done c rest _ other ih =>
      rw [ih (later (List.suffix_cons c rest) exact)]
      exact (scanAfresh.eq_4 _ _ _ _ (fun _ brace _ => other brace) other).symm

/-! ## Placeholders in single braces -/

section Single
variable {inside : List Char}

/-- What a dotted path is made of stands in the text around it too, except blanks. -/
theorem notMem_of_isPath_trim (path : isPath (Text.trim inside) = true) {c : Char}
    (visible : Text.isBlank c = false) (other : Text.isWordChar c = false) : c ∉ inside :=
  fun listed => Text.notMem_of_word (isWord_of_isPath path) other (Text.mem_trim listed visible)

theorem ofSingle_of_isPath (path : isPath (Text.trim inside) = true) (rest : List Char) :
    ofSingle? (inside ++ '}' :: rest) =
      some (.placeholder (Text.trim inside) .single ('{' :: (inside ++ ['}'])), rest) := by
  have open? : ∀ c ∈ inside, (c != '}') = true := by
    intro c listed
    rw [bne_iff_ne]
    rintro rfl
    exact notMem_of_isPath_trim path (by decide) (by decide) listed
  have front : (inside ++ '}' :: rest).takeWhile (· != '}') = inside := by
    rw [List.takeWhile_append_of_pos open?]
    simp
  have behind : (inside ++ '}' :: rest).dropWhile (· != '}') = '}' :: rest := by
    rw [List.dropWhile_append_of_pos open?]
    simp
  simp only [ofSingle?, front, behind, path, if_true]

theorem eq_of_ofSingle {text rest : List Char} {token : Token}
    (found : ofSingle? text = some (token, rest)) :
    ∃ inside, isPath (Text.trim inside) = true ∧
      token = .placeholder (Text.trim inside) .single ('{' :: (inside ++ ['}'])) := by
  simp only [ofSingle?] at found
  split at found
  · cases found
  · split at found
    · rename_i path
      cases found
      exact ⟨_, path, rfl⟩
    · cases found

end Single

/-! ## Steps -/

/-- A token other than literal text, as a source can show it. -/
inductive IsMarker : Token → Prop
  | double {inside : List Char} {token : Token} (closed : Enclosed inside)
      (known : ofInside? inside = some token) : IsMarker token
  | single {inside : List Char} (path : isPath (Text.trim inside) = true) :
      IsMarker (.placeholder (Text.trim inside) .single ('{' :: (inside ++ ['}'])))

/-- A piece of literal text that one step of reading skips when `rest` comes behind it. -/
inductive Skips : List Char → List Char → Prop
  | unclosed {rest : List Char} (absent : ¬ ['}', '}'] <:+: rest) : Skips ['{', '{'] rest
  | unknown {inside : List Char} (closed : Enclosed inside) (unknown : ofInside? inside = none)
      (rest : List Char) : Skips (marker inside) rest
  | brace {rest : List Char} (alone : ∀ inner, rest ≠ '{' :: inner) (noPath : ofSingle? rest = none) :
      Skips ['{'] rest
  | other {c : Char} (other : c ≠ '{') (rest : List Char) : Skips [c] rest

theorem Skips.ne_nil {piece rest : List Char} (skips : Skips piece rest) : piece ≠ [] := by
  cases skips <;> exact List.cons_ne_nil _ _

theorem IsMarker.isText {token : Token} (marker : IsMarker token) : token.isText = false := by
  cases marker with
  | double _ known => exact isText_of_ofInside known
  | single _ => rfl

/-- A marker begins with a brace and ends with one. -/
theorem IsMarker.raw_eq {token : Token} (marker : IsMarker token) :
    ∃ inside, token.raw = '{' :: (inside ++ ['}']) := by
  cases marker with
  | @double inside _ _ known => exact ⟨'{' :: (inside ++ ['}']), by simp [raw_of_ofInside known]⟩
  | single _ => exact ⟨_, rfl⟩

/-- **Every source begins with a step.** -/
theorem exists_step {source : List Char} (nonempty : source ≠ []) :
    (∃ piece rest, source = piece ++ rest ∧ Skips piece rest) ∨
      ∃ token rest, source = token.raw ++ rest ∧ IsMarker token := by
  cases source with
  | nil => exact absurd rfl nonempty
  | cons c text =>
      by_cases brace : c = '{'
      · subst brace
        by_cases double : ∃ inner, text = '{' :: inner
        · obtain ⟨inner, rfl⟩ := double
          cases search : breakClosing [] inner with
          | none => exact .inl ⟨_, _, rfl, .unclosed ((breakClosing_eq_none_iff [] inner).mp search)⟩
          | some found =>
              obtain ⟨whole, rest⟩ := found
              obtain ⟨inside, -, rfl, closed⟩ := enclosed_of_breakClosing search
              cases known : ofInside? inside with
              | none => exact .inl ⟨marker inside, rest, by simp [marker], .unknown closed known rest⟩
              | some token =>
                  exact .inr ⟨token, rest, by simp [raw_of_ofInside known], .double closed known⟩
        · have alone : ∀ inner, text ≠ '{' :: inner := fun inner same => double ⟨inner, same⟩
          cases search : ofSingle? text with
          | none => exact .inl ⟨_, _, rfl, .brace alone search⟩
          | some found =>
              obtain ⟨token, rest⟩ := found
              have shape := (raw_of_ofSingle search).symm
              obtain ⟨inside, path, rfl⟩ := eq_of_ofSingle search
              exact .inr ⟨_, rest, shape, .single path⟩
      · exact .inl ⟨[c], text, rfl, .other brace text⟩

/-- Reading from step to step. -/
@[elab_as_elim]
theorem reading_induction {motive : List Char → Prop} (source : List Char) (nil : motive [])
    (skip : ∀ piece rest, Skips piece rest → motive rest → motive (piece ++ rest))
    (mark : ∀ token rest, IsMarker token → motive rest → motive (token.raw ++ rest)) :
    motive source := by
  by_cases empty : source = []
  · rwa [empty]
  · rcases exists_step empty with ⟨piece, rest, shape, skips⟩ | ⟨token, rest, shape, marker⟩
    · have shorter : rest.length < source.length := by
        have := List.length_pos_iff.mpr skips.ne_nil
        rw [shape, List.length_append]
        omega
      rw [shape]
      exact skip piece rest skips (reading_induction rest nil skip mark)
    · have shorter : rest.length < source.length := by
        obtain ⟨inside, raw⟩ := marker.raw_eq
        rw [shape, raw, List.length_append, List.length_cons]
        omega
      rw [shape]
      exact mark token rest marker (reading_induction rest nil skip mark)
termination_by source.length

/-- **A marker is the first token**, whatever follows it. -/
theorem ofSource_marked {token : Token} (marker : IsMarker token) (rest : List Char) :
    ofSource (token.raw ++ rest) = token :: ofSource rest := by
  cases marker with
  | double closed known =>
      rw [raw_of_ofInside known]
      exact ofSource_marker closed known rest
  | @single inside path =>
      have alone : ∀ inner, inside ++ '}' :: rest ≠ '{' :: inner := by
        intro inner same
        have begins : '{' ∈ inside ++ ['}'] := by
          cases inside with
          | nil => cases same
          | cons c inside =>
              obtain ⟨rfl, -⟩ := List.cons.inj same
              exact List.mem_cons_self
        have absent : '{' ∉ inside := notMem_of_isPath_trim path (by decide) (by decide)
        simp [absent] at begins
      have shape : '{' :: (inside ++ ['}']) ++ rest = '{' :: (inside ++ '}' :: rest) := by simp
      rw [raw, shape, ofSource, scan_single alone (ofSingle_of_isPath path rest), scan_eq]
      rfl

/-- **A skipped piece is literal text** in front of the tokens of the rest. -/
theorem ofSource_skipped {piece rest : List Char} (skips : Skips piece rest) :
    ofSource (piece ++ rest) = prepend piece (ofSource rest) := by
  cases skips with
  | unclosed absent =>
      have none_found := (breakClosing_eq_none_iff [] rest).mpr absent
      have memo : scan false [] [] rest = ofSource rest := by
        rw [ofSource, scan_eq_scanAfresh (.inr absent), scan_eq_scanAfresh (.inl rfl)]
      rw [ofSource, List.cons_append, List.cons_append, List.nil_append, scan_unclosed (by simpa using none_found),
        scan_eq, memo]
      rfl
  | @unknown inside closed unknown =>
      have found : breakClosing [] (inside ++ '}' :: '}' :: rest) = some (inside, rest) :=
        breakClosing_marker closed [] rest
      have shape : marker inside ++ rest = '{' :: '{' :: (inside ++ '}' :: '}' :: rest) := by
        simp [marker]
      rw [shape, ofSource, scan_unknown (by rw [if_pos rfl]; exact found) unknown, scan_eq]
      simp [marker, ofSource]
  | brace alone noPath =>
      rw [ofSource, List.cons_append, List.nil_append, scan_brace alone noPath, scan_eq]
      rfl
  | other other =>
      rw [ofSource, List.cons_append, List.nil_append, scan_other other, scan_eq]
      rfl

/-- **Skipping does not look beyond what decides it.** What is skipped before a text is skipped
before any beginning of it. -/
theorem Skips.cut {piece first second : List Char} (skips : Skips piece (first ++ second)) :
    Skips piece first := by
  generalize whole : first ++ second = text at skips
  cases skips with
  | unclosed absent =>
      subst whole
      exact .unclosed fun braces => absent (braces.trans (List.prefix_append first second).isInfix)
  | unknown closed unknown => exact .unknown closed unknown first
  | brace alone noPath =>
      subst whole
      refine .brace ?_ ?_
      · rintro inner rfl
        exact alone (inner ++ second) rfl
      · cases search : ofSingle? first with
        | none => rfl
        | some found =>
            rw [ofSingle_append search second] at noPath
            cases noPath
  | other other => exact .other other first

end Herald.Token
