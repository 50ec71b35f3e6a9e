/- What reading tokens keeps, and how it composes.

The texts of the tokens of a source, one after another, are the source (`raws_ofSource`).

What has been read does not change how the rest is read, only the literal text still pending
is joined to the text that comes next (`scan_eq`). A source is plain when no literal text of
it has an opening brace. A plain source leaves nothing open, so what follows it is read as it
is read on its own (`ofSource_append`, `ofSource_append_marker`). -/
import Herald.Proofs.Text.Trim
import Herald.Token
namespace Herald.Token
set_option autoImplicit false

theorem breakClosing_eq_some {before text inside rest : List Char}
    (found : breakClosing before text = some (inside, rest)) :
    before.reverse ++ text = inside ++ '}' :: '}' :: rest := by
  fun_induction breakClosing before text with
  | case1 => cases found
  | case2 before after =>
      obtain ⟨rfl, rfl⟩ : before.reverse = inside ∧ after = rest := by simpa using found
      rfl
  | case3 before c after _ ih =>
      rw [← ih found, List.reverse_cons, List.append_assoc]
      rfl

/-- A double-brace marker keeps its braces and what is between them. -/
theorem raw_of_ofInside {inside : List Char} {token : Token} (found : ofInside? inside = some token) :
    token.raw = '{' :: '{' :: (inside ++ ['}', '}']) := by
  simp only [ofInside?] at found
  split at found
  · obtain ⟨kind, -, rfl⟩ := Option.map_eq_some_iff.mp found
    rfl
  · obtain ⟨kind, -, rfl⟩ := Option.map_eq_some_iff.mp found
    rfl
  · split at found
    · cases found; rfl
    · cases found; rfl

theorem raw_of_ofSingle {text rest : List Char} {token : Token}
    (found : ofSingle? text = some (token, rest)) : token.raw ++ rest = '{' :: text := by
  have whole := List.takeWhile_append_dropWhile (p := (· != '}')) (l := text)
  simp only [ofSingle?] at found
  split at found
  · cases found
  · rename_i c after closing
    split at found
    · cases found
      have brace : c = '}' := by
        have stopped := List.head?_dropWhile_not (· != '}') text
        rw [closing] at stopped
        simpa using stopped
      rw [closing, brace] at whole
      rw [raw]
      generalize List.takeWhile (· != '}') text = inside at whole ⊢
      simp [← whole]
    · cases found

theorem raws_flush (held : List Char) (done : List Token) :
    (flush held done).reverse.flatMap raw = done.reverse.flatMap raw ++ held.reverse := by
  simp only [flush]
  split
  · simp_all
  · simp [raw]

/-- What is pending and what is still to be read stand behind what has been read. -/
theorem raws_scan (closable : Bool) (held : List Char) (done : List Token) (text : List Char) :
    (scan closable held done text).flatMap raw =
      done.reverse.flatMap raw ++ (held.reverse ++ text) := by
  fun_induction scan closable held done text with
  | case1 => simp [raws_flush]
  | case2 closable held done inner _ ih => simpa using ih
  | case3 closable held done inner inside rest found token marker ih =>
      have split : inner = inside ++ '}' :: '}' :: rest := by
        split at found
        · exact breakClosing_eq_some found
        · cases found
      rw [ih, List.reverse_cons, List.flatMap_append, raws_flush, split]
      simp [raw_of_ofInside marker]
  | case4 closable held done inner inside rest found _ ih =>
      have split : inner = inside ++ '}' :: '}' :: rest := by
        split at found
        · exact breakClosing_eq_some found
        · cases found
      rw [ih, split]
      simp
  | case5 closable held done rest _ token after found ih =>
      rw [ih, List.reverse_cons, List.flatMap_append, raws_flush, ← raw_of_ofSingle found]
      simp
  | case6 closable held done rest _ _ ih => simpa using ih
  | case7 closable held done c rest _ _ ih => simpa using ih

@[simp] theorem ofSource_nil : ofSource [] = [] := by
  rw [ofSource, scan]
  rfl

/-- **The tokens of a source spell the source.** -/
theorem raws_ofSource (source : List Char) : (ofSource source).flatMap raw = source := by
  rw [ofSource, raws_scan]
  rfl

/-! ## One step of reading -/

section Steps
variable {closable : Bool} {inner inside rest after : List Char} {token : Token}

/-- A double brace that finds no closing one is literal, and so is every later one. -/
theorem scan_unclosed (found : (if closable = true then breakClosing [] inner else none) = none)
    (held : List Char) (done : List Token) :
    scan closable held done ('{' :: '{' :: inner) = scan false ('{' :: '{' :: held) done inner := by
  rw [scan]
  split <;> simp_all

theorem scan_marker
    (found : (if closable = true then breakClosing [] inner else none) = some (inside, rest))
    (known : ofInside? inside = some token) (held : List Char) (done : List Token) :
    scan closable held done ('{' :: '{' :: inner) = scan closable [] (token :: flush held done) rest := by
  rw [scan]
  split <;> simp_all

theorem scan_unknown
    (found : (if closable = true then breakClosing [] inner else none) = some (inside, rest))
    (unknown : ofInside? inside = none) (held : List Char) (done : List Token) :
    scan closable held done ('{' :: '{' :: inner) =
      scan closable ('}' :: '}' :: (inside.reverse ++ '{' :: '{' :: held)) done rest := by
  rw [scan]
  split <;> simp_all

theorem scan_single (alone : ∀ inner, rest ≠ '{' :: inner) (found : ofSingle? rest = some (token, after))
    (held : List Char) (done : List Token) :
    scan closable held done ('{' :: rest) = scan closable [] (token :: flush held done) after := by
  rw [scan.eq_3 _ _ _ _ alone]
  split <;> simp_all

theorem scan_brace (alone : ∀ inner, rest ≠ '{' :: inner) (found : ofSingle? rest = none)
    (held : List Char) (done : List Token) :
    scan closable held done ('{' :: rest) = scan closable ('{' :: held) done rest := by
  rw [scan.eq_3 _ _ _ _ alone]
  split <;> simp_all

theorem scan_other {c : Char} (other : c ≠ '{') (held : List Char) (done : List Token) :
    scan closable held done (c :: rest) = scan closable (c :: held) done rest :=
  scan.eq_4 _ _ _ _ _ (fun _ brace _ => other brace) other

end Steps

/-! ## What has been read -/

/-- Whether a token is literal text. -/
def isText : Token → Bool
  | .text _ => true
  | _ => false

theorem isText_of_ofInside {inside : List Char} {token : Token}
    (found : ofInside? inside = some token) : token.isText = false := by
  simp only [ofInside?] at found
  split at found
  · obtain ⟨kind, -, rfl⟩ := Option.map_eq_some_iff.mp found
    rfl
  · obtain ⟨kind, -, rfl⟩ := Option.map_eq_some_iff.mp found
    rfl
  · split at found
    · cases found; rfl
    · cases found; rfl

theorem isText_of_ofSingle {text rest : List Char} {token : Token}
    (found : ofSingle? text = some (token, rest)) : token.isText = false := by
  simp only [ofSingle?] at found
  split at found
  · cases found
  · split at found
    · cases found; rfl
    · cases found

/-- The tokens with a text put in front, joined to the text that they begin with. -/
def prepend (held : List Char) (tokens : List Token) : List Token :=
  if held.isEmpty then tokens
  else match tokens with
    | .text raw :: rest => .text (held ++ raw) :: rest
    | _ => .text held :: tokens

@[simp] theorem prepend_nil (tokens : List Token) : prepend [] tokens = tokens := rfl

/-- Literal text meets literal text or stands alone. -/
theorem prepend_cases {held : List Char} (pending : held ≠ []) (tokens : List Token) :
    (∃ raw rest, tokens = .text raw :: rest ∧ prepend held tokens = .text (held ++ raw) :: rest) ∨
      prepend held tokens = .text held :: tokens := by
  have nonempty : held.isEmpty = false := List.isEmpty_eq_false_iff.mpr pending
  simp only [prepend, nonempty, Bool.false_eq_true, if_false]
  split
  · exact .inl ⟨_, _, rfl, rfl⟩
  · exact .inr rfl

theorem prepend_of_marker {token : Token} (marker : token.isText = false) (held : List Char)
    (rest : List Token) : prepend held (token :: rest) = (flush held.reverse []).reverse ++ token :: rest := by
  cases held with
  | nil => rfl
  | cons c held => cases token <;> simp_all [isText, prepend, flush]

theorem flush_append (held : List Char) (done before : List Token) :
    flush held (done ++ before) = flush held done ++ before := by
  simp only [flush]
  split <;> rfl

theorem scan_done (closable : Bool) (held : List Char) (done : List Token) (text : List Char)
    (before : List Token) :
    scan closable held (done ++ before) text = before.reverse ++ scan closable held done text := by
  fun_induction scan closable held done text with
  | case1 => simp [scan, flush_append]
  | case2 closable held done inner found ih => rw [scan_unclosed found, ih]
  | case3 closable held done inner inside rest found token known ih =>
      rw [scan_marker found known, flush_append, ← List.cons_append, ih]
  | case4 closable held done inner inside rest found unknown ih => rw [scan_unknown found unknown, ih]
  | case5 closable held done rest alone token after found ih =>
      rw [scan_single alone found, flush_append, ← List.cons_append, ih]
  | case6 closable held done rest alone found ih => rw [scan_brace alone found, ih]
  | case7 closable held done c rest _ other ih => rw [scan_other other, ih]

theorem scan_nothing_held (closable : Bool) (done : List Token) (text : List Char) :
    scan closable [] done text = done.reverse ++ scan closable [] [] text :=
  scan_done closable [] [] text done

/-- The text pending before a marker is a token of its own. -/
theorem scan_behind_marker {token : Token} (marker : token.isText = false) (closable : Bool)
    (held text : List Char) :
    scan closable [] (token :: flush held []) text =
      prepend held.reverse (token :: scan closable [] [] text) := by
  rw [scan_nothing_held, prepend_of_marker marker]
  simp

theorem prepend_prepend (first second : List Char) (tokens : List Token) :
    prepend first (prepend second tokens) = prepend (first ++ second) tokens := by
  match first, second with
  | [], _ => rfl
  | c :: first, [] => simp
  | c :: first, d :: second =>
      match tokens with
      | [] => simp [prepend]
      | .text _ :: _ => simp [prepend]
      | .opener _ _ _ :: _ => simp [prepend]
      | .otherwise _ :: _ => simp [prepend]
      | .closer _ _ :: _ => simp [prepend]
      | .placeholder _ _ _ :: _ => simp [prepend]

/-- The text pending from before comes out in front. -/
theorem scan_held (closable : Bool) (held text : List Char) :
    ∀ before : List Char, scan closable (held ++ before) [] text =
      prepend before.reverse (scan closable held [] text) := by
  generalize none_done : ([] : List Token) = done
  fun_induction scan closable held done text with
  | case1 closable held done =>
      subst none_done
      intro before
      simp only [scan, flush, prepend]
      cases held <;> cases before <;> simp
  | case2 closable held done inner found ih =>
      intro before
      rw [scan_unclosed found]
      exact ih none_done before
  | case3 closable held done inner inside rest found token known ih =>
      subst none_done
      intro before
      rw [scan_marker found known, scan_behind_marker (isText_of_ofInside known),
        scan_behind_marker (isText_of_ofInside known), prepend_prepend, List.reverse_append]
  | case4 closable held done inner inside rest found unknown ih =>
      intro before
      rw [scan_unknown found unknown]
      simpa using ih none_done before
  | case5 closable held done rest alone token after found ih =>
      subst none_done
      intro before
      rw [scan_single alone found, scan_behind_marker (isText_of_ofSingle found),
        scan_behind_marker (isText_of_ofSingle found), prepend_prepend, List.reverse_append]
  | case6 closable held done rest alone found ih =>
      intro before
      rw [scan_brace alone found]
      exact ih none_done before
  | case7 closable held done c rest _ other ih =>
      intro before
      rw [scan_other other]
      exact ih none_done before

/-- **The rest is read alike after anything.** The tokens before it stand in front, and the
pending text is joined to it. -/
theorem scan_eq (closable : Bool) (held : List Char) (done : List Token) (text : List Char) :
    scan closable held done text = done.reverse ++ prepend held.reverse (scan closable [] [] text) := by
  have split := scan_done closable held [] text done
  rw [List.nil_append] at split
  rw [split, ← scan_held closable [] text held, List.nil_append]

/-! ## Plain sources -/

/-- Tokens are plain when no literal text of them has an opening brace. -/
def Plain (tokens : List Token) : Prop := ∀ raw, Token.text raw ∈ tokens → '{' ∉ raw

/-- A pending character comes out in some literal text. -/
theorem exists_text_of_held {held : List Char} {c : Char} (pending : c ∈ held) (closable : Bool)
    (done : List Token) (text : List Char) :
    ∃ raw, Token.text raw ∈ scan closable held done text ∧ c ∈ raw := by
  rw [scan_eq]
  have kept : c ∈ held.reverse := List.mem_reverse.mpr pending
  have some_held : held.reverse.isEmpty = false := by
    rw [List.isEmpty_eq_false_iff]
    exact List.ne_nil_of_mem kept
  simp only [prepend, some_held, Bool.false_eq_true, if_false]
  split
  · exact ⟨_, List.mem_append_right _ List.mem_cons_self, List.mem_append_left _ kept⟩
  · exact ⟨_, List.mem_append_right _ List.mem_cons_self, kept⟩

theorem brace_of_plain {closable : Bool} {held : List Char} {done : List Token} {text : List Char}
    (plain : Plain (scan closable held done text)) : '{' ∉ held := by
  intro pending
  obtain ⟨raw, inside, brace⟩ := exists_text_of_held pending closable done text
  exact plain raw inside brace

theorem breakClosing_append {before text inside after : List Char}
    (found : breakClosing before text = some (inside, after)) (rest : List Char) :
    breakClosing before (text ++ rest) = some (inside, after ++ rest) := by
  fun_induction breakClosing before text with
  | case1 => cases found
  | case2 before after =>
      cases found
      rfl
  | case3 before c after other ih =>
      rw [List.cons_append, breakClosing]
      · exact ih found
      · rintro next rfl closing
        cases after with
        | nil => cases found
        | cons d after =>
            obtain ⟨rfl, -⟩ := List.cons.inj closing
            exact other after rfl rfl

theorem ofSingle_append {text after : List Char} {token : Token}
    (found : ofSingle? text = some (token, after)) (rest : List Char) :
    ofSingle? (text ++ rest) = some (token, after ++ rest) := by
  simp only [ofSingle?] at found
  split at found
  · cases found
  · rename_i c tail closing
    have inside : (text ++ rest).takeWhile (· != '}') = text.takeWhile (· != '}') := by
      have shorter : (text.takeWhile (· != '}')).length ≠ text.length := by
        have whole := congrArg List.length (List.takeWhile_append_dropWhile (p := (· != '}')) (l := text))
        rw [closing, List.length_append, List.length_cons] at whole
        omega
      rw [List.takeWhile_append, if_neg shorter]
    have outside : (text ++ rest).dropWhile (· != '}') = c :: (tail ++ rest) := by
      rw [List.dropWhile_append, closing]
      rfl
    split at found
    · rename_i path
      cases found
      simp only [ofSingle?, inside, outside, path, if_true]
    · cases found

/-- A plain source leaves nothing open: what follows is read from where the source ended. -/
theorem scan_append (closable : Bool) (held : List Char) (done : List Token) (source : List Char)
    (plain : Plain (scan closable held done source)) :
    ∃ held' done', scan closable held done source = (flush held' done').reverse ∧
      ∀ rest, scan closable held done (source ++ rest) = scan closable held' done' rest := by
  fun_induction scan closable held done source with
  | case1 closable held done => exact ⟨held, done, rfl, fun rest => rfl⟩
  | case2 closable held done inner found ih => exact absurd (by simp) (brace_of_plain plain)
  | case3 closable held done inner inside after found token known ih =>
      obtain ⟨held', done', whole, followed⟩ := ih plain
      refine ⟨held', done', whole, fun rest => ?_⟩
      rw [← followed rest, List.cons_append, List.cons_append]
      refine scan_marker ?_ known held done
      split at found
      · rw [if_pos ‹_›]
        exact breakClosing_append found rest
      · cases found
  | case4 closable held done inner inside after found unknown ih =>
      exact absurd (by simp) (brace_of_plain plain)
  | case5 closable held done tail alone token after found ih =>
      obtain ⟨held', done', whole, followed⟩ := ih plain
      refine ⟨held', done', whole, fun rest => ?_⟩
      rw [← followed rest, List.cons_append]
      refine scan_single ?_ (ofSingle_append found rest) held done
      cases tail with
      | nil => simp [ofSingle?] at found
      | cons c tail =>
          intro inner same
          exact alone tail (by rw [(List.cons.inj same).1])
  | case6 closable held done tail alone found ih => exact absurd (by simp) (brace_of_plain plain)
  | case7 closable held done c tail _ other ih =>
      obtain ⟨held', done', whole, followed⟩ := ih plain
      refine ⟨held', done', whole, fun rest => ?_⟩
      rw [← followed rest, List.cons_append, scan_other other]

/-- **A plain source is read alike before anything.** Only its last text is joined to the
text that comes next. -/
theorem ofSource_append {source : List Char} (plain : Plain (ofSource source)) :
    ∃ tokens held, ofSource source = tokens ++ prepend held [] ∧
      ∀ rest, ofSource (source ++ rest) = tokens ++ prepend held (ofSource rest) := by
  obtain ⟨held, done, whole, followed⟩ := scan_append true [] [] source plain
  refine ⟨done.reverse, held.reverse, ?_, ?_⟩
  · have ended := scan_eq true held done []
    rw [scan] at ended
    rw [ofSource, whole, ended]
    simp [scan, flush]
  · intro rest
    rw [ofSource, followed rest, scan_eq]
    rfl

/-! ## Markers -/

/-- A double-brace marker. -/
def marker (inside : List Char) : List Char := '{' :: '{' :: (inside ++ ['}', '}'])

/-- No double closing brace begins in the inside of a marker, also not together with the
brace behind it. -/
def Enclosed (inside : List Char) : Prop := ¬ ['}', '}'] <:+: inside ++ ['}']

theorem not_braces_of_count {text : List Char} (few : text.count '}' < 2) :
    ¬ ['}', '}'] <:+: text :=
  fun braces => Nat.not_le.mpr few (braces.sublist.count_le '}')

theorem not_braces_of_notMem {text : List Char} (absent : '}' ∉ text) : ¬ ['}', '}'] <:+: text :=
  not_braces_of_count (by rw [List.count_eq_zero_of_not_mem absent]; decide)

theorem enclosed_of_notMem {inside : List Char} (closed : '}' ∉ inside) : Enclosed inside := by
  apply not_braces_of_count
  rw [List.count_append, List.count_eq_zero_of_not_mem closed]
  decide

/-- A double closing brace lies on one side of any other character. -/
theorem braces_infix_append_cons {c : Char} (other : c ≠ '}') (first second : List Char) :
    ['}', '}'] <:+: first ++ c :: second ↔ ['}', '}'] <:+: first ∨ ['}', '}'] <:+: second := by
  induction first with
  | nil =>
      rw [List.nil_append, List.infix_cons_iff]
      simp [Ne.symm other]
  | cons d first ih =>
      have begins : ['}', '}'] <+: d :: (first ++ c :: second) ↔ ['}', '}'] <+: d :: first := by
        cases first <;> simp [Ne.symm other]
      rw [List.cons_append, List.infix_cons_iff, ih, begins, List.infix_cons_iff, or_assoc]

theorem braces_infix_cons {c : Char} (other : c ≠ '}') (rest : List Char) :
    ['}', '}'] <:+: c :: rest ↔ ['}', '}'] <:+: rest := by
  simpa using braces_infix_append_cons other [] rest

theorem breakClosing_marker {inside : List Char} (closed : Enclosed inside) (before rest : List Char) :
    breakClosing before (inside ++ '}' :: '}' :: rest) = some (before.reverse ++ inside, rest) := by
  induction inside generalizing before with
  | nil => simp [breakClosing]
  | cons c inside ih =>
      have later : Enclosed inside := fun braces => closed (List.infix_cons braces)
      rw [List.cons_append, breakClosing]
      · simpa using ih later (c :: before)
      · rintro next rfl same
        cases inside with
        | nil => exact closed (List.infix_refl _)
        | cons d inside =>
            obtain ⟨rfl, -⟩ := List.cons.inj same
            exact closed (List.prefix_append ['}', '}'] _).isInfix

/-- **A marker ends what is before it** and begins what is behind it. -/
theorem ofSource_append_marker {source inside : List Char} {token : Token}
    (plain : Plain (ofSource source)) (closed : Enclosed inside) (known : ofInside? inside = some token)
    (rest : List Char) :
    ofSource (source ++ (marker inside ++ rest)) = ofSource source ++ token :: ofSource rest := by
  have found : breakClosing [] (inside ++ '}' :: '}' :: rest) = some (inside, rest) :=
    breakClosing_marker closed [] rest
  have read : ofSource (marker inside ++ rest) = token :: ofSource rest := by
    have shape : marker inside ++ rest = '{' :: '{' :: (inside ++ '}' :: '}' :: rest) := by
      simp [marker]
    rw [shape, ofSource, scan_marker (by rw [if_pos rfl]; exact found) known, scan_eq]
    rfl
  obtain ⟨tokens, held, whole, followed⟩ := ofSource_append plain
  rw [followed, whole, read, prepend_of_marker (isText_of_ofInside known), List.append_assoc]
  cases held <;> simp [prepend, flush]

theorem ofSource_marker {inside : List Char} {token : Token} (closed : Enclosed inside)
    (known : ofInside? inside = some token) (rest : List Char) :
    ofSource (marker inside ++ rest) = token :: ofSource rest := by
  have plain : Plain (ofSource []) := by
    intro raw inside
    simp at inside
  have read := ofSource_append_marker plain closed known rest
  simpa using read

theorem ofSource_marker_alone {inside : List Char} {token : Token} (closed : Enclosed inside)
    (known : ofInside? inside = some token) : ofSource (marker inside) = [token] := by
  have read := ofSource_marker closed known []
  rwa [List.append_nil, ofSource_nil] at read

/-- The inside of an opener. -/
def openerInside (kind : BlockKind) (argument : List Char) : List Char :=
  '#' :: (kind.keyword.toList ++ ' ' :: argument)

theorem ofInside_opener (kind : BlockKind) (argument : List Char) :
    ofInside? (openerInside kind argument) =
      some (.opener kind (Text.trim argument) (marker (openerInside kind argument))) := by
  have solid : kind.keyword.toList.all (!Text.isBlank ·) = true := by cases kind <;> decide
  have word : ∀ c ∈ kind.keyword.toList, (!Text.isBlank c) = true := List.all_eq_true.mp solid
  have visible : ∀ c ∈ kind.keyword.toList, Text.isBlank c = false := by simpa using word
  have trimmed : Text.trim (openerInside kind argument) =
      '#' :: (kind.keyword.toList ++ Text.trimEnd (' ' :: argument)) := by
    rw [openerInside, Text.trim, Text.trimStart_cons_of_visible (by decide),
      Text.trimEnd_cons_of_visible (by decide), Text.trimEnd_append_of_visible visible]
  have argued : Text.trim (Text.trimEnd (' ' :: argument)) = Text.trim argument := by
    rw [Text.trim_trimEnd, Text.trim_cons_of_blank (by decide)]
  -- Behind the keyword there is a blank, or nothing where the argument is blank.
  have divided : (Text.trimEnd (' ' :: argument)).takeWhile (!Text.isBlank ·) = [] ∧
      (Text.trimEnd (' ' :: argument)).dropWhile (!Text.isBlank ·) = Text.trimEnd (' ' :: argument) := by
    rw [Text.trimEnd_cons]
    split
    · exact ⟨rfl, rfl⟩
    · exact ⟨rfl, rfl⟩
  have keyword : BlockKind.ofKeyword? kind.keyword.toList = some kind := by cases kind <;> decide
  simp only [ofInside?, trimmed]
  rw [List.takeWhile_append_of_pos word, List.dropWhile_append_of_pos word, divided.1, divided.2,
    List.append_nil, keyword, argued]
  rfl

/-- The inside of a closer. -/
def closerInside (kind : BlockKind) : List Char := '/' :: kind.keyword.toList

theorem ofInside_closer (kind : BlockKind) :
    ofInside? (closerInside kind) = some (.closer kind (marker (closerInside kind))) := by
  cases kind <;> decide

theorem ofInside_otherwise : ofInside? "else".toList = some (.otherwise (marker "else".toList)) := by
  decide

end Herald.Token
