import Mathlib.Data.List.TakeWhile
import Telemetry.Text.Blank
/-!
Lists in field values. A text is cut at commas into its pieces (`Text.mem_split_iff`), and a piece
may name a coding, with parameters after a semicolon (`Text.Names`); what it names and what it adds
to the name are determined by the piece (`Text.Names.unique`). Trimming a piece and cutting it
before its first semicolon gives the name exactly if no gap stands between them
(`Text.names_of_before_trim`, `Text.before_trim_of_names`).
-/

namespace Telemetry.Text

variable {letters piece rest gap : List Char} {separator : Char} {name text : String}
  {parameters : Option (List Char)}

/-! ### Pieces -/

/-- A piece stands between two separators, or between a separator and an end. -/
structure IsPiece (separator : Char) (letters piece : List Char) : Prop where
  solid : separator ∉ piece
  stands : ∃ front back, letters = front ++ piece ++ back ∧
    (front = [] ∨ ∃ earlier, front = earlier ++ [separator]) ∧
    (back = [] ∨ ∃ later, back = separator :: later)

theorem IsPiece.mem (stands : IsPiece separator letters piece) {letter : Char}
    (member : letter ∈ piece) : letter ∈ letters := by
  obtain ⟨front, back, rfl, _starts, _ends⟩ := stands.stands
  exact List.mem_append_left _ (List.mem_append_right _ member)

theorem IsPiece.before (stands : IsPiece separator letters piece) (later : List Char) :
    IsPiece separator (letters ++ separator :: later) piece := by
  obtain ⟨solid, front, back, rfl, starts, ends⟩ := stands
  refine ⟨solid, front, back ++ separator :: later, ?_, starts, .inr ?_⟩
  · rw [List.append_assoc _ back]
  · rcases ends with rfl | ⟨middle, rfl⟩
    · exact ⟨later, rfl⟩
    · exact ⟨middle ++ separator :: later, rfl⟩

theorem IsPiece.after (stands : IsPiece separator letters piece) (earlier : List Char) :
    IsPiece separator (earlier ++ separator :: letters) piece := by
  obtain ⟨solid, front, back, rfl, starts, ends⟩ := stands
  refine ⟨solid, earlier ++ separator :: front, back, ?_, .inr ?_, ends⟩
  · simp only [List.append_assoc, List.cons_append]
  · rcases starts with rfl | ⟨middle, rfl⟩
    · exact ⟨earlier, rfl⟩
    · exact ⟨earlier ++ separator :: middle, by rw [List.append_assoc, List.cons_append]⟩

/-- By induction on the length, cutting at any separator. -/
theorem isPiece_of_mem_splitOn (member : piece ∈ letters.splitOn separator) :
    IsPiece separator letters piece := by
  generalize size : letters.length = length at member
  induction length using Nat.strongRecOn generalizing letters with
  | ind length ih =>
    by_cases cut : separator ∈ letters
    · obtain ⟨earlier, later, rfl⟩ := List.append_of_mem cut
      rw [List.length_append, List.length_cons] at size
      rw [List.splitOn_append_cons_self, List.mem_append] at member
      rcases member with first | second
      · exact (ih earlier.length (by omega) first rfl).before later
      · exact (ih later.length (by omega) second rfl).after earlier
    · rw [List.splitOn_eq_singleton cut, List.mem_singleton] at member
      subst member
      exact ⟨cut, [], [], (List.append_nil _).symm, .inl rfl, .inl rfl⟩

theorem mem_splitOn_of_isPiece (stands : IsPiece separator letters piece) :
    piece ∈ letters.splitOn separator := by
  obtain ⟨solid, front, back, rfl, starts, ends⟩ := stands
  have alone : piece ∈ (piece ++ back).splitOn separator := by
    rcases ends with rfl | ⟨later, rfl⟩
    · rw [List.append_nil, List.splitOn_eq_singleton solid]
      exact List.mem_singleton_self piece
    · rw [List.splitOn_append_cons_self_of_not_mem solid]
      exact List.mem_cons_self
  rcases starts with rfl | ⟨earlier, rfl⟩
  · exact alone
  · rw [List.append_assoc, List.append_assoc, List.singleton_append,
      List.splitOn_append_cons_self]
    exact List.mem_append_right _ alone

theorem mem_split_iff {element : String} :
    element ∈ split separator text ↔ IsPiece separator text.toList element.toList := by
  unfold split
  rw [List.mem_map]
  constructor
  · rintro ⟨piece, member, rfl⟩
    rw [String.toList_ofList]
    exact isPiece_of_mem_splitOn member
  · intro stands
    exact ⟨_, mem_splitOn_of_isPiece stands, String.ofList_toList⟩

/-! ### Names and parameters -/

/-- Blanks and tabs, or nothing. -/
def IsGap (letters : List Char) : Prop := ∀ letter ∈ letters, letter = ' ' ∨ letter = '\t'

/-- Parameters follow a semicolon. -/
def tail : Option (List Char) → List Char
  | none => []
  | some parameters => ';' :: parameters

/-- A piece that gives a name, then a gap, and then parameters or nothing. -/
def Names (name : String) (piece gap : List Char) (parameters : Option (List Char)) : Prop :=
  IsGap gap ∧ ∃ front, IsGap front ∧ piece = front ++ (name.toList ++ (gap ++ tail parameters))

/-- No gap stands before a semicolon. -/
def IsTight (gap : List Char) (parameters : Option (List Char)) : Prop :=
  parameters = none ∨ gap = []

theorem isGap_nil : IsGap [] := fun _ member => absurd member List.not_mem_nil

theorem IsGap.blank (spaces : IsGap letters) : ∀ letter ∈ letters, isBlank letter = true := by
  intro letter member
  rcases spaces letter member with rfl | rfl <;> decide

/-- A gap ends where a letter that is no blank comes next. -/
theorem IsGap.unique {other after more : List Char} (spaces : IsGap gap)
    (blanks : IsGap other) (stops : ∀ letter ∈ after.head?, isBlank letter = false)
    (ends : ∀ letter ∈ more.head?, isBlank letter = false) (same : gap ++ after = other ++ more) :
    gap = other ∧ after = more := by
  induction gap generalizing other with
  | nil =>
    cases other with
    | nil => exact ⟨rfl, same⟩
    | cons letter others =>
      rw [List.nil_append] at same
      have solid := stops letter (by rw [same]; rfl)
      rw [blanks.blank letter List.mem_cons_self] at solid
      cases solid
  | cons letter gap ih =>
    cases other with
    | nil =>
      rw [List.nil_append] at same
      have solid := ends letter (by rw [← same]; rfl)
      rw [spaces.blank letter List.mem_cons_self] at solid
      cases solid
    | cons first others =>
      obtain ⟨rfl, later⟩ := List.cons.inj same
      obtain ⟨rfl, rest⟩ := ih (fun _ member => spaces _ (List.mem_cons_of_mem _ member))
        (fun _ member => blanks _ (List.mem_cons_of_mem _ member)) later
      exact ⟨rfl, rest⟩

theorem head?_tail (parameters : Option (List Char)) :
    ∀ letter ∈ (tail parameters).head?, isBlank letter = false := by
  cases parameters with
  | none => intro letter member; cases member
  | some text =>
    intro letter member
    obtain rfl := Option.some_inj.mp member
    decide

theorem tail_inj {left right : Option (List Char)} (same : tail left = tail right) :
    left = right := by
  cases left <;> cases right
  · rfl
  · cases same
  · cases same
  · exact congrArg some (List.cons.inj same).2

/-- What can be told apart from the gaps around it and from its parameters. -/
structure IsName (name : String) : Prop where
  filled : name.toList ≠ []
  solid : ∀ letter ∈ name.toList, isBlank letter = false
  whole : ';' ∉ name.toList

theorem IsName.head?_append (isName : IsName name) (rest : List Char) :
    ∀ letter ∈ (name.toList ++ rest).head?, isBlank letter = false := by
  obtain ⟨first, others, letters⟩ := List.exists_cons_of_ne_nil isName.filled
  intro letter member
  rw [letters] at member
  obtain rfl : first = letter := Option.some_inj.mp member
  exact isName.solid first (by rw [letters]; exact List.mem_cons_self)

theorem Names.unique (isName : IsName name) {other : List Char} {more : Option (List Char)}
    (names : Names name piece gap parameters) (again : Names name piece other more) :
    gap = other ∧ parameters = more := by
  obtain ⟨spaces, front, gapFront, rfl⟩ := names
  obtain ⟨blanks, start, gapStart, same⟩ := again
  obtain ⟨_fronts, rests⟩ :=
    gapFront.unique gapStart (isName.head?_append _) (isName.head?_append _) same
  obtain ⟨gaps, tails⟩ := spaces.unique blanks (head?_tail _) (head?_tail _)
    (List.append_cancel_left rests)
  exact ⟨gaps, tail_inj tails⟩

theorem Names.mem (names : Names name piece gap parameters) {letter : Char}
    (member : letter ∈ name.toList) : letter ∈ piece := by
  obtain ⟨_spaces, front, _gap, rfl⟩ := names
  exact List.mem_append_right _ (List.mem_append_left _ member)

/-! ### Trimming -/

theorem exists_trim (text : String) :
    ∃ front back, text.toList = front ++ ((trim text).toList ++ back) ∧
      (∀ letter ∈ front, isBlank letter = true) ∧ ∀ letter ∈ back, isBlank letter = true := by
  have kept := List.takeWhile_append_dropWhile (p := isBlank) (l := text.toList)
  have ending := List.takeWhile_append_dropWhile (p := isBlank)
    (l := (text.toList.dropWhile isBlank).reverse)
  refine ⟨text.toList.takeWhile isBlank,
    ((text.toList.dropWhile isBlank).reverse.takeWhile isBlank).reverse, ?_, ?_, ?_⟩
  · rw [trim, String.toList_ofList, ← List.reverse_append, ending, List.reverse_reverse, kept]
  · exact fun letter member => List.mem_takeWhile_imp member
  · exact fun letter member => List.mem_takeWhile_imp (List.mem_reverse.mp member)

theorem dropWhile_append_solid {core : List Char} (filled : core ≠ [])
    (solid : ∀ letter ∈ core, isBlank letter = false) (rest : List Char) :
    (core ++ rest).dropWhile isBlank = core ++ rest := by
  obtain ⟨letter, others, rfl⟩ := List.exists_cons_of_ne_nil filled
  apply List.dropWhile_cons_of_neg
  rw [solid letter List.mem_cons_self]
  decide

/-- Trimming reaches up to letters that are no blanks, from either side. -/
theorem toList_trim {front core : List Char} (filled : core ≠ [])
    (solid : ∀ letter ∈ core, isBlank letter = false)
    (blanks : ∀ letter ∈ front, isBlank letter = true)
    (parts : text.toList = front ++ (core ++ rest)) :
    (trim text).toList = core ++ (rest.reverse.dropWhile isBlank).reverse := by
  rw [trim, String.toList_ofList, parts, List.dropWhile_append_of_pos blanks,
    dropWhile_append_solid filled solid, List.reverse_append]
  have turned : core.reverse.dropWhile isBlank = core.reverse := by
    have kept := dropWhile_append_solid (List.reverse_ne_nil_iff.mpr filled)
      (fun letter member => solid letter (List.mem_reverse.mp member)) []
    rwa [List.append_nil] at kept
  rw [List.dropWhile_append, turned]
  split
  · rename_i empty
    rw [List.isEmpty_iff.mp empty, List.reverse_reverse, List.reverse_nil, List.append_nil]
  · rw [List.reverse_append, List.reverse_reverse]

theorem takeWhile_append_tail (isName : IsName name) (parameters : Option (List Char)) :
    (name.toList ++ tail parameters).takeWhile (· != ';') = name.toList := by
  have other : ∀ letter ∈ name.toList, (letter != ';') = true := by
    intro letter member
    rw [bne_iff_ne]
    rintro rfl
    exact isName.whole member
  rw [List.takeWhile_append_of_pos other]
  cases parameters <;> exact List.append_nil _

/-- A text from its first semicolon on. -/
theorem exists_tail (letters : List Char) :
    ∃ parameters, letters = letters.takeWhile (· != ';') ++ tail parameters := by
  have parts := List.takeWhile_append_dropWhile (p := (· != ';')) (l := letters)
  cases rest : letters.dropWhile (· != ';') with
  | nil =>
    rw [rest] at parts
    exact ⟨none, parts.symm⟩
  | cons letter more =>
    have stopped := List.head?_dropWhile_not (· != ';') letters
    rw [rest] at stopped parts
    have semicolon : letter = ';' := by simpa using stopped
    rw [semicolon] at parts
    exact ⟨some more, parts.symm⟩

theorem names_of_before_trim
    (spaces : ∀ letter ∈ text.toList, isBlank letter = true → letter = ' ' ∨ letter = '\t')
    (same : before ';' (trim text) = name) :
    ∃ gap parameters, Names name text.toList gap parameters ∧ IsTight gap parameters := by
  obtain ⟨front, back, parts, blankFront, blankBack⟩ := exists_trim text
  have gapFront : IsGap front := fun letter member =>
    spaces letter (by rw [parts]; exact List.mem_append_left _ member) (blankFront letter member)
  have gapBack : IsGap back := fun letter member =>
    spaces letter (by rw [parts]; simp only [List.mem_append, member, or_true])
      (blankBack letter member)
  obtain ⟨parameters, trimmed⟩ := exists_tail (trim text).toList
  have start : (trim text).toList.takeWhile (· != ';') = name.toList := by
    rw [← same, before, String.toList_ofList]
  rw [start] at trimmed
  cases parameters with
  | none =>
    refine ⟨back, none, ⟨gapBack, front, gapFront, ?_⟩, .inl rfl⟩
    rw [parts, trimmed, tail, List.append_nil, List.append_nil]
  | some more =>
    refine ⟨[], some (more ++ back), ⟨isGap_nil, front, gapFront, ?_⟩, .inr rfl⟩
    rw [parts, trimmed, List.append_assoc]
    rfl

theorem before_trim_of_names (isName : IsName name)
    (names : Names name text.toList gap parameters) (tight : IsTight gap parameters) :
    before ';' (trim text) = name := by
  obtain ⟨spaces, front, gapFront, parts⟩ := names
  have kept : ∃ more, (trim text).toList = name.toList ++ tail more := by
    cases parameters with
    | none =>
      refine ⟨none, (toList_trim isName.filled isName.solid gapFront.blank parts).trans ?_⟩
      have nothing : (gap ++ tail none).reverse.dropWhile isBlank = [] := by
        rw [tail, List.append_nil, List.dropWhile_eq_nil_iff]
        exact fun letter member => spaces.blank letter (List.mem_reverse.mp member)
      rw [nothing]
      rfl
    | some more =>
      -- The semicolon belongs to what trimming keeps, since parameters may end in blanks.
      obtain rfl : gap = [] := tight.resolve_left (by simp)
      have core : text.toList = front ++ ((name.toList ++ [';']) ++ more) := by
        rw [parts, List.append_assoc]
        rfl
      refine ⟨some (more.reverse.dropWhile isBlank).reverse,
        (toList_trim (by simp) ?_ gapFront.blank core).trans (List.append_assoc _ _ _)⟩
      intro letter member
      rcases List.mem_append.mp member with inside | last
      · exact isName.solid letter inside
      · rw [List.mem_singleton.mp last]
        decide
  obtain ⟨more, letters⟩ := kept
  rw [before, letters, takeWhile_append_tail isName, String.ofList_toList]

end Telemetry.Text
