import Telemetry.Http.Snippet
import Telemetry.Proofs.Texts
/-!
Snippets of bodies. Stepping back from the limit ends at the last boundary between characters that
is not after it (`Snippet.lastBoundary_greatest`). A character has at most four octets, so there is
a boundary among any four places of a text (`Snippet.exists_boundary_near`), and no more than three
steps are made. What is cut off at the limit is therefore less than a character
(`Snippet.cuts_at_boundary`).
-/

namespace Telemetry.Http.Snippet

variable {text : String} {limit place : Nat}

/-- A text can be taken apart after this many octets. -/
def IsBoundary (text : String) (place : Nat) : Prop :=
  ∃ front back, text = front ++ back ∧ front.utf8ByteSize = place

theorem isValid_iff_isBoundary :
    String.Pos.Raw.IsValid text ⟨place⟩ ↔ IsBoundary text place := by
  rw [String.Pos.Raw.isValid_iff_exists_append]
  constructor
  · rintro ⟨front, back, whole, stands⟩
    exact ⟨front, back, whole, (congrArg String.Pos.Raw.byteIdx stands).symm⟩
  · rintro ⟨front, back, whole, rfl⟩
    exact ⟨front, back, whole, rfl⟩

/-! ### Stepping back -/

/-- One step: the place is a boundary and the search ends, or it goes on before it. -/
theorem lastBoundary_succ (text : String) (place : Nat) :
    (IsBoundary text (place + 1) ∧
      (lastBoundary text (place + 1)).offset.byteIdx = place + 1) ∨
    (¬ IsBoundary text (place + 1) ∧
      lastBoundary text (place + 1) = lastBoundary text place) := by
  rw [← isValid_iff_isBoundary, lastBoundary]
  by_cases between : String.Pos.Raw.IsValid text ⟨place + 1⟩
  · rw [dif_pos between]
    exact .inl ⟨between, rfl⟩
  · rw [dif_neg between]
    exact .inr ⟨between, rfl⟩

theorem lastBoundary_le (text : String) (limit : Nat) :
    (lastBoundary text limit).offset.byteIdx ≤ limit := by
  induction limit with
  | zero => exact Nat.le_refl 0
  | succ place ih =>
    rcases lastBoundary_succ text place with ⟨_between, found⟩ | ⟨_inside, stepped⟩
    · exact Nat.le_of_eq found
    · rw [stepped]
      exact Nat.le_succ_of_le ih

theorem lastBoundary_greatest (boundary : IsBoundary text place) (within : place ≤ limit) :
    place ≤ (lastBoundary text limit).offset.byteIdx := by
  induction limit with
  | zero => exact within
  | succ last ih =>
    rcases lastBoundary_succ text last with ⟨_between, found⟩ | ⟨inside, stepped⟩
    · rw [found]
      exact within
    · rw [stepped]
      apply ih
      have elsewhere : place ≠ last + 1 := fun same => inside (same ▸ boundary)
      omega

/-! ### How far it is -/

/-- By induction on the letters: the limit lies inside the first of them or after it. -/
theorem exists_front_near (letters : List Char) (limit : Nat)
    (inside : limit ≤ (String.ofList letters).utf8ByteSize) :
    ∃ front back, letters = front ++ back ∧ (String.ofList front).utf8ByteSize ≤ limit ∧
      limit < (String.ofList front).utf8ByteSize + 4 := by
  induction letters generalizing limit with
  | nil =>
    refine ⟨[], [], rfl, Nat.zero_le limit, ?_⟩
    exact Nat.lt_of_le_of_lt inside (by decide)
  | cons letter rest ih =>
    have size (letters : List Char) : (String.ofList (letter :: letters)).utf8ByteSize =
        letter.utf8Size + (String.ofList letters).utf8ByteSize := by
      rw [← List.singleton_append, String.ofList_append, String.utf8ByteSize_append,
        ← String.singleton_eq_ofList, String.utf8ByteSize_singleton]
    by_cases within : limit < letter.utf8Size
    · -- Nothing fits, and the limit is less than one letter away from the start.
      refine ⟨[], letter :: rest, rfl, Nat.zero_le limit, ?_⟩
      have short := letter.utf8Size_le_four
      change limit < 0 + 4
      omega
    · rw [size] at inside
      obtain ⟨front, back, rfl, before, near⟩ := ih (limit - letter.utf8Size) (by omega)
      refine ⟨letter :: front, back, rfl, ?_, ?_⟩ <;> rw [size] <;> omega

theorem exists_boundary_near (inside : limit ≤ text.utf8ByteSize) :
    ∃ place, IsBoundary text place ∧ place ≤ limit ∧ limit < place + 4 := by
  rw [← String.ofList_toList (s := text)] at inside
  obtain ⟨front, back, letters, before, near⟩ := exists_front_near text.toList limit inside
  refine ⟨_, ⟨String.ofList front, String.ofList back, ?_, rfl⟩, before, near⟩
  rw [← String.ofList_append, ← letters, String.ofList_toList]

theorem lastBoundary_near (inside : limit ≤ text.utf8ByteSize) :
    limit < (lastBoundary text limit).offset.byteIdx + 4 := by
  obtain ⟨place, boundary, before, near⟩ := exists_boundary_near inside
  have later := lastBoundary_greatest boundary before
  omega

/-! ### What is shown of a body -/

/-- The front of a text that stands in a snippet: it ends where the search from the limit does, and
its octets are the first ones of the text. -/
structure IsCut (limit : Nat) (text front : String) : Prop where
  found : front.utf8ByteSize = (lastBoundary text limit).offset.byteIdx
  octets : Bytes.ofText front = (Bytes.ofText text).take front.utf8ByteSize
  boundary : IsBoundary text front.utf8ByteSize
  within : front.utf8ByteSize ≤ limit
  longest : ∀ place, IsBoundary text place → place ≤ limit → place ≤ front.utf8ByteSize
  near : limit < front.utf8ByteSize + 4

theorem isCut_sliceTo (inside : limit ≤ text.utf8ByteSize) :
    IsCut limit text (text.sliceTo (lastBoundary text limit)).copy := by
  have parts := (lastBoundary text limit).splits
  have found := congrArg String.Pos.Raw.byteIdx parts.offset_eq_rawEndPos
  rw [String.byteIdx_rawEndPos] at found
  refine ⟨found.symm, ?_, ⟨_, _, parts.eq_append, rfl⟩, ?_, ?_, ?_⟩
  · have whole := congrArg Bytes.ofText parts.eq_append
    rw [Bytes.ofText_append] at whole
    rw [whole, ← Bytes.length_ofText, List.take_left]
  · rw [← found]
    exact lastBoundary_le text limit
  · intro place boundary within
    rw [← found]
    exact lastBoundary_greatest boundary within
  · rw [← found]
    exact lastBoundary_near inside

/-- A body that is no text is not shown, one within the limit is shown as it is, and of any other
the snippet shows all characters at the front that fit. -/
theorem cuts_at_boundary (limit : Nat) (body : Bytes) :
    (¬ Bytes.IsText body → ofBody limit body = "<non-utf8 body>") ∧
    ∀ text, Bytes.ofText text = body →
      (body.length ≤ limit → ofBody limit body = text) ∧
      (limit < body.length →
        ∃ front, IsCut limit text front ∧ ofBody limit body = front ++ "...") := by
  refine ⟨?_, ?_⟩
  · intro malformed
    have unread : Bytes.text? body = none := by
      rw [Option.eq_none_iff_forall_ne_some]
      exact fun text read => malformed ⟨text, Bytes.ofText_of_text? read⟩
    rw [ofBody, unread]
    rfl
  · rintro text rfl
    have shown : ofBody limit (Bytes.ofText text) =
        if limit < text.utf8ByteSize then
          (text.sliceTo (lastBoundary text limit)).copy ++ mark
        else text := by
      rw [ofBody, Bytes.text?_ofText]
    rw [shown, Bytes.length_ofText]
    refine ⟨fun short => if_neg (Nat.not_lt.mpr short), ?_⟩
    intro long
    exact ⟨_, isCut_sliceTo (Nat.le_of_lt long), if_pos long⟩

/-- The limit lies in the middle of a character of four octets, and the search makes three steps. -/
theorem cuts_at_boundary_fourOctets :
    ¬ Bytes.IsText [0x61, 0xF0, 0x9F] ∧ ofBody 2 [0x61, 0xF0, 0x9F] = "<non-utf8 body>" ∧
      ofBody 5 (Bytes.ofText "a😀") = "a😀" ∧
      ∃ front, IsCut 4 "a😀" front ∧ ofBody 4 (Bytes.ofText "a😀") = front ++ "..." ∧
        front = "a" := by
  have malformed : ¬ Bytes.IsText [0x61, 0xF0, 0x9F] := by
    rintro ⟨text, octets⟩
    have unread : Bytes.text? [0x61, 0xF0, 0x9F] = none := by decide
    rw [← octets, Bytes.text?_ofText] at unread
    cases unread
  have octets : (Bytes.ofText "a😀").length = 5 := by decide
  obtain ⟨front, isCut, shown⟩ :=
    ((cuts_at_boundary 4 _).2 "a😀" rfl).2 (by rw [octets]; decide)
  have one : front.utf8ByteSize = 1 := isCut.found.trans (by decide)
  have letter : Bytes.ofText front = Bytes.ofText "a" := by
    rw [isCut.octets, one]
    decide
  have same : front = "a" := by
    rw [← Option.some_inj, ← Bytes.text?_ofText front, letter, Bytes.text?_ofText]
  refine ⟨malformed, (cuts_at_boundary 2 _).1 malformed, ?_, front, isCut, shown, same⟩
  exact ((cuts_at_boundary 5 _).2 "a😀" rfl).1 (Nat.le_of_eq octets)

end Telemetry.Http.Snippet
