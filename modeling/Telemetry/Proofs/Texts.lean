import Telemetry.Bytes
/-!
Texts and their octets: which octets a letter has (`Bytes.utf8EncodeChar_cases`), which octets are
those of a text (`Bytes.IsText`), and that texts are ordered as their octets are
(`Bytes.ofText_lt_iff`).
-/

namespace Telemetry

namespace Bytes

/-- Letters below 128 are octets, and no other letter has one of these. -/
theorem utf8EncodeChar_cases (letter : Char) :
    (letter.toNat < 128 ∧ String.utf8EncodeChar letter = [UInt8.ofNat letter.toNat]) ∨
      (128 ≤ letter.toNat ∧ ∀ octet ∈ String.utf8EncodeChar letter, 128 ≤ octet.toNat) := by
  by_cases small : letter.val.toNat ≤ 127
  · exact .inl ⟨Nat.lt_succ_of_le small, if_pos small⟩
  · right
    refine ⟨Nat.lt_of_not_le small, ?_⟩
    intro octet member
    simp only [String.utf8EncodeChar, if_neg small] at member
    split at member
    · rcases List.mem_cons.mp member with rfl | member
      · rw [UInt8.toNat_ofNat']
        omega
      · rw [List.mem_singleton.mp member, UInt8.toNat_ofNat']
        omega
    · split at member
      · simp only [List.mem_cons, List.not_mem_nil, or_false] at member
        rcases member with rfl | rfl | rfl <;> rw [UInt8.toNat_ofNat'] <;> omega
      · simp only [List.mem_cons, List.not_mem_nil, or_false] at member
        rcases member with rfl | rfl | rfl | rfl <;> rw [UInt8.toNat_ofNat'] <;> omega

def IsText (octets : Bytes) : Prop := ∃ text, ofText text = octets

theorem IsText.append {front back : Bytes} (first : IsText front) (second : IsText back) :
    IsText (front ++ back) := by
  obtain ⟨before, rfl⟩ := first
  obtain ⟨after, rfl⟩ := second
  exact ⟨before ++ after, ofText_append before after⟩

theorem isText_of_ascii {octets : Bytes} (small : ∀ octet ∈ octets, octet.toNat < 128) :
    IsText octets :=
  ⟨_, ofText_ascii octets small⟩

theorem ofText_eq_flatMap (text : String) :
    ofText text = text.toList.flatMap String.utf8EncodeChar := by
  rw [← ofText_ofList, String.ofList_toList]

theorem length_ofText (text : String) : (ofText text).length = text.utf8ByteSize := by
  rw [ofText, Array.length_toList]
  exact String.size_toByteArray

/-! ### Order -/

theorem ofNat_cons_lt {left right : Nat} {before after : Bytes} (bound : right < 256)
    (first : left ≤ right) (others : left = right → before < after) :
    UInt8.ofNat left :: before < UInt8.ofNat right :: after := by
  rw [List.cons_lt_cons_iff, UInt8.lt_iff_toNat_lt, UInt8.toNat_ofNat_of_lt' bound,
    UInt8.toNat_ofNat_of_lt' (Nat.lt_of_le_of_lt first bound)]
  rcases Nat.lt_or_eq_of_le first with below | same
  · exact .inl below
  · exact .inr ⟨congrArg UInt8.ofNat same, others same⟩

/-- The octets of a letter are below those of a later letter, whatever follows either. -/
theorem utf8EncodeChar_append_lt {letter later : Char} (below : letter < later)
    (before after : Bytes) :
    String.utf8EncodeChar letter ++ before < String.utf8EncodeChar later ++ after := by
  have less : letter.val.toNat < later.val.toNat := below
  have bound : later.val.toNat < 1114112 := by
    rcases later.valid with low | ⟨_above, high⟩
    · exact Nat.lt_trans low (by decide)
    · exact high
  unfold String.utf8EncodeChar
  generalize letter.val.toNat = low at less ⊢
  generalize later.val.toNat = high at less bound ⊢
  dsimp only
  -- The first octets of longer forms are above those of shorter ones, and of two forms of one
  -- length the octets are the digits of the letters, the most significant one first.
  split
  · split
    · exact ofNat_cons_lt (by omega) (by omega) fun _first => by omega
    · split
      · exact ofNat_cons_lt (by omega) (by omega) fun _first => by omega
      · split <;> exact ofNat_cons_lt (by omega) (by omega) fun _first => by omega
  · rw [if_neg (by omega : ¬ high ≤ 127)]
    split
    · split
      · refine ofNat_cons_lt (by omega) (by omega) fun _first => ?_
        exact ofNat_cons_lt (by omega) (by omega) fun _second => by omega
      · split <;> exact ofNat_cons_lt (by omega) (by omega) fun _first => by omega
    · rw [if_neg (by omega : ¬ high ≤ 2047)]
      split
      · split
        · refine ofNat_cons_lt (by omega) (by omega) fun _first => ?_
          refine ofNat_cons_lt (by omega) (by omega) fun _second => ?_
          exact ofNat_cons_lt (by omega) (by omega) fun _third => by omega
        · exact ofNat_cons_lt (by omega) (by omega) fun _first => by omega
      · rw [if_neg (by omega : ¬ high ≤ 65535)]
        refine ofNat_cons_lt (by omega) (by omega) fun _first => ?_
        refine ofNat_cons_lt (by omega) (by omega) fun _second => ?_
        refine ofNat_cons_lt (by omega) (by omega) fun _third => ?_
        exact ofNat_cons_lt (by omega) (by omega) fun _fourth => by omega

theorem flatMap_utf8EncodeChar_lt {left right : List Char} (below : left < right) :
    left.flatMap String.utf8EncodeChar < right.flatMap String.utf8EncodeChar := by
  induction left generalizing right with
  | nil =>
    cases right with
    | nil => exact absurd below (List.lt_irrefl _)
    | cons letter rest =>
      have filled : String.utf8EncodeChar letter ≠ [] := String.utf8EncodeChar_ne_nil
      obtain ⟨octet, others, octets⟩ := List.exists_cons_of_ne_nil filled
      rw [List.flatMap_cons, octets]
      exact List.nil_lt_cons _ _
  | cons letter rest ih =>
    cases right with
    | nil => exact absurd below (List.not_lt_nil _)
    | cons other others =>
      rw [List.flatMap_cons, List.flatMap_cons]
      rcases List.cons_lt_cons_iff.mp below with earlier | ⟨rfl, later⟩
      · exact utf8EncodeChar_append_lt earlier _ _
      · exact List.append_left_lt (ih later)

/-- Texts are in the order of their octets. -/
theorem ofText_lt_iff {left right : String} : ofText left < ofText right ↔ left < right := by
  have ascends : ∀ {lower upper : String}, lower < upper → ofText lower < ofText upper := by
    intro lower upper below
    rw [ofText_eq_flatMap, ofText_eq_flatMap]
    exact flatMap_utf8EncodeChar_lt (String.lt_iff.mp below)
  constructor
  · intro below
    rcases Std.lt_trichotomy left right with less | same | more
    · exact less
    · rw [same] at below
      exact absurd below (List.lt_irrefl _)
    · exact absurd (ascends more) (List.lt_asymm below)
  · exact ascends

end Bytes

end Telemetry
