import Telemetry.Text.Blank
/-!
Header fields: names in lower case, each with any number of values in an order. Values are
octets; most rules apply only to a value that is visible text.
-/

namespace Telemetry

structure Headers where
  entries : List (String × Bytes)
deriving DecidableEq, Repr, Inhabited

namespace Headers

def empty : Headers := ⟨[]⟩

def values (headers : Headers) (name : String) : List Bytes :=
  (headers.entries.filter fun entry => entry.1 == name).map Prod.snd

def get? (headers : Headers) (name : String) : Option Bytes := (headers.values name).head?

def contains (headers : Headers) (name : String) : Bool :=
  headers.entries.any fun entry => entry.1 == name

/-- Replaces the values of a name by one, in the place of the first of them. -/
def insertInto (name : String) (value : Bytes) : List (String × Bytes) → List (String × Bytes)
  | [] => [(name, value)]
  | entry :: rest =>
    if entry.1 = name then (name, value) :: rest.filter (fun other => other.1 != name)
    else entry :: insertInto name value rest

def insert (headers : Headers) (name : String) (value : Bytes) : Headers :=
  ⟨insertInto name value headers.entries⟩

def append (headers : Headers) (name : String) (value : Bytes) : Headers :=
  ⟨headers.entries ++ [(name, value)]⟩

def remove (headers : Headers) (name : String) : Headers :=
  ⟨headers.entries.filter fun entry => entry.1 != name⟩

/-- Printable ASCII, the blank and the tab. -/
def isVisible (octet : UInt8) : Bool := octet == 9 || (32 ≤ octet && octet < 127)

def isName (text : String) : Bool :=
  !text.isEmpty &&
    text.toList.all fun letter => letter.isAlphanum || "!#$%&'*+-.^_\x60|~".toList.contains letter

/-- Whether octets can be the value of a field: no control characters but the tab. -/
def isValue (octets : Bytes) : Bool :=
  octets.all fun octet => octet == 9 || (32 ≤ octet && octet != 127)

def lower (name : String) : String := String.ofList (name.toList.map Char.toLower)

def ofPairs? (pairs : List (String × String)) : Option Headers :=
  (pairs.mapM fun (pair : String × String) =>
    let value := Bytes.ofText pair.2
    if isName pair.1 && isValue value then some (lower pair.1, value) else none).map Headers.mk

def visible? (value : Bytes) : Option String :=
  if value.all isVisible then
    some (String.ofList (value.map fun octet => Char.ofNat octet.toNat))
  else none

def text? (headers : Headers) (name : String) : Option String :=
  (headers.get? name).bind visible?

theorem ofText_of_visible? {value : Bytes} {text : String} (seen : visible? value = some text) :
    Bytes.ofText text = value := by
  unfold visible? at seen
  split at seen
  · rename_i visible
    cases seen
    apply Bytes.ofText_ascii
    intro octet member
    have bounds := List.all_eq_true.mp visible octet member
    simp only [isVisible, Bool.or_eq_true, beq_iff_eq, Bool.and_eq_true, decide_eq_true_eq,
      UInt8.le_iff_toNat_le, UInt8.lt_iff_toNat_lt] at bounds
    rcases bounds with tab | ⟨_above, below⟩
    · rw [tab]
      decide
    · exact Nat.lt_trans below (by decide)
  · cases seen

/-! ### Values after a change -/

theorem values_insertInto (name other : String) (value : Bytes) (entries : List (String × Bytes)) :
    ((insertInto name value entries).filter fun entry => entry.1 == other).map Prod.snd =
      if other = name then [value]
      else (entries.filter fun entry => entry.1 == other).map Prod.snd := by
  induction entries with
  | nil =>
    by_cases same : other = name
    · simp [insertInto, same]
    · simp [insertInto, same, Ne.symm same]
  | cons entry rest ih =>
    unfold insertInto
    by_cases found : entry.1 = name
    · rw [if_pos found]
      by_cases same : other = name
      · subst same
        have others : (rest.filter fun kept => kept.1 != other).filter
            (fun kept => kept.1 == other) = [] := by
          rw [List.filter_filter, List.filter_eq_nil_iff]
          intro kept _member
          simp
        simp only [List.filter_cons, beq_self_eq_true, if_true, List.map_cons, others,
          List.map_nil]
      · have differs : ¬ entry.1 = other := fun equal => same (equal ▸ found)
        have others : (rest.filter fun kept => kept.1 != name).filter
            (fun kept => kept.1 == other) = rest.filter fun kept => kept.1 == other := by
          rw [List.filter_filter]
          apply List.filter_congr
          intro kept _member
          by_cases kind : kept.1 = other
          · simp [kind, same]
          · simp [kind]
        simp only [List.filter_cons, beq_eq_false_iff_ne.mpr (Ne.symm same),
          beq_eq_false_iff_ne.mpr differs, Bool.false_eq_true, if_false, others, if_neg same]
    · rw [if_neg found]
      by_cases same : other = name
      · have differs : ¬ entry.1 = other := fun equal => found (equal.trans same)
        rw [List.filter_cons, beq_eq_false_iff_ne.mpr differs]
        simpa [same] using ih
      · by_cases kind : entry.1 = other
        · simpa [List.filter_cons, kind, same] using ih
        · simpa [List.filter_cons, kind, same] using ih

@[simp] theorem values_insert (headers : Headers) (name other : String) (value : Bytes) :
    (headers.insert name value).values other =
      if other = name then [value] else headers.values other :=
  values_insertInto name other value headers.entries

@[simp] theorem values_remove (headers : Headers) (name other : String) :
    (headers.remove name).values other = if other = name then [] else headers.values other := by
  unfold remove values
  rw [List.filter_filter]
  by_cases same : other = name
  · rw [if_pos same, List.map_eq_nil_iff, List.filter_eq_nil_iff]
    intro entry _member
    simp [same]
  · rw [if_neg same]
    congr 1
    apply List.filter_congr
    intro entry _member
    by_cases kind : entry.1 = other
    · simp [kind, same]
    · simp [kind]

theorem contains_eq (headers : Headers) (name : String) :
    headers.contains name = !(headers.values name).isEmpty := by
  unfold contains values
  induction headers.entries with
  | nil => rfl
  | cons entry rest ih =>
    by_cases kind : entry.1 = name
    · simp [kind]
    · simpa [List.filter_cons, beq_eq_false_iff_ne.mpr kind] using ih

theorem values_of_contains {headers : Headers} {name : String}
    (absent : headers.contains name = false) : headers.values name = [] := by
  rw [contains_eq, Bool.not_eq_false', List.isEmpty_iff] at absent
  exact absent

theorem text?_eq (headers : Headers) (name : String) :
    headers.text? name = (headers.values name).head?.bind visible? := rfl

theorem text?_congr {left right : Headers} {name : String}
    (same : left.values name = right.values name) : left.text? name = right.text? name := by
  rw [text?_eq, text?_eq, same]

theorem text?_eq_none {headers : Headers} {name : String} (absent : headers.values name = []) :
    headers.text? name = none := by
  rw [text?_eq, absent]
  rfl

end Headers

end Telemetry
