import Telemetry.Bytes
/-!
Finite maps from names, as lists of entries in strictly ascending order of their names. The order
of texts by code points is the order of their UTF-8 forms by octets.

Two maps with the same look-ups are equal (`NameMap.ext_find?`), so that a statement about the
content of a map is a statement about the map.
-/

namespace Telemetry

structure NameMap (α : Type) where
  entries : List (String × α)
  ordered : entries.Pairwise fun left right => left.1 < right.1

namespace NameMap

variable {α : Type}

def empty : NameMap α := ⟨[], List.Pairwise.nil⟩

instance : Inhabited (NameMap α) := ⟨empty⟩

/-- The list with the entry of a name replaced, or put in its place in the order. -/
def insertInto (name : String) (value : α) : List (String × α) → List (String × α)
  | [] => [(name, value)]
  | entry :: rest =>
    if name < entry.1 then (name, value) :: entry :: rest
    else if name = entry.1 then (name, value) :: rest
    else entry :: insertInto name value rest

theorem mem_insertInto {name : String} {value : α} {list : List (String × α)}
    {entry : String × α} (member : entry ∈ insertInto name value list) :
    entry = (name, value) ∨ entry ∈ list := by
  induction list with
  | nil => exact .inl (List.mem_singleton.mp member)
  | cons head tail induction =>
    unfold insertInto at member
    split at member
    · rcases List.mem_cons.mp member with same | other
      · exact .inl same
      · exact .inr other
    · split at member
      · rcases List.mem_cons.mp member with same | other
        · exact .inl same
        · exact .inr (List.mem_cons_of_mem _ other)
      · rcases List.mem_cons.mp member with same | other
        · exact .inr (same ▸ List.mem_cons_self)
        · rcases induction other with same | inside
          · exact .inl same
          · exact .inr (List.mem_cons_of_mem _ inside)

theorem insertInto_ordered (name : String) (value : α) {list : List (String × α)}
    (ordered : list.Pairwise fun left right => left.1 < right.1) :
    (insertInto name value list).Pairwise fun left right => left.1 < right.1 := by
  induction list with
  | nil => exact List.pairwise_singleton _ _
  | cons head tail induction =>
    obtain ⟨above, tailOrdered⟩ := List.pairwise_cons.mp ordered
    unfold insertInto
    split
    · rename_i below
      refine List.pairwise_cons.mpr ⟨fun entry member => ?_, ordered⟩
      rcases List.mem_cons.mp member with same | inside
      · exact same ▸ below
      · exact String.lt_trans below (above entry inside)
    · split
      · rename_i same
        exact List.pairwise_cons.mpr ⟨fun entry member => same ▸ above entry member, tailOrdered⟩
      · rename_i notBelow notSame
        refine List.pairwise_cons.mpr ⟨fun entry member => ?_, induction tailOrdered⟩
        rcases mem_insertInto member with same | inside
        · subst same
          rcases Std.lt_trichotomy name head.1 with below | equal | above
          · exact absurd below notBelow
          · exact absurd equal notSame
          · exact above
        · exact above entry inside

def insert (map : NameMap α) (name : String) (value : α) : NameMap α :=
  ⟨insertInto name value map.entries, insertInto_ordered name value map.ordered⟩

def find? (map : NameMap α) (name : String) : Option α :=
  (map.entries.find? fun entry => entry.1 == name).map Prod.snd

def size (map : NameMap α) : Nat := map.entries.length

def names (map : NameMap α) : List String := map.entries.map Prod.fst

/-- The map of a list of entries, of which the last one of a name counts. -/
def ofList (entries : List (String × α)) : NameMap α :=
  entries.foldl (fun map entry => map.insert entry.1 entry.2) empty

def map (change : String → α → β) (source : NameMap α) : NameMap β :=
  ⟨source.entries.map fun entry => (entry.1, change entry.1 entry.2), by
    simpa [List.pairwise_map] using source.ordered⟩

theorem map_eq_self {source : NameMap α} {change : String → α → α}
    (same : ∀ entry ∈ source.entries, change entry.1 entry.2 = entry.2) :
    source.map change = source := by
  obtain ⟨entries, ordered⟩ := source
  have kept : entries.map (fun entry => (entry.1, change entry.1 entry.2)) = entries.map id :=
    List.map_congr_left fun entry member => Prod.ext rfl (same entry member)
  simp only [map, kept, List.map_id]

theorem map_map {β γ : Type} (first : String → α → β) (second : String → β → γ)
    (source : NameMap α) :
    (source.map first).map second =
      source.map fun name value => second name (first name value) := by
  simp [map, Function.comp_def]

theorem find?_insertInto (name other : String) (value : α) (list : List (String × α))
    (ordered : list.Pairwise fun left right => left.1 < right.1) :
    ((insertInto name value list).find? fun entry => entry.1 == other).map Prod.snd =
      if other = name then some value
      else (list.find? fun entry => entry.1 == other).map Prod.snd := by
  induction list with
  | nil =>
    by_cases same : other = name
    · simp [insertInto, same]
    · simp [insertInto, same, Ne.symm same]
  | cons head tail induction =>
    obtain ⟨above, tailOrdered⟩ := List.pairwise_cons.mp ordered
    unfold insertInto
    split
    · by_cases same : other = name
      · simp [same]
      · simp [same, Ne.symm same]
    · split
      · rename_i equal
        by_cases same : other = name
        · simp [same]
        · have headOther : ¬ head.1 = other := fun h => same (h ▸ equal.symm ▸ rfl)
          simp [same, Ne.symm same, headOther]
      · rename_i notBelow notSame
        by_cases headOther : head.1 = other
        · have differ : ¬ other = name := fun h => notSame (h ▸ headOther ▸ rfl)
          simp [headOther, differ]
        · simp only [List.find?_cons, beq_eq_false_iff_ne.mpr headOther]
          exact induction tailOrdered

theorem find?_insert (map : NameMap α) (name other : String) (value : α) :
    (map.insert name value).find? other = if other = name then some value else map.find? other :=
  find?_insertInto name other value map.entries map.ordered

theorem find?_map {β : Type} (change : String → α → β) (source : NameMap α) (name : String) :
    (source.map change).find? name = (source.find? name).map (change name) := by
  obtain ⟨entries, ordered⟩ := source
  simp only [find?, map, List.find?_map, Function.comp_def, Option.map_map]
  refine Option.map_congr fun entry found => ?_
  have matching := List.find?_some found
  obtain rfl : entry.1 = name := beq_iff_eq.mp matching
  rfl

theorem find?_foldl_insert (map : NameMap α) (entries : List (String × α)) (name : String) :
    (entries.foldl (fun map entry => map.insert entry.1 entry.2) map).find? name =
      ((entries.reverse.find? fun entry => entry.1 == name).map Prod.snd).or (map.find? name) := by
  induction entries generalizing map with
  | nil => rfl
  | cons entry rest ih =>
    rw [List.foldl_cons, ih, find?_insert, List.reverse_cons, List.find?_append,
      List.find?_singleton, Option.map_or, Option.or_assoc]
    congr 1
    by_cases same : name = entry.1
    · simp only [same, beq_self_eq_true, if_true, Option.map_some, Option.some_or]
    · simp only [same, Ne.symm same, beq_iff_eq, if_false, Option.map_none, Option.none_or]

/-- Of the entries of one name in a list the map has the last one. -/
theorem find?_ofList (entries : List (String × α)) (name : String) :
    (ofList entries).find? name =
      (entries.reverse.find? fun entry => entry.1 == name).map Prod.snd := by
  rw [ofList, find?_foldl_insert]
  exact Option.or_none

theorem find?_eq_none_of_below {list : List (String × α)} {name : String}
    (below : ∀ entry ∈ list, name < entry.1) :
    (list.find? fun entry => entry.1 == name) = none := by
  rw [List.find?_eq_none]
  intro entry member equal
  have less := below entry member
  rw [beq_iff_eq.mp equal] at less
  exact String.lt_irrefl _ less

/-- A name below all names of an ordered list cannot be looked up there. -/
theorem not_lt_of_find?_eq {head other : String × α} {tail others : List (String × α)}
    (above : ∀ entry ∈ others, other.1 < entry.1)
    (same : ((head :: tail).find? fun entry => entry.1 == head.1).map Prod.snd =
      ((other :: others).find? fun entry => entry.1 == head.1).map Prod.snd) :
    ¬ head.1 < other.1 := by
  intro below
  have missing : ((other :: others).find? fun entry => entry.1 == head.1) = none := by
    apply find?_eq_none_of_below
    intro entry member
    rcases List.mem_cons.mp member with rfl | inside
    · exact below
    · exact String.lt_trans below (above entry inside)
  rw [missing] at same
  simp at same

/-- An ordered list is determined by its look-ups. -/
theorem entries_eq_of_find? {left right : List (String × α)}
    (leftOrdered : left.Pairwise fun first second => first.1 < second.1)
    (rightOrdered : right.Pairwise fun first second => first.1 < second.1)
    (same : ∀ name, (left.find? fun entry => entry.1 == name).map Prod.snd =
      (right.find? fun entry => entry.1 == name).map Prod.snd) : left = right := by
  induction left generalizing right with
  | nil =>
    cases right with
    | nil => rfl
    | cons head tail => simpa using same head.1
  | cons head tail induction =>
    obtain ⟨above, tailOrdered⟩ := List.pairwise_cons.mp leftOrdered
    cases right with
    | nil => simpa using same head.1
    | cons other others =>
      obtain ⟨otherAbove, otherOrdered⟩ := List.pairwise_cons.mp rightOrdered
      have names : head.1 = other.1 := by
        rcases Std.lt_trichotomy head.1 other.1 with below | equal | beyond
        · exact absurd below (not_lt_of_find?_eq otherAbove (same head.1))
        · exact equal
        · exact absurd beyond (not_lt_of_find?_eq above (same other.1).symm)
      have values : head.2 = other.2 := by
        have atHead := same head.1
        simpa [names] using atHead
      obtain rfl : head = other := Prod.ext names values
      congr 1
      apply induction tailOrdered otherOrdered
      intro name
      by_cases equal : head.1 = name
      · subst equal
        rw [find?_eq_none_of_below above, find?_eq_none_of_below otherAbove]
      · simpa [beq_eq_false_iff_ne.mpr equal, List.find?_cons] using same name

theorem ext_find? {left right : NameMap α} (same : ∀ name, left.find? name = right.find? name) :
    left = right := by
  obtain ⟨leftEntries, leftOrdered⟩ := left
  obtain ⟨rightEntries, rightOrdered⟩ := right
  have := entries_eq_of_find? leftOrdered rightOrdered same
  subst this
  rfl

theorem find?_of_mem {list : List (String × α)}
    (ordered : list.Pairwise fun left right => left.1 < right.1) {entry : String × α}
    (member : entry ∈ list) : (list.find? fun other => other.1 == entry.1) = some entry := by
  induction list with
  | nil => cases member
  | cons head tail induction =>
    obtain ⟨above, tailOrdered⟩ := List.pairwise_cons.mp ordered
    rcases List.mem_cons.mp member with rfl | inside
    · rw [List.find?_cons, beq_self_eq_true]
    · have differs : head.1 ≠ entry.1 := by
        intro same
        have less := above entry inside
        rw [same] at less
        exact String.lt_irrefl _ less
      rw [List.find?_cons, beq_eq_false_iff_ne.mpr differs]
      exact induction tailOrdered inside

/-- The look-ups of a map find its entries. -/
theorem find?_eq_some_iff (map : NameMap α) {name : String} {value : α} :
    map.find? name = some value ↔ (name, value) ∈ map.entries := by
  constructor
  · intro found
    obtain ⟨entry, looked, rfl⟩ := Option.map_eq_some_iff.mp found
    have same := List.find?_some looked
    rw [← beq_iff_eq.mp same]
    exact List.mem_of_find?_eq_some looked
  · intro member
    exact congrArg (Option.map Prod.snd) (find?_of_mem map.ordered member)

theorem insertInto_last {name : String} {value : α} {list : List (String × α)}
    (above : ∀ entry ∈ list, entry.1 < name) :
    insertInto name value list = list ++ [(name, value)] := by
  induction list with
  | nil => rfl
  | cons head tail ih =>
    have below := above head List.mem_cons_self
    have notBelow : ¬ name < head.1 := fun reverse =>
      String.lt_irrefl _ (String.lt_trans below reverse)
    have notSame : name ≠ head.1 := by
      rintro rfl
      exact String.lt_irrefl _ below
    rw [insertInto, if_neg notBelow, if_neg notSame,
      ih fun entry member => above entry (List.mem_cons_of_mem _ member), List.cons_append]

/-- Entries that come in their order are put one behind another. -/
theorem entries_foldl_insert (map : NameMap α) {entries : List (String × α)}
    (ordered : (map.entries ++ entries).Pairwise fun left right => left.1 < right.1) :
    (entries.foldl (fun map entry => map.insert entry.1 entry.2) map).entries =
      map.entries ++ entries := by
  induction entries generalizing map with
  | nil => exact (List.append_nil _).symm
  | cons entry rest ih =>
    have above : ∀ earlier ∈ map.entries, earlier.1 < entry.1 := by
      intro earlier member
      exact (List.pairwise_append.mp ordered).2.2 earlier member entry List.mem_cons_self
    have inserted : (map.insert entry.1 entry.2).entries = map.entries ++ [entry] :=
      insertInto_last above
    have split : map.entries ++ entry :: rest = (map.insert entry.1 entry.2).entries ++ rest := by
      rw [inserted, List.append_assoc, List.singleton_append]
    rw [split] at ordered ⊢
    exact ih _ ordered

theorem ofList_entries (map : NameMap α) : ofList map.entries = map := by
  obtain ⟨entries, ordered⟩ := map
  have same : (ofList entries).entries = entries := entries_foldl_insert empty ordered
  generalize ofList entries = rebuilt at same
  obtain ⟨others, _⟩ := rebuilt
  cases same
  rfl

/-- Nothing comes into a map but what it is made from. -/
theorem mem_of_mem_ofList {entries : List (String × α)} {entry : String × α}
    (member : entry ∈ (ofList entries).entries) : entry ∈ entries := by
  have source : ∀ map : NameMap α,
      entry ∈ (entries.foldl (fun map entry => map.insert entry.1 entry.2) map).entries →
        entry ∈ map.entries ∨ entry ∈ entries := by
    clear member
    induction entries with
    | nil => exact fun _map => Or.inl
    | cons head rest ih =>
      intro map inside
      rcases ih _ inside with inserted | later
      · rcases mem_insertInto inserted with rfl | earlier
        · exact .inr List.mem_cons_self
        · exact .inl earlier
      · exact .inr (List.mem_cons_of_mem _ later)
  exact (source empty member).resolve_left List.not_mem_nil

end NameMap

end Telemetry
