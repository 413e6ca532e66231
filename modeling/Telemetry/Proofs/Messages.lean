import Telemetry.Rpc.Frame
import Telemetry.Wire.Message
/-!
Messages of the remote interface are read as they were written, as long as no length in them
leaves 64 bits: first single fields behind whatever follows, then sequences of fields, then the
envelopes that are made of them, and last the frame around a whole message.
-/

namespace Telemetry

namespace Wire

/-- What can be written as the content of a field, and is no group. -/
def Content.Legal : Content → Prop
  | .varint value => value < UInt64.size
  | .fixed64 value => value.length = 8
  | .octets value => value.length < UInt64.size
  | .openGroup => False
  | .closeGroup => False
  | .fixed32 value => value.length = 4

structure Field.Legal (field : Field) : Prop where
  positive : 0 < field.number
  small : field.number < 0x20000000
  content : field.content.Legal

theorem Content.split?_append (front rest : Bytes) :
    split? front.length (front ++ rest) = some (front, rest) := by
  simp [split?]

theorem Content.wireType_lt (content : Content) : content.wireType < 8 := by
  cases content <;> simp [wireType]

theorem Content.read?_write (content : Content) (legal : content.Legal) (rest : Bytes) :
    read? content.wireType (content.write ++ rest) = some (content, rest) := by
  cases content with
  | varint value =>
    simp only [wireType, write, read?, readVarint_writeVarint value rest legal, Option.map_some]
  | fixed64 octets =>
    have split := split?_append octets rest
    rw [show octets.length = 8 from legal] at split
    simp only [wireType, write, read?, split, Option.map_some]
  | octets octets =>
    simp [wireType, write, read?, readVarint_writeVarint octets.length _ legal, split?_append]
  | openGroup => exact legal.elim
  | closeGroup => exact legal.elim
  | fixed32 octets =>
    have split := split?_append octets rest
    rw [show octets.length = 4 from legal] at split
    simp only [wireType, write, read?, split, Option.map_some]

theorem Field.read?_write (field : Field) (legal : field.Legal) (rest : Bytes) :
    read? (field.write ++ rest) = some (field, rest) := by
  have type := field.content.wireType_lt
  have positive := legal.positive
  have small := legal.small
  have key : field.number * 8 + field.content.wireType < UInt32.size := by
    rw [show UInt32.size = 0x20000000 * 8 from rfl]
    omega
  have wide : field.number * 8 + field.content.wireType < UInt64.size :=
    Nat.lt_trans key (by decide)
  have number : (field.number * 8 + field.content.wireType) / 8 = field.number := by omega
  have kind : (field.number * 8 + field.content.wireType) % 8 = field.content.wireType := by
    omega
  rw [write, List.append_assoc, read?, readVarint_writeVarint _ _ wide]
  change (if _ then none else _) = _
  rw [if_neg (by omega), kind, Content.read?_write _ legal.content, number]
  rfl

theorem writeVarint_ne_nil (value : Nat) : writeVarint value ≠ [] := by
  rw [writeVarint]
  split <;> exact List.cons_ne_nil _ _

/-- As many steps as there are octets are enough. -/
theorem scanFields_writeFields (fields : List Field) (legal : ∀ field ∈ fields, field.Legal)
    (steps : Nat) (enough : (writeFields fields).length ≤ steps) :
    scanFields steps (writeFields fields) = some fields := by
  induction fields generalizing steps with
  | nil => cases steps <;> rfl
  | cons field rest ih =>
    have written : writeFields (field :: rest) = field.write ++ writeFields rest := rfl
    have read := field.read?_write (legal field List.mem_cons_self) (writeFields rest)
    rw [written, List.length_append] at enough
    rw [written]
    cases octets : field.write with
    | nil =>
      have empty := octets
      rw [Field.write, List.append_eq_nil_iff] at empty
      exact absurd empty.1 (writeVarint_ne_nil _)
    | cons octet others =>
      rw [octets, List.cons_append] at read
      rw [octets, List.length_cons] at enough
      obtain ⟨fewer, rfl⟩ := Nat.exists_eq_add_of_le' (show 1 ≤ steps by omega)
      rw [List.cons_append, scanFields, read]
      change (scanFields fewer (writeFields rest)).map _ = _
      rw [ih (fun later member => legal later (List.mem_cons_of_mem _ member)) fewer (by omega)]
      rfl

theorem outsideGroups_eq (depth : Nat) (fields : List Field)
    (legal : ∀ field ∈ fields, field.Legal) : outsideGroups depth [] fields = some fields := by
  induction fields with
  | nil => rfl
  | cons field rest ih =>
    have head := (legal field List.mem_cons_self).content
    have tail := ih fun later member => legal later (List.mem_cons_of_mem _ member)
    obtain ⟨number, content⟩ := field
    cases content with
    | openGroup => exact head.elim
    | closeGroup => exact head.elim
    | _ => simp [outsideGroups, tail]

theorem fields?_writeFields (nested : Nat) (fields : List Field)
    (legal : ∀ field ∈ fields, field.Legal) :
    fields? nested (writeFields fields) = some fields := by
  rw [fields?, scanFields_writeFields fields legal _ (Nat.le_refl _), Option.bind_some,
    outsideGroups_eq _ fields legal]

theorem int64OfNat_int64ToNat (value : Int64) : int64OfNat (int64ToNat value) = value := by
  simp [int64OfNat, int64ToNat]

theorem binary64OfOctets_binary64Octets (number : Binary64) :
    binary64OfOctets (binary64Octets number) = number := by
  unfold binary64OfOctets binary64Octets
  rw [Bytes.toNatLE_ofNatLE 8 _ number.bits.toNat_lt, UInt64.ofNat_toNat]

theorem length_le_of_mem_fields {fields : List Field} {number : Nat} {octets : Bytes}
    (member : ⟨number, .octets octets⟩ ∈ fields) :
    octets.length ≤ (writeFields fields).length := by
  obtain ⟨front, back, rfl⟩ := List.append_of_mem member
  simp only [writeFields, List.flatMap_append, List.flatMap_cons, Field.write, Content.write,
    List.length_append]
  omega

theorem mem_textField {number : Nat} {text : String} {field : Field}
    (member : field ∈ textField number text) :
    field = ⟨number, .octets (Bytes.ofText text)⟩ := by
  unfold textField at member
  split at member
  · cases member
  · exact List.mem_singleton.mp member

end Wire

open Wire

namespace Envelope

theorem mem_fields {envelope : Envelope} {field : Field} (member : field ∈ envelope.fields) :
    field = ⟨1, .octets (Bytes.ofText envelope.name)⟩ ∨
    field = ⟨2, .octets (Bytes.ofText envelope.kind)⟩ ∨
    (∃ value, field = ⟨3, .fixed64 (binary64Octets value)⟩) ∨
    ∃ delta, field = ⟨4, .varint (int64ToNat delta)⟩ := by
  simp only [fields, List.mem_append, Option.mem_toList, Option.map_eq_some_iff] at member
  rcases member with ((name | kind) | ⟨value, _present, rfl⟩) | ⟨delta, _present, rfl⟩
  · exact .inl (mem_textField name)
  · exact .inr (.inl (mem_textField kind))
  · exact .inr (.inr (.inl ⟨value, rfl⟩))
  · exact .inr (.inr (.inr ⟨delta, rfl⟩))

theorem legal_fields {envelope : Envelope} (short : envelope.toWire.length < UInt64.size) :
    ∀ field ∈ envelope.fields, field.Legal := by
  intro field member
  have inside := member
  rcases mem_fields member with rfl | rfl | ⟨value, rfl⟩ | ⟨delta, rfl⟩
  · exact ⟨by simp, by simp, Nat.lt_of_le_of_lt (length_le_of_mem_fields inside) short⟩
  · exact ⟨by simp, by simp, Nat.lt_of_le_of_lt (length_le_of_mem_fields inside) short⟩
  · exact ⟨by simp, by simp, Bytes.length_ofNatLE 8 _⟩
  · exact ⟨by simp, by simp, delta.toUInt64.toNat_lt⟩

/-- What is written of an envelope over another one: the others of its fields stay. -/
def writtenOver (envelope before : Envelope) : Envelope where
  name := if envelope.name = "" then before.name else envelope.name
  kind := if envelope.kind = "" then before.kind else envelope.kind
  value := envelope.value.or before.value
  delta := envelope.delta.or before.delta

theorem writtenOver_blank (envelope : Envelope) : envelope.writtenOver blank = envelope := by
  have same : ∀ text : String, (if text = "" then "" else text) = text := by
    intro text
    by_cases empty : text = ""
    · rw [if_pos empty, empty]
    · rw [if_neg empty]
  simp only [writtenOver, blank, same, Option.or_none]

theorem foldlM_takeField (envelope before : Envelope) :
    envelope.fields.foldlM takeField before = some (envelope.writtenOver before) := by
  obtain ⟨name, kind, value, delta⟩ := envelope
  have named : (textField 1 name).foldlM takeField before =
      some { before with name := if name = "" then before.name else name } := by
    by_cases empty : name = "" <;>
      simp [textField, empty, takeField, text?, Bytes.text?_ofText]
  have kinded : ∀ envelope : Envelope, (textField 2 kind).foldlM takeField envelope =
      some { envelope with kind := if kind = "" then envelope.kind else kind } := by
    intro envelope
    by_cases empty : kind = "" <;>
      simp [textField, empty, takeField, text?, Bytes.text?_ofText]
  simp only [fields, List.foldlM_append, named, kinded, Option.bind_eq_bind, Option.bind_some]
  cases value <;> cases delta <;>
    simp [takeField, writtenOver, binary64OfOctets_binary64Octets, int64OfNat_int64ToNat]

theorem mergeWire?_toWire (nested : Nat) (before envelope : Envelope)
    (short : envelope.toWire.length < UInt64.size) :
    mergeWire? nested before envelope.toWire = some (envelope.writtenOver before) := by
  rw [mergeWire?, toWire, fields?_writeFields nested _ (legal_fields short), Option.bind_some,
    foldlM_takeField]

theorem short_of_mem {envelopes : List Envelope}
    (short : (manyToWire envelopes).length < UInt64.size) :
    ∀ envelope ∈ envelopes, envelope.toWire.length < UInt64.size := by
  intro envelope member
  have inside : (⟨1, .octets envelope.toWire⟩ : Field) ∈
      envelopes.map fun envelope => ⟨1, .octets envelope.toWire⟩ :=
    List.mem_map_of_mem member
  exact Nat.lt_of_le_of_lt (length_le_of_mem_fields inside) short

/-- A batch may be of any length, since only the lengths of its envelopes are written. -/
theorem manyOfWire?_manyToWire (envelopes : List Envelope)
    (short : ∀ envelope ∈ envelopes, envelope.toWire.length < UInt64.size) :
    manyOfWire? (manyToWire envelopes) = some envelopes := by
  have legal : ∀ field ∈ envelopes.map fun envelope => (⟨1, .octets envelope.toWire⟩ : Field),
      field.Legal := by
    intro field member
    obtain ⟨envelope, inside, rfl⟩ := List.mem_map.mp member
    exact ⟨by simp, by simp, short envelope inside⟩
  rw [manyOfWire?, manyToWire, fields?_writeFields 0 _ legal, Option.bind_some]
  clear legal
  induction envelopes with
  | nil => rfl
  | cons envelope rest ih =>
    have head := mergeWire?_toWire 1 blank envelope (short envelope List.mem_cons_self)
    have tail := ih fun later member => short later (List.mem_cons_of_mem _ member)
    rw [writtenOver_blank] at head
    rw [List.map_cons, List.filter_cons_of_pos (by simp), List.mapM_cons, tail]
    simp only [head]
    rfl

theorem optionalOfWire?_optionalToWire (envelope : Envelope)
    (short : (optionalToWire (some envelope)).length < UInt64.size) :
    optionalOfWire? (optionalToWire (some envelope)) = some (some envelope) := by
  have written : optionalToWire (some envelope) = writeFields [⟨1, .octets envelope.toWire⟩] := rfl
  have inside : envelope.toWire.length < UInt64.size :=
    Nat.lt_of_le_of_lt (length_le_of_mem_fields List.mem_cons_self) (written ▸ short)
  have legal : ∀ field ∈ [(⟨1, .octets envelope.toWire⟩ : Field)], field.Legal := by
    intro field member
    rw [List.mem_singleton.mp member]
    exact ⟨by simp, by simp, inside⟩
  rw [optionalOfWire?, written, fields?_writeFields 0 _ legal, Option.bind_some, List.foldlM_cons]
  simp only [Option.getD_none, mergeWire?_toWire 1 blank envelope inside, writtenOver_blank]
  rfl

end Envelope

namespace Query

theorem legal_fields {query : Query} (short : query.toWire.length < UInt64.size) :
    ∀ field ∈ textField 1 query.name ++ textField 2 query.kind, field.Legal := by
  intro field member
  have inside := member
  rcases List.mem_append.mp member with name | kind
  · obtain rfl := mem_textField name
    exact ⟨by simp, by simp, Nat.lt_of_le_of_lt (length_le_of_mem_fields inside) short⟩
  · obtain rfl := mem_textField kind
    exact ⟨by simp, by simp, Nat.lt_of_le_of_lt (length_le_of_mem_fields inside) short⟩

theorem ofWire?_toWire (query : Query) (short : query.toWire.length < UInt64.size) :
    ofWire? query.toWire = some query := by
  obtain ⟨name, kind⟩ := query
  have named : (textField 1 name).foldlM takeField ⟨"", ""⟩ = some ⟨name, ""⟩ := by
    by_cases empty : name = "" <;>
      simp [textField, empty, takeField, text?, Bytes.text?_ofText]
  have kinded : (textField 2 kind).foldlM takeField ⟨name, ""⟩ = some ⟨name, kind⟩ := by
    by_cases empty : kind = "" <;>
      simp [textField, empty, takeField, text?, Bytes.text?_ofText]
  rw [ofWire?, toWire, fields?_writeFields 0 _ (legal_fields short), Option.bind_some,
    List.foldlM_append, named]
  exact kinded

end Query

namespace Rpc.Frame

theorem next?_write (message : Bytes) (fits : message.length ≤ longest) :
    next? (write message) = .ok (some (message, [])) := by
  have width : (Bytes.ofNatBE 4 message.length).length = 4 := Bytes.length_ofNatBE 4 _
  have bound : message.length < Nat.pow 256 4 := Nat.lt_of_le_of_lt fits (by decide)
  have header : (Bytes.ofNatBE 4 message.length ++ message).take 4 =
      Bytes.ofNatBE 4 message.length := List.take_left' width
  have rest : (Bytes.ofNatBE 4 message.length ++ message).drop 4 = message :=
    List.drop_left' width
  simp only [next?, write, header, rest, width, Bytes.toNatBE_ofNatBE 4 _ bound]
  rw [if_neg (by decide), if_neg (by simp), if_neg (Nat.not_lt.mpr fits), List.take_length,
    if_pos rfl, List.drop_length]

theorem call_write {method : Method} {message : Bytes} {call : Call}
    (fits : message.length ≤ longest) (read : method.call? message = some call) :
    Frame.call method (write message) = .ok call := by
  simp only [Frame.call, next?_write message fits, bind, Except.bind, read]
  rfl

/-- The length in a frame has four octets. -/
theorem call_long {method : Method} {message : Bytes} (long : longest < message.length)
    (fits : message.length < UInt32.size) : Frame.call method (write message) = .error tooLong := by
  have width : (Bytes.ofNatBE 4 message.length).length = 4 := Bytes.length_ofNatBE 4 _
  have bound : message.length < Nat.pow 256 4 := Nat.lt_of_lt_of_le fits (by decide)
  have header : (Bytes.ofNatBE 4 message.length ++ message).take 4 =
      Bytes.ofNatBE 4 message.length := List.take_left' width
  have next : next? (write message) = .error tooLong := by
    simp only [next?, write, header, width, Bytes.toNatBE_ofNatBE 4 _ bound]
    rw [if_neg (by decide), if_neg (by simp), if_pos long]
  simp only [Frame.call, next, bind, Except.bind]

end Rpc.Frame

end Telemetry
