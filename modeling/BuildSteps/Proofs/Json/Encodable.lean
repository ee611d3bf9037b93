import BuildSteps.Proofs.Json.Printed

/-!
# Values with a written form

A value is encodable if it is null, a truth value, a number or a text, or a list, tuple or
dictionary of encodable values whose keys are of the first four kinds; an integer must not have too
many digits. These are exactly the values that a record can be written of; a single value of another
kind, however deep it lies, is enough to refuse the whole.
-/

namespace BuildSteps.Value

/-- A value can be the key of a written dictionary if it is null, a truth value, an integer of not
too many digits, a double or a text. -/
inductive IsKey : Value → Prop
  | null : IsKey .null
  | bool (truth : Bool) : IsKey (.bool truth)
  | int (number : Int) : isShort number = true → IsKey (.int number)
  | float (number : Float) : IsKey (.float number)
  | text (content : String) : IsKey (.text content)

/-- A value is encodable if it is a key, or a list, tuple or dictionary of encodable values, under
keys in the last case. -/
inductive IsEncodable : Value → Prop
  | key {value : Value} : value.IsKey → IsEncodable value
  | list {items : List Value} : (∀ item ∈ items, IsEncodable item) → IsEncodable (.list items)
  | tuple {items : List Value} : (∀ item ∈ items, IsEncodable item) → IsEncodable (.tuple items)
  | dict {entries : List (Value × Value)} : (∀ entry ∈ entries, IsKey entry.1) →
      (∀ entry ∈ entries, IsEncodable entry.2) → IsEncodable (.dict entries)

/-- A key can be written iff it is one of the kinds that names are made of. -/
theorem exists_keyText_iff (key : Value) : (∃ name, key.keyText = .ok name) ↔ key.IsKey := by
  constructor
  · rintro ⟨name, written⟩
    cases key with
    | null => exact IsKey.null
    | bool truth => exact IsKey.bool truth
    | int number => exact IsKey.int number (recordInteger_eq_ok written).1
    | float number => exact IsKey.float number
    | text content => exact IsKey.text content
    | _ => cases written
  · intro isKey
    cases isKey with
    | int number short => exact ⟨_, recordInteger_of_isShort short⟩
    | _ => exact ⟨_, rfl⟩

theorem exists_recordItems_cons_iff (item : Value) (items : List Value) :
    (∃ pieces, recordItems (item :: items) = .ok pieces) ↔
      (∃ written, item.record = .ok written) ∧ ∃ pieces, recordItems items = .ok pieces := by
  constructor
  · rintro ⟨pieces, recorded⟩
    rcases recordItems_cons_eq_ok recorded with ⟨written, later, first, rest, -⟩
    exact ⟨⟨written, first⟩, ⟨later, rest⟩⟩
  · rintro ⟨⟨written, first⟩, ⟨later, rest⟩⟩
    exact ⟨written :: later, by rw [recordItems, first, rest]; rfl⟩

theorem exists_recordEntries_cons_iff (key value : Value) (entries : List (Value × Value)) :
    (∃ pieces, recordEntries ((key, value) :: entries) = .ok pieces) ↔
      (∃ name, key.keyText = .ok name) ∧ (∃ written, value.record = .ok written) ∧
        ∃ pieces, recordEntries entries = .ok pieces := by
  constructor
  · rintro ⟨pieces, recorded⟩
    rcases recordEntries_cons_eq_ok recorded with ⟨name, written, later, named, first, rest, -⟩
    exact ⟨⟨name, named⟩, ⟨written, first⟩, ⟨later, rest⟩⟩
  · rintro ⟨⟨name, named⟩, ⟨written, first⟩, ⟨later, rest⟩⟩
    exact ⟨memberText name written :: later, by rw [recordEntries, named, first, rest]; rfl⟩

/-- A container has a written form if its parts have. -/
theorem exists_map_iff {Reason Part Whole : Type} (result : Except Reason Part)
    (whole : Part → Whole) :
    (∃ written, result.map whole = .ok written) ↔ ∃ part, result = .ok part := by
  cases result with
  | ok part => exact ⟨fun _ => ⟨part, rfl⟩, fun _ => ⟨whole part, rfl⟩⟩
  | error reason => simp [Except.map]

mutual

/-- The encodable values are those that have a written form. -/
theorem exists_record_iff (value : Value) :
    (∃ written, value.record = .ok written) ↔ value.IsEncodable := by
  cases value with
  | null => exact ⟨fun _ => IsEncodable.key IsKey.null, fun _ => ⟨_, rfl⟩⟩
  | bool truth => exact ⟨fun _ => IsEncodable.key (IsKey.bool truth), fun _ => ⟨_, rfl⟩⟩
  | int number =>
      constructor
      · rintro ⟨written, recorded⟩
        exact IsEncodable.key (IsKey.int number (recordInteger_eq_ok recorded).1)
      · intro encodable
        cases encodable with
        | key isKey =>
            cases isKey with
            | int _ short => exact ⟨_, recordInteger_of_isShort short⟩
  | float number => exact ⟨fun _ => IsEncodable.key (IsKey.float number), fun _ => ⟨_, rfl⟩⟩
  | text content => exact ⟨fun _ => IsEncodable.key (IsKey.text content), fun _ => ⟨_, rfl⟩⟩
  | list items =>
      rw [record, exists_map_iff, exists_recordItems_iff items]
      refine ⟨IsEncodable.list, ?_⟩
      intro encodable
      cases encodable with
      | key isKey => cases isKey
      | list each => exact each
  | tuple items =>
      rw [record, exists_map_iff, exists_recordItems_iff items]
      refine ⟨IsEncodable.tuple, ?_⟩
      intro encodable
      cases encodable with
      | key isKey => cases isKey
      | tuple each => exact each
  | dict entries =>
      rw [record, exists_map_iff, exists_recordEntries_iff entries]
      refine ⟨fun both => IsEncodable.dict both.1 both.2, ?_⟩
      intro encodable
      cases encodable with
      | key isKey => cases isKey
      | dict keys each => exact ⟨keys, each⟩
  | bytes _ | path _ | set _ =>
      constructor
      · rintro ⟨written, recorded⟩
        cases recorded
      · intro encodable
        cases encodable with
        | key isKey => cases isKey
termination_by structural value

/-- Items can be written iff each of them is encodable. -/
theorem exists_recordItems_iff (items : List Value) :
    (∃ pieces, recordItems items = .ok pieces) ↔ ∀ item ∈ items, item.IsEncodable := by
  cases items with
  | nil => exact ⟨fun _ => by simp, fun _ => ⟨[], rfl⟩⟩
  | cons item others =>
      rw [exists_recordItems_cons_iff, exists_record_iff item, exists_recordItems_iff others,
        List.forall_mem_cons]
termination_by structural items

/-- Entries can be written iff their keys are keys and their values are encodable. -/
theorem exists_recordEntries_iff (entries : List (Value × Value)) :
    (∃ pieces, recordEntries entries = .ok pieces) ↔
      (∀ entry ∈ entries, entry.1.IsKey) ∧ ∀ entry ∈ entries, entry.2.IsEncodable := by
  cases entries with
  | nil => exact ⟨fun _ => by simp, fun _ => ⟨[], rfl⟩⟩
  | cons entry others =>
      rcases entry with ⟨key, value⟩
      rw [exists_recordEntries_cons_iff, exists_keyText_iff key, exists_record_iff value,
        exists_recordEntries_iff others, List.forall_mem_cons, List.forall_mem_cons]
      constructor
      · rintro ⟨isKey, first, keys, each⟩
        exact ⟨⟨isKey, keys⟩, ⟨first, each⟩⟩
      · rintro ⟨⟨isKey, keys⟩, ⟨first, each⟩⟩
        exact ⟨isKey, first, keys, each⟩
termination_by structural entries

end

end BuildSteps.Value
