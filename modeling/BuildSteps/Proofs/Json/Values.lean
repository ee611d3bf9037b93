import BuildSteps.Proofs.Json.Written

/-!
# Values as JSON

Null, truth values, integers that are not too long, texts, lists, tuples and dictionaries with texts
as keys have a counterpart in JSON, in which a tuple is an array like a list. The record of such a
value is read back as its counterpart, and the counterpart tells the value up to tuples that are
lists.

The value is followed by the same mutual recursion on values, items and entries that writes the
record. For items and entries it gives the written pieces together with what each one stands for.
-/

namespace BuildSteps

namespace Value

mutual

/-- The counterpart of a value in JSON. -/
def json? : Value → Option Json
  | .null => some .null
  | .bool truth => some (.bool truth)
  | .int number => if isShort number then some (.number number 0) else none
  | .text content => some (.text content)
  | .list items => (jsonItems? items).map .array
  | .tuple items => (jsonItems? items).map .array
  | .dict entries => (jsonMembers? entries).map .object
  | .float _ | .bytes _ | .path _ | .set _ => none
termination_by structural value => value

def jsonItems? : List Value → Option (List Json)
  | [] => some []
  | item :: items =>
    match json? item with
    | none => none
    | some json => (jsonItems? items).map (json :: ·)
termination_by structural items => items

def jsonMembers? : List (Value × Value) → Option (List (String × Json))
  | [] => some []
  | (.text name, value) :: entries =>
    match json? value with
    | none => none
    | some json => (jsonMembers? entries).map ((name, json) :: ·)
  | (_, _) :: _ => none
termination_by structural entries => entries

end

mutual

/-- A value with lists for its tuples. -/
def listed : Value → Value
  | .list items => .list (listedItems items)
  | .tuple items => .list (listedItems items)
  | .dict entries => .dict (listedEntries entries)
  | value => value
termination_by structural value => value

def listedItems : List Value → List Value
  | [] => []
  | item :: items => listed item :: listedItems items
termination_by structural items => items

def listedEntries : List (Value × Value) → List (Value × Value)
  | [] => []
  | (key, value) :: entries => (key, listed value) :: listedEntries entries
termination_by structural entries => entries

end

theorem jsonItems?_cons_eq_some {item : Value} {items : List Value} {jsons : List Json}
    (counterparts : jsonItems? (item :: items) = some jsons) :
    ∃ json others, item.json? = some json ∧ jsonItems? items = some others ∧
      jsons = json :: others := by
  simp only [jsonItems?] at counterparts
  cases first : item.json? with
  | none => simp [first] at counterparts
  | some json =>
      simp only [first, Option.map_eq_some_iff] at counterparts
      rcases counterparts with ⟨others, each, rfl⟩
      exact ⟨json, others, rfl, each, rfl⟩

/-- The counterparts of entries are those of the first, whose key is a text, and of the others. -/
theorem jsonMembers?_cons_eq_some {key value : Value} {entries : List (Value × Value)}
    {members : List (String × Json)}
    (counterparts : jsonMembers? ((key, value) :: entries) = some members) :
    ∃ name json others, key = .text name ∧ value.json? = some json ∧
      jsonMembers? entries = some others ∧ members = (name, json) :: others := by
  cases key with
  | text name =>
      simp only [jsonMembers?] at counterparts
      cases first : value.json? with
      | none => simp [first] at counterparts
      | some json =>
          simp only [first, Option.map_eq_some_iff] at counterparts
          rcases counterparts with ⟨others, each, rfl⟩
          exact ⟨name, json, others, rfl, rfl, each, rfl⟩
  | _ => cases counterparts

mutual

/-- A value with a counterpart is written as that counterpart. -/
theorem exists_record_of_json? (value : Value) {json : Json}
    (counterpart : value.json? = some json) :
    ∃ written, value.record = .ok written ∧ json.IsWrittenAs written := by
  cases value with
  | null =>
      cases counterpart
      exact ⟨_, rfl, Json.isWrittenAs_null⟩
  | bool truth =>
      cases counterpart
      exact ⟨_, rfl, Json.isWrittenAs_recordBool truth⟩
  | int number =>
      simp only [json?, Option.ite_none_right_eq_some, Option.some.injEq] at counterpart
      rcases counterpart with ⟨short, rfl⟩
      exact ⟨_, recordInteger_of_isShort short, Json.isWrittenAs_toString number⟩
  | text content =>
      cases counterpart
      exact ⟨_, rfl, Json.isWrittenAs_recordText content⟩
  | list items | tuple items =>
      simp only [json?, Option.map_eq_some_iff] at counterpart
      rcases counterpart with ⟨jsons, each, rfl⟩
      rcases exists_recordItems_of_jsonItems? items each with ⟨pieces, texts, rfl, written⟩
      refine ⟨_, by rw [record, texts]; rfl, Json.isWrittenAs_arrayText written⟩
  | dict entries =>
      simp only [json?, Option.map_eq_some_iff] at counterpart
      rcases counterpart with ⟨members, each, rfl⟩
      rcases exists_recordEntries_of_jsonMembers? entries each with ⟨pieces, texts, rfl, written⟩
      refine ⟨_, by rw [record, texts]; rfl, Json.isWrittenAs_objectText written⟩
  | float _ | bytes _ | path _ | set _ => cases counterpart
termination_by structural value

/-- Items with counterparts are written as these, one by one. -/
theorem exists_recordItems_of_jsonItems? (items : List Value) {jsons : List Json}
    (counterparts : jsonItems? items = some jsons) :
    ∃ pieces : List (List Char × Json), recordItems items = .ok (pieces.map Prod.fst) ∧
      pieces.map Prod.snd = jsons ∧ ∀ piece ∈ pieces, piece.2.IsWrittenAs piece.1 := by
  cases items with
  | nil =>
      cases counterparts
      exact ⟨[], rfl, rfl, by simp⟩
  | cons item others =>
      rcases jsonItems?_cons_eq_some counterparts with ⟨json, jsons, first, each, rfl⟩
      rcases exists_record_of_json? item first with ⟨text, recorded, written⟩
      rcases exists_recordItems_of_jsonItems? others each with ⟨pieces, texts, rfl, rest⟩
      refine ⟨(text, json) :: pieces, by rw [recordItems, recorded, texts]; rfl, rfl, ?_⟩
      intro piece occurs
      rcases List.mem_cons.mp occurs with rfl | later
      · exact written
      · exact rest piece later
termination_by structural items

/-- Entries with counterparts are written as these, one by one. -/
theorem exists_recordEntries_of_jsonMembers? (entries : List (Value × Value))
    {members : List (String × Json)} (counterparts : jsonMembers? entries = some members) :
    ∃ pieces : List (List Char × (String × Json)),
      recordEntries entries = .ok (pieces.map Prod.fst) ∧ pieces.map Prod.snd = members ∧
      ∀ piece ∈ pieces, ∃ text, piece.1 = memberText piece.2.1.toList text ∧
        piece.2.2.IsWrittenAs text := by
  cases entries with
  | nil =>
      cases counterparts
      exact ⟨[], rfl, rfl, by simp⟩
  | cons entry others =>
      rcases entry with ⟨key, value⟩
      rcases jsonMembers?_cons_eq_some counterparts with
        ⟨name, json, members, rfl, first, each, rfl⟩
      rcases exists_record_of_json? value first with ⟨text, recorded, written⟩
      rcases exists_recordEntries_of_jsonMembers? others each with ⟨pieces, texts, rfl, rest⟩
      refine ⟨(memberText name.toList text, (name, json)) :: pieces,
        by rw [recordEntries, keyText, recorded, texts]; rfl, rfl, ?_⟩
      intro piece occurs
      rcases List.mem_cons.mp occurs with rfl | later
      · exact ⟨text, rfl, written⟩
      · exact rest piece later
termination_by structural entries

end

end Value

namespace Json

mutual

/-- The value that has a counterpart in JSON, with lists for arrays. -/
def value : Json → Value
  | .null => .null
  | .bool truth => .bool truth
  | .number significand _ => .int significand
  | .text content => .text content
  | .array items => .list (itemValues items)
  | .object members => .dict (memberValues members)
termination_by structural json => json

def itemValues : List Json → List Value
  | [] => []
  | item :: items => value item :: itemValues items
termination_by structural items => items

def memberValues : List (String × Json) → List (Value × Value)
  | [] => []
  | (name, json) :: members => (.text name, value json) :: memberValues members
termination_by structural members => members

end

end Json

namespace Value

mutual

/-- The counterpart of a value tells it, up to tuples that are lists. -/
theorem value_of_json? (value : Value) {json : Json} (counterpart : value.json? = some json) :
    json.value = value.listed := by
  cases value with
  | null | bool truth | text content =>
      cases counterpart
      rfl
  | int number =>
      simp only [json?, Option.ite_none_right_eq_some, Option.some.injEq] at counterpart
      rw [← counterpart.2]
      rfl
  | list items | tuple items =>
      simp only [json?, Option.map_eq_some_iff] at counterpart
      rcases counterpart with ⟨jsons, each, rfl⟩
      rw [Json.value, listed, itemValues_of_jsonItems? items each]
  | dict entries =>
      simp only [json?, Option.map_eq_some_iff] at counterpart
      rcases counterpart with ⟨members, each, rfl⟩
      rw [Json.value, listed, memberValues_of_jsonMembers? entries each]
  | float _ | bytes _ | path _ | set _ => cases counterpart
termination_by structural value

/-- The counterparts of items stand for the items with lists for their tuples. -/
theorem itemValues_of_jsonItems? (items : List Value) {jsons : List Json}
    (counterparts : jsonItems? items = some jsons) :
    Json.itemValues jsons = listedItems items := by
  cases items with
  | nil =>
      cases counterparts
      rfl
  | cons item others =>
      rcases jsonItems?_cons_eq_some counterparts with ⟨json, jsons, first, each, rfl⟩
      rw [Json.itemValues, listedItems, value_of_json? item first,
        itemValues_of_jsonItems? others each]
termination_by structural items

/-- The counterparts of entries stand for the entries with lists for their tuples. -/
theorem memberValues_of_jsonMembers? (entries : List (Value × Value))
    {members : List (String × Json)} (counterparts : jsonMembers? entries = some members) :
    Json.memberValues members = listedEntries entries := by
  cases entries with
  | nil =>
      cases counterparts
      rfl
  | cons entry others =>
      rcases entry with ⟨key, value⟩
      rcases jsonMembers?_cons_eq_some counterparts with
        ⟨name, json, members, rfl, first, each, rfl⟩
      rw [Json.memberValues, listedEntries, value_of_json? value first,
        memberValues_of_jsonMembers? others each]
termination_by structural entries

end

/-! ### Names with values -/

/-- Values that have counterparts, each behind a name, are the members of an object. -/
theorem exists_jsonMembers? {named : List (String × Value)}
    (plain : ∀ pair ∈ named, pair.2.json?.isSome = true) :
    ∃ members, jsonMembers? (named.map fun pair => (.text pair.1, pair.2)) = some members ∧
      (members.map fun member => (member.1, some member.2)) =
        named.map fun pair => (pair.1, pair.2.json?) := by
  induction named with
  | nil => exact ⟨[], rfl, rfl⟩
  | cons pair rest ih =>
      rcases Option.isSome_iff_exists.mp (plain pair (List.mem_cons_self ..)) with ⟨json, first⟩
      rcases ih (fun later occurs => plain later (List.mem_cons_of_mem _ occurs)) with
        ⟨members, each, same⟩
      refine ⟨(pair.1, json) :: members, ?_, ?_⟩
      · simp only [List.map_cons, jsonMembers?, first, each, Option.map_some]
      · simp only [List.map_cons, same, first]

/-- Members that are the counterparts of named values stand for those values. -/
theorem values_of_members {members : List (String × Json)} {named : List (String × Value)}
    (same : (members.map fun member => (member.1, some member.2)) =
      named.map fun pair => (pair.1, pair.2.json?)) :
    (members.map fun member => (member.1, member.2.value)) =
      named.map fun pair => (pair.1, pair.2.listed) := by
  induction members generalizing named with
  | nil =>
      cases named with
      | nil => rfl
      | cons pair rest => cases same
  | cons member others ih =>
      cases named with
      | nil => cases same
      | cons pair rest =>
          simp only [List.map_cons, List.cons.injEq, Prod.mk.injEq] at same ⊢
          rcases same with ⟨⟨name, counterpart⟩, later⟩
          exact ⟨⟨name, value_of_json? pair.2 counterpart.symm⟩, ih later⟩

end Value

end BuildSteps
