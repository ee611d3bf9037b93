import BuildSteps.Proofs.Json.Lexemes

/-!
# The reader on written values

A value is written as a text if the reader, wherever a value is due, gets from the start of the text
to the place behind it with just that value. It takes a delimiter behind the text, at which a number
or a word ends.

The items of an array and the members of an object are read in the same way: each piece is followed
by a comma or by the closing mark. `Enclosure` says what this takes, and `Enclosure.run_pieces` is
the induction on the pieces for both.
-/

namespace BuildSteps.Json

/-! ### Values -/

/-- A number or a word ends at such a text. -/
def IsDelimited (rest : List Char) : Prop :=
  ∃ mark later, rest = mark :: later ∧ isDelimiter mark = true

/-- A value is written as a text if the text is read as it wherever a value is due. -/
def IsWrittenAs (json : Json) (text : List Char) : Prop :=
  ∀ stage frames rest, Stage.frames? stage = some frames → IsDelimited rest →
    Reader.run ⟨.between, stage⟩ (text ++ rest) = Reader.run ⟨.between, .behind json frames⟩ rest

theorem take_of_frames? {stage : Stage} {frames : List Frame} (due : stage.frames? = some frames)
    (json : Json) : stage.take json = some (.behind json frames) := by
  simp only [Stage.take, due, Option.map_some]

/-- Where a value may come, a string is taken as one. -/
theorem takeText_of_frames? {stage : Stage} {frames : List Frame}
    (due : stage.frames? = some frames) (content : String) :
    stage.takeText content = some (.behind (.text content) frames) := by
  have noName : stage.names? = none := by
    cases stage with
    | value frames => rfl
    | firstItem frames => rfl
    | _ => cases due
  rw [Stage.takeText, noName]
  exact take_of_frames? due _

/-- A scalar is written as letters that are read as it and hold no delimiter. -/
theorem isWrittenAs_of_scalar? {letters : List Char} {json : Json}
    (read : scalar? letters = some json)
    (bare : ∀ letter ∈ letters, isDelimiter letter = false) : json.IsWrittenAs letters := by
  rintro stage frames rest due ⟨mark, later, rfl, ends⟩
  cases letters with
  | nil => cases read
  | cons first others =>
      have opens := bare first (List.mem_cons_self ..)
      have started : Reader.step ⟨.between, stage⟩ first = some ⟨.bare [first], stage⟩ := by
        simp only [isDelimiter, Bool.or_eq_false_iff, beq_eq_false_iff_ne, ne_eq] at opens
        simp only [Reader.step, Reader.start, opens, Bool.false_eq_true, if_false]
      rw [List.cons_append, Reader.run_cons_of_step started,
        Reader.run_bare stage _ (fun letter occurs => bare letter (List.mem_cons_of_mem _ occurs)),
        Reader.run_cons, Reader.run_cons]
      simp only [Reader.step, ends, if_true, List.singleton_append, read, take_of_frames? due,
        Option.bind_some]

theorem isWrittenAs_toString (number : Int) :
    (Json.number number 0).IsWrittenAs (toString number).toList :=
  isWrittenAs_of_scalar? (scalar?_of_number? (number?_toString number)) isDelimiter_of_mem_toString

theorem isWrittenAs_of_word {word : List Char} {json : Json} (read : scalar? word = some json)
    (bare : (word.all fun letter => !isDelimiter letter) = true) : json.IsWrittenAs word := by
  apply isWrittenAs_of_scalar? read
  simpa using bare

theorem isWrittenAs_null : Json.null.IsWrittenAs "null".toList :=
  isWrittenAs_of_word rfl (by decide)

theorem isWrittenAs_recordBool (truth : Bool) :
    (Json.bool truth).IsWrittenAs (Value.recordBool truth) := by
  cases truth with
  | true => exact isWrittenAs_of_word rfl (by decide)
  | false => exact isWrittenAs_of_word rfl (by decide)

theorem isWrittenAs_recordText (content : String) :
    (Json.text content).IsWrittenAs (Value.recordText content.toList) := by
  intro stage frames rest due _
  apply Reader.run_recordText
  rw [String.ofList_toList]
  exact takeText_of_frames? due content

/-! ### Arrays and objects -/

/-- How pieces are read that are separated by commas and closed by a mark: the stages at which a
piece is due behind others, the stage behind a piece, and the one behind the whole. -/
structure Enclosure (Item : Type) where
  IsDue : Stage → List Item → Prop
  behind : List Item → Item → Stage
  whole : List Item → Stage
  closing : Char
  marks : isMark closing = true
  takes_comma : ∀ before item,
    ∃ next, (behind before item).takeComma = some next ∧ IsDue next (before ++ [item])
  closes : ∀ before item,
    (behind before item).takeMark closing = some (whole (before ++ [item]))

namespace Enclosure

variable {Item : Type}

/-- Whether a text is read as an item wherever one is due. -/
def IsPiece (enclosure : Enclosure Item) (text : List Char) (item : Item) : Prop :=
  ∀ stage before rest, enclosure.IsDue stage before → IsDelimited rest →
    Reader.run ⟨.between, stage⟩ (text ++ rest) =
      Reader.run ⟨.between, enclosure.behind before item⟩ rest

/-- Pieces up to the closing mark are read as their items. -/
theorem run_pieces (enclosure : Enclosure Item) {pieces : List (List Char × Item)}
    (arePieces : ∀ piece ∈ pieces, enclosure.IsPiece piece.1 piece.2) (nonempty : pieces ≠ [])
    {stage : Stage} {before : List Item} (due : enclosure.IsDue stage before) (rest : List Char) :
    Reader.run ⟨.between, stage⟩
        (List.intercalate [',', ' '] (pieces.map Prod.fst) ++ enclosure.closing :: rest) =
      Reader.run ⟨.between, enclosure.whole (before ++ pieces.map Prod.snd)⟩ rest := by
  induction pieces generalizing stage before with
  | nil => exact absurd rfl nonempty
  | cons piece others ih =>
      have first := arePieces piece (List.mem_cons_self ..)
      -- The last piece ends at the closing mark, every other one at its comma.
      cases others with
      | nil =>
          have closed := enclosure.closes before piece.2
          simp only [List.map_cons, List.map_nil, List.intercalate_singleton]
          rw [first stage before _ due ⟨_, _, rfl, isDelimiter_of_isMark enclosure.marks⟩,
            Reader.run_mark enclosure.marks closed]
      | cons next later =>
          have tail := fun further occurs => arePieces further (List.mem_cons_of_mem _ occurs)
          rcases enclosure.takes_comma before piece.2 with ⟨following, taken, dueNext⟩
          have comma : (enclosure.behind before piece.2).takeMark ',' = some following := taken
          have space : Reader.step ⟨.between, following⟩ ' ' = some ⟨.between, following⟩ := rfl
          have others := ih tail (List.cons_ne_nil _ _) dueNext
          simp only [List.map_cons, List.intercalate_cons_cons, List.append_assoc,
            List.cons_append, List.nil_append] at others ⊢
          rw [first stage before _ due ⟨',', _, rfl, rfl⟩, Reader.run_mark rfl comma,
            Reader.run_cons_of_step space, others]

end Enclosure

/-- The items of an array inside given arrays and objects. -/
def arrayItems (frames : List Frame) : Enclosure Json where
  IsDue stage before := stage.frames? = some (.item before :: frames)
  behind before json := .behind json (.item before :: frames)
  whole items := .behind (.array items) frames
  closing := ']'
  marks := rfl
  takes_comma before json := ⟨.value (.item (before ++ [json]) :: frames), rfl, rfl⟩
  closes _ _ := rfl

/-- The members of an object inside given arrays and objects. -/
def objectMembers (frames : List Frame) : Enclosure (String × Json) where
  IsDue stage before := stage.names? = some (before, frames)
  behind before member := .behind member.2 (.member before member.1 :: frames)
  whole members := .behind (.object members) frames
  closing := '\x7d'
  marks := rfl
  takes_comma before member := ⟨.nextName (before ++ [member]) frames, rfl, rfl⟩
  closes _ _ := rfl

/-- A name and a written value are read as a member of an object. -/
theorem isPiece_memberText (frames : List Frame) {name : String} {json : Json} {text : List Char}
    (written : json.IsWrittenAs text) :
    (objectMembers frames).IsPiece (Value.memberText name.toList text) (name, json) := by
  intro stage before rest due delimited
  have taken : stage.takeText (String.ofList name.toList) =
      some (.behindName before name frames) := by
    rw [Stage.takeText, due, String.ofList_toList]
  have colon : Stage.takeMark (.behindName before name frames) ':' =
      some (.value (.member before name :: frames)) := rfl
  have space : Reader.step ⟨.between, .value (.member before name :: frames)⟩ ' ' =
      some ⟨.between, .value (.member before name :: frames)⟩ := rfl
  rw [Value.memberText, List.append_assoc, Reader.run_recordText taken, List.cons_append,
    List.cons_append, Reader.run_mark rfl colon, Reader.run_cons_of_step space]
  exact written _ _ rest rfl delimited

/-- Written items in brackets are read as their array. -/
theorem isWrittenAs_arrayText {pieces : List (List Char × Json)}
    (written : ∀ piece ∈ pieces, piece.2.IsWrittenAs piece.1) :
    (Json.array (pieces.map Prod.snd)).IsWrittenAs
      (Value.arrayText (pieces.map Prod.fst)) := by
  intro stage frames rest due _
  have opened : stage.takeMark '[' = some (.firstItem frames) := by
    simp only [Stage.takeMark, due, Option.map_some]
  rw [Value.arrayText, List.cons_append, List.cons_append, List.append_assoc,
    Reader.run_mark rfl opened]
  cases pieces with
  | nil => exact Reader.run_mark rfl rfl rest
  | cons piece others =>
      have arePieces : ∀ further ∈ piece :: others,
          (arrayItems frames).IsPiece further.1 further.2 := by
        intro further occurs inner before after innerDue delimited
        exact written further occurs inner _ after innerDue delimited
      have firstDue : (arrayItems frames).IsDue (.firstItem frames) [] := rfl
      exact (arrayItems frames).run_pieces arePieces (List.cons_ne_nil _ _) firstDue rest

/-- Written members in braces are read as their object. -/
theorem isWrittenAs_objectText {pieces : List (List Char × (String × Json))}
    (written : ∀ piece ∈ pieces, ∃ text, piece.1 = Value.memberText piece.2.1.toList text ∧
      piece.2.2.IsWrittenAs text) :
    (Json.object (pieces.map Prod.snd)).IsWrittenAs
      (Value.objectText (pieces.map Prod.fst)) := by
  intro stage frames rest due _
  have opened : stage.takeMark '\x7b' = some (.firstName frames) := by
    simp only [Stage.takeMark, due, Option.map_some]
  rw [Value.objectText, List.cons_append, List.cons_append, List.append_assoc,
    Reader.run_mark rfl opened]
  cases pieces with
  | nil => exact Reader.run_mark rfl rfl rest
  | cons piece others =>
      have arePieces : ∀ further ∈ piece :: others,
          (objectMembers frames).IsPiece further.1 further.2 := by
        intro further occurs
        rcases written further occurs with ⟨text, member, value⟩
        rw [member]
        exact isPiece_memberText frames value
      have firstDue : (objectMembers frames).IsDue (.firstName frames) [] := rfl
      exact (objectMembers frames).run_pieces arePieces (List.cons_ne_nil _ _) firstDue rest

/-- A text that is a value, with a line end behind it, is read as that value. -/
theorem read?_of_isWrittenAs {json : Json} {text : List Char} (written : json.IsWrittenAs text) :
    read? (text ++ ['\n']) = some json := by
  have spaces : Reader.run ⟨.between, .behind json []⟩ ['\n', '\n'] =
      some ⟨.between, .behind json []⟩ := rfl
  have delimited : IsDelimited (['\n'] ++ ['\n']) := ⟨'\n', ['\n'], rfl, rfl⟩
  rw [read?, List.append_assoc, written (.value []) [] _ rfl delimited]
  exact congrArg (fun last => last.bind Reader.outcome?) spaces

end BuildSteps.Json
