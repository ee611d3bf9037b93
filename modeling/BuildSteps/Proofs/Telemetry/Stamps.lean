import BuildSteps.Proofs.Telemetry.Framing
import BuildSteps.Proofs.Timestamp.TextOrder

/-!
# Records in the order of their timestamps

The record of a call begins with the instant of the call, unless one of its fields is named like the
timestamp and takes its place. The characters of a timestamp stand for themselves in a record, so
its text can be read off the line, between the quotation marks behind the name.

Timestamps are in the order of time (`Timestamp.text_lt_text_of_lt`). So the lines that calls have
appended, in whichever order they are arranged, are sorted by these texts if and only if the calls
are sorted by time.
-/

namespace BuildSteps

/-! ### Characters that stand for themselves -/

/-- A text is literal if each of its characters stands for itself in a record. -/
def IsLiteral (text : List Char) : Prop :=
  ∀ char ∈ text, Value.recordChar char = [char]

instance (text : List Char) : Decidable (IsLiteral text) :=
  List.decidableBAll (fun char : Char => Value.recordChar char = [char]) text

theorem recordChar_of_isDigit {digit : Char} (isDigit : digit.isDigit = true) :
    Value.recordChar digit = [digit] := by
  have bounds := Json.toNat_of_isDigit isDigit
  have others : ∀ other : Char, other.toNat < 0x30 ∨ 0x39 < other.toNat → digit ≠ other := by
    rintro other outside rfl
    omega
  unfold Value.recordChar
  iterate 7 rw [if_neg (others _ (by decide))]
  rw [if_pos (by omega)]

theorem IsLiteral.append {first second : List Char} (left : IsLiteral first)
    (right : IsLiteral second) : IsLiteral (first ++ second) :=
  List.forall_mem_append.mpr ⟨left, right⟩

theorem IsLiteral.cons {mark : Char} {rest : List Char} (head : Value.recordChar mark = [mark])
    (tail : IsLiteral rest) : IsLiteral (mark :: rest) :=
  List.forall_mem_cons.mpr ⟨head, tail⟩

theorem IsLiteral.not_mem_quote {text : List Char} (literal : IsLiteral text) : '"' ∉ text := by
  intro occurs
  exact absurd (literal '"' occurs) (by decide)

theorem IsLiteral.recordText {text : List Char} (literal : IsLiteral text) :
    Value.recordText text = '"' :: text ++ ['"'] := by
  rw [Value.recordText, List.flatMap_congr literal, List.flatMap_singleton']

namespace Timestamp

theorem isLiteral_padded (width number : Nat) : IsLiteral (padded width number) := by
  refine IsLiteral.append ?_ fun digit occurs =>
    recordChar_of_isDigit (Json.all_isDigit_toDigits number digit occurs)
  intro zero occurs
  rw [List.eq_of_mem_replicate occurs]
  rfl

theorem isLiteral_dateText (date : Date) : IsLiteral (dateText date) :=
  ((isLiteral_padded 4 date.year).append (.cons rfl (isLiteral_padded 2 date.month))).append
    (.cons rfl (isLiteral_padded 2 date.day))

theorem isLiteral_clockText (microseconds : Nat) : IsLiteral (clockText microseconds) := by
  have fraction : IsLiteral (if microseconds % 1000000 = 0 then [] else
      '.' :: padded 6 (microseconds % 1000000)) := by
    split
    · exact List.forall_mem_nil _
    · exact .cons rfl (isLiteral_padded 6 _)
  exact (((isLiteral_padded 2 _).append (.cons rfl (isLiteral_padded 2 _))).append
    (.cons rfl (isLiteral_padded 2 _))).append fraction

theorem isLiteral_text (instant : Int) : IsLiteral (text instant).toList := by
  rw [toList_text]
  have offset : IsLiteral ['+', '0', '0', ':', '0', '0'] := by decide
  exact (isLiteral_dateText _).append (.cons rfl ((isLiteral_clockText _).append offset))

end Timestamp

/-! ### The timestamp of a line -/

/-- What a line begins with, up to the text of its timestamp. -/
def stampOpening : List Char :=
  '\x7b' :: "\"timestamp\": \"".toList

/-- The text of the timestamp of a line, up to the closing quotation mark. -/
def stampOf (line : String) : String :=
  String.ofList ((line.toList.drop stampOpening.length).takeWhile fun char => decide (char ≠ '"'))

/-- The first entry keeps its place while other keys are written. -/
theorem exists_foldl_putBy_cons {Key Item : Type} [DecidableEq Key] {first : Key × Item}
    {pairs : List (Key × Item)} (others : ∀ pair ∈ pairs, pair.1 ≠ first.1)
    (rest : List (Key × Item)) :
    ∃ later, pairs.foldl (fun entries pair =>
        putBy (fun left right => decide (left = right)) pair.1 pair.2 entries) (first :: rest) =
      first :: later := by
  induction pairs generalizing rest with
  | nil => exact ⟨rest, rfl⟩
  | cons pair pairs ih =>
      have other : decide (first.1 = pair.1) = false :=
        decide_eq_false (others pair (List.mem_cons_self ..)).symm
      rw [List.foldl_cons, putBy, other, if_neg Bool.false_ne_true]
      exact ih (fun later occurs => others later (List.mem_cons_of_mem _ occurs)) _

theorem exists_intercalate_cons (mark piece : List Char) (pieces : List (List Char)) :
    ∃ rest, List.intercalate mark (piece :: pieces) = piece ++ rest := by
  cases pieces with
  | nil => exact ⟨[], by rw [List.intercalate_singleton, List.append_nil]⟩
  | cons next more => exact ⟨_, by rw [List.intercalate_cons_cons, List.append_assoc]⟩

namespace Call

variable {call : Call} {line : String}

theorem exists_members (unstamped : ∀ field ∈ call.fields, field.1 ≠ "timestamp") :
    ∃ others, TelemetryClient.members call.now call.event call.fields =
      ("timestamp", .text (Timestamp.text call.now)) :: others :=
  exists_foldl_putBy_cons (List.forall_mem_cons.mpr ⟨by simp, unstamped⟩) []

/-- The line of a call begins with its instant, if no field takes the place of the timestamp. -/
theorem exists_toList_line (written : call.line = .ok line)
    (unstamped : ∀ field ∈ call.fields, field.1 ≠ "timestamp") :
    ∃ rest, line.toList =
      stampOpening ++ ((Timestamp.text call.now).toList ++ '"' :: rest) := by
  rcases exists_members unstamped with ⟨others, isRecord⟩
  simp only [Call.line, TelemetryClient.recordLine, isRecord, List.map_cons] at written
  split at written
  · rename_i object recorded
    cases written
    rw [Value.record] at recorded
    rcases Value.map_eq_ok recorded with ⟨pieces, entries, rfl⟩
    rcases Value.recordEntries_cons_eq_ok entries with ⟨name, value, later, named, first, -, rfl⟩
    cases named
    rw [Value.record] at first
    cases first
    rcases exists_intercalate_cons [',', ' '] (Value.memberText "timestamp".toList
      (Value.recordText (Timestamp.text call.now).toList)) later with ⟨rest, joined⟩
    have opening : stampOpening =
        '\x7b' :: Value.recordText "timestamp".toList ++ [':', ' ', '"'] := by decide
    refine ⟨rest ++ ['\x7d', '\n'], ?_⟩
    rw [String.toList_ofList, Value.objectText, joined, Value.memberText,
      (Timestamp.isLiteral_text call.now).recordText, opening]
    simp only [List.append_assoc, List.cons_append, List.nil_append]
  · cases written

/-- The instant of a call can be read off its line. -/
theorem stampOf_line (written : call.line = .ok line)
    (unstamped : ∀ field ∈ call.fields, field.1 ≠ "timestamp") :
    stampOf line = Timestamp.text call.now := by
  rcases exists_toList_line written unstamped with ⟨rest, content⟩
  have inside : ∀ char ∈ (Timestamp.text call.now).toList, decide (char ≠ '"') = true := by
    rintro char occurs
    rw [decide_eq_true_eq]
    rintro rfl
    exact (Timestamp.isLiteral_text call.now).not_mem_quote occurs
  rw [stampOf, content, List.drop_left, List.takeWhile_append_of_pos inside,
    List.takeWhile_cons_of_neg (by simp), List.append_nil, String.ofList_toList]

end Call

/-- The record of a call within the years 1 to 9999 that leaves the timestamp to the client. -/
structure DatedRecord where
  call : Call
  line : String
  written : call.line = .ok line
  dated : Timestamp.IsDated call.now
  unstamped : ∀ field ∈ call.fields, field.1 ≠ "timestamp"

theorem DatedRecord.stampOf_le_iff (left right : DatedRecord) :
    stampOf left.line ≤ stampOf right.line ↔ left.call.now ≤ right.call.now := by
  rw [Call.stampOf_line left.written left.unstamped,
    Call.stampOf_line right.written right.unstamped]
  exact Timestamp.text_le_text_iff left.dated right.dated

namespace TelemetryClient

/-- A call that returns appends a line with its instant. -/
theorem exists_stamped_line {client : TelemetryClient} {directory : PathName}
    (located : client.directoryPath? = some directory) {call : Call} {before after : FileTree}
    (returned : client.answer call before = (.ok (), after))
    (unstamped : ∀ field ∈ call.fields, field.1 ≠ "timestamp") :
    ∃ line, call.line = .ok line ∧ client.Appends directory line before after ∧
      stampOf line = Timestamp.text call.now := by
  rcases appends_of_answer located returned with ⟨line, written, appends⟩
  exact ⟨line, written, appends, Call.stampOf_line written unstamped⟩

/-- Within the years 1 to 9999, timestamps are in the order of time, and distinct for distinct
instants. A call that returns appends a line with the timestamp of its instant, unless a field takes
its place. So lines are sorted by their timestamps if and only if their calls are sorted by time. -/
theorem stamps_in_time_order :
    (∀ earlier later : Int, Timestamp.IsDated earlier → Timestamp.IsDated later →
        (Timestamp.text earlier < Timestamp.text later ↔ earlier < later) ∧
          (Timestamp.text earlier = Timestamp.text later ↔ earlier = later)) ∧
      (∀ (client : TelemetryClient) (directory : PathName) (call : Call) (before after : FileTree),
        client.directoryPath? = some directory →
        client.answer call before = (.ok (), after) →
        (∀ field ∈ call.fields, field.1 ≠ "timestamp") →
          ∃ line, call.line = .ok line ∧ client.Appends directory line before after ∧
            stampOf line = Timestamp.text call.now) ∧
      ∀ records : List DatedRecord,
        records.Pairwise (fun first second => stampOf first.line ≤ stampOf second.line) ↔
          records.Pairwise fun first second => first.call.now ≤ second.call.now := by
  refine ⟨?_, ?_, ?_⟩
  · intro earlier later first last
    exact ⟨Timestamp.text_lt_text_iff first last, Timestamp.text_eq_text_iff first last⟩
  · intro client directory call before after located returned unstamped
    exact exists_stamped_line located returned unstamped
  · intro records
    exact List.Pairwise.iff fun first second => DatedRecord.stampOf_le_iff first second

/-- An instant behind a whole second has a fraction, the whole second has none and comes first. -/
theorem stamps_in_time_order_fraction :
    let whole : DatedRecord :=
      { call := ⟨1700000000000000, .text "step", [("exit_code", .int 0)]⟩
        line := "\x7b\"timestamp\": \"2023-11-14T22:13:20+00:00\", \"event\": \"step\", " ++
          "\"exit_code\": 0\x7d\n"
        written := by rfl
        dated := Timestamp.isDated_iff.mpr (by decide)
        unstamped := by decide }
    let behind : DatedRecord :=
      { call := ⟨1700000000000001, .text "step", []⟩
        line := "\x7b\"timestamp\": \"2023-11-14T22:13:20.000001+00:00\", \"event\": \"step\"\x7d\n"
        written := by rfl
        dated := Timestamp.isDated_iff.mpr (by decide)
        unstamped := by decide }
    Timestamp.IsDated whole.call.now ∧ Timestamp.IsDated behind.call.now ∧
      Timestamp.text whole.call.now < Timestamp.text behind.call.now ∧
      (∃ line after,
        TelemetryClient.answer { directory := some "logs" } behind.call FileTree.empty =
            (.ok (), after) ∧
          after.entryAt? ⟨.workingDirectory, ["logs", logName]⟩ = some (.file line) ∧
          stampOf line = "2023-11-14T22:13:20.000001+00:00") ∧
      [whole, behind].Pairwise (fun first second => stampOf first.line ≤ stampOf second.line) ∧
      ¬[behind, whole].Pairwise fun first second => stampOf first.line ≤ stampOf second.line := by
  intro whole behind
  have order := (stamps_in_time_order.1 _ _ whole.dated behind.dated).1
  have located : directoryPath? { directory := some "logs" } =
      some ⟨.workingDirectory, ["logs"]⟩ := by decide
  refine ⟨whole.dated, behind.dated, order.mpr (by decide), ?_, ?_, ?_⟩
  · have isOk : (TelemetryClient.answer { directory := some "logs" } behind.call
        FileTree.empty).1.isOk = true := by decide +kernel
    rcases exists_after_of_isOk isOk with ⟨after, returned⟩
    rcases stamps_in_time_order.2.1 _ _ _ _ _ located returned behind.unstamped with
      ⟨line, -, appends, stamp⟩
    have alone := appends.entryAt?_of_none (by decide +kernel)
    exact ⟨line, after, returned, alone, stamp.trans (by decide +kernel)⟩
  · rw [stamps_in_time_order.2.2]
    decide
  · rw [stamps_in_time_order.2.2]
    decide

end TelemetryClient

end BuildSteps
