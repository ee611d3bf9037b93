import BuildSteps.Proofs.Files.Standing
import BuildSteps.Proofs.Json.Printed
import BuildSteps.Proofs.Telemetry.Appending
import BuildSteps.Proofs.Telemetry.Retention

/-!
# Lines of the log are those that were written

A reader of the log takes it apart at every character that may end a line, not at the newline only,
and so would take a record for several if one of these stood in it. But a line is a visible text and
a newline, whatever the record holds. So the lines of a log that has not been moved away are exactly
the records of the calls that have returned, one for each, in order.

A call on a directory that stands, with a log that is within the limit, adds its line to the log or
leaves the text of the log as it is (`answer_adds`), and the run of several calls follows by
induction.
-/

namespace BuildSteps

/-! ### Lines of a text -/

/-- Whether a character may end a line of a text. -/
def isLineEnd (char : Char) : Bool :=
  char.toNat ∈ [0x0A, 0x0B, 0x0C, 0x0D, 0x1C, 0x1D, 0x1E, 0x85, 0x2028, 0x2029]

/-- The lines of a text, of which the first has begun already. A carriage return and a newline end a
line together. Behind the last end there is no line unless there are characters. -/
def splitLinesFrom (begun : List Char) : List Char → List (List Char)
  | [] => if begun = [] then [] else [begun]
  | '\r' :: '\n' :: rest => begun :: splitLinesFrom [] rest
  | char :: rest =>
    if isLineEnd char then begun :: splitLinesFrom [] rest
    else splitLinesFrom (begun ++ [char]) rest

/-- The lines of a text. -/
def splitLines (text : List Char) : List (List Char) :=
  splitLinesFrom [] text

/-- Texts with a newline behind each. -/
def framed (lines : List (List Char)) : List Char :=
  lines.flatMap (· ++ ['\n'])

section Lines

variable {line : List Char} {char : Char}

theorem not_isLineEnd_of_visible (visible : 0x20 ≤ char.toNat ∧ char.toNat ≤ 0x7E) :
    isLineEnd char = false := by
  simp only [isLineEnd, List.mem_cons, List.not_mem_nil, or_false, decide_eq_false_iff_not]
  omega

/-- A visible character belongs to the line that has begun. -/
theorem splitLinesFrom_cons_of_visible (visible : 0x20 ≤ char.toNat ∧ char.toNat ≤ 0x7E)
    (begun rest : List Char) :
    splitLinesFrom begun (char :: rest) = splitLinesFrom (begun ++ [char]) rest := by
  have noEnd := not_isLineEnd_of_visible visible
  rw [splitLinesFrom]
  · rw [noEnd]
    rfl
  · rintro rest rfl
    cases noEnd

theorem splitLinesFrom_newline (begun rest : List Char) :
    splitLinesFrom begun ('\n' :: rest) = begun :: splitLinesFrom [] rest := by
  rw [splitLinesFrom]
  · rfl
  · rintro rest ⟨⟩

/-- Visible text up to a newline is one line, with what had begun in front. -/
theorem splitLinesFrom_visible (visible : Text.IsVisible line) (begun rest : List Char) :
    splitLinesFrom begun (line ++ '\n' :: rest) = (begun ++ line) :: splitLinesFrom [] rest := by
  induction line generalizing begun with
  | nil => rw [List.nil_append, splitLinesFrom_newline, List.append_nil]
  | cons char others ih =>
      have head := visible char (List.mem_cons_self ..)
      have tail := visible.subset (List.subset_cons_self char others)
      rw [List.cons_append, splitLinesFrom_cons_of_visible head, ih tail, List.append_assoc]
      rfl

/-- Visible texts with a newline behind each are the lines of the whole. -/
theorem splitLines_framed {lines : List (List Char)}
    (visible : ∀ line ∈ lines, Text.IsVisible line) : splitLines (framed lines) = lines := by
  induction lines with
  | nil => rfl
  | cons line rest ih =>
      have head := visible line (List.mem_cons_self ..)
      have tail := ih fun later occurs => visible later (List.mem_cons_of_mem _ occurs)
      rw [splitLines] at tail ⊢
      rw [framed, List.flatMap_cons, List.append_assoc, List.singleton_append,
        splitLinesFrom_visible head, List.nil_append, ← framed, tail]

example : splitLines "one\r\ntwo\x0bthree\r\u2028\nlast".toList =
    ["one".toList, "two".toList, "three".toList, [], [], "last".toList] := by decide

end Lines

namespace TelemetryClient

/-! ### The line of a call -/

/-- A line that could be written is a visible record and one newline. -/
theorem exists_record_of_line {call : Call} {line : String} (lined : call.line = .ok line) :
    ∃ record, Text.IsVisible record ∧ line = String.ofList (record ++ ['\n']) := by
  simp only [Call.line, recordLine] at lined
  split at lined
  · rename_i written recorded
    cases lined
    exact ⟨written, Value.isVisible_record _ recorded, rfl⟩
  · cases lined

/-- What a call that returns appends is a visible text and a newline. -/
theorem answer_appends_visible {client : TelemetryClient} {directory : PathName}
    (located : client.directoryPath? = some directory) {call : Call} {files after : FileTree}
    (returned : client.answer call files = (.ok (), after)) :
    ∃ record, Text.IsVisible record ∧ call.line = .ok (String.ofList (record ++ ['\n'])) ∧
      client.Appends directory (String.ofList (record ++ ['\n'])) files after := by
  rcases appends_of_answer located returned with ⟨line, lined, appends⟩
  rcases exists_record_of_line lined with ⟨record, visible, rfl⟩
  exact ⟨record, visible, lined, appends⟩

/-! ### The log in a directory that stands -/

/-- The directory stands as before, and the log in it is a file, if there is one, that holds a text
behind what it held before. -/
structure Extends (directory : PathName) (location : Location) (files : FileTree) (text : String)
    (after : FileTree) : Prop where
  leads : after.LeadsTo directory location
  regular : IsRegular (after.get? (location ++ [logName]))
  holds : textAt (after.get? (location ++ [logName])) =
    textAt (files.get? (location ++ [logName])) ++ text

/-- What a request for a line does to the log, by its result: it adds the line or nothing. -/
inductive Adds {Error : Type} (directory : PathName) (location : Location) (files : FileTree)
    (line : Except Unencodable String) : Except Error Unit → FileTree → Prop
  | succeeded {after : FileTree} (text : String) :
      line = .ok text → Extends directory location files text after →
        Adds directory location files line (.ok ()) after
  | failed {after : FileTree} (error : Error) :
      Extends directory location files "" after →
        Adds directory location files line (.error error) after

section Steps

variable {client : TelemetryClient} {directory : PathName} {location : Location}
  {files opened after : FileTree}

theorem Extends.refl (leads : files.LeadsTo directory location)
    (regular : IsRegular (files.get? (location ++ [logName]))) :
    Extends directory location files "" files :=
  ⟨leads, regular, String.append_empty.symm⟩

theorem Extends.trans {next : FileTree} {first second : String}
    (before : Extends directory location files first next)
    (behind : Extends directory location next second after) :
    Extends directory location files (first ++ second) after := by
  refine ⟨behind.leads, behind.regular, ?_⟩
  rw [behind.holds, before.holds, String.append_assoc]

theorem noLink_of_regular {there : Option Entry} (regular : IsRegular there) (target : String) :
    there ≠ some (.link target) := by
  intro isLink
  rcases regular _ isLink with ⟨content, impossible⟩
  cases impossible

theorem noDirectory_of_regular {place : Location} (regular : IsRegular (files.get? place)) :
    files.isDirectoryAt place = false := by
  rw [← Bool.not_eq_true, FileTree.isDirectoryAt_iff]
  intro isDirectory
  rcases regular _ isDirectory with ⟨content, impossible⟩
  cases impossible

/-- A text is placed in the log. -/
theorem extends_put (leads : files.LeadsTo directory location)
    (regular : IsRegular (files.get? (location ++ [logName]))) (text : String) :
    Extends directory location files text (files.put (location ++ [logName])
      (.file (textAt (files.get? (location ++ [logName])) ++ text))) := by
  have there : (files.put (location ++ [logName])
      (.file (textAt (files.get? (location ++ [logName])) ++ text))).get? (location ++ [logName]) =
      some (.file (textAt (files.get? (location ++ [logName])) ++ text)) := by
    rw [FileTree.get?_put, if_pos ⟨by simp, rfl⟩]
  refine ⟨leads.put (noDirectory_of_regular regular) _, ?_, ?_⟩
  · rw [there]
    exact isRegular_file _
  · rw [there]
    rfl

/-- The log is opened as a file, which is placed there if nothing stands. -/
theorem open_extends (leads : files.LeadsTo directory location)
    (regular : IsRegular (files.get? (location ++ [logName]))) {place : Location}
    (opens : files.openForAppend (directory.child logName) = .ok (place, opened)) :
    place = location ++ [logName] ∧ Extends directory location files "" opened ∧
      (opened.get? (location ++ [logName])).isSome = true := by
  rcases FileTree.openForAppend_child_of_leadsTo leads isProperName_logName
    (noLink_of_regular regular) opens with ⟨rfl, ⟨rfl, stands⟩ | ⟨rfl, unused⟩⟩
  · exact ⟨rfl, Extends.refl leads regular, stands⟩
  · have placed := extends_put leads regular ""
    rw [unused] at placed
    refine ⟨rfl, placed, ?_⟩
    rw [FileTree.get?_put, if_pos ⟨by simp, rfl⟩]
    rfl

/-- A text appended to a log that stands extends what the log holds by that text. -/
theorem appendAt_extends (leads : files.LeadsTo directory location)
    (regular : IsRegular (files.get? (location ++ [logName])))
    (stands : (files.get? (location ++ [logName])).isSome = true) (text : String) :
    Extends directory location files text (files.appendAt (location ++ [logName]) text) := by
  rcases Option.isSome_iff_exists.mp stands with ⟨entry, found⟩
  rcases regular entry found with ⟨content, rfl⟩
  have placed := extends_put leads regular text
  simp only [found, textAt] at placed
  simp only [FileTree.appendAt, found]
  exact placed

/-- Appending a line adds all of it on success and nothing on failure. -/
theorem append_adds (leads : files.LeadsTo directory location)
    (regular : IsRegular (files.get? (location ++ [logName])))
    {line : Except Unencodable String} {result : Except LogError Unit}
    (appends : append directory line files = (result, after)) :
    Adds directory location files line result after := by
  simp only [append] at appends
  split at appends
  · cases appends
    exact Adds.failed _ (Extends.refl leads regular)
  · rename_i place opened opens
    rcases open_extends leads regular opens with ⟨rfl, ready, stands⟩
    cases line with
    | error reason =>
        cases appends
        exact Adds.failed _ ready
    | ok text =>
        cases appends
        have written := ready.trans (appendAt_extends ready.leads ready.regular stands text)
        rw [String.empty_append] at written
        exact Adds.succeeded text rfl written

/-- A log within its limit is not found oversized. -/
theorem not_isOversized (leads : files.LeadsTo directory location)
    (regular : IsRegular (files.get? (location ++ [logName])))
    (small : (textAt (files.get? (location ++ [logName]))).utf8ByteSize ≤ client.maxLogSize) :
    client.isOversized (directory.child logName) files = false := by
  simp only [isOversized]
  split
  · rename_i entry found
    have there := FileTree.entryAt?_child_of_leadsTo leads isProperName_logName
      (noLink_of_regular regular) found
    rcases regular entry there with ⟨content, rfl⟩
    rw [there] at small
    exact decide_eq_false (Int.not_lt.mpr small)
  · rfl

/-- The directory is there and the log is small, so there is nothing to prepare. -/
theorem prepare_standing (leads : files.LeadsTo directory location)
    (regular : IsRegular (files.get? (location ++ [logName])))
    (small : (textAt (files.get? (location ++ [logName]))).utf8ByteSize ≤ client.maxLogSize) :
    (client.prepare directory files).2 = files := by
  have fits := not_isOversized leads regular small
  have made := FileTree.ensureDirectory_of_leadsTo leads
  simp only [prepare]
  split
  · rename_i error partly ended
    rw [ended] at made
    exact made
  · rename_i ready ended
    rw [ended] at made
    cases made
    simp only [rotate, fits, Bool.false_eq_true, if_false]
    split <;> rfl

/-- While the log is in its limit, a write adds its line on success and nothing on failure. -/
theorem write_adds (leads : files.LeadsTo directory location)
    (regular : IsRegular (files.get? (location ++ [logName])))
    (small : (textAt (files.get? (location ++ [logName]))).utf8ByteSize ≤ client.maxLogSize)
    {line : Except Unencodable String} {result : Except LogError Unit}
    (writes : client.write directory line files = (result, after)) :
    Adds directory location files line result after := by
  have unchanged := prepare_standing leads regular small
  rcases ended : client.prepare directory files with ⟨prepared, ready⟩
  rw [ended] at unchanged
  obtain rfl : ready = files := unchanged
  simp only [write, ended] at writes
  cases prepared with
  | error error =>
      cases writes
      exact Adds.failed _ (Extends.refl leads regular)
  | ok done => exact append_adds leads regular writes

/-- A call that returns adds its line to the log, and one that fails adds nothing. -/
theorem answer_adds (located : client.directoryPath? = some directory)
    (leads : files.LeadsTo directory location)
    (regular : IsRegular (files.get? (location ++ [logName])))
    (small : (textAt (files.get? (location ++ [logName]))).utf8ByteSize ≤ client.maxLogSize)
    {call : Call} {result : Except EmitError Unit}
    (answers : client.answer call files = (result, after)) :
    Adds directory location files call.line result after := by
  simp only [answer, emit, enabled_of_directoryPath? located, located] at answers
  split at answers
  · cases answers
    exact Adds.failed _ (Extends.refl leads regular)
  · split at answers
    · rename_i impossible
      cases impossible
    · split at answers
      · rename_i written writes
        cases answers
        cases write_adds leads regular small writes with
        | succeeded text lined extended => exact Adds.succeeded text lined extended
      · rename_i error partly writes
        cases answers
        cases write_adds leads regular small writes with
        | failed _ extended => exact Adds.failed _ extended

/-- As long as the log is within the limit before each call, it holds at the end what it held at
first and then the records of the calls that have returned, with a newline behind each. -/
theorem filesAfter_extends (located : client.directoryPath? = some directory)
    (leads : files.LeadsTo directory location)
    (regular : IsRegular (files.get? (location ++ [logName]))) (calls : List Call)
    (small : ∀ front back, calls = front ++ back → back ≠ [] →
      (textAt ((client.filesAfter front files).get? (location ++ [logName]))).utf8ByteSize ≤
        client.maxLogSize) :
    ∃ records, (∀ record ∈ records, Text.IsVisible record) ∧
      client.returnedLines calls files =
        records.map (fun record => .ok (String.ofList (record ++ ['\n']))) ∧
      Extends directory location files (String.ofList (framed records))
        (client.filesAfter calls files) := by
  induction calls generalizing files with
  | nil => exact ⟨[], by simp, rfl, Extends.refl leads regular⟩
  | cons call rest ih =>
      have smallNow := small [] (call :: rest) rfl (List.cons_ne_nil _ _)
      rcases answers : client.answer call files with ⟨result, next⟩
      have smallLater : ∀ front back, rest = front ++ back → back ≠ [] →
          (textAt ((client.filesAfter front next).get? (location ++ [logName]))).utf8ByteSize ≤
            client.maxLogSize := by
        intro front back parts remaining
        have later := small (call :: front) back (by rw [parts]; rfl) remaining
        simpa only [filesAfter, answers] using later
      have added := answer_adds located leads regular smallNow answers
      simp only [filesAfter, returnedLines, answers]
      cases added with
      | succeeded text lined extended =>
          rcases exists_record_of_line lined with ⟨record, visible, rfl⟩
          rcases ih extended.leads extended.regular smallLater with
            ⟨records, eachVisible, returned, whole⟩
          have both := extended.trans whole
          rw [← String.ofList_append] at both
          refine ⟨record :: records, ?_, ?_, both⟩
          · intro other occurs
            rcases List.mem_cons.mp occurs with rfl | later
            · exact visible
            · exact eachVisible other later
          · rw [lined, returned, List.map_cons]
      | failed error extended =>
          rcases ih extended.leads extended.regular smallLater with
            ⟨records, eachVisible, returned, whole⟩
          have both := extended.trans whole
          rw [String.empty_append] at both
          exact ⟨records, eachVisible, returned, both⟩

end Steps

/-- What a call that returns appends is a visible text and a newline, whatever the values of its
record are. So after any calls, failed ones among them, on a directory that stands and has no log at
first, the lines of the log are the records of those calls that have returned, in order, as long as
the log was within the limit before each call. -/
theorem answers_framed (client : TelemetryClient) {directory : PathName}
    (located : client.directoryPath? = some directory) :
    (∀ call files after, client.answer call files = (.ok (), after) →
      ∃ record, Text.IsVisible record ∧ call.line = .ok (String.ofList (record ++ ['\n'])) ∧
        client.Appends directory (String.ofList (record ++ ['\n'])) files after) ∧
    ∀ files location, files.LeadsTo directory location →
      files.get? (location ++ [logName]) = none → ∀ calls,
        (∀ front back, calls = front ++ back → back ≠ [] →
          (textAt ((client.filesAfter front files).get? (location ++ [logName]))).utf8ByteSize ≤
            client.maxMegabytes * 1048576) →
        ∃ records,
          client.returnedLines calls files =
            records.map (fun record => .ok (String.ofList (record ++ ['\n']))) ∧
          splitLines (textAt ((client.filesAfter calls files).get?
            (location ++ [logName]))).toList = records := by
  constructor
  · intro call files after returned
    exact answer_appends_visible located returned
  · intro files location leads fresh calls small
    have size : client.maxLogSize = client.maxMegabytes * 1048576 := by
      simp only [maxLogSize, Int.mul_assoc]
      rfl
    have regular : IsRegular (files.get? (location ++ [logName])) := by
      rw [fresh]
      exact isRegular_none
    rw [← size] at small
    rcases filesAfter_extends located leads regular calls small with
      ⟨records, visible, returned, extended⟩
    have nothing : textAt none = "" := rfl
    refine ⟨records, returned, ?_⟩
    rw [extended.holds, fresh, nothing, String.empty_append, String.toList_ofList]
    exact splitLines_framed visible

/-- Of three calls the second fails. The others write texts and names that hold line ends. -/
theorem answers_framed_escaped :
    let client : TelemetryClient := { directory := some "logs", maxMegabytes := 1 }
    let location := ["work", "logs"]
    let files := FileTree.empty.put location .directory
    let calls : List Call :=
      [⟨0, .text "one\u2028two", []⟩, ⟨1, .text "step", [("value", .bytes "b")]⟩,
        ⟨2, .text "a\r\nb", [("k\u0085", .list [.text "\"\\\n", .int (-7)])]⟩]
    ∃ first second,
      client.returnedLines calls files =
        [.ok (String.ofList (first ++ ['\n'])), .ok (String.ofList (second ++ ['\n']))] ∧
      splitLines (textAt ((client.filesAfter calls files).get?
        (location ++ [logName]))).toList = [first, second] := by
  intro client location files calls
  have located : client.directoryPath? = some ⟨.workingDirectory, ["logs"]⟩ := by decide
  have leads : files.LeadsTo ⟨.workingDirectory, ["logs"]⟩ location := ⟨by decide, by decide⟩
  have fresh : files.get? (location ++ [logName]) = none := by decide
  have smallEach : ∀ count ∈ List.range 4,
      (textAt ((client.filesAfter (calls.take count) files).get?
        (location ++ [logName]))).utf8ByteSize ≤ 1048576 := by decide +kernel
  have small : ∀ front back, calls = front ++ back → back ≠ [] →
      ((textAt ((client.filesAfter front files).get?
        (location ++ [logName]))).utf8ByteSize : Int) ≤ client.maxMegabytes * 1048576 := by
    intro front back parts _
    have isFront : calls.take front.length = front := by rw [parts, List.take_left]
    have short : front.length < 4 := by
      have three : calls.length = 3 := rfl
      rw [parts, List.length_append] at three
      omega
    have fits := smallEach front.length (List.mem_range.mpr short)
    rw [isFront] at fits
    exact Int.ofNat_le.mpr fits
  rcases (answers_framed client located).2 files location leads fresh calls small with
    ⟨records, returned, lines⟩
  have two : (client.returnedLines calls files).length = 2 := by decide +kernel
  rw [returned, List.length_map] at two
  match records, two with
  | [first, second], _ => exact ⟨first, second, returned, lines⟩

end TelemetryClient

end BuildSteps
