/-
This file follows the output of a built-in command to a writer that may run full. It makes no
difference in which pieces a text is written, and the writer gets what it has room for.
-/

import ChainShell.Proofs.Session.Dispatch

namespace ChainShell

/-- The bytes for which a writer has room, from the front. -/
def Writer.admits (writer : Writer) (bytes : List UInt8) : List UInt8 :=
  match writer.capacity with
  | none => bytes
  | some capacity => bytes.take capacity

/-- A writer has room for all of the bytes. -/
def Writer.HasRoom (writer : Writer) (bytes : List UInt8) : Prop :=
  ∀ capacity ∈ writer.capacity, bytes.length ≤ capacity

instance (writer : Writer) (bytes : List UInt8) : Decidable (writer.HasRoom bytes) :=
  inferInstanceAs (Decidable (∀ capacity ∈ writer.capacity, bytes.length ≤ capacity))

section Writing

variable (writer : Writer)

@[simp] theorem Writer.advance_zero : writer.advance 0 = writer := by
  obtain ⟨_ | capacity, flushFails⟩ := writer <;> simp [Writer.advance]

theorem Writer.advance_advance (first second : Nat) :
    (writer.advance first).advance second = writer.advance (first + second) := by
  obtain ⟨_ | capacity, flushFails⟩ := writer <;> simp [Writer.advance, Nat.sub_sub]

@[simp] theorem Writer.admits_nil : writer.admits [] = [] := by
  obtain ⟨_ | capacity, flushFails⟩ := writer <;> simp [Writer.admits]

@[simp] theorem Writer.hasRoom_nil : writer.HasRoom [] := by
  simp [Writer.HasRoom]

/-- Bytes that go out behind others get the room that those left. -/
theorem Writer.admits_append (first second : List UInt8) :
    writer.admits (first ++ second) =
      writer.admits first ++ (writer.advance first.length).admits second := by
  obtain ⟨_ | capacity, flushFails⟩ := writer <;>
    simp [Writer.admits, Writer.advance, List.take_append]

theorem Writer.hasRoom_append (first second : List UInt8) :
    writer.HasRoom (first ++ second) ↔
      writer.HasRoom first ∧ (writer.advance first.length).HasRoom second := by
  obtain ⟨_ | capacity, flushFails⟩ := writer
  · simp [Writer.HasRoom, Writer.advance]
  · simp only [Writer.HasRoom, Writer.advance, List.length_append, Option.map_some,
      Option.mem_def, Option.some.injEq, forall_eq']
    omega

variable {writer}

theorem Writer.HasRoom.admits_eq {bytes : List UInt8} (room : writer.HasRoom bytes) :
    writer.admits bytes = bytes := by
  obtain ⟨_ | capacity, flushFails⟩ := writer
  · rfl
  · exact List.take_of_length_le (room capacity rfl)

/-- A writer that ran full admits nothing more. -/
theorem Writer.admits_behind {first : List UInt8} (full : ¬ writer.HasRoom first)
    (second : List UInt8) : (writer.advance first.length).admits second = [] := by
  obtain ⟨_ | capacity, flushFails⟩ := writer
  · simp [Writer.HasRoom] at full
  · have short : capacity < first.length := by simpa [Writer.HasRoom] using full
    simp [Writer.admits, Writer.advance, Nat.sub_eq_zero_of_le (Nat.le_of_lt short)]

/-- Nor does it lose any more room. -/
theorem Writer.advance_behind {first : List UInt8} (full : ¬ writer.HasRoom first)
    (count : Nat) : writer.advance (first.length + count) = writer.advance first.length := by
  obtain ⟨_ | capacity, flushFails⟩ := writer
  · simp [Writer.HasRoom] at full
  · have short : capacity < first.length := by simpa [Writer.HasRoom] using full
    simp only [Writer.advance, Option.map_some, Writer.mk.injEq, Option.some.injEq, and_true]
    omega

/-- A single write takes no more than there is room for. -/
theorem Writer.hasRoom_taken (bytes : List UInt8) :
    writer.HasRoom (bytes.take (writer.taken bytes)) := by
  intro capacity limited
  refine Nat.le_trans (List.length_take_le _ _) ?_
  rw [Writer.taken, limited]
  exact Nat.min_le_left _ _

theorem Writer.taken_le (bytes : List UInt8) : writer.taken bytes ≤ bytes.length := by
  obtain ⟨_ | capacity, flushFails⟩ := writer
  · exact Nat.le_refl _
  · exact Nat.min_le_right _ _

/-- It takes nothing of some bytes only when there is no room. -/
theorem Writer.capacity_eq_zero {bytes : List UInt8} (nonempty : bytes ≠ [])
    (refused : writer.taken bytes = 0) : writer.capacity = some 0 := by
  have positive : 0 < bytes.length := List.length_pos_iff.mpr nonempty
  obtain ⟨_ | capacity, flushFails⟩ := writer
  · simp only [Writer.taken] at refused
    omega
  · simp only [Writer.taken] at refused
    simp only [Option.some.injEq]
    omega

/-- The writes of one text together take what there is room for, and they fail when something is
left over. -/
theorem Writer.writeAll_eq (writer : Writer) (bytes : List UInt8) :
    writer.writeAll bytes =
      ⟨writer.admits bytes, if writer.HasRoom bytes then none else some .refused,
        writer.advance bytes.length⟩ := by
  fun_induction Writer.writeAll writer bytes with
  | case1 writer bytes empty =>
      obtain rfl := List.isEmpty_iff.mp empty
      simp
  | case2 writer bytes nonempty count taken rest inductionHypothesis =>
      have room : writer.HasRoom (bytes.take count) := writer.hasRoom_taken bytes
      have length : (bytes.take count).length = count :=
        List.length_take_of_le (writer.taken_le bytes)
      have admitted : writer.admits bytes =
          bytes.take count ++ (writer.advance count).admits (bytes.drop count) := by
        have divided := writer.admits_append (bytes.take count) (bytes.drop count)
        rwa [List.take_append_drop, room.admits_eq, length] at divided
      have roomBehind : writer.HasRoom bytes ↔
          (writer.advance count).HasRoom (bytes.drop count) := by
        have divided := writer.hasRoom_append (bytes.take count) (bytes.drop count)
        rwa [List.take_append_drop, and_iff_right room, length] at divided
      have advanced : (writer.advance count).advance (bytes.drop count).length =
          writer.advance bytes.length := by
        rw [writer.advance_advance, List.length_drop, Nat.add_sub_cancel' (writer.taken_le bytes)]
      have behind : rest = ⟨(writer.advance count).admits (bytes.drop count),
          if writer.HasRoom bytes then none else some .refused, writer.advance bytes.length⟩ := by
        simp only [roomBehind, ← advanced]
        exact inductionHypothesis
      rw [behind, admitted]
  | case3 writer bytes nonempty count full =>
      have capacity : writer.capacity = some 0 :=
        Writer.capacity_eq_zero (by simpa using nonempty) (Nat.eq_zero_of_not_pos full)
      obtain ⟨_, flushFails⟩ := writer
      obtain rfl := capacity
      simpa [Writer.admits, Writer.HasRoom, Writer.advance] using nonempty

/-- It makes no difference in which pieces a text is written. -/
theorem Writer.writePieces_eq (writer : Writer) (pieces : List String) :
    writer.writePieces pieces = writer.writeAll (encode (String.join pieces)) := by
  induction pieces generalizing writer with
  | nil => simp [Writer.writePieces, Writer.writeAll]
  | cons piece rest inductionHypothesis =>
      rw [Writer.writePieces, String.join_cons, encode_append]
      simp only [inductionHypothesis, Writer.writeAll_eq, writer.admits_append,
        writer.hasRoom_append, List.length_append, ← writer.advance_advance]
      by_cases room : writer.HasRoom (encode piece)
      · simp [room, room.admits_eq]
      · simp [room, Writer.admits_behind room, writer.advance_advance,
          Writer.advance_behind room]

/-- The text fits here and the newline behind it does not. -/
example : (⟨some 2, false⟩ : Writer).writePieces ["ab", "\n"] =
    ⟨encode "ab", some .refused, ⟨some 0, false⟩⟩ := by cbv

end Writing

/-- What `echo` is to print. The arguments stand behind one another without a leading `-e`, and a
newline ends them unless that word was there. -/
def echoText (arguments : List String) : String :=
  if arguments.head? = some "-e" then
    String.intercalate " " arguments.tail
  else
    String.intercalate " " arguments ++ "\n"

theorem join_echoPieces (arguments : List String) :
    String.join (echoPieces arguments) = echoText arguments := by
  unfold echoPieces
  split
  · simp [echoText]
  · next other =>
      have plain : arguments.head? ≠ some "-e" := by
        intro flagged
        obtain ⟨rest, rfl⟩ := List.head?_eq_some_iff.mp flagged
        exact other rest rfl
      simp [echoText, plain]

variable {σ : Type}

/-- The shell behind writing a text. -/
def Shell.written (shell : Shell σ) (text : String) : Shell σ :=
  { shell with
    writer := shell.writer.advance (encode text).length
    events := shell.events ++ [.wrote (shell.writer.admits (encode text))] }

theorem Shell.write_eq (shell : Shell σ) (pieces : List String) :
    shell.write pieces =
      (if shell.writer.HasRoom (encode (String.join pieces)) then none else some .refused,
        shell.written (String.join pieces)) := by
  rw [Shell.write, Writer.writePieces_eq, Writer.writeAll_eq]
  rfl

@[simp] theorem Shell.flushError_written (shell : Shell σ) (text : String) :
    (shell.written text).flushError = shell.flushError := rfl

/-- A text is printed in one piece. -/
def Shell.printText (shell : Shell σ) (text : String) : Outcome × Shell σ :=
  shell.printPieces [text]

theorem Shell.printPieces_eq (shell : Shell σ) (pieces : List String) :
    shell.printPieces pieces = shell.printText (String.join pieces) := by
  simp [Shell.printText, Shell.printPieces, Shell.write_eq]

/-- A writer without a limit takes the whole text. -/
theorem Shell.printText_unlimited {shell : Shell σ} (unlimited : shell.writer.capacity = none)
    (text : String) : shell.printText text =
      (.success, { shell with events := shell.events ++ [.wrote (encode text)] }) := by
  have room (bytes : List UInt8) : shell.writer.HasRoom bytes := by
    simp [Writer.HasRoom, unlimited]
  have advanced (count : Nat) : shell.writer.advance count = shell.writer := by
    rw [Writer.advance, unlimited, Option.map_none, ← unlimited]
  simp [Shell.printText, Shell.printPieces, Shell.write_eq, Shell.written, room,
    (room _).admits_eq, advanced]

/-- Printing ends in one of these ways. -/
inductive Shell.Printed (before : Shell σ) (text : String) (flushed : Bool) :
    Outcome × Shell σ → Prop where
  | complete (room : before.writer.HasRoom (encode text))
      (flushes : flushed = true → before.writer.flushFails = false) :
      Printed before text flushed (.success, before.written text)
  /-- The writer ran full, or it was to be flushed and could not be. -/
  | incomplete (error : BuiltinError)
      (stopped : before.writer.HasRoom (encode text) →
        flushed = true ∧ before.writer.flushFails = true) :
      Printed before text flushed ((before.written text).failBuiltin error)

theorem Shell.printPieces_printed (shell : Shell σ) (pieces : List String) :
    shell.Printed (String.join pieces) false (shell.printPieces pieces) := by
  rw [Shell.printPieces, Shell.write_eq]
  by_cases room : shell.writer.HasRoom (encode (String.join pieces))
  · rw [if_pos room]
    exact .complete room (by simp)
  · rw [if_neg room]
    exact .incomplete _ fun fits => absurd fits room

theorem Shell.printFlushed_printed (shell : Shell σ) (pieces : List String) :
    shell.Printed (String.join pieces) true (shell.printFlushed pieces) := by
  rw [Shell.printFlushed, Shell.write_eq]
  by_cases room : shell.writer.HasRoom (encode (String.join pieces))
  · rw [if_pos room]
    dsimp only
    rw [Shell.flushError_written, Shell.flushError]
    cases flushes : shell.writer.flushFails with
    | false => exact .complete room fun _ => flushes
    | true => exact .incomplete _ fun _ => ⟨rfl, flushes⟩
  · rw [if_neg room]
    exact .incomplete _ fun fits => absurd fits room

/-- A command printed a text, and it flushed the writer behind it when it was told to. The front of
the text for which there was room is delivered, and the command succeeds when all of the text was
and flushing did not fail. Its environment is not touched. -/
structure Shell.Prints (before : Shell σ) (text : String) (flushed : Bool)
    (answer : Outcome × Shell σ) : Prop where
  delivered : outputBytes answer.2.events =
    outputBytes before.events ++ before.writer.admits text.toUTF8.data.toList
  success : answer.1 = .success ↔ before.writer.HasRoom text.toUTF8.data.toList ∧
    (flushed = true → before.writer.flushFails = false)
  failure : answer.1 ≠ .success → answer.1 = .failure 1
  environment : answer.2.environment = before.environment

theorem Shell.Printed.prints {before : Shell σ} {text : String} {flushed : Bool}
    {answer : Outcome × Shell σ} (printed : before.Printed text flushed answer) :
    before.Prints text flushed answer := by
  cases printed with
  | complete room flushes =>
      refine ⟨?_, iff_of_true rfl ⟨room, flushes⟩, absurd rfl, rfl⟩
      simp [Shell.written, outputBytes, encode]
  | incomplete error stopped =>
      refine ⟨?_, iff_of_false ?_ ?_, fun _ => rfl, rfl⟩
      · simp [Shell.written, Shell.failBuiltin, Shell.complain, Shell.emit, outputBytes, encode]
      · simp [Shell.failBuiltin]
      · rintro ⟨room, flushes⟩
        obtain ⟨flushed, fails⟩ := stopped room
        simp [flushes flushed] at fails

variable [OperatingSystem σ]

/-- However much a writer takes, `echo` and `getenv` deliver the front of their text that fits and
succeed when all of it did. Only `echo` flushes, and a failure there is one of the command. -/
theorem output_under_limit (shell : Shell σ) :
    (∀ arguments, shell.Prints (echoText arguments) true (dispatch ("echo" :: arguments) shell)) ∧
    (∀ name value, shell.environment.vars.get? name = some value →
      shell.Prints (value ++ "\n") false (dispatch ["getenv", name] shell)) ∧
    ∀ arguments, (dispatch ("getenv" :: arguments) shell).2.environment = shell.environment := by
  have echoes : "echo" ∈ Builtin.echo.names := by decide
  have shows : "getenv" ∈ Builtin.showVariable.names := by decide
  refine ⟨?_, ?_, ?_⟩
  · intro arguments
    rw [dispatch_owned echoes, ← join_echoPieces]
    exact (shell.printFlushed_printed _).prints
  · intro name value assigned
    rw [dispatch_owned shows, Builtin.invoke, assigned]
    simpa using (shell.printPieces_printed [value, "\n"]).prints
  · intro arguments
    rw [dispatch_owned shows]
    rcases arguments with _ | ⟨name, _ | ⟨second, more⟩⟩
    · rfl
    · rw [Builtin.invoke]
      split
      · rfl
      · exact (shell.printPieces_printed _).prints.environment
    · rfl

end ChainShell
