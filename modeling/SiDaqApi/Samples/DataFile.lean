import SiDaqApi.Lib.Machine

/-!
# The data files of the samples

Both samples can save the frames that they take from the event queue as text, a line for a frame, the
bytes in hexadecimal: with a blank after each byte in the C++ sample, with a hyphen between two bytes
in the C# sample. The text keeps the frames apart: one reader reads the files of both
(`dataFiles_read`).
-/

namespace SiDaqApi

open Machine

/-! ## The writers -/

/-- The digits of `%02X` and of `BitConverter.ToString`. -/
def hexDigits : List Char := "0123456789ABCDEF".toList

def hexDigit (d : ℕ) : Char := hexDigits.getD d ' '

/-- A byte as two digits. -/
def hexByte (b : UInt8) : List Char := [hexDigit (b.toNat / 16), hexDigit (b.toNat % 16)]

/-- What the C runtime writes to a file that is open in text mode. -/
def textMode (text : List Char) : List Char :=
  text.flatMap fun c => if c = '\n' then ['\r', '\n'] else [c]

/-- `WriteDataToFile` of the C++ sample: what it adds to the file. -/
def writeDataToFile (data : List UInt8) : List Char :=
  textMode (data.flatMap (fun b => hexByte b ++ [' ']) ++ ['\r', '\n'])

/-- `WriteFile` of the C# sample: what it adds to the file. -/
def writeFile (data : List UInt8) : List Char :=
  List.intercalate ['-'] (data.map hexByte) ++ ['\r', '\n']

/-! ## A reader -/

/-- A reader of the text: the frames of the lines so far, the bytes of the current line, and the first
digit of the current byte. -/
structure TextReader where
  frames : List (List UInt8)
  line : List UInt8
  high : Option ℕ
  deriving DecidableEq, Repr

/-- The value of a digit. -/
def digitValue (c : Char) : Option ℕ := hexDigits.idxOf? c

def TextReader.next (r : TextReader) (c : Char) : Option TextReader :=
  match digitValue c, r.high with
  | some d, none => some { r with high := some d }
  | some d, some h => some { r with line := r.line ++ [.ofNat (16 * h + d)], high := none }
  | none, some _ => none
  | none, none =>
    if c = '\n' then some ⟨r.frames ++ [r.line], [], none⟩
    else if c ∈ [' ', '-', '\r'] then some r
    else none

/-- The frames of a data file, if it is one. -/
def readDataFile (text : List Char) : Option (List (List UInt8)) :=
  (run TextReader.next ⟨[], [], none⟩ text).bind fun r =>
    if r.line = [] ∧ r.high = none then some r.frames else none

/-! ## Reading what is written -/

theorem digitValue_hexDigit {d : ℕ} (h : d < 16) : digitValue (hexDigit d) = some d := by
  have hall : ∀ d : Fin 16, digitValue (hexDigit d) = some d.val := by decide
  exact hall ⟨d, h⟩

theorem hexDigit_ne_newline {d : ℕ} (h : d < 16) : hexDigit d ≠ '\n' := by
  intro heq
  have hd := digitValue_hexDigit h
  rw [heq] at hd
  simp [show digitValue '\n' = none by decide] at hd

section Reading

variable (frames : List (List UInt8)) (line : List UInt8)

theorem run_next_hexByte (b : UInt8) :
    run TextReader.next ⟨frames, line, none⟩ (hexByte b) = some ⟨frames, line ++ [b], none⟩ := by
  have hb := b.toNat_lt
  have hhigh : b.toNat / 16 < 16 := by omega
  have hlow : b.toNat % 16 < 16 := by omega
  have hbyte : UInt8.ofNat (16 * (b.toNat / 16) + b.toNat % 16) = b := by
    rw [Nat.div_add_mod]
    exact UInt8.ofNat_toNat
  simp only [hexByte, run_cons, TextReader.next, digitValue_hexDigit hhigh,
    digitValue_hexDigit hlow, Option.bind_some, hbyte, run_nil]

/-- What stands between two bytes. -/
theorem run_next_skip {c : Char} (hc : c ∈ [' ', '-', '\r']) :
    run TextReader.next ⟨frames, line, none⟩ [c] = some ⟨frames, line, none⟩ := by
  simp only [List.mem_cons, List.not_mem_nil, or_false] at hc
  rcases hc with rfl | rfl | rfl <;> rfl

theorem run_next_newline :
    run TextReader.next ⟨frames, line, none⟩ ['\n'] = some ⟨frames ++ [line], [], none⟩ := rfl

/-- The bytes of a line, each with a blank after it. -/
theorem run_next_blanks (data : List UInt8) :
    run TextReader.next ⟨frames, line, none⟩ (data.flatMap fun b => hexByte b ++ [' ']) =
      some ⟨frames, line ++ data, none⟩ := by
  refine run_flatMap (TextReader.mk frames · none) (fun line b => ?_) line data
  rw [run_append, run_next_hexByte, Option.bind_some, run_next_skip _ _ (by simp)]

/-- The bytes of a line, with a hyphen between two of them. -/
theorem run_next_hyphens (data : List UInt8) :
    run TextReader.next ⟨frames, line, none⟩ (List.intercalate ['-'] (data.map hexByte)) =
      some ⟨frames, line ++ data, none⟩ := by
  induction data generalizing line with
  | nil => simp
  | cons b data ih =>
    cases data with
    | nil => simpa using run_next_hexByte frames line b
    | cons b' data =>
      rw [List.map_cons, List.map_cons, List.intercalate_cons_cons, ← List.map_cons, run_append,
        run_append, run_next_hexByte, Option.bind_some, run_next_skip _ _ (by simp),
        Option.bind_some, ih]
      simp

end Reading

/-- Text mode leaves the digits and blanks alone, and doubles the carriage return of the line end. -/
theorem writeDataToFile_eq (data : List UInt8) :
    writeDataToFile data = data.flatMap (fun b => hexByte b ++ [' ']) ++ ['\r', '\r', '\n'] := by
  have hbyte : ∀ b : UInt8, textMode (hexByte b ++ [' ']) = hexByte b ++ [' '] := by
    intro b
    have hb := b.toNat_lt
    have hhigh := hexDigit_ne_newline (d := b.toNat / 16) (by omega)
    have hlow := hexDigit_ne_newline (d := b.toNat % 16) (by omega)
    simp [textMode, hexByte, hhigh, hlow]
  have hend : textMode ['\r', '\n'] = ['\r', '\r', '\n'] := rfl
  rw [writeDataToFile, textMode, List.flatMap_append, List.flatMap_assoc]
  exact congrArg₂ _ (congrArg (List.flatMap · data) (funext hbyte)) hend

/-- What a writer adds to the file is a line, and the reader takes it as the frame. -/
def WritesLines (emit : List UInt8 → List Char) : Prop :=
  ∀ frames data, run TextReader.next ⟨frames, [], none⟩ (emit data) =
    some ⟨frames ++ [data], [], none⟩

theorem writesLines_writeDataToFile : WritesLines writeDataToFile := by
  intro frames data
  rw [writeDataToFile_eq, run_append, run_next_blanks]
  rfl

theorem writesLines_writeFile : WritesLines writeFile := by
  intro frames data
  rw [writeFile, run_append, run_next_hyphens]
  rfl

theorem WritesLines.read {emit : List UInt8 → List Char} (h : WritesLines emit)
    (frames : List (List UInt8)) : readDataFile (frames.flatMap emit) = some frames := by
  have hrun := run_flatMap (TextReader.mk · [] none) h [] frames
  rw [List.nil_append] at hrun
  rw [readDataFile, hrun]
  rfl

/-- **Both files can be read**: the text of any frames, empty ones included, gives these frames, and no
other frames have the same text. -/
theorem dataFiles_read (frames : List (List UInt8)) :
    readDataFile (frames.flatMap writeDataToFile) = some frames ∧
    readDataFile (frames.flatMap writeFile) = some frames :=
  ⟨writesLines_writeDataToFile.read frames, writesLines_writeFile.read frames⟩

end SiDaqApi
