/-
This file holds the utilities that write their arguments or the content of files.
-/

import ChainShell.Machine.Descriptor
import ChainShell.Machine.Utility.Lookup
import ChainShell.Machine.Utility.Option

namespace ChainShell

/-- A group of option letters. Any other letter makes the word a text to write. -/
def isEchoOption (word : Octets) : Bool :=
  match word.toList with
  | '-' :: letter :: rest => (letter :: rest).all fun char => ['n', 'e', 'E'].contains char
  | _ => false

/-- The last letter decides whether escapes are read. -/
def readsEscapes (letters : List Char) : Bool :=
  (letters.reverse.find? fun letter => letter == 'e' || letter == 'E') = some 'e'

def octalDigit? (char : Char) : Option Nat :=
  if '0' ≤ char && char ≤ '7' then some (char.toNat - '0'.toNat) else none

def hexDigit? (char : Char) : Option Nat :=
  if '0' ≤ char && char ≤ '9' then some (char.toNat - '0'.toNat)
  else if 'a' ≤ char && char ≤ 'f' then some (char.toNat - 'a'.toNat + 10)
  else if 'A' ≤ char && char ≤ 'F' then some (char.toNat - 'A'.toNat + 10)
  else none

/-- The number of leading digits, up to a limit, and their value as a byte. -/
def leadingByte (base limit : Nat) (digit? : Char → Option Nat) (chars : List Char) :
    Nat × Char :=
  let digits := ((chars.take limit).takeWhile fun char => (digit? char).isSome).filterMap digit?
  (digits.length, Char.ofNat (digits.foldl (fun value digit => base * value + digit) 0 % 256))

/-- The characters that stand for a control character behind a backslash. -/
def echoEscapes : List (Char × Char) :=
  [('a', '\x07'), ('b', '\x08'), ('e', '\x1b'), ('f', '\x0c'), ('n', '\n'), ('r', '\r'),
    ('t', '\t'), ('v', '\x0b'), ('\\', '\\')]

/-- The text with its escapes read. The flag tells that an escape ended all output. -/
def escapedText : Nat → List Char → List Char × Bool
  | 0, _ => ([], false)
  | _ + 1, [] => ([], false)
  | fuel + 1, '\\' :: letter :: rest =>
    let put (char : Char) (following : List Char) : List Char × Bool :=
      let (text, isEnded) := escapedText fuel following
      (char :: text, isEnded)
    if letter == 'c' then
      ([], true)
    else if let some char := echoEscapes.lookup letter then
      put char rest
    else if letter == 'x' && (rest.head?.bind hexDigit?).isSome then
      let (count, char) := leadingByte 16 2 hexDigit? rest
      put char (rest.drop count)
    else if letter == '0' then
      let (count, char) := leadingByte 8 3 octalDigit? rest
      put char (rest.drop count)
    else if (octalDigit? letter).isSome then
      let (count, char) := leadingByte 8 3 octalDigit? (letter :: rest)
      put char ((letter :: rest).drop count)
    else
      let (text, isEnded) := escapedText fuel rest
      ('\\' :: letter :: text, isEnded)
  | fuel + 1, char :: rest =>
    let (text, isEnded) := escapedText fuel rest
    (char :: text, isEnded)

/-- The words with spaces between them. -/
def echoLine : List Octets → List Char × Bool
  | [] => ([], false)
  | word :: rest =>
    let (text, isEnded) := escapedText (word.length + 1) word.toList
    if isEnded || rest.isEmpty then (text, isEnded)
    else
      let (others, isStopped) := echoLine rest
      (text ++ ' ' :: others, isStopped)

/-- The utility `echo` writes its arguments with spaces between them. Where the standard is
followed, escapes are always read and only one option is known. -/
def runEcho (arguments : List Octets) : UtilityM Unit := do
  let isStandard ← followsStandard
  let hasOptions := !isStandard || arguments.head? = some "-n"
  if hasOptions && (arguments = ["--help"] || arguments = ["--version"]) then
    throw (exitEnding 0)
  let groups := if hasOptions then arguments.takeWhile isEchoOption else []
  let letters := groups.flatMap fun word => word.toList.drop 1
  let words := arguments.drop groups.length
  let newline : Octets := if letters.contains 'n' then "" else "\n"
  if readsEscapes letters || isStandard then
    match echoLine words with
    | (text, true) => print (String.ofList text)
    | (text, false) => print (String.ofList text ++ newline)
  else
    print (String.intercalate " " words ++ newline)

inductive ConcatenateOption where
  | numberFilled
  | ends
  | number
  | squeeze
  | tabs
  | marks
  | endsAndMarks
  | tabsAndMarks
  | all
  | unbuffered
  | help
  | version
  deriving DecidableEq, Repr

def concatenateTable : OptionTable ConcatenateOption where
  letters := [('b', ⟨.numberFilled, .none⟩), ('e', ⟨.endsAndMarks, .none⟩),
    ('n', ⟨.number, .none⟩), ('s', ⟨.squeeze, .none⟩), ('t', ⟨.tabsAndMarks, .none⟩),
    ('u', ⟨.unbuffered, .none⟩), ('v', ⟨.marks, .none⟩), ('A', ⟨.all, .none⟩),
    ('E', ⟨.ends, .none⟩), ('T', ⟨.tabs, .none⟩)]
  names := [("number-nonblank", ⟨.numberFilled, .none⟩), ("number", ⟨.number, .none⟩),
    ("squeeze-blank", ⟨.squeeze, .none⟩), ("show-nonprinting", ⟨.marks, .none⟩),
    ("show-ends", ⟨.ends, .none⟩), ("show-tabs", ⟨.tabs, .none⟩), ("show-all", ⟨.all, .none⟩),
    ("help", ⟨.help, .none⟩), ("version", ⟨.version, .none⟩)]

/-- How the content of files is shown. -/
structure TextView where
  numbersLines : Bool := false
  /-- Empty lines get no number. -/
  skipsEmpty : Bool := false
  squeezes : Bool := false
  showsEnds : Bool := false
  showsTabs : Bool := false
  /-- Bytes that cannot be printed are shown by marks. -/
  showsMarks : Bool := false

def TextView.apply (view : TextView) (given : GivenOption ConcatenateOption) :
    UtilityM TextView := do
  match given.meaning with
  | .numberFilled => return { view with numbersLines := true, skipsEmpty := true }
  | .number => return { view with numbersLines := true }
  | .squeeze => return { view with squeezes := true }
  | .ends => return { view with showsEnds := true }
  | .tabs => return { view with showsTabs := true }
  | .marks => return { view with showsMarks := true }
  | .endsAndMarks => return { view with showsEnds := true, showsMarks := true }
  | .tabsAndMarks => return { view with showsTabs := true, showsMarks := true }
  | .all => return { view with showsEnds := true, showsTabs := true, showsMarks := true }
  | .unbuffered => return view
  | .help | .version => throw (exitEnding 0)

def TextView.isPlain (view : TextView) : Bool :=
  !(view.numbersLines || view.squeezes || view.showsEnds || view.showsTabs || view.showsMarks)

/-- A byte below the eighth bit, shown by marks. -/
def lowMark (code : Nat) : List Char :=
  if code < 0x20 then ['^', Char.ofNat (code + 0x40)]
  else if code = 0x7F then ['^', '?']
  else [Char.ofNat code]

def TextView.charText (view : TextView) (char : Char) : List Char :=
  if char == '\t' then (if view.showsTabs then ['^', 'I'] else [char])
  else if !view.showsMarks then [char]
  else if char.toNat < 0x80 then lowMark char.toNat
  else ['M', '-'] ++ lowMark (char.toNat - 0x80)

/-- What is known from one byte to the next, also between files. -/
structure TextPosition where
  line : Nat := 0
  /-- The number of line ends just before, up to two. -/
  lineEnds : Nat := 1

/-- A line number in six columns. -/
def lineNumber (number : Nat) : List Char :=
  let digits := (toString number).toList
  List.replicate (6 - digits.length) ' ' ++ digits ++ ['\t']

/-- The bytes as they are shown, the last ones first. -/
def TextView.show (view : TextView) :
    List Char → TextPosition → List Char → List Char × TextPosition
  | shown, position, [] => (shown, position)
  | shown, position, char :: rest =>
    let isStart := position.lineEnds != 0
    if char == '\n' then
      if isStart && position.lineEnds = 2 && view.squeezes then
        view.show shown position rest
      else
        let numbers := isStart && view.numbersLines && !view.skipsEmpty
        let line := if numbers then position.line + 1 else position.line
        let number := if numbers then lineNumber line else []
        let mark := if view.showsEnds then ['$'] else []
        view.show ('\n' :: (mark ++ (number.reverse ++ shown)))
          ⟨line, min 2 (position.lineEnds + 1)⟩ rest
    else
      let numbers := isStart && view.numbersLines
      let line := if numbers then position.line + 1 else position.line
      let number := if numbers then lineNumber line else []
      view.show ((view.charText char).reverse ++ (number.reverse ++ shown)) ⟨line, 0⟩ rest

/-- Output that cannot be written ends the utility. -/
def writeNow (octets : Octets) : UtilityM Unit := do
  if octets ≠ "" then
    if let some cause ← writeOut 1 octets then
      dieWith ("write error: " ++ cause.reason)

/-- The stream leads to a file that is the output at the same time. -/
def feedsItself (machine : Machine) (input output : Option StreamId) : Bool :=
  match input.bind (machine.streams[·]?), output.bind (machine.streams[·]?) with
  | some (.file node position _), some (.file target _ _) =>
    node = target && position < (machine.fileOctets node).length
  | _, _ => false

/-- The number of bytes that are copied at once. -/
def copiedBytes : Nat := 0x40000000

/-- The number of blocks that are copied from one stream. -/
def maxCopiedBlocks : Nat := 1000000000

/-- Blocks of a stream are written in the wanted view until there are no more. -/
def TextView.copyBlocks (view : TextView) (stream : StreamId) : Nat → TextPosition →
    UtilityM TextPosition
  | 0, position => return position
  | fuel + 1, position => do
    match ← readSome stream copiedBytes with
    | [] => return position
    | octets =>
      if view.isPlain then
        writeNow (String.ofList octets)
        view.copyBlocks stream fuel position
      else
        let (shown, after) := view.show [] position octets
        writeNow (String.ofList shown.reverse)
        view.copyBlocks stream fuel after

/-- What is left of a stream is written in the wanted view. -/
def TextView.copyStream (view : TextView) (label : Octets) (stream : StreamId)
    (position : TextPosition) : UtilityM TextPosition := do
  let state ← get
  if feedsItself state.machine (some stream) (state.descriptors.lookup 1) then
    failWith (quoteIfNeeded label ++ ": input file is output file")
    return position
  else
    match state.machine.readFault? stream with
    | some cause =>
      failBy (quoteIfNeeded label) cause
      return position
    | none => view.copyBlocks stream maxCopiedBlocks position

/-- A file or, for a dash, standard input. -/
def TextView.copyOperand (view : TextView) (path : Octets) (position : TextPosition) :
    UtilityM TextPosition := do
  let state ← get
  let opened :=
    if path = "-" then
      match state.descriptors.lookup 0 with
      | some stream => Except.ok (stream, state.machine)
      | none => .error .badDescriptor
    else state.machine.openPath state.descriptors path { reads := true }
  match opened with
  | .error cause =>
    failBy (quoteIfNeeded path) cause
    return position
  | .ok (stream, machine) =>
    set { state with machine := machine }
    view.copyStream path stream position

/-- The utility `cat` writes the content of files. Without a file, or for a dash, it writes what
it reads. -/
def runConcatenate (arguments : List Octets) : UtilityM Unit := do
  let (view, operands) ← withOptions concatenateTable arguments ({} : TextView) TextView.apply
  if ((← get).descriptors.lookup 1).isNone then
    dieWith ("standard output: " ++ OsError.badDescriptor.reason)
  let paths := if operands.isEmpty then ["-"] else operands
  let _ ← paths.foldlM (fun position path => view.copyOperand path position)
    ({} : TextPosition)
  if paths.contains "-" && ((← get).descriptors.lookup 0).isNone then
    dieWith ("closing standard input: " ++ OsError.badDescriptor.reason)

end ChainShell
