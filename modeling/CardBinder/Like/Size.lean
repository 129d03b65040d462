import CardBinder.Failure
import CardBinder.Like

/-! The room that a pattern takes. A pattern is turned into an automaton over the bytes of a text,
once for each direction of reading, and one that takes more than ten mebibytes is refused. -/

namespace CardBinder.Like

/-- The bytes from `first` to `last`. -/
structure ByteRange where
  first : UInt8
  last : UInt8
  deriving DecidableEq, Repr

/-- The encodings of some characters, byte by byte. -/
abbrev ByteRun := List ByteRange

namespace ByteRun

def ofChar (c : Char) : ByteRun :=
  (String.utf8EncodeChar c).map fun b => ⟨b, b⟩

/-- Two runs as one, when the second goes on in its last byte where the first ends. -/
def merge? : ByteRun → ByteRun → Option ByteRun
  | [a], [b] => if a.last + 1 == b.first then some [⟨a.first, b.last⟩] else none
  | a :: as, b :: bs => if a == b then (merge? as bs).map (a :: ·) else none
  | _, _ => none

/-- The beginnings that are not the whole run, the empty one first. -/
def beginnings (run : ByteRun) : List ByteRun :=
  (List.range run.length).map run.take

/-- The beginnings that are not empty, the whole run last. -/
def stretches (run : ByteRun) : List ByteRun :=
  (List.range run.length).map fun n => run.take (n + 1)

end ByteRun

/-- The encodings of characters in the order of their code points. -/
def runsOf (cs : List Char) : List ByteRun :=
  cs.foldr (fun c runs =>
    match runs with
    | [] => [ByteRun.ofChar c]
    | run :: rest =>
      match (ByteRun.ofChar c).merge? run with
      | some merged => merged :: rest
      | none => ByteRun.ofChar c :: run :: rest) []

/-- The encodings of all characters. -/
def everyRun : List ByteRun :=
  [[⟨0x00, 0x7F⟩],
   [⟨0xC2, 0xDF⟩, ⟨0x80, 0xBF⟩],
   [⟨0xE0, 0xE0⟩, ⟨0xA0, 0xBF⟩, ⟨0x80, 0xBF⟩],
   [⟨0xE1, 0xEC⟩, ⟨0x80, 0xBF⟩, ⟨0x80, 0xBF⟩],
   [⟨0xED, 0xED⟩, ⟨0x80, 0x9F⟩, ⟨0x80, 0xBF⟩],
   [⟨0xEE, 0xEF⟩, ⟨0x80, 0xBF⟩, ⟨0x80, 0xBF⟩],
   [⟨0xF0, 0xF0⟩, ⟨0x90, 0xBF⟩, ⟨0x80, 0xBF⟩, ⟨0x80, 0xBF⟩],
   [⟨0xF1, 0xF3⟩, ⟨0x80, 0xBF⟩, ⟨0x80, 0xBF⟩, ⟨0x80, 0xBF⟩],
   [⟨0xF4, 0xF4⟩, ⟨0x80, 0x8F⟩, ⟨0x80, 0xBF⟩, ⟨0x80, 0xBF⟩]]

/-- What is left of the runs that start with `beginning`. -/
def rests (runs : List ByteRun) (beginning : ByteRun) : List ByteRun :=
  (runs.filter beginning.isPrefixOf).map (·.drop beginning.length)

/-- What can be left while a character is read, each once: the states of the forward automaton. -/
def restsOf (runs : List ByteRun) : List (List ByteRun) :=
  ((runs.flatMap ByteRun.beginnings).map (rests runs)).eraseDups

/-- The bytes that can come next. -/
def branches (rest : List ByteRun) : List ByteRange :=
  (rest.filterMap List.head?).eraseDups

/-- Bytes of memory for each direction of reading. -/
structure Size where
  forward : Nat
  backward : Nat
  deriving DecidableEq, Repr

namespace Size

instance : Add Size where
  add a b := ⟨a.forward + b.forward, a.backward + b.backward⟩

def both (n : Nat) : Size := ⟨n, n⟩

/-- One state of an automaton. -/
def state : Nat := 32

/-- One byte range that a state goes on with. -/
def branch : Nat := 8

/-- One state that a state goes on to without reading. -/
def jump : Nat := 4

/-- Forwards, runs with the same rest share their states; backwards, runs with the same beginning do. -/
def ofRuns (runs : List ByteRun) : Size where
  forward :=
    let nodes := restsOf runs
    state * (1 + nodes.length) + branch * (nodes.flatMap branches).length
  backward :=
    let shared := (runs.flatMap ByteRun.stretches).eraseDups
    state * (2 + shared.length) + jump * runs.length

/-- A choice between going on and what is repeated. -/
def choice : Size :=
  both (state + 2 * jump)

def ofLetter (c : Char) : Size :=
  match Text.variants c with
  | [_] => both (state * (ByteRun.ofChar c).length)
  | cs =>
    if cs.all fun x => x.toNat < 0x80 then both (2 * state + branch * (runsOf cs).length)
    else ofRuns (runsOf cs)

def ofClass : Regex.Class → Size
  | .any => ofRuns everyRun
  | .letter c => ofLetter c

def ofItem : Regex.Item → Size
  | .start | .finish => both state
  | .one k => ofClass k
  | .many k => ofClass k + choice

/-- The match; forwards, also its bounds. -/
def frame : Size :=
  ⟨4 * state, 2 * state⟩

def ofRegex (r : Regex) : Size :=
  r.foldl (fun total item => total + ofItem item) frame

end Size

def sizeLimit : Nat := 10 * 1024 * 1024

def fits (pattern : String) : Bool :=
  (regex? pattern).any fun r =>
    (Size.ofRegex r).forward ≤ sizeLimit && (Size.ofRegex r).backward ≤ sizeLimit

/-- The pattern, when it is not too large. -/
def checked (pattern : String) : Outcome String :=
  if fits pattern then .ok pattern
  else .error (.invalidFilterValue "pattern"
    (pattern ++ " (Compiled regex exceeds size limit of " ++ toString sizeLimit ++ " bytes.)"))

end CardBinder.Like
