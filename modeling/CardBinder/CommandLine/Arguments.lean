import CardBinder.Text.Cut

/-! Reading the arguments of a command line: plain words, switches with and without a value, and the
command that decides which switches are known. -/

namespace CardBinder.CommandLine

/-- Something that starts with a dash. -/
structure Switch where
  long : String
  short : Option Char := none
  takesValue : Bool := true
  /-- Whether it may be given more than once. -/
  repeats : Bool := false
  deriving DecidableEq, Repr

/-- One thing found among the arguments. -/
inductive Occurrence where
  | word (s : String)
  | switch (long : String) (value : Option String)
  deriving DecidableEq, Repr

namespace Occurrence

def word? : Occurrence → Option String
  | .word s => some s
  | .switch .. => none

def isSwitch (long : String) : Occurrence → Bool
  | .word _ => false
  | .switch name _ => name == long

/-- The value of a switch; one that takes no value has none. -/
def valueOf? (long : String) : Occurrence → Option String
  | .word _ => none
  | .switch name value => if name == long then value else none

end Occurrence

/-- What was found, in order, for one command. -/
abbrev Arguments := List Occurrence

namespace Arguments

def words (a : Arguments) : List String := a.filterMap Occurrence.word?

def given (a : Arguments) (long : String) : Bool := a.any (Occurrence.isSwitch long)

def values (a : Arguments) (long : String) : List String := a.filterMap (Occurrence.valueOf? long)

def value? (a : Arguments) (long : String) : Option String := (a.values long).head?

/-- The words in runs that no switch interrupts. -/
def runs : Arguments → List (List String)
  | [] => [[]]
  | .switch .. :: rest => [] :: runs rest
  | .word s :: rest =>
    match runs rest with
    | [] => [[s]]
    | run :: more => (s :: run) :: more

/-- No switch is there twice unless it may be. -/
def respects (a : Arguments) (known : List Switch) : Bool :=
  known.all fun s => s.repeats || decide (a.countP (Occurrence.isSwitch s.long) ≤ 1)

end Arguments

/-- A single dash is a word. -/
def startsSwitch (arg : String) : Bool :=
  arg.toList.head? == some '-' && arg != "-"

/-- A group of short switches. The last may take a value, behind it or in the next argument. -/
def shortSwitches? (known : List Switch) : List Char → Option (Arguments × Option Switch)
  | [] => some ([], none)
  | c :: cs =>
    match known.find? (·.short == some c) with
    | none => none
    | some s =>
      if s.takesValue then
        match cs with
        | [] => some ([], some s)
        | '=' :: value => some ([.switch s.long (some (String.ofList value))], none)
        | value => some ([.switch s.long (some (String.ofList value))], none)
      else
        (shortSwitches? known cs).map fun (more, waiting) =>
          (.switch s.long none :: more, waiting)

/-- A long switch without its dashes, with or without a value. -/
def longSwitch? (known : List Switch) (body : String) : Option (Arguments × Option Switch) :=
  let (name, value) := match Text.cutFirst "=" body with
    | some (name, value) => (name, some value)
    | none => (body, none)
  match known.find? (·.long == name) with
  | none => none
  | some s =>
    if s.takesValue then
      if value.isSome then some ([.switch name value], none) else some ([], some s)
    else if value.isSome then none
    else some ([.switch name none], none)

def switches? (known : List Switch) (arg : String) : Option (Arguments × Option Switch) :=
  match arg.toList with
  | '-' :: '-' :: body => longSwitch? known (String.ofList body)
  | '-' :: body => shortSwitches? known body
  | _ => none

/-- A command as it is written: its names and the switches it knows. -/
structure Form (α : Type) where
  names : List String
  switches : List Switch
  /-- What the arguments say, unless they do not fit the command. -/
  read : Arguments → Option α

/-- The arguments read so far. -/
structure Reading (α : Type) where
  /-- What stands before the name of the command, in reverse. -/
  before : Arguments := []
  form : Option (Form α) := none
  /-- What stands after it, in reverse. -/
  after : Arguments := []
  /-- A switch whose value comes next. -/
  waiting : Option Switch := none
  /-- Whether only words follow. -/
  wordsOnly : Bool := false

namespace Reading
variable {α : Type}

def push (r : Reading α) (found : Arguments) : Reading α :=
  match r.form with
  | none => { r with before := found.reverse ++ r.before }
  | some _ => { r with after := found.reverse ++ r.after }

/-- A word is the name of a command, or belongs to the command that was named. -/
def word? (forms : List (Form α)) (r : Reading α) (s : String) : Option (Reading α) :=
  match r.form with
  | some _ => some (r.push [.word s])
  | none =>
    if r.wordsOnly then none
    else (forms.find? (·.names.contains s)).map fun form => { r with form := some form }

/-- Takes the next argument. -/
def next? (general : List Switch) (forms : List (Form α)) (r : Reading α) (arg : String) :
    Option (Reading α) :=
  match r.waiting with
  | some s =>
    if startsSwitch arg then none
    else some { r.push [.switch s.long (some arg)] with waiting := none }
  | none =>
    if r.wordsOnly then r.word? forms arg
    else if arg == "--" then some { r with wordsOnly := true }
    else if startsSwitch arg then
      (switches? (general ++ (r.form.map (·.switches)).getD []) arg).map
        fun (found, waiting) => { r.push found with waiting }
    else r.word? forms arg

/-- All arguments in order; no switch is left without its value. -/
def ofArguments? (general : List Switch) (forms : List (Form α)) (args : List String) :
    Option (Reading α) := do
  let r ← args.foldlM (next? general forms) {}
  if r.waiting.isSome then none
  let r := { r with before := r.before.reverse, after := r.after.reverse }
  let own := (r.form.map (·.switches)).getD []
  if r.before.respects general && r.after.respects (general ++ own) then some r else none

/-- The value of a switch that may stand on both sides of the command; the side after it counts. -/
def generalValue? (r : Reading α) (long : String) : Option String :=
  (r.after.value? long).or (r.before.value? long)

def generalGiven (r : Reading α) (long : String) : Bool :=
  r.before.given long || r.after.given long

end Reading
end CardBinder.CommandLine
