import CardBinder.CardSet

/-! What an operation says about its work. -/

namespace CardBinder

inductive MessageLevel where
  | info
  | success
  | warning
  | error
  deriving DecidableEq, Repr

def MessageLevel.name : MessageLevel → String
  | .info => "info"
  | .success => "success"
  | .warning => "warning"
  | .error => "error"

structure Message where
  level : MessageLevel
  content : String
  deriving DecidableEq, Repr

structure Report where
  /-- Card sets made or changed, as stored afterwards. -/
  affected : List CardSet := []
  messages : List Message := []
  deriving DecidableEq, Repr, Inhabited

namespace Report

/-- A report on card sets, with nothing said yet. -/
def about (affected : List CardSet) : Report := ⟨affected, []⟩

def warned (r : Report) : Bool :=
  r.messages.any (·.level == .warning)

def info (r : Report) (content : String) : Report :=
  { r with messages := r.messages ++ [⟨.info, content⟩] }

def success (r : Report) (content : String) : Report :=
  { r with messages := r.messages ++ [⟨.success, content⟩] }

def warning (r : Report) (content : String) : Report :=
  { r with messages := r.messages ++ [⟨.warning, content⟩] }

theorem foldl_warning {α : Type} (text : α → String) (xs : List α) (r : Report) :
    xs.foldl (fun r x => r.warning (text x)) r =
      { r with messages := r.messages ++ xs.map fun x => ⟨.warning, text x⟩ } := by
  induction xs generalizing r with
  | nil => simp
  | cons x xs ih =>
    rw [List.foldl_cons, ih]
    simp [warning]

end Report
end CardBinder
