namespace WindowLang

/-!
# Levels of a journal

Each record of a journal has a level of severity. A threshold admits the records
at its level and at all levels more severe, or none at all.
-/

/-- How severe a record is, the most severe level first. -/
inductive Level where
  | error
  | warn
  | info
  | debug
  | trace
  deriving DecidableEq, Repr

/-- A level's place in the order of severity. -/
def Level.rank : Level → Nat
  | .error => 0
  | .warn => 1
  | .info => 2
  | .debug => 3
  | .trace => 4

/-- The name of a level. -/
def Level.name : Level → String
  | .error => "ERROR"
  | .warn => "WARN"
  | .info => "INFO"
  | .debug => "DEBUG"
  | .trace => "TRACE"

/-- All levels. -/
def Level.all : List Level :=
  [.error, .warn, .info, .debug, .trace]

/-- What a journal lets through. -/
inductive Threshold where
  /-- No record. -/
  | off
  /-- Records at least as severe as a level. -/
  | upTo (level : Level)
  deriving DecidableEq, Repr

/-- The threshold admits records of the level. -/
def Threshold.admits : Threshold → Level → Bool
  | .off, _ => false
  | .upTo limit, level => decide (level.rank ≤ limit.rank)

/-- The threshold that a name stands for, in capital or small letters. -/
def Threshold.ofName? (name : String) : Option Threshold :=
  if name.toUpper = "OFF" then
    some .off
  else
    (Level.all.find? fun level => level.name = name.toUpper).map .upTo

end WindowLang
