import WindowLang.Journal.FilterText
import WindowLang.Journal.Record

namespace WindowLang

/-!
# Loggers

A journal is asked what it wants and offered records, and which it keeps is its own affair.
A logger makes a journal from the text of a filter, and before that it writes warnings of
what makes no sense in the text. Neither a logger nor its patterns are part of the program.
The logger that reads the texts of filters is one of those that it can be run with.
-/

/-- A journal as the program meets it. -/
structure Journal where
  /-- Records of the level from the part of the program are wanted. -/
  wants : Level → Target → Bool
  /-- The record is kept if it is offered. -/
  keeps : Record → Bool

/-- The journal wants the kinds of all records that it keeps. -/
def Journal.IsFair (journal : Journal) : Prop :=
  ∀ record, journal.keeps record = true → journal.wants record.level record.target = true

/-- The records that a journal keeps, as text. -/
def Journal.write (journal : Journal) (records : List Record) : String :=
  String.join ((records.filter journal.keeps).map Record.write)

/-- The journal that a filter makes. -/
def Filter.journal (filter : Filter) : Journal where
  wants := fun level target => (filter.threshold target.path).admits level
  keeps := filter.admits

/-- A filter keeps no record of a kind that it does not want. -/
theorem Filter.isFair_journal (filter : Filter) :
    filter.journal.IsFair :=
  fun _ kept => (Bool.and_eq_true_iff.1 kept).1

/-- What sets up journals. -/
structure Logger where
  /-- What is written of a filter's text before the first record. -/
  warnings : String → String
  /-- The journal that a filter's text asks for. -/
  journal : String → Journal
  isFair_journal : ∀ text, (journal text).IsFair

/-- The logger that reads texts of filters with patterns. -/
def Logger.ofPatterns (patterns : Patterns) : Logger where
  warnings := fun text => (FilterText.read patterns text).warnings
  journal := fun text => (FilterText.read patterns text).filter.journal
  isFair_journal := fun text => (FilterText.read patterns text).filter.isFair_journal

end WindowLang
