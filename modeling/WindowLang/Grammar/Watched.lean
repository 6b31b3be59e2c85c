import WindowLang.Grammar.Document

namespace WindowLang.Grammar

/-!
# Watched productions

A watcher can ask, event by event, whether the event is wanted, and note nothing if it is
not. The productions that are watched so are those of groups and panels: the others note
nothing themselves.
-/

open Production

/-- Notes an event at the token taken last, if it is wanted. -/
def noteWanted (wants : Event → Bool) : Watcher :=
  fun event state =>
    if wants (event state.cursor.consumed) then
      note event state
    else
      (some (), state)

/-- A whole document, of whose events the wanted ones are noted. -/
def watchedWindow (wants : Event → Bool) : Production Window :=
  windowBeside (noteWanted wants)

end WindowLang.Grammar
